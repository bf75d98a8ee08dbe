import ScriptSandbox.Capability.Table
import ScriptSandbox.Session.Config

/-!
# Building sessions

A session is built by a sequence of calls, each of which changes one or two of its parts. Binding a
value of a host type also allows that type; offering a capability does not allow it; hiding a name
keeps its binding from scripts whenever it is bound. Nothing that is allowed can be disallowed.
-/

namespace ScriptSandbox

open Text Script

/-- A value that a host binds to a name. -/
inductive Binding where
  /-- Every execution starts with this value. -/
  | own (value : Value)
  /-- All executions share a cell, which starts with this value. -/
  | shared (initial : Value)
  deriving Inhabited

/-- All parts of a session but its source. -/
structure Builder where
  /-- The identifiers that are allowed. -/
  filter : Capability.Filter
  /-- The capabilities that are offered. -/
  capabilities : Capability.Table Engine
  /-- The values bound to names. -/
  bindings : NameMap Binding
  /-- The names kept from scripts. -/
  hidden : NameSet
  /-- The providers of fragments, in order of precedence. -/
  providers : List (Include.Provider Unit)
  /-- The limits. -/
  config : Config

/-- A call that changes what is built. -/
inductive BuilderCall where
  /-- Offers a capability and allows it. -/
  | capability (c : Capability Engine)
  /-- Offers a capability. -/
  | offer (c : Capability Engine)
  /-- Allows an identifier. -/
  | allow (id : String)
  /-- Allows a host type. -/
  | expose (typeId : String)
  /-- Binds a value of a type for each execution. -/
  | variable (name typeId : String) (value : Value)
  /-- Binds a value of a type that executions share. -/
  | sharedVariable (name typeId : String) (value : Value)
  /-- Binds data. -/
  | jsonVariable (name : String) (data : Json)
  /-- Keeps a name from scripts. -/
  | hide (name : String)
  /-- Adds a provider after those there are. -/
  | provider (p : Include.Provider Unit)
  /-- Sets the time an execution may take. -/
  | maxRuntime (limit : Span)
  /-- Replaces all limits. -/
  | config (c : Config)

namespace Builder

/-- Nothing is set. -/
def empty : Builder :=
  ⟨.empty, .empty, .empty, .empty, [], .default⟩

/-- Binds a value of a type, which is allowed with it. -/
def bind (b : Builder) (name typeId : String) (value : Binding) : Builder :=
  { b with filter := b.filter.register typeId, bindings := b.bindings.insert name value }

/-- What is built after a call. -/
def apply (b : Builder) : BuilderCall → Builder
  | .capability c =>
    { b with filter := b.filter.register c.id, capabilities := b.capabilities.offer c }
  | .offer c => { b with capabilities := b.capabilities.offer c }
  | .allow id => { b with filter := b.filter.register id }
  | .expose typeId => { b with filter := b.filter.register typeId }
  | .variable name typeId value => b.bind name typeId (.own value)
  | .sharedVariable name typeId value => b.bind name typeId (.shared value)
  | .jsonVariable name data =>
    { b with bindings := b.bindings.insert name (.own (.ofJson data)) }
  | .hide name => { b with hidden := b.hidden.insert name }
  | .provider p => { b with providers := b.providers ++ [p] }
  | .maxRuntime limit => { b with config := { b.config with maxRuntime := limit } }
  | .config c => { b with config := c }

/-- What is built after a sequence of calls. -/
def applyAll (b : Builder) (calls : List BuilderCall) : Builder := calls.foldl apply b

end Builder

end ScriptSandbox

import ScriptSandbox.Capability.Filter
import ScriptSandbox.Event

/-!
# Tables of offered capabilities

A capability is an identifier and what installing it does to an engine. A table holds the
capabilities a host offers, in order; those that a filter allows are installed in that order, and
the others leave no trace in the engine. What an engine is does not matter here.
-/

namespace ScriptSandbox

/-- A surface of the host that can be installed in an engine of type `ε`. -/
structure Capability (ε : Type) where
  /-- The identifier that has to be allowed. -/
  id : String
  /-- The engine with the surface installed. -/
  install : ε → ε

namespace Capability

variable {ε : Type}

/-- The capabilities that are offered, in order. -/
structure Table (ε : Type) where
  /-- The capabilities. -/
  offers : List (Capability ε)

namespace Table

/-- Nothing is offered. -/
def empty : Table ε := ⟨[]⟩

/-- The table with one more offer. -/
def offer (t : Table ε) (c : Capability ε) : Table ε := ⟨t.offers ++ [c]⟩

/-- The number of offers. -/
def size (t : Table ε) : Nat := t.offers.length

/-- Whether nothing is offered. -/
def isEmpty (t : Table ε) : Bool := t.offers.isEmpty

/-- The offers a filter allows, in order. -/
def allowed (t : Table ε) (f : Filter) : List (Capability ε) :=
  t.offers.filter fun c ↦ f.allows c.id

/-- What an observer is told of an offer. -/
def event (f : Filter) (c : Capability ε) : Event :=
  .note .debug
    (if f.allows c.id then "installed capability" else "capability not allowed; skipped")
    [("capability", c.id)]

/-- An engine while capabilities are installed in it. -/
structure Installation (ε : Type) where
  /-- The engine. -/
  engine : ε
  /-- How many capabilities have been installed. -/
  installed : Nat
  /-- What an observer was told. -/
  events : List Event

/-- Installs an offer if the filter allows it. -/
def Installation.add (f : Filter) (i : Installation ε) (c : Capability ε) : Installation ε :=
  if f.allows c.id then
    ⟨c.install i.engine, i.installed + 1, i.events ++ [event f c]⟩
  else { i with events := i.events ++ [event f c] }

/-- Installs the offers that a filter allows. -/
def installAllowed (t : Table ε) (f : Filter) (engine : ε) : Installation ε :=
  t.offers.foldl (Installation.add f) ⟨engine, 0, []⟩

/-- A table in diagnostics. -/
def diagnostic (t : Table ε) : String :=
  Text.bracketed "[" "]" (t.offers.map fun c ↦ diagnosticId c.id)

end Table

end Capability

end ScriptSandbox

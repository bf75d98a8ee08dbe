import ScriptSandbox.Json.Decoder

/-!
# Lifecycles of executions

An execution is pending until a thread takes it, then running, and ends in one of three states. A
lifecycle only moves forward, and never out of an end: `advance` ignores every other move.
-/

namespace ScriptSandbox

/-- How far an execution has come. -/
inductive Lifecycle where
  /-- No thread has taken it. -/
  | pending
  /-- A thread works on it. -/
  | running
  /-- It ended with a value. -/
  | completed
  /-- It ended with a failure. -/
  | failed
  /-- It was stopped by its deadline or by the host. -/
  | forciblyTerminated
  deriving DecidableEq, Repr, Inhabited

namespace Lifecycle

/-- All of them, in order. -/
def all : List Lifecycle := [pending, running, completed, failed, forciblyTerminated]

/-- The place in the order. -/
def rank : Lifecycle → Nat
  | pending => 0
  | running => 1
  | completed => 2
  | failed => 3
  | forciblyTerminated => 4

/-- Whether this is an end. -/
def isTerminal : Lifecycle → Bool
  | pending | running => false
  | completed | failed | forciblyTerminated => true

/-- The lifecycle after an attempt to move on. -/
def advance (current next : Lifecycle) : Lifecycle :=
  if !current.isTerminal && current.rank < next.rank then next else current

/-- The name in records. -/
def name : Lifecycle → String
  | pending => "pending"
  | running => "running"
  | completed => "completed"
  | failed => "failed"
  | forciblyTerminated => "forcibly_terminated"

/-- The name in diagnostics. -/
def diagnostic : Lifecycle → String
  | pending => "Pending"
  | running => "Running"
  | completed => "Completed"
  | failed => "Failed"
  | forciblyTerminated => "ForciblyTerminated"

/-- The names of all lifecycles. -/
def names : List String := all.map name

/-- The lifecycle of a name. -/
def ofName? (name : String) : Option Lifecycle := all.find? fun l ↦ l.name = name

@[simp] theorem ofName?_name (l : Lifecycle) : ofName? l.name = some l := by
  cases l <;> decide +kernel

/-- A lifecycle as a record. -/
def toJson (l : Lifecycle) : Json := .string l.name

/-- Reads a lifecycle. -/
def ofJson : Json.Decoder Lifecycle := fun j ↦ do
  let (name, content) ← Json.Decoder.choice j
  match ofName? name with
  | none => throw (.variant name names)
  | some l =>
    Json.Decoder.alone content
    return l

end Lifecycle

end ScriptSandbox

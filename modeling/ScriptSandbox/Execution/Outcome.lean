import ScriptSandbox.Execution.Lifecycle
import ScriptSandbox.Failure
import ScriptSandbox.Span

/-!
# Outcomes of executions

An execution ends with a value, with a failure, or because it was stopped; a stop has a reason. The
report on an execution is its outcome with what the script printed and the time it took.
-/

namespace ScriptSandbox

open Script

/-- Why an execution was stopped. -/
inductive Termination where
  /-- It took longer than its limit. -/
  | deadline (limit : Span)
  /-- The host cancelled it. -/
  | cancelled
  deriving DecidableEq, Repr, Inhabited

namespace Termination

/-- A reason in diagnostics. -/
def diagnostic : Termination → String
  | deadline limit => Text.record "Deadline" [("limit", limit.text)]
  | cancelled => "Cancelled"

/-- A reason as a record. -/
def toJson : Termination → Json
  | deadline limit => .object [("deadline", .object [("limit", limit.toJson)])]
  | cancelled => .string "cancelled"

/-- Reads what comes with a deadline. -/
def deadlineOf : Option Json → Except Json.DecodeFault Termination
  | some (.object members) => (Json.required "limit" Span.ofJson members).map .deadline
  | some j => .error (.kind j.phrase "struct variant")
  | none => .error (.kind "unit variant" "struct variant")

/-- Reads a reason. -/
def ofJson : Json.Decoder Termination := fun j ↦ do
  let (name, content) ← Json.Decoder.choice j
  match name with
  | "deadline" => deadlineOf content
  | "cancelled" =>
    Json.Decoder.alone content
    return .cancelled
  | name => throw (.variant name ["deadline", "cancelled"])

end Termination

/-- How an execution ended. -/
inductive Outcome where
  | completed (v : Slot)
  | failed (f : Failure)
  | terminated (t : Termination)
  deriving Inhabited

namespace Outcome

/-- The lifecycle's end that an outcome is. -/
def state : Outcome → Lifecycle
  | completed _ => .completed
  | failed _ => .failed
  | terminated _ => .forciblyTerminated

@[simp] theorem isTerminal_state (o : Outcome) : o.state.isTerminal = true := by
  cases o <;> rfl

/-- The value, if there is one; a shared variable is none by itself. -/
def value? : Outcome → Option Value
  | completed v => v.value?
  | _ => none

/-- The failure, if there is one. -/
def failure? : Outcome → Option Failure
  | failed f => some f
  | _ => none

/-- The reason of a stop, if it was one. -/
def termination? : Outcome → Option Termination
  | terminated t => some t
  | _ => none

end Outcome

/-- What is reported of an execution. -/
structure Report where
  /-- The number of the execution. -/
  id : Nat
  /-- How it ended. -/
  outcome : Outcome
  /-- What the script printed. -/
  logs : List String
  /-- The time from its start to its end. -/
  elapsed : Span
  deriving Inhabited

/-- The report on an execution that broke down without one. -/
def Report.panicked (id : Nat) (message : String) : Report :=
  ⟨id, .failed (.panicked message), [], .zero⟩

end ScriptSandbox

import ScriptSandbox.Execution.Outcome

/-!
# Summaries of executions

The form in which reports are stored and exchanged, and how it is read back. A value without a
JSON form is null.
-/

namespace ScriptSandbox

open Script

namespace FailureInfo

/-- A description of a failure as a record. -/
def toJson (i : FailureInfo) : Json :=
  .ofMembers [("error_type", .string i.errorType), ("message", .string i.message),
    ("location", .ofOption .string i.location), ("backtrace", .ofOption .strings i.backtrace)]

open Json.Decoder in
/-- The shape of a description of a failure. -/
def shape : Json.Shape :=
  .ofFields "ScriptErrorInfo"
    [("error_type", Json.checked text), ("message", Json.checked text),
     ("location", Json.checked (option text)), ("backtrace", Json.checked (option (list text)))]

open Json.Decoder in
/-- Reads a description of a failure. -/
def ofJson : Json.Decoder FailureInfo :=
  shape.record fun members ↦ do
    let errorType ← Json.required "error_type" text members
    let message ← Json.required "message" text members
    let location ← Json.optional "location" text members
    let backtrace ← Json.optional "backtrace" (list text) members
    return ⟨errorType, message, location, backtrace⟩

end FailureInfo

/-- What is stored of an execution. -/
structure Summary where
  /-- The number of the execution. -/
  id : Nat
  /-- How it ended. -/
  state : Lifecycle
  /-- Its value, if it completed. -/
  value : Option Json
  /-- What the script printed. -/
  logs : List String
  /-- The failure, if it failed. -/
  error : Option FailureInfo
  /-- Why it was stopped, if it was. -/
  termination : Option Termination
  /-- The milliseconds it took. -/
  elapsedMillis : Nat

namespace Summary

/-- A summary as a record. -/
def toJson (s : Summary) : Json :=
  .ofMembers [("id", .int s.id), ("state", s.state.toJson), ("value", s.value.getD .null),
    ("logs", .strings s.logs), ("error", .ofOption FailureInfo.toJson s.error),
    ("termination", .ofOption Termination.toJson s.termination),
    ("elapsed_ms", .int s.elapsedMillis)]

open Json.Decoder in
/-- The shape of a summary. -/
def shape : Json.Shape :=
  .ofFields "ExecutionSummary"
    [("id", Json.checked word64), ("state", Json.checked Lifecycle.ofJson),
     ("value", Json.checked any), ("logs", Json.checked (list text)),
     ("error", Json.checked (option FailureInfo.ofJson)),
     ("termination", Json.checked (option Termination.ofJson)),
     ("elapsed_ms", Json.checked word64)]

open Json.Decoder in
/-- Reads a summary. -/
def ofJson : Json.Decoder Summary :=
  shape.record fun members ↦ do
    let id ← Json.required "id" word64 members
    let state ← Json.required "state" Lifecycle.ofJson members
    let value ← Json.optional "value" any members
    let logs ← Json.required "logs" (list text) members
    let error ← Json.optional "error" FailureInfo.ofJson members
    let termination ← Json.optional "termination" Termination.ofJson members
    let elapsed ← Json.required "elapsed_ms" word64 members
    return ⟨id, state, value, logs, error, termination, elapsed⟩

end Summary

/-- The summary of a report. -/
def Report.summary (r : Report) : Summary where
  id := r.id
  state := r.outcome.state
  value := r.outcome.value?.map Value.toJson
  logs := r.logs
  error := r.outcome.failure?.map Failure.info
  termination := r.outcome.termination?
  elapsedMillis := r.elapsed.millis

end ScriptSandbox

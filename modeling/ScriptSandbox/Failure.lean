import ScriptSandbox.Script.Error
import ScriptSandbox.Script.Fault

/-!
# Failures of executions

What an execution that fails ends with, its text, and the description of it that is recorded: a
category, a message, a line and the chain of calls. The chain lists one frame for each call that
the error left, the outermost first, and one more for the place where it was raised, if that is
known. A frame names the function that was called and the line of its call.
-/

namespace ScriptSandbox

open Script

/-- Why an execution failed. -/
inductive Failure where
  /-- The source is no script. -/
  | parse (e : ParseError)
  /-- The script raised an error. -/
  | runtime (e : EvalError)
  /-- Directives were dropped, and the session does not allow that. -/
  | unresolvedInclude (references : List String)
  /-- The host's code broke down. -/
  | panicked (message : String)
  deriving Inhabited

/-- What is recorded of a failure. -/
structure FailureInfo where
  /-- The category. -/
  errorType : String
  /-- The text. -/
  message : String
  /-- The line in the script. -/
  location : Option String
  /-- The chain of calls. -/
  backtrace : Option (List String)
  deriving DecidableEq, Repr, Inhabited

/-- The text of a host function's breakdown; one that left no message has a text of its own. -/
def panicText (message : Option String) : String := message.getD "worker panicked"

/-- A line in words. -/
def lineText (line : Nat) : String := "line " ++ toString line

/-- The frame of a call. -/
def frameText (function : String) (p : Position) : String :=
  match p.line? with
  | some line => "at " ++ function ++ " (" ++ lineText line ++ ")"
  | none => "at " ++ function

/-- The frames of the calls an error left, the outermost first, and of the place where it was
raised. -/
def frames : EvalError → List String
  | .inCall function _ inner p => frameText function p :: frames inner
  | .raised _ p => if p.isNone then [] else [frameText "<main>" p]

/-- The chain of calls of an error, unless it is empty. -/
def backtrace (e : EvalError) : Option (List String) :=
  if (frames e).isEmpty then none else some (frames e)

namespace Failure

/-- The text of a failure. -/
def message : Failure → String
  | parse e => "Parse error: " ++ e.message
  | runtime e => "Runtime error: " ++ e.message
  | unresolvedInclude references => "Unresolved include: " ++ ", ".intercalate references
  | panicked text => "Worker panicked: " ++ text

/-- What is recorded of a failure. -/
def info : Failure → FailureInfo
  | parse e => ⟨"parse", e.message, e.position.line?.map lineText, none⟩
  | runtime e => ⟨"runtime", e.message, e.position.line?.map lineText, backtrace e⟩
  | f@(unresolvedInclude _) => ⟨"include", f.message, none, none⟩
  | panicked text => ⟨"panic", text, none, none⟩

/-- Whether the run of the script was stopped from outside. -/
def isTermination : Failure → Bool
  | runtime e => e.isTermination
  | _ => false

end Failure

end ScriptSandbox

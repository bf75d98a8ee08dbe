import ScriptSandbox.Script.Evaluation.Program

/-!
# Interpreters

A sandbox needs little of what interprets scripts: given an engine, the variables in scope and a
text, it either refuses the text or gives the run of it. The evaluator of this library is one
interpreter; nothing that is done around a script depends on which one it is.
-/

namespace ScriptSandbox.Script

/-- What compiles and runs texts. -/
structure Interpreter where
  /-- The run of a text in an engine, with some variables in scope, if the text is a script. What
  the script gives back may be a shared variable itself. -/
  interpret : Engine → List Variable → String → Except ParseError (Run (Ending Slot))

/-- The interpreter that compiles a text to a program and evaluates that. -/
def Interpreter.standard : Interpreter where
  interpret engine scope text :=
    (Program.ofString engine (scope.map (·.name)) text).map fun program ↦
      program.interpret engine scope

end ScriptSandbox.Script

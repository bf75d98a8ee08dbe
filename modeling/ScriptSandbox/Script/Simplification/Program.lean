import ScriptSandbox.Script.Simplification.Statement

/-!
# Simplifying scripts

A script is simplified before it runs, its functions each for itself. A simplifier that is as deep
as the script nests reaches all of it.
-/

namespace ScriptSandbox.Script

/-- The simplifier of parts that nest to a given depth. -/
def Simplifier.ofDepth (limits : Limits) : Nat → Simplifier
  | 0 => ⟨limits, fun _ e ↦ return e, fun _ s ↦ return s, fun _ body ↦ return body⟩
  | n + 1 =>
    let g := Simplifier.ofDepth limits n
    ⟨limits, g.simplifyExpr, g.simplifyStmt, g.simplifyBlock (n + 1)⟩

/-- The statements of a function or of a script, simplified; they nest to a depth at most. -/
def simplified (limits : Limits) (depth : Nat) (body : List Stmt) : List Stmt :=
  let g := Simplifier.ofDepth limits depth
  ((g.block .whole body).run ⟨[], false⟩).1

/-- A script that does the same with less; its parts nest to a depth at most. -/
def Program.simplified (program : Program) (limits : Limits) (depth : Nat) : Program where
  functions := program.functions.map fun f ↦
    { f with body := Script.simplified limits depth f.body }
  body := Script.simplified limits depth program.body

end ScriptSandbox.Script

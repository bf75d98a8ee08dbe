import ScriptSandbox.Script.Grammar.Statement
import ScriptSandbox.Script.Simplification.Program

/-!
# Reading scripts

A script is the statements up to its end, simplified. A token opens at most a few levels, so a
grammar as deep as a few times their number reads the script to the end, and a simplifier as deep as
that reaches all of it.
-/

namespace ScriptSandbox.Script

/-- The grammar whose parts nest to a given depth. -/
def Grammar.ofDepth : Nat → Grammar
  | 0 =>
    let stop {α : Type} (st : Setting) : Parse α := refuse .tooDeep st.pos
    ⟨stop, stop, fun st _ _ ↦ stop st, stop, stop⟩
  | n + 1 =>
    let g := Grammar.ofDepth n
    ⟨g.readExpr, g.readOperand, g.readOperators, g.readStmt, g.readBlock⟩

/-- Reads a script for an engine; `bound` are the names of the variables given from outside. -/
def Program.ofString (engine : Engine) (bound : List String) (source : String) :
    Except ParseError Program := do
  let tokens := tokens engine.limits.stringSize source
  let depth := 4 * tokens.size + 8
  let g := Grammar.ofDepth depth
  let st : Setting :=
    { engine, bound, level := 0, maxLevel := engine.limits.exprDepth, pos := .none, atTop := true
      inLoop := false, inFunction := false }
  let atEnd : Parse Bool := do
    let (t, _) ← peek
    return t.isEnd
  let (body, r) ← (g.statements st atEnd).run ⟨tokens, 0, [], []⟩
  let program : Program := ⟨r.functions, body⟩
  return program.simplified engine.limits depth

end ScriptSandbox.Script

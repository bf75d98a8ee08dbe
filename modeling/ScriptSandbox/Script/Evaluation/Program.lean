import ScriptSandbox.Script.Evaluation.Expression
import ScriptSandbox.Script.Evaluation.Statement
import ScriptSandbox.Script.Grammar.Program

/-!
# Running scripts

The meaning of a compiled script: the run it makes. Each task is a step over the tasks it consists
of. Calls and loops nest without bound in the text of a script; the evaluator counts down a budget,
far beyond any operation count, that makes it total.
-/

namespace ScriptSandbox.Script

open EvalM

/-- One turn of a loop that looks at no condition; without a body it counts as an operation. -/
def turnOrTick (env : Env) (eval : Eval) (body : List Stmt) (bodyAt : Position) :
    EvalM TurnEnd := do
  if body.isEmpty then
    tick env bodyAt
    return .finished
  else turn eval body

/-- What a loop comes to after a turn, given what it goes on with. -/
def TurnEnd.next (eval : Eval) (goOn : Task) : TurnEnd → EvalM Value
  | finished | skipped => eval goOn
  | left v => return v

/-- Does one task, given what does the tasks it consists of. A loop with its condition last looks
at the condition only after a turn that came to the end of the body. -/
def step (env : Env) (eval : Eval) (task : Task) : EvalM Value :=
  match task with
  | .expr e => evalExpr env eval e
  | .stmt s => evalStmt env eval s
  | .block body => inBlock (evalStmts eval body .unit)
  | .whileLoop condition body bodyAt => do
    let goOn ← match condition with
      | some e => do truth env (← eval (.expr e)) e.position
      | none => pure true
    if !goOn then return .unit
    let ended ←
      if condition.isSome && body.isEmpty then pure .finished
      else turnOrTick env eval body bodyAt
    ended.next eval task
  | .doLoop body condition whenTrue => do
    match ← if body.isEmpty then pure .finished else turn eval body with
    | .left v => return v
    | .skipped => eval task
    | .finished =>
      let b ← truth env (← eval (.expr condition)) condition.position
      if b = whenTrue then eval task else return .unit
  | .countLoop item counter n next last body bodyAt => do
    if last ≤ next then return .unit
    setTurn item counter n (.int next)
    (← turnOrTick env eval body bodyAt).next eval
      (.countLoop item counter (n + 1) (next + 1) last body bodyAt)
  | .itemLoop item counter n items body bodyAt => do
    match items with
    | [] => return .unit
    | v :: rest =>
      setTurn item counter n v
      (← turnOrTick env eval body bodyAt).next eval
        (.itemLoop item counter (n + 1) rest body bodyAt)

/-- Does tasks that nest to a depth within a budget; a run that uses it up counts as having made too
many operations. -/
def evalWithin (env : Env) : Nat → Eval
  | 0, _ => raise .tooManyOperations .none
  | n + 1, task => step env (evalWithin env n) task

/-- The nesting that is more than any run can reach. -/
def budget : Nat := Nat.pow 2 62

/-- Evaluates the statements of a script. One that ends with a variable gives back the variable's
slot. -/
def evalScript (env : Env) (eval : Eval) : List Stmt → Value → EvalM Slot
  | [], v => return .own v
  | [.expr (.variable name p)], _ => do
    tick env p
    tick env p
    return (← findSlot env name p).2
  | s :: rest, _ => do
    let v ← eval (.stmt s)
    evalScript env eval rest v

/-- The run of a compiled script in an engine, with some variables in scope, which a declaration of
the script hides but does not replace. -/
def Program.interpret (program : Program) (engine : Engine) (scope : List Variable) :
    Run (Ending Slot) :=
  let env : Env := ⟨engine, program.functions⟩
  let start : State := ⟨scope.toArray, scope.length, 0, 0, none, none⟩
  evalScript env (evalWithin env budget) program.body .unit start fun r _ ↦
    match r with
    | .ok slot => .done (.value slot)
    | .error (.returned v) | .error (.breakLoop v) => .done (.value (.own v))
    | .error .continueLoop => .done (.value (.own .unit))
    | .error (.error e) => .done (.failed e)
    | .error (.panic message) => .done (.panicked message)

/-- The run of a compiled script to the value that it gives back. -/
def Program.run (program : Program) (engine : Engine) (scope : List Variable) :
    Run (Ending Value) :=
  (program.interpret engine scope).bind Ending.flatten

end ScriptSandbox.Script

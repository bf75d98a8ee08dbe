import ScriptSandbox.Script.Evaluation.Access

/-!
# Expressions

The value of an expression. Operands and arguments are evaluated from left to right, and each
expression counts as an operation before its parts do.
-/

namespace ScriptSandbox.Script

open EvalM

/-- Evaluates the items of an array literal; their sizes add up. -/
def evalItems (env : Env) (eval : Eval) : List Expr → Array Value → Value.Sizes → EvalM Value
  | [], acc, _ => return .array acc
  | e :: rest, acc, sizes => do
    let v ← eval (.expr e)
    let sizes := (sizes.add v.sizes).add ⟨1, 0, 0⟩
    match env.engine.limits.exceeded? sizes with
    | some what => raise (.tooLarge what) e.position
    | none => evalItems env eval rest (acc.push v) sizes

/-- Evaluates the entries of a map literal; their sizes add up. -/
def evalEntries (env : Env) (eval : Eval) :
    List (String × Expr) → List (String × Value) → Value.Sizes → EvalM Value
  | [], acc, _ => return .map acc
  | (name, e) :: rest, acc, sizes => do
    let v ← eval (.expr e)
    let sizes := (sizes.add v.sizes).add ⟨0, 1, 0⟩
    match env.engine.limits.exceeded? sizes with
    | some what => raise (.tooLarge what) e.position
    | none => evalEntries env eval rest (Text.NameMap.insertEntry name v acc) sizes

/-- Evaluates a call by name. What a variable holds that is the first argument is passed on so that
the function can change it, unless the variable is constant or shared. -/
def evalCall (env : Env) (eval : Eval) (name : String) (args : List Expr) (p : Position) :
    EvalM Value := do
  match args with
  | .variable x q :: rest =>
    tick env q
    let vs ← evalAll eval rest
    let (i?, v) ← readVariable env x q
    let scope := (← state).scope
    let given? := i?.filter fun i ↦
      match scope.getD i default with
      | ⟨_, .own _, none⟩ => true
      | _ => false
    let r ← callFunction env eval false given?.isSome name (v :: vs) p
    match given?, r.receiver with
    | some i, some changed => writeVariable i changed
    | _, _ => pure ()
    resume r.outcome
  | .this q :: rest =>
    tick env q
    let vs ← evalAll eval rest
    match (← state).this with
    | none => raise .unboundThis q
    | some subject =>
      let r ← callFunction env eval subject.isFrozen true name (subject.value :: vs) p
      match r.receiver with
      | some changed => update fun s ↦ { s with this := some { subject with value := changed } }
      | none => pure ()
      resume r.outcome
  | args =>
    let vs ← evalAll eval args
    resume (← callFunction env eval false false name vs p).outcome

/-- Whether all of some truth values are equal to one; the rest is not evaluated after one that is
not. -/
def evalAllEqual (env : Env) (eval : Eval) (b : Bool) : List Expr → EvalM Bool
  | [] => return true
  | e :: rest => do
    let v ← truth env (← eval (.expr e)) e.position
    if v = b then evalAllEqual env eval b rest else return false

/-- Evaluates a call or an operator. -/
def evalApply (env : Env) (eval : Eval) (name : String) (isOperator : Bool) (args : List Expr)
    (p : Position) : EvalM Value := do
  if isOperator then
    let vs ← evalAll eval args
    callOperator env name vs p
  else evalCall env eval name args p

/-- Evaluates an expression. -/
def evalExpr (env : Env) (eval : Eval) (e : Expr) : EvalM Value := do
  tick env e.position
  match e with
  | .unit _ => return .unit
  | .bool b _ => return .bool b
  | .int n _ => return .int n
  | .float f _ => return .float f
  | .char c _ => return .char c
  | .string s _ => return .string s
  | .constant v _ => return v
  | .array items _ => evalItems env eval items #[] ⟨0, 0, 0⟩
  | .map entries _ => evalEntries env eval entries [] ⟨0, 0, 0⟩
  | .variable name p => return (← readVariable env name p).2
  | .this p =>
    match (← state).this with
    | some subject => return subject.value
    | none => raise (.unboundThis) p
  | .call name isOperator args p => evalApply env eval name isOperator args p
  | .and operands _ => return .bool (← evalAllEqual env eval true operands)
  | .or operands _ => return .bool !(← evalAllEqual env eval false operands)
  | .path root steps _ => evalPath env eval root steps none
  | .block body _ => if body.isEmpty then return .unit else eval (.block body)

end ScriptSandbox.Script

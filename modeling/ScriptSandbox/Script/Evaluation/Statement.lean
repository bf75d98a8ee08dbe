import ScriptSandbox.Script.Evaluation.Expression

/-!
# Statements

The value of a statement, and the signals by which it leaves blocks, loops and functions.
-/

namespace ScriptSandbox.Script

open EvalM

/-- Evaluates statements one after another; the value is that of the last. -/
def evalStmts (eval : Eval) : List Stmt → Value → EvalM Value
  | [], v => return v
  | s :: rest, _ => do
    let v ← eval (.stmt s)
    evalStmts eval rest v

/-- Evaluates a block that may be empty. -/
def evalBlock (eval : Eval) (body : List Stmt) : EvalM Value :=
  if body.isEmpty then return .unit else eval (.block body)

/-- The position as entries of a map. -/
def positionEntries : Position → List (String × Value)
  | .none => []
  | .place line column => [("line", .int line), ("position", .int column)]

/-- What a handler is told of an error: the value that was thrown, or a description. -/
def caughtValue (e : EvalError) : Value :=
  match e.cause with
  | .thrown v => v
  | _ =>
    let entries := positionEntries e.position
      ++ [("error", .string e.kind), ("message", .string e.body)] ++ e.details
    .map (entries.foldl (fun m (k, v) ↦ Text.NameMap.insertEntry k v m) [])

/-- How a turn of a loop ends. -/
inductive TurnEnd where
  /-- At the end of the body. -/
  | finished
  /-- It goes on with the next turn. -/
  | skipped
  /-- It leaves the loop with a value. -/
  | left (value : Value)

/-- One turn of a loop. -/
def turn (eval : Eval) (body : List Stmt) : EvalM TurnEnd := do
  match ← attempt (eval (.block body)) with
  | .ok _ => return .finished
  | .error .continueLoop => return .skipped
  | .error (.breakLoop v) => return .left v
  | .error e => signal e

/-- Gives the variables of a loop the values of a turn. -/
def setTurn (item : Nat) (counter : Option Nat) (n : Nat) (v : Value) : EvalM Unit := do
  writeVariable item v
  match counter with
  | some i => writeVariable i (.int n)
  | none => pure ()

/-- Evaluates a declaration. A variable of the same block and name is declared anew in its
place. -/
def evalDeclare (env : Env) (eval : Eval) (name : String) (constant : Bool) (value : Expr)
    (p : Position) : EvalM Value := do
  let s ← state
  let old := (findVariable? s.scope name).filter fun i ↦ s.base ≤ i
  if old.isNone ∧ env.engine.limits.scopeSize ≤ s.scope.size then raise .tooManyVariables p
  let v ← eval (.expr value)
  let declared : Variable := ⟨name, .own v, if constant then some v else none⟩
  match old with
  | some i =>
    update fun s ↦ { s with scope := s.scope.modify i fun _ ↦ declared }
  | none => update fun s ↦ { s with scope := s.scope.push declared }
  return .unit

/-- What is said of a literal that is assigned to. The text of a script has none; the entry of a
constant becomes one when the script is simplified. -/
def literalAssigned (target : Expr) : String :=
  "internal error: entered unreachable code: cannot assign to expression: "
    ++ (target.literal?.getD .unit).diagnostic .full ++ " @ " ++ target.position.short

/-- Evaluates an assignment. -/
def evalAssign (env : Env) (eval : Eval) (op : AssignOp) (target value : Expr) (p : Position) :
    EvalM Value := do
  match target with
  | .variable name q =>
    let a : Assignment := ⟨op, ← eval (.expr value), p⟩
    tick env q
    match ← readVariable env name q with
    | (none, _) => raise (.constantAssigned name) q
    | (some i, old) =>
      if (← frozenVariable i).isSome then raise (.constantAssigned name) q
      let v ← changing i (assigned env a old)
      writeVariable i v
      return .unit
  | .this q =>
    if (← state).this.isNone then raise (.unboundThis) q
    let a : Assignment := ⟨op, ← eval (.expr value), p⟩
    tick env q
    match (← state).this with
    | none => raise (.unboundThis) q
    | some subject =>
      if subject.isFrozen then raise (.constantAssigned "this") q
      let v ← assigned env a subject.value
      update fun s ↦ { s with this := some { subject with value := v } }
      return .unit
  | .path root steps _ =>
    let a : Assignment := ⟨op, ← eval (.expr value), p⟩
    evalPath env eval root steps (some a)
  | target => do
    let _ ← eval (.expr value)
    panic (some (literalAssigned target))

/-- Evaluates a loop over items. -/
def evalFor (env : Env) (eval : Eval) (name : String) (nameAt : Position)
    (counter : Option String) (items : Expr) (body : List Stmt) (bodyAt : Position) :
    EvalM Value := do
  let room := env.engine.limits.scopeSize - (if counter.isSome then 1 else 0)
  if room ≤ (← state).scope.size then raise .tooManyVariables nameAt
  let v ← eval (.expr items)
  inBlock do
    let first := (← state).scope.size
    let counterAt ← match counter with
      | some c => do
        pushVariable c .unit
        pure (some first)
      | none => pure none
    let item := (← state).scope.size
    pushVariable name .unit
    match v, env.engine.standard with
    | .range a b inclusive, true =>
      eval (.countLoop item counterAt 0 a (if inclusive then b + 1 else b) body bodyAt)
    | .array xs, true => eval (.itemLoop item counterAt 0 xs.toList body bodyAt)
    | .string s, true =>
      eval (.itemLoop item counterAt 0 (s.toList.map .char) body bodyAt)
    | _, _ => raise .notIterable items.startPosition

/-- Evaluates a statement with a handler for its errors. Its value is that of its body; once an
error has been handled it is unit. -/
def evalTry (env : Env) (eval : Eval) (body : List Stmt) (name : Option (String × Position))
    (handler : List Stmt) : EvalM Value := do
  match ← attempt (evalBlock eval body) with
  | .ok v => return v
  | .error (.error e) =>
    if !e.isCatchable then signal (.error e)
    else
      let handled ← attempt (inBlock do
        match name with
        | some (name, p) => do
          if env.engine.limits.scopeSize ≤ (← state).scope.size then raise .tooManyVariables p
          pushVariable name (caughtValue e)
        | none => pure ()
        evalBlock eval handler)
      match handled with
      | .ok _ => return .unit
      | .error (.error (.raised (.thrown .unit) p)) =>
        -- throwing nothing throws the error again
        signal (.error (e.withPosition p))
      | .error s => signal s
  | .error s => signal s

/-- Evaluates a statement. -/
def evalStmt (env : Env) (eval : Eval) (s : Stmt) : EvalM Value := do
  tick env s.position
  match s with
  | .skip _ => return .unit
  | .expr e => eval (.expr e)
  | .call name isOperator args p => evalApply env eval name isOperator args p
  | .declare name constant value p => evalDeclare env eval name constant value p
  | .assign op target value p => evalAssign env eval op target value p
  | .block body _ => evalBlock eval body
  | .ifElse condition yes no _ _ _ =>
    let b ← truth env (← eval (.expr condition)) condition.position
    evalBlock eval (if b then yes else no)
  | .whileLoop condition body bodyAt _ => eval (.whileLoop condition body bodyAt)
  | .doLoop body condition whenTrue _ _ => eval (.doLoop body condition whenTrue)
  | .forLoop name nameAt counter items body bodyAt _ =>
    evalFor env eval name nameAt counter items body bodyAt
  | .breakLoop value _ =>
    match value with
    | some e => signal (.breakLoop (← eval (.expr e)))
    | none => signal (.breakLoop .unit)
  | .continueLoop _ => signal .continueLoop
  | .return value _ =>
    match value with
    | some e => signal (.returned (← eval (.expr e)))
    | none => signal (.returned .unit)
  | .throw value p =>
    match value with
    | some e => raise (.thrown (← eval (.expr e))) p
    | none => raise (.thrown .unit) p
  | .tryCatch body name handler _ _ => evalTry env eval body name handler
  | .importModule path p =>
    if env.engine.limits.modules = 0 then raise .tooManyModules p
    let v ← eval (.expr path)
    match v with
    | .string s => raise (.moduleNotFound s) path.position
    | v => raise (.mismatch (env.engine.typeName v.typeId) "string") path.position

end ScriptSandbox.Script

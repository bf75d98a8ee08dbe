import ScriptSandbox.Script.Simplification.Expression

/-!
# Simplifying statements

A statement whose condition is known is one of its branches; one whose body does nothing is what is
evaluated before it. Blocks are simplified again and again until nothing changes.
-/

namespace ScriptSandbox.Script

/-- The operators that have a form of assignment. -/
def assignableOperators : List String :=
  ["+", "-", "*", "/", "%", "**", "<<", ">>", "&", "|", "^"]

/-- Statements as one statement that stands where a block did. -/
def Stmt.ofBlock (body : List Stmt) (p : Position) : Stmt :=
  if body.isEmpty then .skip p else .block body p

namespace Simplifier

variable (g : Simplifier)

/-- Simplifies a block inside a statement. -/
def inner (valued : Bool) (body : List Stmt) : Simplify (List Stmt) :=
  g.block ⟨valued, true, false⟩ body

/-- Simplifies an assignment. A variable that gets its own value with an operator applied to it is
assigned to by that operator. -/
def assignment (op : AssignOp) (target value : Expr) (p : Position) : Simplify Stmt := do
  let short? := match op, target, value with
    | none, .variable x _, .call op true [.variable y _, e] q =>
      if x = y && assignableOperators.contains op then some (Stmt.assign (some op) target e q)
      else none
    | _, _, _ => none
  match short? with
  | some s => changedTo s
  | none =>
    let target ← match target with
      | .path .. => g.expr false target
      | target => pure target
    return .assign op target (← g.expr false value) p

/-- Simplifies a conditional. One whose branch is just another one has both their conditions. -/
def conditional (valued : Bool) (condition : Expr) (yes no : List Stmt) (yesAt noAt p : Position) :
    Simplify Stmt := do
  match condition, yes, no with
  | condition, [], [] =>
    noteChange
    let q := condition.startPosition
    let e ← g.expr false condition
    return if valued then .block [.expr e, .skip q] q else .expr e
  | .bool false q, _, [] => changedTo (.skip q)
  | .bool false _, _, no => changedTo (.ofBlock (← g.inner valued no) noAt)
  | .bool true _, yes, _ => changedTo (.ofBlock (← g.inner valued yes) yesAt)
  | condition, [.ifElse inner yes [] yesAt _ _], [] =>
    changedTo (.ifElse (condition.conjoin inner p) yes [] yesAt noAt p)
  | condition, yes, no =>
    let condition ← g.expr false condition
    let yes ← g.inner valued yes
    let no ← g.inner valued no
    return .ifElse condition yes no yesAt noAt p

/-- Simplifies a loop with its condition first. -/
def whileLoop (condition : Option Expr) (body : List Stmt) (bodyAt p : Position) :
    Simplify Stmt := do
  match condition with
  | some (.bool false q) => changedTo (.skip q)
  | none => return .whileLoop none (← g.inner false body) bodyAt p
  | some e =>
    let condition := match ← g.expr false e with
      | .bool true _ => none
      | e => some e
    return .whileLoop condition (← g.inner false body) bodyAt p

/-- Simplifies an expression that stands as a statement. -/
def expression (e : Expr) : Simplify Stmt := do
  match e with
  | .block [] p => changedTo (.skip p)
  | .block body p => changedTo (.block (← g.block ⟨true, true, false⟩ body) p)
  | .call name isOperator args p => changedTo (.call name isOperator args p)
  | e => return .expr (← g.expr false e)

/-- Simplifies a value that may be missing. -/
def optional : Option Expr → Simplify (Option Expr)
  | none => return none
  | some e => return some (← g.expr false e)

/-- Simplifies a statement. -/
def simplifyStmt (valued : Bool) (s : Stmt) : Simplify Stmt := do
  match s with
  | .assign op target value p => g.assignment op target value p
  | .ifElse condition yes no yesAt noAt p => g.conditional valued condition yes no yesAt noAt p
  | .whileLoop condition body bodyAt p => g.whileLoop condition body bodyAt p
  | .doLoop body condition whenTrue bodyAt p =>
    let condition ← g.expr false condition
    return .doLoop (← g.inner false body) condition whenTrue bodyAt p
  | .forLoop name nameAt counter items body bodyAt p =>
    let items ← g.expr false items
    return .forLoop name nameAt counter items (← g.inner false body) bodyAt p
  | .importModule path p => return .importModule (← g.expr false path) p
  | .block body p =>
    match ← g.inner valued body with
    | [] => changedTo (.skip p)
    | [s] => if s.isTiedToBlock then return .block [s] p else changedTo s
    | body => return .block body p
  | .tryCatch body name handler bodyAt p =>
    if allStmtsPure body then changedTo (.ofBlock (← g.inner false body) bodyAt)
    else
      let body ← g.inner false body
      return .tryCatch body name (← g.inner false handler) bodyAt p
  | .expr e => g.expression e
  | .call name isOperator args p =>
    match ← g.expr false (.call name isOperator args p) with
    | .call name isOperator args p => return .call name isOperator args p
    | e => return .expr e
  | .breakLoop value p => return .breakLoop (← g.optional value) p
  | .return value p => return .return (← g.optional value) p
  | .throw value p => return .throw (← g.optional value) p
  | s => return s

/-- Simplifies the statements of a block one after another. Only the value of the last one may be
seen. -/
def stmts (valued : Bool) : List Stmt → Simplify (List Stmt)
  | [] => return []
  | s :: rest => do
    let s ← match s with
      | .declare name constant value p => do
        let value ← g.expr false value
        learn name (if constant then value.literal? else none)
        pure (.declare name constant value p)
      | s => g.stmt (valued && rest.isEmpty) s
    let rest ← stmts valued rest
    return s :: rest

/-- Simplifies a block once. -/
def pass (use : BlockUse) (body : List Stmt) : Simplify (List Stmt) := do
  let short := reached body
  if short.length < body.length then noteChange
  let body ← inKnownScope (g.stmts use.valued short)
  let rest := effective use body
  if rest.length < body.length || hasTail use rest then noteChange
  return withoutTail use rest

/-- Simplifies a block until nothing changes, at most a number of times. -/
def passes (use : BlockUse) : Nat → List Stmt → Simplify (List Stmt)
  | 0, body => return body
  | n + 1, body => do
    modify fun k ↦ { k with changed := false }
    let body ← g.pass use body
    if (← get).changed then
      let body ← passes use n body
      changedTo body
    else return body

/-- Simplifies a block, at most a number of times. -/
def simplifyBlock (times : Nat) (use : BlockUse) (body : List Stmt) : Simplify (List Stmt) := do
  if body.isEmpty then return body
  let before := (← get).changed || hasLooseBlock body
  let body ← g.passes use times (flattenAll body)
  if before then noteChange
  return body

end Simplifier

end ScriptSandbox.Script

import ScriptSandbox.Script.Operator
import ScriptSandbox.Script.Simplification.Block

/-!
# Simplifying expressions

What an expression comes to can be known before the script runs: operators on literals, literals
indexed by literals, and constants that were declared with a literal. A truth value that says
nothing in a connective leaves the rest as it is, whatever that is. The simplifiers of the parts
that contain one another are given by a record, as the readers of a grammar are.
-/

namespace ScriptSandbox.Script

/-- What is known while a script is simplified. -/
structure Knowledge where
  /-- The variables in scope, the latest first; constants with a literal have a value. -/
  known : List (String × Option Value)
  /-- Whether something has changed. -/
  changed : Bool

/-- A step of simplification. -/
abbrev Simplify := StateM Knowledge

/-- Notes that something has changed. -/
def noteChange : Simplify Unit := modify fun k ↦ { k with changed := true }

/-- A result that is a change. -/
def changedTo {α : Type} (a : α) : Simplify α := do
  noteChange
  return a

/-- The value of a constant. -/
def constantValue? (name : String) : Simplify (Option Value) := do
  return ((← get).known.lookup name).join

/-- Puts a variable into scope; a value makes it a known constant. -/
def learn (name : String) (value : Option Value) : Simplify Unit :=
  modify fun k ↦ { k with known := (name, value) :: k.known }

/-- Simplifies in a scope of its own. -/
def inKnownScope {α : Type} (body : Simplify α) : Simplify α := do
  let before := (← get).known
  let a ← body
  modify fun k ↦ { k with known := before }
  return a

/-- The simplifiers of the parts of a script that contain one another. -/
structure Simplifier where
  /-- The limits of the engine the script is for. -/
  limits : Limits
  /-- Simplifies an expression; `inPath` says that it is the end of an access path. -/
  expr : (inPath : Bool) → Expr → Simplify Expr
  /-- Simplifies a statement; `valued` says that its value may be seen. -/
  stmt : (valued : Bool) → Stmt → Simplify Stmt
  /-- Simplifies the statements of a block. -/
  block : BlockUse → List Stmt → Simplify (List Stmt)

/-- The value of an operator on two literals, if it has one within the limits. -/
def foldOperator? (limits : Limits) (op : String) (a b : Value) : Option Value :=
  match builtinOperator op a b with
  | some (.ok v) =>
    let size := v.sizes.bytes
    if limits.stringSize ≠ 0 ∧ limits.stringSize < size then none else some v
  | _ => none

/-- The place that a literal index means in a literal. -/
def literalPlace? (size : Nat) (i : Int) : Option Nat :=
  if 0 ≤ i ∧ i < size then some i.toNat
  else if i < 0 ∧ i.natAbs ≤ size then some (size - i.natAbs)
  else none

/-- The entry of a map literal at another position; nothing is an entry too. -/
def entryAt (entries : List (String × Expr)) (name : String) (p : Position) : Expr :=
  match entries.lookup name with
  | some e => e.movedTo p
  | none => .unit p

/-- What one step from a literal or from a constant leads to, if that is known. -/
def literalAccess? (root : Expr) (constant : Option Value) (step : Access) : Option Expr :=
  match root, constant, step with
  | .map entries p, _, .property name _ _ | .map entries p, _, .index (.string name _) _ =>
    if allEntriesConstant entries then some (entryAt entries name p) else none
  | .array items p, _, .index (.int i _) _ =>
    if allConstant items then
      (literalPlace? items.length i).map fun k ↦ (items.getD k (.unit p)).movedTo p
    else none
  | .constant (.map entries) p, _, .property name _ _
  | .constant (.map entries) p, _, .index (.string name _) _ =>
    some (.ofValue ((entries.lookup name).getD .unit) p)
  | .int n p, _, .index (.int i _) _ =>
    (literalPlace? 64 i).map fun k ↦ .bool (shiftRight n k % 2 == 1) p
  | .string s p, _, .index (.int i _) _ =>
    (literalPlace? s.length i).map fun k ↦ .char (s.toList.getD k ' ') p
  | .variable _ p, some (.map entries), .property name _ _
  | .variable _ p, some (.map entries), .index (.string name _) _ =>
    some (.ofValue ((entries.lookup name).getD .unit) p)
  | root, _, .method "type_of" [] _ p =>
    root.literal?.map fun v ↦ .string (standardTypeName v.typeId) p
  | _, _, _ => none

namespace Simplifier

variable (g : Simplifier)

/-- Simplifies expressions. -/
def exprs : List Expr → Simplify (List Expr)
  | [] => return []
  | e :: rest => do
    let e ← g.expr false e
    let rest ← exprs rest
    return e :: rest

/-- Simplifies the values of entries. -/
def entries : List (String × Expr) → Simplify (List (String × Expr))
  | [] => return []
  | (name, e) :: rest => do
    let e ← g.expr false e
    let rest ← entries rest
    return (name, e) :: rest

/-- Simplifies the parts of a path's steps. -/
def steps : List Access → Simplify (List Access)
  | [] => return []
  | a :: rest => do
    let a ← match a with
      | .property .. => pure a
      | .index i mark => do pure (.index (← g.expr rest.isEmpty i) mark)
      | .method name args mark p => do pure (.method name (← g.exprs args) mark p)
    let rest ← steps rest
    return a :: rest

/-- Simplifies an access path. The variable it starts from stays, as the path may change it. -/
def path (inPath : Bool) (root : Expr) (steps : List Access) (p : Position) : Simplify Expr := do
  let constant ← match root with
    | .variable name _ => constantValue? name
    | _ => pure none
  let known := match inPath, steps with
    | false, [a] => literalAccess? root constant a
    | _, _ => none
  match known with
  | some e => changedTo e
  | none =>
    let root ← match inPath, root with
      | false, .variable .. | _, .this _ => pure root
      | _, root => g.expr false root
    return .path root (← g.steps steps) p

/-- Simplifies a connective of truth values. The operands that are `unit` say nothing; one that is
the other truth value decides, once all before it are literals. -/
def connective (make : List Expr → Position → Expr) (unit : Bool) (operands : List Expr)
    (p : Position) : Simplify Expr := do
  let isLiteral (b : Bool) : Expr → Bool
    | .bool c _ => b = c
    | _ => false
  let telling := operands.filter (!isLiteral unit ·)
  let before := telling.takeWhile (!isLiteral (!unit) ·)
  match telling[before.length]?, telling with
  | some decisive, _ =>
    if allConstant before then changedTo decisive
    else return make (← g.exprs (before ++ [decisive])) p
  | none, [] => changedTo (.bool unit p)
  | none, [e] => changedTo (← g.expr false e)
  | none, telling => do
    if telling.length < operands.length then noteChange
    return make (← g.exprs telling) p

/-- Simplifies a call or an operator. -/
def call (name : String) (isOperator : Bool) (args : List Expr) (p : Position) : Simplify Expr := do
  let value? := match isOperator, name, args with
    | true, op, [a, b] => do foldOperator? g.limits op (← a.literal?) (← b.literal?)
    | false, "type_of", [a] => do return .string (standardTypeName (← a.literal?).typeId)
    | _, _, _ => none
  match value?, isOperator, name, args with
  | some v, _, _, _ => changedTo (.ofValue v p)
  | none, true, "!", [.bool b q] => changedTo (.bool (!b) q)
  | none, _, _, _ => return .call name isOperator (← g.exprs args) p

/-- Simplifies an expression. -/
def simplifyExpr (inPath : Bool) (e : Expr) : Simplify Expr := do
  match e with
  | .block [] p => changedTo (.unit p)
  | .block [.expr e] _ => changedTo (← g.expr false e)
  | .block body p =>
    match ← g.block ⟨true, true, false⟩ body with
    | [.expr e] => changedTo e
    | body => return .block body p
  | .array items p =>
    match e.literal? with
    | some v => changedTo (.constant v p)
    | none => return .array (← g.exprs items) p
  | .map entries p =>
    match e.literal? with
    | some v => changedTo (.constant v p)
    | none => return .map (← g.entries entries) p
  | .and operands p => g.connective .and true operands p
  | .or operands p => g.connective .or false operands p
  | .path root steps p => g.path inPath root steps p
  | .call name isOperator args p => g.call name isOperator args p
  | .variable name p =>
    match ← constantValue? name with
    | some v => changedTo (.ofValue v p)
    | none => return e
  | e => return e

end Simplifier

end ScriptSandbox.Script

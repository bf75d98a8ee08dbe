import ScriptSandbox.Script.Ast
import ScriptSandbox.Text.NameSet

/-!
# What can be told before a script runs

Which expressions are literals, and of what value; which parts of a script do nothing but give a
value, so that nobody notices when they are left out; and which statements mean something else when
they are moved out of their block.
-/

namespace ScriptSandbox.Script

/-! ### Literals -/

mutual

/-- Whether an expression is a literal all through. -/
def Expr.isConstant : Expr → Bool
  | .unit _ | .bool .. | .int .. | .float .. | .char .. | .string .. | .constant .. => true
  | .array items _ => allConstant items
  | .map entries _ => allEntriesConstant entries
  | _ => false

/-- Whether all expressions are literals. -/
def allConstant : List Expr → Bool
  | [] => true
  | e :: rest => e.isConstant && allConstant rest

/-- Whether the values of all entries are literals. -/
def allEntriesConstant : List (String × Expr) → Bool
  | [] => true
  | (_, e) :: rest => e.isConstant && allEntriesConstant rest

end

mutual

/-- The value of a literal. -/
def Expr.literal? : Expr → Option Value
  | .unit _ => some .unit
  | .bool b _ => some (.bool b)
  | .int n _ => some (.int n)
  | .float f _ => some (.float f)
  | .char c _ => some (.char c)
  | .string s _ => some (.string s)
  | .constant v _ => some v
  | .array items _ => (allLiterals? items).map fun vs ↦ .array vs.toArray
  | .map entries _ => (entryLiterals? entries).map .map
  | _ => none

/-- The values of literals. -/
def allLiterals? : List Expr → Option (List Value)
  | [] => some []
  | e :: rest => do
    let v ← e.literal?
    let vs ← allLiterals? rest
    return v :: vs

/-- The entries of a map of literals, in the order of maps. -/
def entryLiterals? : List (String × Expr) → Option (List (String × Value))
  | [] => some []
  | (name, e) :: rest => do
    let v ← e.literal?
    let entries ← entryLiterals? rest
    return Text.NameMap.insertEntry name v entries

end

/-- The literal of a value. -/
def Expr.ofValue (v : Value) (p : Position) : Expr :=
  match v with
  | .unit => .unit p
  | .bool b => .bool b p
  | .int n => .int n p
  | .float f => .float f p
  | .char c => .char c p
  | .string s => .string s p
  | v => .constant v p

/-- An expression at another position. -/
def Expr.movedTo (p : Position) : Expr → Expr
  | .unit _ => .unit p
  | .bool b _ => .bool b p
  | .int n _ => .int n p
  | .float f _ => .float f p
  | .char c _ => .char c p
  | .string s _ => .string s p
  | .constant v _ => .constant v p
  | .array items _ => .array items p
  | .map entries _ => .map entries p
  | .variable name _ => .variable name p
  | .this _ => .this p
  | .call name isOperator args _ => .call name isOperator args p
  | .and operands _ => .and operands p
  | .or operands _ => .or operands p
  | .path root steps _ => .path root steps p
  | .block body _ => .block body p

/-! ### Parts without an effect -/

mutual

/-- Whether an expression has no effect. Of what is made of other expressions, only blocks may have
parts that are no literals. -/
def Expr.isPure : Expr → Bool
  | .and operands _ | .or operands _ => allConstant operands
  | .block body _ => allStmtsPure body
  | .variable .. => true
  | e => e.isConstant

/-- Whether a statement has no effect. A loop that may not end counts as having one, and so does a
declaration; a loop over a literal ends. -/
def Stmt.isPure : Stmt → Bool
  | .skip _ => true
  | .expr e => e.isPure
  | .ifElse condition yes no _ _ _ => condition.isPure && allStmtsPure yes && allStmtsPure no
  | .whileLoop (some (.bool false _)) .. => true
  | .doLoop body (.bool b _) whenTrue .. => b != whenTrue && allStmtsPure body
  | .forLoop _ _ _ items body _ _ => items.isConstant && allStmtsPure body
  | .block body _ => allStmtsPure body
  | .tryCatch body _ handler _ _ => allStmtsPure body && allStmtsPure handler
  | _ => false

/-- Whether no statement has an effect. -/
def allStmtsPure : List Stmt → Bool
  | [] => true
  | s :: rest => s.isPure && allStmtsPure rest

end

mutual

/-- Whether a statement has no effect outside its block. -/
def Stmt.isPureInside : Stmt → Bool
  | .declare _ _ value _ => value.isConstant
  | .importModule path _ => path.isPure
  | .expr (.block body _) => allPureInside body
  | s => s.isPure

/-- Whether no statement has an effect outside its block. -/
def allPureInside : List Stmt → Bool
  | [] => true
  | s :: rest => s.isPureInside && allPureInside rest

end

mutual

/-- Whether a statement means something else in another block. -/
def Stmt.isTiedToBlock : Stmt → Bool
  | .declare .. | .importModule .. => true
  | .expr (.block body _) => allTiedToBlock body
  | _ => false

/-- Whether all statements mean something else in another block. -/
def allTiedToBlock : List Stmt → Bool
  | [] => true
  | s :: rest => s.isTiedToBlock && allTiedToBlock rest

end

/-- Whether nothing after a statement of a block is reached. -/
def Stmt.leaves : Stmt → Bool
  | .return .. | .throw .. | .breakLoop .. | .continueLoop _ => true
  | _ => false

/-- Whether a statement has a value of its own. -/
def Stmt.isValued : Stmt → Bool
  | .ifElse .. | .block .. | .expr _ | .call .. => true
  | _ => false

end ScriptSandbox.Script

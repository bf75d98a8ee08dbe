import ScriptSandbox.Script.Position
import ScriptSandbox.Script.Value

/-!
# Syntax trees of scripts

Expressions and statements, each with the position that errors about it name. An access path is a
root and the steps from it: properties, indices and method calls, each after a mark, which is the
point or the bracket that it begins with.
-/

namespace ScriptSandbox.Script

/-- The operators of assignments; plain assignment has none. -/
abbrev AssignOp := Option String

mutual

/-- An expression. -/
inductive Expr where
  | unit (p : Position)
  | bool (b : Bool) (p : Position)
  | int (n : Int) (p : Position)
  | float (f : Float) (p : Position)
  | char (c : Char) (p : Position)
  | string (s : String) (p : Position)
  /-- A value that is known before the script runs. -/
  | constant (v : Value) (p : Position)
  | array (items : List Expr) (p : Position)
  | map (entries : List (String × Expr)) (p : Position)
  | variable (name : String) (p : Position)
  | this (p : Position)
  /-- A call of a function; an operator is a function too. -/
  | call (name : String) (isOperator : Bool) (args : List Expr) (p : Position)
  /-- Truth values of which all are needed. -/
  | and (operands : List Expr) (p : Position)
  /-- Truth values of which one is needed. -/
  | or (operands : List Expr) (p : Position)
  /-- An access path; the position is the mark of its first step. -/
  | path (root : Expr) (steps : List Access) (p : Position)
  /-- Statements as an expression. -/
  | block (body : List Stmt) (p : Position)

/-- A step of an access path. -/
inductive Access where
  | property (name : String) (mark p : Position)
  | index (i : Expr) (mark : Position)
  | method (name : String) (args : List Expr) (mark p : Position)

/-- A statement. -/
inductive Stmt where
  /-- Nothing. -/
  | skip (p : Position)
  | expr (e : Expr)
  /-- A call that stands as a statement. -/
  | call (name : String) (isOperator : Bool) (args : List Expr) (p : Position)
  | declare (name : String) (constant : Bool) (value : Expr) (p : Position)
  | assign (op : AssignOp) (target value : Expr) (p : Position)
  | block (body : List Stmt) (p : Position)
  | ifElse (condition : Expr) (yes no : List Stmt) (yesAt noAt p : Position)
  /-- A loop with its condition first; without one it does not end by itself. -/
  | whileLoop (condition : Option Expr) (body : List Stmt) (bodyAt p : Position)
  /-- A loop with its condition last, which goes on as long as the condition equals
  `whenTrue`. -/
  | doLoop (body : List Stmt) (condition : Expr) (whenTrue : Bool) (bodyAt p : Position)
  /-- A loop over items; `nameAt` is where its variable stands. -/
  | forLoop (name : String) (nameAt : Position) (counter : Option String) (items : Expr)
      (body : List Stmt) (bodyAt p : Position)
  | breakLoop (value : Option Expr) (p : Position)
  | continueLoop (p : Position)
  | return (value : Option Expr) (p : Position)
  | throw (value : Option Expr) (p : Position)
  /-- Statements with a handler for their errors; the name of what is caught has a position. -/
  | tryCatch (body : List Stmt) (name : Option (String × Position)) (handler : List Stmt)
      (bodyAt p : Position)
  | importModule (path : Expr) (p : Position)

end

instance : Inhabited Expr := ⟨.unit .none⟩
instance : Inhabited Stmt := ⟨.skip .none⟩

/-- The mark that an access step begins with. -/
def Access.mark : Access → Position
  | property _ mark _ | index _ mark | method _ _ mark _ => mark

/-- The position that errors about an expression name. -/
def Expr.position : Expr → Position
  | unit p | bool _ p | int _ p | float _ p | char _ p | string _ p | constant _ p | array _ p
  | map _ p | .variable _ p | this p | call _ _ _ p | and _ p | or _ p | path _ _ p
  | block _ p => p

/-- The condition that both of two conditions hold. One that is such a condition itself takes the
operands of the other. -/
def Expr.conjoin (left right : Expr) (p : Position) : Expr :=
  match left, right with
  | .and operands q, .and more _ => .and (operands ++ more) q
  | .and operands q, right => .and (operands ++ [right]) q
  | left, .and operands _ => .and (left :: operands) p
  | left, right => .and [left, right] p

/-- The condition that one of two conditions holds, made in the same way. -/
def Expr.disjoin (left right : Expr) (p : Position) : Expr :=
  match left, right with
  | .or operands q, .or more _ => .or (operands ++ more) q
  | .or operands q, right => .or (operands ++ [right]) q
  | left, .or operands _ => .or (left :: operands) p
  | left, right => .or [left, right] p

mutual

/-- Where the text of an expression begins; that of an operator is at its sign. -/
def Expr.startPosition : Expr → Position
  | .path root _ _ => root.startPosition
  | .and operands p | .or operands p => firstPosition p operands
  | e => e.position

/-- Where the first of some expressions begins. -/
def firstPosition (p : Position) : List Expr → Position
  | [] => p
  | e :: _ => e.startPosition

end

/-- The position that errors about an access step name. -/
def Access.position : Access → Position
  | property _ _ p | method _ _ _ p => p
  | index i _ => i.position

/-- The position that errors about a statement name. -/
def Stmt.position : Stmt → Position
  | expr e => e.startPosition
  | skip p | call _ _ _ p | declare _ _ _ p | assign _ _ _ p | block _ p | ifElse _ _ _ _ _ p
  | whileLoop _ _ _ p | doLoop _ _ _ _ p | forLoop _ _ _ _ _ _ p | breakLoop _ p
  | continueLoop p | .return _ p | throw _ p | tryCatch _ _ _ _ p | importModule _ p => p

/-- Whether a statement is nothing. -/
def Stmt.isSkip : Stmt → Bool
  | skip _ => true
  | _ => false

/-- Whether a statement needs no semicolon after it. -/
def Stmt.selfTerminated : Stmt → Bool
  | ifElse .. | whileLoop .. | forLoop .. | block .. | tryCatch .. => true
  | _ => false

/-- A function of a script. -/
structure Function where
  /-- The name of the type that it is a method of, if it is one for values of one type only. -/
  receiver : Option String
  /-- Its name. -/
  name : String
  /-- The names of its parameters. -/
  params : List String
  /-- Its statements. -/
  body : List Stmt

/-- A compiled script. -/
structure Program where
  /-- The functions. -/
  functions : List Function
  /-- The statements outside functions. -/
  body : List Stmt

end ScriptSandbox.Script

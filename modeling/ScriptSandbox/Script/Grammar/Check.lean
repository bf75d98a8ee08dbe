import ScriptSandbox.Script.Grammar.Reading
import ScriptSandbox.Script.Purity

/-!
# Checks on expressions

What a script is refused for although its grammar is right: a literal where its type never fits, an
assignment to what cannot be assigned to.
-/

namespace ScriptSandbox.Script

/-- The words for a literal that is not of a needed type. -/
def Expr.literalPhrase? : Expr → Option String
  | unit _ => some "()"
  | int .. => some "a number"
  | float .. => some "a floating-point number"
  | char .. => some "a character"
  | string .. => some "a string"
  | array .. => some "an array"
  | map .. => some "an object map"
  | _ => none

/-- Refuses a literal that is never a truth value. -/
def ensureBool (e : Expr) : Parse Expr :=
  match e.literalPhrase? with
  | some phrase => refuse (.mismatch "a boolean expression" phrase) e.startPosition
  | none => return e

/-- Refuses a literal that has no items. -/
def ensureIterable (e : Expr) : Parse Expr :=
  let phrase := match e with
    | .bool .. => some "a boolean"
    | .array .. | .string .. => none
    | e => e.literalPhrase?
  match phrase with
  | some phrase => refuse (.mismatch "an iterable value" phrase) e.startPosition
  | none => return e

/-- Where a path leads to something that cannot be assigned to; every step but a method call can. -/
def wrongTarget? : List Access → Option Position
  | [] => none
  | .method _ _ _ p :: _ => some p
  | _ :: rest => wrongTarget? rest

/-- Makes an assignment, or refuses its target. -/
def makeAssignment (op : AssignOp) (target value : Expr) (p : Position) : Parse Stmt := do
  match target with
  | .this _ => return .assign op target value p
  | .variable name place =>
    match (← get).known.find? (·.name = name) with
    | some known => if known.constant then refuse (.constantAssigned name) place
    | none => pure ()
    return .assign op target value p
  | .path root steps _ =>
    match wrongTarget? steps with
    | some place => refuse .notAssignable place
    | none =>
      match root with
      | .variable .. | .this _ => return .assign op target value p
      | e => refuse .notAssignable e.position
  | .and .. | .or .. =>
    if op.isNone then refuse (.missingSymbol "Possibly a typo of '=='?") p
    else refuse .notAssignable target.position
  | e =>
    if e.isConstant then refuse (.constantAssigned "") e.startPosition
    else refuse .notAssignable e.position

/-- Refuses an assignment where a condition ends. -/
def refuseAssignment : Parse Unit := do
  let (t, p) ← peek
  if t.isSymbol "=" then refuse (.missingSymbol "Possibly a typo of '=='?") p

/-- Refuses a block where a condition is to begin. -/
def refuseBlock (what : String) : Parse Unit := do
  let (t, p) ← peek
  if t.isSymbol "\x7b" then refuse (.expressionExpected what) p

/-- What a literal that is no whole number and no text is called as an index. -/
def Expr.indexKind? : Expr → Option String
  | float .. => some "a float"
  | char .. => some "a character"
  | unit _ => some "()"
  | and .. | or .. | bool .. => some "a boolean"
  | _ => none

/-- What is wrong with indexing one literal by another. -/
def indexFault? (target index : Expr) : Option FaultKind :=
  let kind? := match target, index with
    | .map .., .int .. => some "a number"
    | .array .., .string .. | .string .., .string .. | .int .., .string .. => some "a string"
    | .map .., i | .array .., i | .string .., i | .int .., i => i.indexKind?
    | _, _ => none
  kind?.map fun kind ↦
    let expected := match target with
      | .map .. => "Object map expects string index"
      | _ =>
        "Array, string or bit-field expects "
          ++ (if kind = "a string" then "numeric" else "integer") ++ " index"
    .malformedIndex (expected ++ ", not " ++ kind)

end ScriptSandbox.Script

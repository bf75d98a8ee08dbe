import ScriptSandbox.Script.Grammar.Check

/-!
# The grammar of expressions

Operators bind by precedence. An operand is a literal, a variable, a call or a part in brackets,
with the access steps that follow it. The readers of the parts that contain one another are given
by a grammar, each level of which reads one level deeper.
-/

namespace ScriptSandbox.Script

/-! ### Operators -/

/-- How tightly a binary operator binds; zero if a token is none. -/
def precedence : String → Nat
  | "||" | "|" | "^" => 30
  | "&&" | "&" => 60
  | "==" | "!=" => 90
  | "in" | "!in" => 110
  | "<" | "<=" | ">" | ">=" => 130
  | "??" => 135
  | ".." | "..=" => 140
  | "+" | "-" => 150
  | "*" | "/" | "%" => 180
  | "**" => 190
  | "<<" | ">>" => 210
  | _ => 0

/-- Whether an operator groups to the right. -/
def bindsRight (s : String) : Bool := s = "**"

/-- The precedence of a token. -/
def Token.precedence (t : Token) (p : Position) : Parse Nat :=
  match t with
  | .symbol s => return Script.precedence s
  | .reserved s => if isName s then return 0 else refuse (.unknownOperator s) p
  | _ => return 0

/-- The text of a token that is a symbol. -/
def Token.symbolText : Token → String
  | symbol s => s
  | _ => ""

/-- The assignments with an operator. -/
def assignOps : List String :=
  ["+=", "-=", "*=", "/=", "%=", "**=", "<<=", ">>=", "&=", "|=", "^="]

/-- An operator applied to two expressions. -/
def binary (op : String) (left right : Expr) (p : Position) : Parse Expr := do
  let contains : Expr := .call "contains" false [right, left] p
  match op with
  | "&&" =>
    let left ← ensureBool left
    let right ← ensureBool right
    return left.conjoin right p
  | "||" =>
    let left ← ensureBool left
    let right ← ensureBool right
    return left.disjoin right p
  | "in" => return contains
  | "!in" => return .call "!" true [contains] p
  | op => return .call op true [left, right] p

/-! ### Operands -/

/-- The readers of the parts of a script that contain one another. -/
structure Grammar where
  /-- Reads an expression. -/
  expr : Setting → Parse Expr
  /-- Reads an expression of one operand. -/
  operand : Setting → Parse Expr
  /-- Reads what binds tighter than a precedence, after a left operand. -/
  operators : Setting → Nat → Expr → Parse Expr
  /-- Reads a statement. -/
  stmt : Setting → Parse Stmt
  /-- Reads a block. -/
  block : Setting → Parse (List Stmt × Position)

/-- Reads the arguments of a call up to the closing parenthesis. -/
def Grammar.args (g : Grammar) (st : Setting) (name : String) : Parse (List Expr) := do
  let closing := "to close the arguments list of this function call '" ++ name ++ "'"
  let (t, p) ← peek
  match t with
  | .eof => refuse (.missing ")" closing) p
  | .bad kind => refuse kind p
  | _ => pure ()
  if ← accept ")" then return []
  let st ← st.deeper
  let step (acc : List Expr) : Parse (List Expr ⊕ List Expr) := do
    let (t, _) ← peek
    let acc ← if t.isSymbol ")" then pure acc else do pure (acc ++ [← g.expr st])
    let (t, p) ← peek
    if t.isSymbol ")" then
      discard advance
      return .inr acc
    else if t.isSymbol "," then
      discard advance
      return .inl acc
    else
      match t with
      | .eof => refuse (.missing ")" closing) p
      | t =>
        refuseAt t p
          (.missing "," ("to separate the arguments to function call '" ++ name ++ "'"))
  iterate step (← tokensLeft) []

/-- Reads an array literal. -/
def Grammar.arrayLiteral (g : Grammar) (st : Setting) : Parse Expr := do
  let (_, start) ← advance
  let st := st.movedTo start
  let limit := st.engine.limits.arraySize
  let closing := "to end this array literal"
  let step (acc : Array Expr) : Parse (Array Expr ⊕ Array Expr) := do
    let (t, p) ← peek
    if limit ≠ 0 ∧ limit ≤ acc.size then
      refuse (.literalTooLarge "Size of array literal" limit) p
    if t.isSymbol "]" then
      discard advance
      return .inr acc
    match t with
    | .eof => refuse (.missing "]" closing) p
    | _ => pure ()
    let item ← g.expr (← st.deeper)
    let acc := acc.push item
    let (t, p) ← peek
    if t.isSymbol "," then
      discard advance
      return .inl acc
    else if t.isSymbol "]" then return .inl acc
    else
      match t with
      | .eof => refuse (.missing "]" closing) p
      | t => refuseAt t p (.missing "," "to separate the items of this array literal")
  let items ← iterate step (← tokensLeft) #[]
  return .array items.toList start

/-- Reads a map literal. -/
def Grammar.mapLiteral (g : Grammar) (st : Setting) : Parse Expr := do
  let (_, start) ← advance
  let st := st.movedTo start
  let limit := st.engine.limits.mapSize
  let closing : FaultKind := .missing "\x7d" "to end this object map literal"
  let step (acc : List (String × Expr)) :
      Parse (List (String × Expr) ⊕ List (String × Expr)) := do
    if ← accept "\x7d" then return .inr acc
    let (t, p) ← advance
    let misplaced := if acc.isEmpty then closing else .propertyExpected
    let name ← match t with
      | .name s | .string s =>
        if acc.any (·.1 = s) then refuse (.duplicateProperty s) p else pure s
      | .eof => refuse closing p
      | .reserved s => refuse (if isName s then .reserved s else misplaced) p
      | t => refuseAt t p misplaced
    let (t, p) ← advance
    if !t.isSymbol ":" then
      refuseAt t p
        (.missing ":" ("to follow the property '" ++ name ++ "' in this object map literal"))
    if limit ≠ 0 ∧ limit ≤ acc.length then
      let (_, p) ← peek
      refuse (.literalTooLarge "Number of properties in object map literal" limit) p
    let value ← g.expr (← st.deeper)
    let acc := acc ++ [(name, value)]
    let (t, p) ← peek
    if t.isSymbol "," then
      discard advance
      return .inl acc
    else if t.isSymbol "\x7d" then return .inl acc
    else
      match t with
      | .name _ =>
        refuse (.missing "," "to separate the items of this object map literal") p
      | t => refuseAt t p closing
  let entries ← iterate step (← tokensLeft) []
  return .map entries start

/-- An expression with one more access step. -/
def Expr.step (e : Expr) (a : Access) : Expr :=
  match e with
  | path root steps p => path root (steps ++ [a]) p
  | e => path e [a] a.mark

/-- Where the access steps after an expression are read. -/
structure Trail where
  /-- Where the next step is read. -/
  st : Setting
  /-- Where an index right after another one is read. -/
  index : Option Setting

/-- Reads a call by the name that was just read, if there is one; `bang` says that a mark before the
arguments is allowed. -/
def Grammar.call? (g : Grammar) (st : Setting) (bang : Bool) (name : String) :
    Parse (Option (List Expr)) := do
  let marked ← if bang then accept "!" else pure false
  let (t, p) ← peek
  if t.isSymbol "()" then
    discard advance
    return some []
  else if t.isSymbol "(" then
    discard advance
    return some (← g.args st name)
  else if marked then
    refuseAt t p (.missing "(" "to start arguments list of function call")
  else return none

/-- Reads an index after its opening bracket, one level deeper than the bracket. -/
def Grammar.index (g : Grammar) (st : Setting) (e : Expr) (mark : Position) : Parse Expr := do
  let index ← g.expr st
  match indexFault? e index with
  | some fault => refuse fault index.startPosition
  | none => pure ()
  let (t, p) ← peek
  if t.isSymbol "]" then
    discard advance
    return e.step (.index index mark)
  else refuseAt t p (.missing "]" "for a matching [ in this index expression")

/-- Reads the name of a property or a method after a point. -/
def memberName : Parse (String × Position) := do
  let (t, p) ← advance
  match t with
  | .name s => return (s, p)
  | .reserved s =>
    let (following, _) ← peek
    if Token.methodWords.contains s && (following.isSymbol "(" || following.isSymbol "()") then
      return (s, p)
    else refuse (.reserved s) p
  | _ => refuse .propertyExpected p

/-- Reads the access steps after an expression. What follows a point is one level deeper than what
stands before it. The first of several indices is two levels deeper than what it is an index of,
and each other one is one level deeper than the index before it. -/
def Grammar.accessSteps (g : Grammar) (st : Setting) (e : Expr) : Parse Expr := do
  let step (state : Trail × Expr) : Parse ((Trail × Expr) ⊕ Expr) := do
    let (trail, e) := state
    let (t, mark) ← peek
    if t.isSymbol "[" then
      discard advance
      let outer ← match trail.index with
        | some st => st.deeperAt mark
        | none => (trail.st.movedTo mark).deeper
      return .inl (⟨trail.st, some outer⟩, ← g.index (← outer.deeper) e mark)
    else if t.isSymbol "." then
      discard advance
      let (name, p) ← memberName
      let inner ← (trail.st.movedTo mark).deeper
      let trail : Trail := ⟨inner.movedTo p, none⟩
      match ← g.call? trail.st false name with
      | some args => return .inl (trail, e.step (.method name args mark p))
      | none => return .inl (trail, e.step (.property name mark p))
    else return .inr e
  iterate step (← tokensLeft) (⟨st, none⟩, e)

/-- Reads a call or a variable after a name. -/
def Grammar.named (g : Grammar) (st : Setting) (name : String) (p : Position) : Parse Expr := do
  match ← g.call? st true name with
  | some args => return .call name false args p
  | none =>
    let r ← get
    let known := r.known.any (·.name = name) || st.bound.contains name
      || r.functions.any (·.name = name)
    if st.engine.strictVariables && !known then refuse (.undefinedVariable name) p
    return .variable name p

/-- Reads the arguments after a variable in parentheses, which makes it a call. -/
def Grammar.calledInside (g : Grammar) (st : Setting) (e : Expr) : Parse Expr := do
  match e with
  | .variable name p =>
    match ← g.call? (st.movedTo p) true name with
    | some args => return .call name false args p
    | none => return e
  | e => return e

/-- Reads an operand without a sign, up to its access steps. -/
def Grammar.primary (g : Grammar) (st : Setting) : Parse Expr := do
  let (t, p) ← peek
  let st := st.movedTo p
  let literal (e : Expr) : Parse Expr := do
    discard advance
    return e
  let root ← match t with
    | .eof => refuse .incomplete p
    | .bad kind => refuse kind p
    | .int n => literal (.int n p)
    | .float f => literal (.float f p)
    | .char c => literal (.char c p)
    | .string s => literal (.string s p)
    | .symbol "true" => literal (.bool true p)
    | .symbol "false" => literal (.bool false p)
    | .symbol "()" => literal (.unit p)
    | .symbol "\x7b" => do
      let (body, start) ← g.block (← st.deeper)
      pure (.block body start)
    | .symbol "if" | .symbol "while" | .symbol "loop" | .symbol "do" | .symbol "for" => do
      let s ← g.stmt { st with atTop := false }
      pure (.block [s] p)
    | .symbol "(" => do
      discard advance
      let e ← g.expr (← st.deeper)
      let (t, q) ← peek
      if t.isSymbol ")" then
        discard advance
        g.calledInside st e
      else refuseAt t q (.missing ")" "for a matching ( in this expression")
    | .symbol "[" => do g.arrayLiteral (← st.deeper)
    | .symbol "#\x7b" => do g.mapLiteral (← st.deeper)
    | .name s => do
      discard advance
      g.named st s p
    | .reserved s => do
      discard advance
      let (t, _) ← peek
      let called := t.isSymbol "(" || t.isSymbol "()" || t.isSymbol "!"
      if called && Token.callableWords.contains s then
        g.named st s p
      else if s = "this" then
        if st.inFunction then pure (.this p)
        else refuse (.improper "'this' can only be used in functions") p
      else refuse (.reserved s) p
    | t => refuse (.unexpected t.text) p
  g.accessSteps st root

/-- Reads an operand. -/
def Grammar.readOperand (g : Grammar) (st : Setting) : Parse Expr := do
  let (t, p) ← peek
  let st := st.movedTo p
  match t with
  | .symbol "-" =>
    discard advance
    match ← g.operand (← st.deeper) with
    | .int n _ =>
      match checkedInt (-n) with
      | some n => return .int n p
      | none => return .float (Float.ofInt (-n)) p
    | .float f _ => return .float (-f) p
    | e => return .call "-" true [e] p
  | .symbol "+" =>
    discard advance
    match ← g.operand (← st.deeper) with
    | .int n q => return .int n q
    | .float f q => return .float f q
    | e => return .call "+" true [e] p
  | .symbol "!" =>
    discard advance
    return .call "!" true [← g.operand (← st.deeper)] p
  | .eof => refuse .incomplete p
  | _ => g.primary st

/-- Reads operators and their right operands after a left operand. -/
def Grammar.readOperators (g : Grammar) (st : Setting) (parent : Nat) (left : Expr) :
    Parse Expr := do
  let step (state : Setting × Expr) : Parse ((Setting × Expr) ⊕ Expr) := do
    let (st, left) := state
    let (t, p) ← peek
    let own ← t.precedence p
    let op := t.symbolText
    if own = 0 || own < parent || (own = parent && !bindsRight op) then return .inr left
    discard advance
    let right ← g.operand st
    let (t, q) ← peek
    let following ← t.precedence q
    let right ←
      if (own = following && bindsRight op) || own < following then
        g.operators (← st.deeper) own right
      else pure right
    let st ← st.deeper
    let st := st.movedTo p
    return .inl (st, ← binary op left right p)
  iterate step (← tokensLeft) (st.movedTo left.position, left)

/-- Reads an expression. -/
def Grammar.readExpr (g : Grammar) (st : Setting) : Parse Expr := do
  let (_, p) ← peek
  let st ← (st.movedTo p).deeper
  let left ← g.operand st
  g.operators st 1 left

end ScriptSandbox.Script

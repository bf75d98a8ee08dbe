import ScriptSandbox.Script.Grammar.Expression

/-!
# The grammar of statements

Blocks, declarations, loops, functions and handlers. A statement that ends in a block needs no
semicolon after it; functions stand at the top of a script alone.
-/

namespace ScriptSandbox.Script

/-- Reads statements up to the end of what holds them. `atEnd` says whether it is there, and
refuses what cannot follow. -/
def Grammar.statements (g : Grammar) (st : Setting) (atEnd : Parse Bool) : Parse (List Stmt) := do
  let step (acc : Array Stmt) : Parse (Array Stmt ⊕ Array Stmt) := do
    if ← atEnd then return .inr acc
    let s ← g.stmt st
    if s.isSkip then return .inl acc
    let acc := acc.push s
    let (t, p) ← peek
    if t.isSymbol ";" then
      if !st.atTop || !s.selfTerminated then discard advance
      return .inl acc
    else if s.selfTerminated || t.isSymbol "\x7d" && !st.atTop then return .inl acc
    else if t.isEnd && st.atTop then return .inl acc
    else refuseAt t p (.missing ";" "to terminate this statement")
  return (← iterate step (← tokensLeft) #[]).toList

/-- Reads a block in a scope of its own, one level deeper. -/
def Grammar.readBlock (g : Grammar) (st : Setting) : Parse (List Stmt × Position) := do
  let start ← expect "\x7b" "to start a statement block"
  let st := { (← st.deeperAt start) with atTop := false }
  let atEnd : Parse Bool := do
    let (t, p) ← peek
    match t with
    | .eof => refuse (.missing "\x7d" "to terminate this block") p
    | t => return t.isSymbol "\x7d"
  let body ← inScope (g.statements st atEnd)
  discard advance
  return (body, start)

/-- Reads a condition. -/
def Grammar.condition (g : Grammar) (st : Setting) : Parse Expr := do
  refuseBlock "a boolean"
  let e ← ensureBool (← g.expr st)
  refuseAssignment
  return e

/-- Reads the parameters of a function up to the closing parenthesis. -/
def params (function : String) : Parse (List String) := do
  let step (acc : List String) : Parse (List String ⊕ List String) := do
    let (t, p) ← advance
    let acc ← match t with
      | .symbol ")" => return .inr acc
      | .name s =>
        if acc.contains s then refuse (.duplicateParam function s) p else pure (acc ++ [s])
      | .reserved s => refuse (.reserved s) p
      | t =>
        if t.isWord then refuse .variableExpected p
        else
          refuseAt t p
            (.missing ")" ("to close the parameters list of function '" ++ function ++ "'"))
    let (t, p) ← advance
    match t with
    | .symbol ")" => return .inr acc
    | .symbol "," => return .inl acc
    | t =>
      refuseAt t p (.missing "," ("to separate the parameters of function '" ++ function ++ "'"))
  iterate step (← tokensLeft) []

/-- The type that a name in a script stands for. -/
def typeOfName : String → String
  | "int" => "i64"
  | "float" => "f64"
  | name => name

/-- Reads the type before the name of a method for values of one type, if there is one. -/
def receiverType : Parse (Option String) := do
  let r ← get
  let following := (r.tokens.getD (r.next + 1) (.eof, .none)).1
  let (t, _) ← peek
  match t, following.isSymbol "." with
  | .name s, true | .string s, true =>
    discard advance
    discard advance
    return some (typeOfName s)
  | .string _, false =>
    discard advance
    let (_, p) ← peek
    refuse (.missing "." "after the type name for 'this'") p
  | _, _ => return none

/-- Reads a function. -/
def Grammar.function (g : Grammar) (st : Setting) : Parse Stmt := do
  let (_, start) ← advance
  if st.engine.limits.functions ≤ (← get).functions.length then refuse .tooManyFunctions start
  let st : Setting :=
    { st with
      level := 0, maxLevel := st.engine.limits.functionExprDepth, pos := start
      inFunction := true, inLoop := false, atTop := false }
  let st ← st.deeper
  let receiver ← receiverType
  let (t, p) ← advance
  let name ← match t with
    | .name s => pure s
    | .reserved s => refuse (.reserved s) p
    | _ => refuse .functionNameMissing p
  let (t, p) ← peek
  let params ←
    if t.isSymbol "()" then do
      discard advance
      pure []
    else if t.isSymbol "(" then do
      discard advance
      params name
    else refuse (.functionParamsMissing name) p
  let (t, p) ← peek
  if !t.isSymbol "\x7b" then refuse (.functionBodyMissing name) p
  let outer := (← get).known
  modify fun r ↦ { r with known := params.reverse.map fun n ↦ ⟨n, false⟩ }
  let (body, _) ← g.block st
  modify fun r ↦ { r with known := outer }
  let known := (← get).functions.any fun f ↦
    f.receiver = receiver && f.name = name && f.params.length = params.length
  if known then refuse (.duplicateFunction name params.length) start
  modify fun r ↦ { r with functions := ⟨receiver, name, params, body⟩ :: r.functions }
  return .skip start

/-- Reads a conditional; the reader stands at its keyword. -/
def Grammar.conditional (g : Grammar) : Nat → Setting → Parse Stmt
  | 0, st => refuse .incomplete st.pos
  | fuel + 1, st => do
    let (_, p) ← advance
    let st ← st.deeperAt p
    let condition ← g.condition st
    let (yes, yesAt) ← g.block st
    if ← accept "else" then
      let (t, q) ← peek
      if t.isSymbol "if" then
        let other ← g.conditional fuel st
        return .ifElse condition yes [other] yesAt q p
      else
        let (no, noAt) ← g.block st
        return .ifElse condition yes no yesAt noAt p
    else return .ifElse condition yes [] yesAt .none p

/-- Reads a loop over items; the reader stands at its keyword. -/
def Grammar.forLoop (g : Grammar) (st : Setting) : Parse Stmt := do
  let (_, p) ← advance
  let st ← st.deeperAt p
  let (name, nameAt, counter) ←
    if ← accept "(" then do
      let (name, nameAt) ← variableName
      let (t, q) ← advance
      if !t.isSymbol "," then refuse (.missing "," "after the iteration variable name") q
      let (counter, place) ← variableName
      if counter = name then refuse (.duplicateVariable counter) place
      let (t, q) ← advance
      if !t.isSymbol ")" then refuse (.missing ")" "to close the iteration variable") q
      pure (name, nameAt, some counter)
    else do
      let (name, nameAt) ← variableName
      pure (name, nameAt, none)
  let (t, q) ← advance
  if !t.isSymbol "in" then refuseAt t q (.missing "in" "after the iteration variable")
  refuseBlock "a boolean"
  let items ← ensureIterable (← g.expr st)
  inScope do
    match counter with
    | some counter => declareVariable counter false
    | none => pure ()
    declareVariable name false
    let (body, start) ← g.block { st with inLoop := true }
    return .forLoop name nameAt counter items body start p

/-- Whether an expression can begin with a token. -/
def Token.beginsExpr : Token → Bool
  | .symbol s =>
    ["true", "false", "if", "while", "loop", "do", "for", "switch", "(", "()", "[", "\x7b", "#\x7b",
      "+", "-", "!", "|", "||"].contains s
  | .eof => false
  | _ => true

/-- How many levels an expression that begins with a token opens before the token is read. -/
def Token.levels : Token → Nat
  | .symbol "while" | .symbol "loop" => 3
  | .symbol "if" | .symbol "do" | .symbol "for" | .symbol "[" | .symbol "\x7b"
  | .symbol "#\x7b" => 2
  | _ => 1

/-- Reads the value that ends a loop or a function early, if there is one. None is read where its
first token would nest too deep. -/
def Grammar.optionalValue (g : Grammar) (st : Setting) : Parse (Option Expr) := do
  let (t, _) ← peek
  if t.beginsExpr && st.hasRoom t.levels then return some (← g.expr st) else return none

/-- Reads a statement that begins with an expression. -/
def Grammar.expressionStmt (g : Grammar) (st : Setting) : Parse Stmt := do
  let e ← g.expr st
  let (t, p) ← peek
  let op := t.symbolText
  if op = "=" || assignOps.contains op then
    discard advance
    let value ← g.expr (st.movedTo p)
    makeAssignment (if op = "=" then none else some (op.dropEnd 1).toString) e value p
  else return .expr e

/-- Reads the name under which a handler knows what it catches, if there is one. -/
def catchName : Parse (Option (String × Position)) := do
  if ← accept "(" then
    let name ← variableName
    let (t, q) ← peek
    if !t.isSymbol ")" then refuse (.missing ")" "to enclose the catch variable") q
    discard advance
    return some name
  else return none

/-- Reads a statement with a handler for its errors; the reader stands at its keyword. -/
def Grammar.tryCatch (g : Grammar) (st : Setting) : Parse Stmt := do
  let (_, p) ← advance
  let st ← st.deeperAt p
  let (body, bodyAt) ← g.block st
  let (t, q) ← peek
  if !t.isSymbol "catch" then refuse (.missing "catch" "for the 'try' statement") q
  discard advance
  let name ← catchName
  inScope do
    match name with
    | some (name, _) => declareVariable name false
    | none => pure ()
    let (handler, _) ← g.block st
    return .tryCatch body name handler bodyAt p

/-- Reads a loop with its condition last; the reader stands at its keyword. -/
def Grammar.doLoop (g : Grammar) (st : Setting) : Parse Stmt := do
  let (_, p) ← advance
  let st ← st.deeperAt p
  let (body, start) ← g.block { st with inLoop := true }
  let (t, q) ← advance
  let whenTrue ← match t with
    | .symbol "while" => pure true
    | .symbol "until" => pure false
    | _ => refuse (.missing "while" "for the do statement") q
  let condition ← g.condition st
  return .doLoop body condition whenTrue start p

/-- Reads a statement, one level deeper unless it is a single word. The parts of one that has
several are a level deeper still. -/
def Grammar.readStmt (g : Grammar) (st : Setting) : Parse Stmt := do
  let (t, p) ← peek
  let st := st.movedTo p
  match t with
  | .eof => return .skip p
  | .symbol "fn" => if st.atTop then g.function st else refuse .functionMisplaced p
  | .symbol "private" =>
    discard advance
    let (t, q) ← peek
    if !t.isSymbol "fn" then refuse (.missing "fn" "following 'private'") q
    if st.atTop then g.function st else refuse .functionMisplaced p
  | .symbol ";" =>
    discard advance
    return .skip p
  | .symbol "continue" =>
    if !st.inLoop then refuse .strayBreak p
    discard advance
    return .continueLoop p
  | t =>
    let st ← st.deeper
    match t with
    | .symbol "\x7b" =>
      let (body, start) ← g.block st
      return .block body start
    | .symbol "if" => g.conditional (← tokensLeft) st
    | .symbol "while" =>
      let st ← st.deeper
      discard advance
      let condition ← g.condition st
      let (body, start) ← g.block { st with inLoop := true }
      return .whileLoop (some condition) body start p
    | .symbol "loop" =>
      let st ← st.deeper
      discard advance
      let (body, start) ← g.block { st with inLoop := true }
      return .whileLoop none body start p
    | .symbol "do" => g.doLoop st
    | .symbol "for" => g.forLoop st
    | .symbol "break" =>
      if !st.inLoop then refuse .strayBreak p
      discard advance
      return .breakLoop (← g.optionalValue st) p
    | .symbol "return" =>
      discard advance
      return .return (← g.optionalValue st) p
    | .symbol "throw" =>
      discard advance
      return .throw (← g.optionalValue st) p
    | .symbol "try" => g.tryCatch st
    | .symbol "let" | .symbol "const" =>
      discard advance
      let constant := t.isSymbol "const"
      let (name, _) ← variableName
      let value ← if ← accept "=" then g.expr (← st.deeper) else pure (Expr.unit .none)
      declareVariable name constant
      return .declare name constant value p
    | .symbol "import" =>
      discard advance
      let path ← g.expr (← st.deeper)
      if ← accept "as" then discard variableName
      return .importModule path p
    | _ => g.expressionStmt st

end ScriptSandbox.Script

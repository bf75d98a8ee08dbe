import ScriptSandbox.Script.Ast
import ScriptSandbox.Script.Engine
import ScriptSandbox.Script.Lexer

/-!
# Reading tokens

A reader takes tokens one after another or stops with the first fault. The variables in scope are
known while reading, so an unknown one is refused before anything runs; how deep a part nests is
counted on the way down.
-/

namespace ScriptSandbox.Script

/-- A variable that is known while reading. -/
structure KnownVariable where
  /-- Its name. -/
  name : String
  /-- Whether it cannot be assigned to. -/
  constant : Bool

/-- The state of reading. -/
structure Reading where
  /-- The tokens; the last one ends the script. -/
  tokens : Array (Token × Position)
  /-- How many tokens have been read. -/
  next : Nat
  /-- The variables in scope, the latest first. -/
  known : List KnownVariable
  /-- The functions read so far, the latest first. -/
  functions : List Function

/-- A step of reading: it takes tokens or finds a fault. -/
abbrev Parse := StateT Reading (Except ParseError)

/-- What holds where a part of a script is read. -/
structure Setting where
  /-- The engine the script is for. -/
  engine : Engine
  /-- The names of the variables bound from outside. -/
  bound : List String
  /-- How deep the part nests. -/
  level : Nat
  /-- How deep it may nest; zero means no bound. -/
  maxLevel : Nat
  /-- The position to which a fault of nesting points. -/
  pos : Position
  /-- Whether the part is outside functions and blocks. -/
  atTop : Bool
  /-- Whether it is in a loop. -/
  inLoop : Bool
  /-- Whether it is in a function. -/
  inFunction : Bool

/-- Reading stops with a fault. -/
def refuse {α : Type} (kind : FaultKind) (position : Position) : Parse α :=
  throw ⟨kind, position⟩

/-- The next token and its position, which stay unread. -/
def peek : Parse (Token × Position) := do
  let r ← get
  return r.tokens.getD r.next (r.tokens.back?.getD (.eof, .none))

/-- Reads the next token; the end of the script stays. -/
def advance : Parse (Token × Position) := do
  let t ← peek
  modify fun r ↦ if r.next + 1 < r.tokens.size then { r with next := r.next + 1 } else r
  return t

/-- Reads the next token if it is the given symbol. -/
def accept (s : String) : Parse Bool := do
  let (t, _) ← peek
  if t.isSymbol s then
    discard advance
    return true
  else return false

/-- The fault of something missing where a token stands; what cannot be read is the fault itself. -/
def refuseAt {α : Type} (t : Token) (p : Position) (kind : FaultKind) : Parse α :=
  match t with
  | .bad wrong => refuse wrong p
  | _ => refuse kind p

/-- Reads the given symbol, or refuses what stands there. -/
def expect (s purpose : String) : Parse Position := do
  let (t, p) ← peek
  if t.isSymbol s then
    discard advance
    return p
  else refuseAt t p (.missing s purpose)

/-- The setting one level deeper, unless that is too deep. -/
def Setting.deeper? (st : Setting) : Option Setting :=
  if st.maxLevel ≠ 0 ∧ st.maxLevel ≤ st.level then none else some { st with level := st.level + 1 }

/-- The setting one level deeper. -/
def Setting.deeper (st : Setting) : Parse Setting :=
  match st.deeper? with
  | some st => return st
  | none => refuse .tooDeep st.pos

/-- Whether a number of levels can be opened. -/
def Setting.hasRoom (st : Setting) (levels : Nat) : Bool :=
  st.maxLevel = 0 || st.level + levels ≤ st.maxLevel

/-- The setting at another position. -/
def Setting.movedTo (st : Setting) (p : Position) : Setting := { st with pos := p }

/-- The setting one level deeper at another position; that it is too deep shows where it was. -/
def Setting.deeperAt (st : Setting) (p : Position) : Parse Setting := do
  return (← st.deeper).movedTo p

/-- Repeats a step until it gives a result; `fuel` bounds the repetitions. -/
def iterate {α β : Type} (step : α → Parse (α ⊕ β)) : Nat → α → Parse β
  | 0, _ => do
    let (_, p) ← peek
    refuse .incomplete p
  | fuel + 1, a => do
    match ← step a with
    | .inl a => iterate step fuel a
    | .inr b => return b

/-- A number above the tokens left. -/
def tokensLeft : Parse Nat := do
  let r ← get
  return r.tokens.size - r.next + 2

/-- Refuses a token where the name of a variable is needed. -/
def refuseAsVariable {α : Type} (t : Token) (p : Position) : Parse α :=
  match t with
  | .reserved s => if isName s then refuse (.reserved s) p else refuse .variableExpected p
  | t => refuseAt t p .variableExpected

/-- Reads the name of a variable. -/
def variableName : Parse (String × Position) := do
  let (t, p) ← advance
  match t with
  | .name s => return (s, p)
  | t => refuseAsVariable t p

/-- Puts a variable into scope. -/
def declareVariable (name : String) (constant : Bool) : Parse Unit :=
  modify fun r ↦ { r with known := ⟨name, constant⟩ :: r.known }

/-- Reads in a scope of its own. -/
def inScope {α : Type} (body : Parse α) : Parse α := do
  let before := (← get).known
  let a ← body
  modify fun r ↦ { r with known := before }
  return a

end ScriptSandbox.Script

import ScriptSandbox.Pattern.Fault
import ScriptSandbox.Text.Blank

/-!
# Reading a pattern character by character

The state of a reader of patterns and its elementary moves. Where blanks are ignored, so are
comments that run from a `#` to the end of the line.
-/

namespace ScriptSandbox.Pattern

/-- Where a reader stands. -/
structure Reader where
  /-- The pattern. -/
  chars : Array Char
  /-- The number of characters read. -/
  pos : Nat
  /-- Whether blanks and comments are skipped. -/
  ignoreBlank : Bool
  /-- The names of groups met so far. -/
  names : List (String × Stretch)

/-- A step of reading: it moves the reader or finds a fault. -/
abbrev Parse := StateT Reader (Except Fault)

/-- Reading stops with a fault. -/
def refuse {α : Type} (kind : FaultKind) (stretch : Stretch) : Parse α := throw ⟨kind, stretch⟩

/-- The next character. -/
def current? : Parse (Option Char) := do
  let r ← get
  return r.chars[r.pos]?

/-- Whether everything has been read. -/
def atEnd : Parse Bool := do
  let r ← get
  return r.chars.size ≤ r.pos

/-- The place of the reader. -/
def position : Parse Nat := do return (← get).pos

/-- The empty stretch at the reader's place. -/
def here : Parse Stretch := do
  let p ← position
  return ⟨p, p⟩

/-- The stretch of the next character. -/
def nextStretch : Parse Stretch := do
  let p ← position
  return ⟨p, p + 1⟩

/-- The stretch from a place to the reader's. -/
def since (start : Nat) : Parse Stretch := do
  return ⟨start, ← position⟩

/-- Moves to a place. -/
def moveTo (pos : Nat) : Parse Unit := modify fun r ↦ { r with pos := pos }

/-- Reads one character; says whether there is another. -/
def bump : Parse Bool := do
  let r ← get
  if r.pos < r.chars.size then
    set { r with pos := r.pos + 1 }
    return r.pos + 1 < r.chars.size
  else return false

/-- The place after blanks and comments from `pos` on; `inComment` says that a comment is open and
`fuel` bounds the characters left. -/
def skipBlanks (chars : Array Char) : Nat → Bool → Nat → Nat
  | 0, _, pos => pos
  | fuel + 1, inComment, pos =>
    match chars[pos]? with
    | none => pos
    | some c =>
      if inComment then skipBlanks chars fuel (c != '\n') (pos + 1)
      else if Text.isBlank c then skipBlanks chars fuel false (pos + 1)
      else if c = '#' then skipBlanks chars fuel true (pos + 1)
      else pos

/-- Skips blanks and comments where they are ignored. -/
def bumpBlanks : Parse Unit := modify fun r ↦
  if r.ignoreBlank then { r with pos := skipBlanks r.chars r.chars.size false r.pos } else r

/-- Reads one character and the blanks after it; says whether there is another. -/
def bumpPast : Parse Bool := do
  if ← bump then
    bumpBlanks
    return !(← atEnd)
  else return false

/-- Reads a text if it comes next. -/
def bumpIf (text : String) : Parse Bool := do
  let r ← get
  let ahead := (r.chars.extract r.pos (r.pos + text.length)).toList
  if ahead = text.toList then
    set { r with pos := r.pos + text.length }
    return true
  else return false

/-- The character after the next one. -/
def peek? : Parse (Option Char) := do
  let r ← get
  return r.chars[r.pos + 1]?

/-- Where the look-ahead over blanks and comments ends; a blank never ends a comment. -/
def peekPast (chars : Array Char) : Nat → Bool → Nat → Nat
  | 0, _, pos => pos
  | fuel + 1, inComment, pos =>
    match chars[pos]? with
    | none => pos
    | some c =>
      if Text.isBlank c then peekPast chars fuel inComment (pos + 1)
      else if !inComment && c = '#' then peekPast chars fuel true (pos + 1)
      else pos

/-- The character after the next one and the blanks that follow that. -/
def peekSpace? : Parse (Option Char) := do
  let r ← get
  if r.ignoreBlank then return r.chars[peekPast r.chars r.chars.size false (r.pos + 1)]?
  else peek?

end ScriptSandbox.Pattern

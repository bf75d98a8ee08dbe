import ScriptSandbox.Pattern.Reader
import ScriptSandbox.Unicode.Alphanumeric

/-!
# The grammar of primitives

Literals, escapes, the shorthand classes and the assertions: what a pattern has without parts of its
own. They mean the same in a bracketed class, where assertions are refused.
-/

namespace ScriptSandbox.Pattern

open ScriptSandbox.Text

/-! ### Characters -/

/-- The characters with a meaning of their own. -/
def isMeta (c : Char) : Bool :=
  "\\.+*?()|[]\x7b\x7d^$#&-~".toList.contains c

/-- Whether a backslash before a character may be superfluous. -/
def isEscapable (c : Char) : Bool :=
  isMeta c || (c.toNat < 128 && !c.isAlphanum && c != '<' && c != '>')

/-- Whether a character may stand in the name of a group. -/
def isNameChar (first : Bool) (c : Char) : Bool :=
  c = '_' || Unicode.letters.contains c
    || (!first && (c = '.' || c = '[' || c = ']' || Unicode.numerals.contains c))

/-- Whether a character is a hexadecimal digit. -/
def isHexDigit (c : Char) : Bool :=
  c.isDigit || ('a' ≤ c && c ≤ 'f') || ('A' ≤ c && c ≤ 'F')

/-- The number that hexadecimal digits write. -/
def hexNumber (digits : List Char) : Nat :=
  digits.foldl
    (fun n c ↦
      n * 16 +
        (if c.isDigit then c.toNat - 48 else if 'a' ≤ c then c.toNat - 87 else c.toNat - 55)) 0

/-- The character with a number, if it has one. -/
def charOfNumber? (n : Nat) : Option Char :=
  if n < 0xD800 ∨ (0xDFFF < n ∧ n < 0x110000) then some (Char.ofNat n) else none

/-! ### Primitives -/

/-- The parts of a pattern without parts of their own. -/
inductive Primitive where
  | literal (l : Literal)
  | assertion (stretch : Stretch) (kind : Assertion)
  | dot (stretch : Stretch)
  | shorthand (stretch : Stretch) (kind : Shorthand) (negated : Bool)
  | property (stretch : Stretch) (query : PropertyQuery) (negated : Bool)

namespace Primitive

/-- The stretch of a primitive. -/
def stretch : Primitive → Stretch
  | literal l => l.stretch
  | assertion s .. | dot s | shorthand s .. | property s .. => s

/-- A primitive as a part of a pattern. -/
def toAst : Primitive → Ast
  | literal l => .literal l
  | assertion s kind => .assertion s kind
  | dot s => .dot s
  | shorthand s kind negated => .shorthand s kind negated
  | property s query negated => .property s query negated

/-- A primitive as a member of a bracketed class. -/
def toItem : Primitive → Parse ClassItem
  | literal l => return .literal l
  | shorthand s kind negated => return .shorthand s kind negated
  | property s query negated => return .property s query negated
  | p => refuse .classEscapeInvalid p.stretch

/-- A primitive as the end of a range. -/
def toBound : Primitive → Parse Literal
  | literal l => return l
  | p => refuse .classRangeLiteral p.stretch

end Primitive

/-- Reads digits up to a closing brace; `fuel` bounds the characters left. -/
def hexUntilBrace : Nat → List Char → Parse (List Char)
  | 0, digits => return digits
  | fuel + 1, digits => do
    if ← bumpPast then
      match ← current? with
      | some '\x7d' => return digits
      | some c =>
        if isHexDigit c then hexUntilBrace fuel (digits ++ [c])
        else refuse .hexInvalidDigit (← nextStretch)
      | none => return digits
    else return digits

/-- Reads a character given by its number between braces. -/
def hexBraced : Parse Primitive := do
  let brace ← position
  let start := brace + 1
  let digits ← hexUntilBrace (← get).chars.size []
  if ← atEnd then refuse .escapeUnexpectedEnd (← since brace)
  let stop ← position
  discard bumpPast
  if digits.isEmpty then refuse .hexEmpty (← since brace)
  match charOfNumber? (hexNumber digits) with
  | none => refuse .hexInvalid ⟨start, stop⟩
  | some c => return .literal ⟨← since start, c, false⟩

/-- Reads the rest of a fixed number of hexadecimal digits. -/
def hexFixed : Nat → Bool → List Char → Parse (List Char)
  | 0, _, digits => return digits
  | n + 1, first, digits => do
    let more ← if first then pure true else bumpPast
    if !more then refuse .escapeUnexpectedEnd (← here)
    match ← current? with
    | some c =>
      if isHexDigit c then hexFixed n false (digits ++ [c])
      else refuse .hexInvalidDigit (← nextStretch)
    | none => refuse .escapeUnexpectedEnd (← here)

/-- Reads a character given by its number; the reader stands at the letter after the backslash. -/
def hexEscape (letter : Char) : Parse Primitive := do
  if !(← bumpPast) then refuse .escapeUnexpectedEnd (← here)
  if (← current?) = some '\x7b' then hexBraced
  else
    let start ← position
    let count := if letter = 'x' then 2 else if letter = 'u' then 4 else 8
    let digits ← hexFixed count true []
    discard bumpPast
    let stretch ← since start
    match charOfNumber? (hexNumber digits) with
    | none => refuse .hexInvalid stretch
    | some c => return .literal ⟨stretch, c, letter = 'x'⟩

/-- Reads up to a closing brace; `fuel` bounds the characters left. -/
def nameUntilBrace : Nat → List Char → Parse (List Char)
  | 0, name => return name
  | fuel + 1, name => do
    if ← bumpPast then
      match ← current? with
      | some '\x7d' => return name
      | some c => nameUntilBrace fuel (name ++ [c])
      | none => return name
    else return name

/-- Splits a text at the first place where `mark` stands. -/
def splitAt? (mark : List Char) (before : List Char) : List Char → Option (List Char × List Char)
  | [] => none
  | c :: rest =>
    match dropLead? mark (c :: rest) with
    | some after => some (before, after)
    | none => splitAt? mark (before ++ [c]) rest

/-- The marks between a property and its value, and whether they ask for all other values. -/
def propertyMarks : List (String × Bool) := [("!=", true), (":", false), ("=", false)]

/-- What a name between braces asks for, and whether it asks for all other characters. -/
def propertyQuery (name : List Char) : PropertyQuery × Bool :=
  let split? := propertyMarks.findSome? fun (mark, others) ↦
    (splitAt? mark.toList [] name).map fun parts ↦ (parts, others)
  match split? with
  | some ((property, value), others) =>
    (.valued (String.ofList property) (String.ofList value), others)
  | none => (.named (String.ofList name), false)

/-- Reads a class of characters with a property; the reader stands at the `p`. -/
def propertyEscape (start : Nat) (negated : Bool) : Parse Primitive := do
  if !(← bumpPast) then refuse .escapeUnexpectedEnd (← here)
  match ← current? with
  | some '\x7b' =>
    let name ← nameUntilBrace (← get).chars.size []
    if ← atEnd then refuse .escapeUnexpectedEnd (← here)
    discard bump
    let (query, others) := propertyQuery name
    return .property (← since start) query (negated != others)
  | some '\\' => refuse .unicodeClassInvalid (← nextStretch)
  | some c =>
    discard bumpPast
    return .property (← since start) (.letter c) negated
  | none => refuse .escapeUnexpectedEnd (← here)

/-- Whether a character may stand in the name of a special word boundary. -/
def isBoundaryChar (c : Char) : Bool := c.isAlpha || c = '-'

/-- Reads the name of a special word boundary; `fuel` bounds the characters left. -/
def boundaryName : Nat → List Char → Parse (List Char)
  | 0, name => return name
  | fuel + 1, name => do
    match ← current? with
    | some c =>
      if isBoundaryChar c then
        discard bumpPast
        boundaryName fuel (name ++ [c])
      else return name
    | none => return name

/-- Reads a special word boundary after `\b`, if one follows. -/
def specialBoundary? (boundary : Nat) : Parse (Option Assertion) := do
  let start ← position
  if !(← bumpPast) then refuse .specialBoundaryUnexpectedEnd (← since boundary)
  let contents ← position
  if !((← current?).any isBoundaryChar) then
    moveTo start
    return none
  let name ← boundaryName (← get).chars.size []
  if (← current?) != some '\x7d' then refuse .specialBoundaryUnclosed (← since start)
  let stop ← position
  discard bump
  match String.ofList name with
  | "start" => return some .wordStart
  | "end" => return some .wordEnd
  | "start-half" => return some .wordStartHalf
  | "end-half" => return some .wordEndHalf
  | _ => refuse .specialBoundaryUnrecognized ⟨contents, stop⟩

/-- Reads an escape; the reader stands at the backslash. -/
def escape : Parse Primitive := do
  let start ← position
  if !(← bump) then refuse .escapeUnexpectedEnd (← since start)
  let c := (← current?).getD ' '
  if c.isDigit then refuse .unsupportedBackreference ⟨start, (← position) + 1⟩
  if c = 'x' || c = 'u' || c = 'U' then
    match ← hexEscape c with
    | .literal l => return .literal { l with stretch := ⟨start, l.stretch.stop⟩ }
    | p => return p
  if c = 'p' || c = 'P' then return ← propertyEscape start (c = 'P')
  let shorthand (kind : Shorthand) (negated : Bool) : Parse Primitive := do
    discard bump
    return .shorthand (← since start) kind negated
  match c with
  | 'd' => return ← shorthand .digit false
  | 'D' => return ← shorthand .digit true
  | 's' => return ← shorthand .space false
  | 'S' => return ← shorthand .space true
  | 'w' => return ← shorthand .word false
  | 'W' => return ← shorthand .word true
  | _ => pure ()
  discard bump
  let stretch ← since start
  if isEscapable c then return .literal ⟨stretch, c, false⟩
  match c with
  | 'a' => return .literal ⟨stretch, '\x07', false⟩
  | 'f' => return .literal ⟨stretch, '\x0c', false⟩
  | 't' => return .literal ⟨stretch, '\t', false⟩
  | 'n' => return .literal ⟨stretch, '\n', false⟩
  | 'r' => return .literal ⟨stretch, '\r', false⟩
  | 'v' => return .literal ⟨stretch, '\x0b', false⟩
  | 'A' => return .assertion stretch .startText
  | 'z' => return .assertion stretch .endText
  | 'b' =>
    if (← current?) = some '\x7b' then
      match ← specialBoundary? start with
      | some kind => return .assertion (← since start) kind
      | none => return .assertion stretch .wordBoundary
    else return .assertion stretch .wordBoundary
  | 'B' => return .assertion stretch .notWordBoundary
  | '<' => return .assertion stretch .wordStart
  | '>' => return .assertion stretch .wordEnd
  | _ => refuse .escapeUnrecognized stretch

/-- Reads a part of a pattern that has no parts of its own. -/
def primitive (c : Char) : Parse Primitive := do
  let stretch ← nextStretch
  match c with
  | '\\' => escape
  | '.' => discard bump; return .dot stretch
  | '^' => discard bump; return .assertion stretch .startLine
  | '$' => discard bump; return .assertion stretch .endLine
  | c => discard bump; return .literal ⟨stretch, c, false⟩

end ScriptSandbox.Pattern

import ScriptSandbox.Pattern.Ast
import ScriptSandbox.Text.Blank

/-!
# Faults of patterns

What can be wrong with a pattern, and the text that shows it: the pattern with the stretch at fault
marked under its line. A pattern of several lines is framed and its lines are numbered.
-/

namespace ScriptSandbox.Pattern

/-- The ways a pattern can be wrong. -/
inductive FaultKind where
  | classEscapeInvalid
  | classRangeInvalid
  | classRangeLiteral
  | classUnclosed
  | decimalEmpty
  | decimalInvalid
  | hexEmpty
  | hexInvalid
  | hexInvalidDigit
  | escapeUnexpectedEnd
  | escapeUnrecognized
  | flagDanglingNegation
  | flagDuplicate (first : Stretch)
  | flagRepeatedNegation (first : Stretch)
  | flagUnexpectedEnd
  | flagUnrecognized
  | groupNameDuplicate (first : Stretch)
  | groupNameEmpty
  | groupNameInvalid
  | groupNameUnexpectedEnd
  | groupUnclosed
  | groupUnopened
  | nestLimitExceeded (limit : Nat)
  | repetitionCountInvalid
  | repetitionCountDecimalEmpty
  | repetitionCountUnclosed
  | repetitionMissing
  | specialBoundaryUnclosed
  | specialBoundaryUnrecognized
  | specialBoundaryUnexpectedEnd
  | unicodeClassInvalid
  | unsupportedBackreference
  | unsupportedLookAround
  | unicodeNotAllowed
  | invalidText
  | propertyNotFound
  | propertyValueNotFound
  deriving DecidableEq, Repr

/-- The words for a fault. -/
def FaultKind.message : FaultKind → String
  | classEscapeInvalid => "invalid escape sequence found in character class"
  | classRangeInvalid => "invalid character class range, the start must be <= the end"
  | classRangeLiteral => "invalid range boundary, must be a literal"
  | classUnclosed => "unclosed character class"
  | decimalEmpty => "decimal literal empty"
  | decimalInvalid => "decimal literal invalid"
  | hexEmpty => "hexadecimal literal empty"
  | hexInvalid => "hexadecimal literal is not a Unicode scalar value"
  | hexInvalidDigit => "invalid hexadecimal digit"
  | escapeUnexpectedEnd => "incomplete escape sequence, reached end of pattern prematurely"
  | escapeUnrecognized => "unrecognized escape sequence"
  | flagDanglingNegation => "dangling flag negation operator"
  | flagDuplicate _ => "duplicate flag"
  | flagRepeatedNegation _ => "flag negation operator repeated"
  | flagUnexpectedEnd => "expected flag but got end of regex"
  | flagUnrecognized => "unrecognized flag"
  | groupNameDuplicate _ => "duplicate capture group name"
  | groupNameEmpty => "empty capture group name"
  | groupNameInvalid => "invalid capture group character"
  | groupNameUnexpectedEnd => "unclosed capture group name"
  | groupUnclosed => "unclosed group"
  | groupUnopened => "unopened group"
  | nestLimitExceeded limit =>
    "exceed the maximum number of nested parentheses/brackets (" ++ toString limit ++ ")"
  | repetitionCountInvalid =>
    "invalid repetition count range, the start must be <= the end"
  | repetitionCountDecimalEmpty => "repetition quantifier expects a valid decimal"
  | repetitionCountUnclosed => "unclosed counted repetition"
  | repetitionMissing => "repetition operator missing expression"
  | specialBoundaryUnclosed =>
    "special word boundary assertion is either unclosed or contains an invalid character"
  | specialBoundaryUnrecognized =>
    "unrecognized special word boundary assertion, "
      ++ "valid choices are: start, end, start-half or end-half"
  | specialBoundaryUnexpectedEnd =>
    "found either the beginning of a special word boundary or a bounded repetition "
      ++ "on a \\b with an opening brace, but no closing brace"
  | unicodeClassInvalid => "invalid Unicode character class"
  | unsupportedBackreference => "backreferences are not supported"
  | unsupportedLookAround =>
    "look-around, including look-ahead and look-behind, is not supported"
  | unicodeNotAllowed => "Unicode not allowed here"
  | invalidText => "pattern can match invalid UTF-8"
  | propertyNotFound => "Unicode property not found"
  | propertyValueNotFound => "Unicode property value not found"

/-- The earlier stretch that a fault also points to. -/
def FaultKind.earlier? : FaultKind → Option Stretch
  | flagDuplicate first | flagRepeatedNegation first | groupNameDuplicate first => some first
  | _ => none

/-- A fault and where it is. -/
structure Fault where
  /-- What is wrong. -/
  kind : FaultKind
  /-- Where. -/
  stretch : Stretch
  deriving DecidableEq, Repr

/-- A place as line and column, both counted from 1. -/
structure Place where
  /-- The line. -/
  line : Nat
  /-- The column. -/
  column : Nat
  deriving DecidableEq, Repr

/-- The line and column of the character number `n`. -/
def placeOf (pattern : List Char) (n : Nat) : Place :=
  (pattern.take n).foldl
    (fun p c ↦ if c = '\n' then ⟨p.line + 1, 1⟩ else ⟨p.line, p.column + 1⟩) ⟨1, 1⟩

/-- The lines of a text for display: a newline at the end starts no line, and a carriage return
before a newline is part of the line's end. -/
def displayLines (text : List Char) : List (List Char) :=
  let pieces := Text.lines text
  let ended := pieces.dropLast.map fun line ↦
    if line.getLast? = some '\r' then line.dropLast else line
  match pieces.getLast? with
  | none | some [] => ended
  | some line => ended ++ [line]

/-- The marks under a line for the stretches that lie in it, after `column` columns. -/
def marks : Nat → List (Place × Place) → List Char
  | _, [] => []
  | column, (start, stop) :: rest =>
    let gap := start.column - 1 - column
    let length := max 1 (stop.column - start.column)
    List.replicate gap ' ' ++ List.replicate length '^'
      ++ marks (max column (start.column - 1) + length) rest

/-- The text of a fault of a pattern. -/
def Fault.render (fault : Fault) (pattern : String) : String :=
  let chars := pattern.toList
  let ends (s : Stretch) : Place × Place := (placeOf chars s.start, placeOf chars s.stop)
  let main := ends fault.stretch
  let spots := match fault.kind.earlier? with
    | some first =>
      if first.start < fault.stretch.start then [ends first, main] else [main, ends first]
    | none => [main]
  let shown := displayLines chars
  let severalLines := chars.contains '\n'
  let count := shown.length + (if chars.getLast? = some '\n' then 1 else 0)
  let width := if count ≤ 1 then 0 else (toString count).length
  let lineText (line : List Char) (number : Nat) : String :=
    let lead :=
      if width = 0 then "    "
      else
        let digits := toString number
        String.ofList (List.replicate (width - digits.length) ' ') ++ digits ++ ": "
    let here := spots.filter fun (a, b) ↦ a.line = b.line && a.line = number
    let under :=
      if here.isEmpty then ""
      else
        String.ofList (List.replicate (if width = 0 then 4 else width + 2) ' ' ++ marks 0 here)
          ++ "\n"
    lead ++ String.ofList line ++ "\n" ++ under
  let notated := String.join (shown.zipIdx.map fun (line, i) ↦ lineText line (i + 1))
  if severalLines then
    let divider := String.ofList (List.replicate 79 '~') ++ "\n"
    let across := spots.filter fun (a, b) ↦ a.line ≠ b.line
    let notes := across.map fun (a, b) ↦
      "on line " ++ toString a.line ++ " (column " ++ toString a.column ++ ") through line "
        ++ toString b.line ++ " (column " ++ toString (b.column - 1) ++ ")"
    "regex parse error:\n" ++ divider ++ notated ++ divider
      ++ (if notes.isEmpty then "" else "\n".intercalate notes ++ "\n")
      ++ "error: " ++ fault.kind.message
  else "regex parse error:\n" ++ notated ++ "error: " ++ fault.kind.message

/-- Why a pattern is refused. -/
inductive PatternError where
  /-- It is not well formed. -/
  | malformed (fault : Fault)
  /-- Its program would take more memory than allowed. -/
  | tooBig (limit : Nat)
  deriving DecidableEq, Repr

/-- The text of a refusal. -/
def PatternError.message (pattern : String) : PatternError → String
  | malformed fault => fault.render pattern
  | tooBig limit => "Compiled regex exceeds size limit of " ++ toString limit ++ " bytes."

end ScriptSandbox.Pattern

import ScriptSandbox.Json.Parser
import ScriptSandbox.Script.Token
import ScriptSandbox.Script.Value
import ScriptSandbox.Text.Blank

/-!
# Reading tokens

A script is cut into tokens, each with the position of its first character. Blanks and comments
separate tokens; block comments nest. A backslash at the end of a line goes on with a string on the
next one. Reading ends at the first text that is no token.
-/

namespace ScriptSandbox.Script

open ScriptSandbox.Text

/-- What is left of a script, and the position of the character before it. -/
structure Cursor where
  /-- The characters left. -/
  rest : List Char
  /-- The current line. -/
  line : Nat
  /-- The characters read of the current line. -/
  column : Nat

namespace Cursor

/-- The position of the last character read. -/
def position (c : Cursor) : Position := .place c.line c.column

/-- The position of the next character. -/
def nextPosition (c : Cursor) : Position := .place c.line (min (c.column + 1) Position.limit)

/-- The cursor at the beginning of the next line. -/
def newLine (c : Cursor) (rest : List Char) : Cursor :=
  ⟨rest, min (c.line + 1) Position.limit, 0⟩

/-- The cursor after one character, which is `ch`. -/
def step (c : Cursor) (ch : Char) (rest : List Char) : Cursor :=
  if ch = '\n' then c.newLine rest
  else ⟨rest, c.line, min (c.column + 1) Position.limit⟩

/-- The cursor after one character that is part of its line, whatever it is. -/
def pass (c : Cursor) (rest : List Char) : Cursor :=
  ⟨rest, c.line, min (c.column + 1) Position.limit⟩

/-- The cursor after `n` characters. -/
def skip : Nat → Cursor → Cursor
  | 0, c => c
  | n + 1, c =>
    match c.rest with
    | [] => c
    | ch :: rest => skip n (c.step ch rest)

/-- The cursor after the leading characters that satisfy `p`. -/
def skipWhile (p : Char → Bool) (c : Cursor) : Cursor :=
  c.skip (c.rest.takeWhile p).length

end Cursor

/-- The length of a block comment after its opening; `depth` comments are open. -/
def blockCommentLength : Nat → List Char → Nat
  | 0, _ => 0
  | _, [] => 0
  | depth + 1, '*' :: '/' :: rest => 2 + blockCommentLength depth rest
  | depth, '/' :: '*' :: rest => 2 + blockCommentLength (depth + 1) rest
  | depth, _ :: rest => 1 + blockCommentLength depth rest

/-- The cursor after a comment up to the end of its line, be that a line feed, a carriage return
or both. -/
def skipLine (c : Cursor) : Cursor :=
  let c := c.skipWhile fun ch ↦ ch ≠ '\n' && ch ≠ '\r'
  match c.rest with
  | '\r' :: '\n' :: rest | '\r' :: rest | '\n' :: rest => c.newLine rest
  | _ => c

/-- Whether a character separates tokens. -/
def isSeparator (ch : Char) : Bool :=
  ch = ' ' || ch = '\t' || ch = '\r' || ch = '\n' || ch = '\x0c'

/-- The cursor after blanks and comments; `fuel` bounds the characters left. -/
def skipSpace : Nat → Cursor → Cursor
  | 0, c => c
  | fuel + 1, c =>
    match c.rest with
    | '/' :: '/' :: _ => skipSpace fuel (skipLine c)
    | '/' :: '*' :: rest => skipSpace fuel (c.skip (2 + blockCommentLength 1 rest))
    | ch :: rest => if isSeparator ch then skipSpace fuel (c.step ch rest) else c
    | [] => c

/-- The number of characters of an escape for the character with a number, by its letter. -/
def escapeDigits? : Char → Option Nat
  | 'x' => some 2
  | 'u' => some 4
  | 'U' => some 8
  | _ => none

/-- The character that an escape of one letter stands for. -/
def shortEscape? (quote : Char) : Char → Option Char
  | '\\' => some '\\'
  | 't' => some '\t'
  | 'n' => some '\n'
  | 'r' => some '\r'
  | c => if c = quote then some quote else none

/-- A quoted literal while it is read. -/
structure Quotation where
  /-- The quote around it. -/
  quote : Char
  /-- The most bytes it may have; zero means no bound. -/
  limit : Nat
  /-- Where it begins. -/
  opening : Position
  /-- Whether a backslash at the end of a line goes on with it on the next one. -/
  continues : Bool
  /-- The column before which blanks at the beginning of a continued line do not count. -/
  margin : Nat

/-- Whether a text is longer than a literal may be. -/
def Quotation.tooLong (q : Quotation) (text : String) : Bool :=
  q.limit ≠ 0 && q.limit < text.utf8ByteSize

/-- Reads the digits of an escape, of which `count` are left; `text` is the escape so far and `n`
its number. Gives the character, or the fault at the last character read. -/
def escapeNumber : Nat → String → Nat → Cursor → Except (FaultKind × Position) (Char × Cursor)
  | 0, text, n, c =>
    if n < 0xD800 || (0xDFFF < n && n < 0x110000) then .ok (Char.ofNat n, c)
    else .error (.malformedEscape text, c.position)
  | count + 1, text, n, c =>
    match c.rest with
    | [] => .error (.malformedEscape text, c.position)
    | ch :: rest =>
      let text := text.push ch
      let after := c.step ch rest
      match Json.hexValue? ch with
      | some d => escapeNumber count text (n * 16 + d) after
      | none => .error (.malformedEscape text, c.nextPosition)

/-- The rest of a literal whose opening quote has been read: its text and the cursor after it, or
the fault and where it is. A doubled quote stands for one. -/
def quoted : Nat → Quotation → String → Cursor → Except (FaultKind × Position) (String × Cursor)
  | 0, q, _, _ => .error (.unterminatedString, q.opening)
  | fuel + 1, q, acc, c =>
    match c.rest with
    | [] => .error (.unterminatedString, q.opening)
    | ch :: rest =>
      let after := c.step ch rest
      if q.tooLong acc then .error (.stringTooLong q.limit, q.opening)
      else if ch = q.quote then
        if rest.head? = some ch then quoted fuel { q with margin := 0 } (acc.push ch) (after.skip 1)
        else .ok (acc, after)
      else
        match ch, rest with
        | '\r', '\n' :: _ => quoted fuel q acc after
        | '\n', _ => .error (.unterminatedString, q.opening)
        | '\\', _ =>
          -- a carriage return before the line feed does not count
          let after := match rest with
            | '\r' :: '\n' :: _ => after.skip 1
            | _ => after
          match after.rest with
          | [] => .error (.unterminatedString, q.opening)
          | letter :: rest =>
            let next := after.step letter rest
            match shortEscape? q.quote letter, escapeDigits? letter with
            | some ch, _ => quoted fuel q (acc.push ch) next
            | none, some count => do
              let (ch, next) ← escapeNumber count ("\\".push letter) 0 next
              quoted fuel q (acc.push ch) next
            | none, none =>
              if letter = '\n' then
                if q.continues then
                  let column := match q.opening with
                    | .place _ column => column
                    | .none => 0
                  quoted fuel { q with margin := column + 1 } acc next
                else .error (.unterminatedString, q.opening)
              else .error (.malformedEscape ("\\".push letter), next.position)
        | ch, _ =>
          if isBlank ch && after.column < q.margin then quoted fuel q acc after
          else quoted fuel { q with margin := 0 } (acc.push ch) after

/-- Whether a character can begin a name. -/
def isNameStart (c : Char) : Bool := c.isAlpha || c = '_'

/-- Whether a character can be in a name. -/
def isNameRest (c : Char) : Bool := c.isAlphanum || c = '_'

/-- The number of leading characters that satisfy `p` or separate digits. -/
def digitRun (p : Char → Bool) (cs : List Char) : List Char :=
  cs.takeWhile fun c ↦ p c || c = '_'

/-- Digits without the characters that separate them. -/
def bareDigits (cs : List Char) : List Char := cs.filter (· ≠ '_')

/-- A number written to a base that is not ten; words beyond 63 bits are negative. -/
def radixNumber (radix : Nat) (digits : List Char) : Token :=
  let values := digits.filterMap Json.hexValue?
  let n := values.foldl (fun n d ↦ n * radix + d) 0
  if digits.isEmpty || Nat.pow 2 64 ≤ n then
    .bad (.malformedNumber (String.ofList digits))
  else .int (if (n : Int) ≤ maxInt then n else (n : Int) - Int.pow 2 64)

/-- The base that a letter after a zero stands for. -/
def radix? : Char → Option Nat
  | 'x' | 'X' => some 16
  | 'o' | 'O' => some 8
  | 'b' | 'B' => some 2
  | _ => none

/-- A number written to base ten, with the digits after the point and the exponent. -/
def decimalNumber (negative : Bool) (whole : List Char) (fraction : Option (List Char))
    (exponent : Option (List Char)) : Token :=
  let digitsValue (ds : List Char) : Nat := ds.foldl (fun n c ↦ n * 10 + (c.toNat - 48)) 0
  let n : Int := digitsValue whole
  let signed := if negative then -n else n
  match fraction, exponent with
  | none, none =>
    if minInt ≤ signed ∧ signed ≤ maxInt then .int signed
    else
      let f := Float.ofScientific (digitsValue whole) false 0
      .float (if negative then -f else f)
  | fraction, exponent =>
    let fraction := fraction.getD []
    let (expNegative, expDigits) := match exponent.getD [] with
      | '-' :: ds => (true, ds)
      | '+' :: ds => (false, ds)
      | ds => (false, ds)
    let e : Int := min (digitsValue expDigits) 100000
    let scale : Int := (if expNegative then -e else e) - fraction.length
    let m := digitsValue (whole ++ fraction)
    let f := Float.ofScientific m (scale < 0) scale.natAbs
    .float (if negative then -f else f)

/-- A number to base ten and how many characters it takes. -/
def readDecimal (negative : Bool) (cs : List Char) : Token × Nat :=
  let whole := digitRun Char.isDigit cs
  let rest := cs.drop whole.length
  let (fraction, fractionLength, rest) := match rest with
    | '.' :: c :: more =>
      if c.isDigit then
        let run := digitRun Char.isDigit (c :: more)
        (some (bareDigits run), 1 + run.length, (c :: more).drop run.length)
      else if c = '.' || isNameStart c then (none, 0, rest)
      else (some [], 1, c :: more)
    | rest => (none, 0, rest)
  let (exponent, exponentLength) := match rest with
    | e :: c :: more =>
      if e ≠ 'e' && e ≠ 'E' then (none, 0)
      else if c.isDigit then
        let run := digitRun Char.isDigit (c :: more)
        (some (bareDigits run), 1 + run.length)
      else if c = '+' || c = '-' then
        let run := digitRun Char.isDigit more
        (some (c :: bareDigits run), 2 + run.length)
      else (none, 0)
    | _ => (none, 0)
  let length := whole.length + fractionLength + exponentLength
  if exponent = some ['+'] || exponent = some ['-'] then
    let shown := (bareDigits (cs.take length)).map Char.toLower
    (.bad (.malformedNumber ((if negative then "-" else "") ++ String.ofList shown)), length)
  else (decimalNumber negative (bareDigits whole) fraction exponent, length)

/-- A number and how many characters it takes; the text begins with a digit. A number with a base
cannot have a sign of its own. -/
def readNumber (negative : Bool) (cs : List Char) : Token × Nat :=
  let separators := (cs.drop 1).takeWhile (· = '_')
  match cs.head?, cs.drop (1 + separators.length) with
  | some '0', letter :: rest =>
    match radix? letter with
    | some radix =>
      let isDigitHere (c : Char) : Bool := (Json.hexValue? c).any (· < radix)
      let run := digitRun isDigitHere rest
      let digits := bareDigits run
      let token :=
        if negative then .bad (.malformedNumber (String.ofList (letter :: digits)))
        else radixNumber radix digits
      (token, 2 + separators.length + run.length)
    | none => readDecimal negative cs
  | _, _ => readDecimal negative cs

/-- The token of a word. -/
def wordToken (word : String) : Token :=
  if Token.keywords.contains word then .symbol word
  else if Token.reservedWords.contains word then .reserved word
  else if isName word then .name word
  else .bad (.malformedName word)

/-- The first symbol of a list that a text begins with. -/
def leadingSymbol? (symbols : List String) (cs : List Char) : Option String :=
  symbols.find? fun s ↦ s.toList.isPrefixOf cs

/-- The token of a symbol and the number of its characters. -/
def symbolToken (cs : List Char) : Token × Nat :=
  let reserved := leadingSymbol? Token.reservedSymbols cs
  let known := leadingSymbol? Token.symbols cs
  let longer : Bool := match reserved, known with
    | some r, some k => decide (k.length < r.length)
    | some _, none => true
    | none, _ => false
  let pick := if longer then reserved.map (true, ·) else known.map (false, ·)
  match pick, cs with
  | some (true, r), _ =>
    match Token.advice? r with
    | some advice => (.bad (.improper advice), r.length)
    | none => (.reserved r, r.length)
  | some (false, k), _ => (.symbol k, k.length)
  | none, c :: _ => (.bad (.unexpected c.toString), 1)
  | none, [] => (.eof, 0)

/-- The rest of a literal up to a quote and as many number signs as opened it; nothing in it is an
escape, and no line ends in it. -/
def untilClosed (signs : Nat) : Nat → List Char → Cursor → Option (String × Cursor)
  | 0, _, _ => none
  | fuel + 1, acc, c =>
    match c.rest with
    | [] => none
    | ch :: rest =>
      let after := c.pass rest
      if ch = '\x22' && (List.replicate signs '#').isPrefixOf rest then
        some (String.ofList acc.reverse, after.skip signs)
      else untilClosed signs fuel (ch :: acc) after

/-- A literal without escapes, which opens with number signs and a quote: its token and the cursor
after it. -/
def rawToken (stringLimit : Nat) (c : Cursor) : Token × Cursor :=
  let signs := (c.rest.takeWhile (· = '#')).length
  let opened := c.skip signs
  match opened.rest with
  | '\x22' :: _ =>
    match untilClosed signs (c.rest.length + 1) [] (opened.skip 1) with
    | some (s, after) =>
      if stringLimit ≠ 0 && stringLimit < s.utf8ByteSize then (.bad (.stringTooLong stringLimit), c)
      else (.string s, after)
    | none => (.bad .unterminatedString, c)
  | ch :: _ => (.bad (.unexpected ch.toString), c)
  | [] => (.bad .unterminatedString, c)

/-- The next token, its position and the cursor after it. `signAllowed` says that a minus before a
digit is a sign. -/
def nextToken (stringLimit : Nat) (signAllowed : Bool) (c : Cursor) :
    Token × Position × Cursor :=
  let c := skipSpace (c.rest.length + 1) c
  let position := c.nextPosition
  match c.rest with
  | [] => (.eof, position, c)
  | '\x22' :: _ =>
    match quoted (c.rest.length + 1) ⟨'\x22', stringLimit, position, true, 0⟩ "" (c.skip 1) with
    | .ok (s, c) => (.string s, position, c)
    | .error (kind, p) => (.bad kind, p, c)
  | '\x27' :: '\x27' :: _ => (.bad (.malformedChar ""), position, c)
  | '\x27' :: _ =>
    match quoted (c.rest.length + 1) ⟨'\x27', stringLimit, position, false, 0⟩ "" (c.skip 1) with
    | .ok (s, after) =>
      match s.toList with
      | [ch] => (.char ch, position, after)
      | _ => (.bad (.malformedChar s), position, after)
    | .error (kind, p) => (.bad kind, p, c)
  | '#' :: '#' :: _ | '#' :: '\x22' :: _ =>
    let (token, after) := rawToken stringLimit c
    (token, position, after)
  | '!' :: 'i' :: 'n' :: rest =>
    if rest.head?.any isNameRest then (.symbol "!", position, c.skip 1)
    else (.symbol "!in", position, c.skip 3)
  | '-' :: ch :: rest =>
    if signAllowed && ch.isDigit then
      let (token, length) := readNumber true (ch :: rest)
      (token, position, c.skip (1 + length))
    else
      let (token, length) := symbolToken c.rest
      (token, position, c.skip length)
  | ch :: _ =>
    if ch.isDigit then
      let (token, length) := readNumber false c.rest
      (token, position, c.skip length)
    else if isNameStart ch then
      let word := c.rest.takeWhile isNameRest
      (wordToken (String.ofList word), position, c.skip word.length)
    else
      let (token, length) := symbolToken c.rest
      (token, position, c.skip length)

/-- All tokens of a script up to its end or the first text that is none; `fuel` bounds the
characters left. -/
def tokensFrom (stringLimit : Nat) :
    Nat → Bool → Cursor → Array (Token × Position) → Array (Token × Position)
  | 0, _, c, acc => acc.push (.eof, c.nextPosition)
  | fuel + 1, signAllowed, c, acc =>
    let (token, position, c) := nextToken stringLimit signAllowed c
    let acc := acc.push (token, position)
    match token with
    | .eof | .bad _ => acc
    | token => tokensFrom stringLimit fuel token.beforeSign c acc

/-- The tokens of a script; strings longer than a limit are refused, unless it is zero. -/
def tokens (stringLimit : Nat) (source : String) : Array (Token × Position) :=
  let cs := source.toList
  tokensFrom stringLimit (cs.length + 1) true ⟨cs, 1, 0⟩ #[]

end ScriptSandbox.Script

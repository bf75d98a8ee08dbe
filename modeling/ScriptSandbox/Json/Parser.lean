import ScriptSandbox.Json.Basic

/-!
# Reading JSON

A reader for one JSON value. A number keeps a significand of 64 bits and drops later digits; a
number with a fraction, an exponent or more than 64 bits is the significand, scaled by one
multiplication or division with a power of ten.
-/

namespace ScriptSandbox.Json

/-- The blanks between the tokens of JSON. -/
def isGap (c : Char) : Bool := c = ' ' || c = '\n' || c = '\r' || c = '\t'

/-- What is left after leading blanks. -/
def skipGaps (cs : List Char) : List Char := cs.dropWhile isGap

/-- The value of a hexadecimal digit. -/
def hexValue? (c : Char) : Option Nat :=
  if '0' ≤ c ∧ c ≤ '9' then some (c.toNat - 48)
  else if 'a' ≤ c ∧ c ≤ 'f' then some (c.toNat - 87)
  else if 'A' ≤ c ∧ c ≤ 'F' then some (c.toNat - 55)
  else none

/-- The number written by four hexadecimal digits, and the rest. -/
def hexFour? : List Char → Option (Nat × List Char)
  | a :: b :: c :: d :: rest => do
    let a ← hexValue? a
    let b ← hexValue? b
    let c ← hexValue? c
    let d ← hexValue? d
    return (((a * 16 + b) * 16 + c) * 16 + d, rest)
  | _ => none

/-- The character of an escape whose backslash and `u` have been read, and the rest. Two escapes
that are a pair of surrogates are one character. -/
def unicodeEscape? (cs : List Char) : Option (Char × List Char) := do
  let (n, rest) ← hexFour? cs
  if 0xD800 ≤ n ∧ n ≤ 0xDBFF then
    match rest with
    | '\\' :: 'u' :: rest =>
      let (m, rest) ← hexFour? rest
      if 0xDC00 ≤ m ∧ m ≤ 0xDFFF then
        return (Char.ofNat (0x10000 + (n - 0xD800) * 1024 + (m - 0xDC00)), rest)
      else none
    | _ => none
  else if 0xDC00 ≤ n ∧ n ≤ 0xDFFF then none
  else return (Char.ofNat n, rest)

/-- The character written by a one-letter escape. -/
def shortEscape? : Char → Option Char
  | '\x22' => some '\x22'
  | '\\' => some '\\'
  | '/' => some '/'
  | 'b' => some '\x08'
  | 'f' => some '\x0c'
  | 'n' => some '\n'
  | 'r' => some '\r'
  | 't' => some '\t'
  | _ => none

/-- The rest of a string whose opening quote has been read. -/
def stringBody? : Nat → String → List Char → Option (String × List Char)
  | 0, _, _ => none
  | _, _, [] => none
  | _ + 1, acc, '\x22' :: rest => some (acc, rest)
  | fuel + 1, acc, '\\' :: 'u' :: rest => do
    let (c, rest) ← unicodeEscape? rest
    stringBody? fuel (acc.push c) rest
  | fuel + 1, acc, '\\' :: c :: rest => do
    let c ← shortEscape? c
    stringBody? fuel (acc.push c) rest
  | fuel + 1, acc, c :: rest => if c.toNat < 32 then none else stringBody? fuel (acc.push c) rest

/-- The greatest number of 64 bits. -/
def maxWord : Nat := Nat.pow 2 64 - 1

/-- Appends digits to a significand as long as it stays within 64 bits; gives it, the number of
digits used, and the digits dropped. -/
def significand : Nat → Nat → List Char → Nat × Nat × List Char
  | n, used, [] => (n, used, [])
  | n, used, c :: rest =>
    let next := n * 10 + (c.toNat - 48)
    if maxWord < next then (n, used, c :: rest) else significand next (used + 1) rest

/-- `10 ^ n` as a float; exact rounding. -/
def powerOfTen (n : Nat) : Float := Float.ofScientific 1 false n

/-- Scales by a power of ten; `none` if the result is too large. Exponents below the range are
worked off in steps. -/
def scaleDown? : Nat → Float → Int → Option Float
  | 0, _, _ => some 0
  | fuel + 1, f, e =>
    if e.natAbs ≤ 308 then
      if 0 ≤ e then
        let g := f * powerOfTen e.toNat
        if g.isInf then none else some g
      else some (f / powerOfTen e.natAbs)
    else if f == 0 then some f
    else if 0 ≤ e then none
    else scaleDown? fuel (f / powerOfTen 308) (e + 308)

/-- The exponent part of a number: its value and the rest. -/
def exponentPart? (cs : List Char) : Option (Int × List Char) :=
  let (negative, cs) := match cs with
    | '+' :: rest => (false, rest)
    | '-' :: rest => (true, rest)
    | rest => (false, rest)
  let digits := cs.takeWhile Char.isDigit
  if digits.isEmpty then none
  else
    let n : Int := (digits.foldl (fun n c ↦ min (n * 10 + (c.toNat - 48)) 1000000) 0 : Nat)
    some (if negative then -n else n, cs.dropWhile Char.isDigit)

/-- A number, and the rest. -/
def number? (cs : List Char) : Option (Json × List Char) := do
  let (negative, cs) := match cs with
    | '-' :: rest => (true, rest)
    | rest => (false, rest)
  let digits := cs.takeWhile Char.isDigit
  let rest := cs.dropWhile Char.isDigit
  if digits.isEmpty || (digits.length > 1 && digits.head? == some '0') then none
  let (n, _, dropped) := significand 0 0 digits
  let (fraction, rest, hasPoint) ← match rest with
    | '.' :: more =>
      let ds := more.takeWhile Char.isDigit
      if ds.isEmpty then none else some (ds, more.dropWhile Char.isDigit, true)
    | _ => some ([], rest, false)
  let (m, used, _) := if dropped.isEmpty then significand n 0 fraction else (n, 0, [])
  let (e, rest, hasExponent) ← match rest with
    | 'e' :: more | 'E' :: more => (exponentPart? more).map fun (e, r) ↦ (e, r, true)
    | _ => some (0, rest, false)
  let sign (f : Float) : Float := if negative then -f else f
  if !hasPoint && !hasExponent && dropped.isEmpty then
    if negative then
      if n = 0 || n > Nat.pow 2 63 then return (.float (sign (Float.ofNat n)), rest)
      else return (.int (-(n : Int)), rest)
    else return (.int n, rest)
  let f ← scaleDown? 4000 (Float.ofNat m) (dropped.length - used + e)
  return (.float (sign f), rest)

/-- What is left after a given word. -/
def word? (word : String) (cs : List Char) : Option (List Char) :=
  if cs.take word.length = word.toList then some (cs.drop word.length) else none

mutual

/-- A value, and the rest of the text; `fuel` bounds the tokens. -/
def value? : Nat → List Char → Option (Json × List Char)
  | 0, _ => none
  | fuel + 1, cs =>
    match skipGaps cs with
    | [] => none
    | 'n' :: rest => (word? "ull" rest).map (Json.null, ·)
    | 't' :: rest => (word? "rue" rest).map (Json.bool true, ·)
    | 'f' :: rest => (word? "alse" rest).map (Json.bool false, ·)
    | '\x22' :: rest => do
      let (s, rest) ← stringBody? (rest.length + 1) "" rest
      return (.string s, rest)
    | '[' :: rest =>
      match skipGaps rest with
      | ']' :: rest => some (.array [], rest)
      | rest => items? fuel #[] rest
    | '\x7b' :: rest =>
      match skipGaps rest with
      | '\x7d' :: rest => some (.object [], rest)
      | rest => members? fuel #[] rest
    | cs => number? cs

/-- The items of an array from some item on. -/
def items? : Nat → Array Json → List Char → Option (Json × List Char)
  | 0, _, _ => none
  | fuel + 1, acc, cs => do
    let (item, rest) ← value? fuel cs
    match skipGaps rest with
    | ',' :: rest => items? fuel (acc.push item) rest
    | ']' :: rest => return (.array (acc.push item).toList, rest)
    | _ => none

/-- The members of an object from some member on. -/
def members? : Nat → Array (String × Json) → List Char → Option (Json × List Char)
  | 0, _, _ => none
  | fuel + 1, acc, cs => do
    match skipGaps cs with
    | '\x22' :: rest =>
      let (name, rest) ← stringBody? (rest.length + 1) "" rest
      match skipGaps rest with
      | ':' :: rest =>
        let (value, rest) ← value? fuel rest
        match skipGaps rest with
        | ',' :: rest => members? fuel (acc.push (name, value)) rest
        | '\x7d' :: rest => return (ofMembers (acc.push (name, value)).toList, rest)
        | _ => none
      | _ => none
    | _ => none

end

/-- Reads a text that is one JSON value and nothing else. -/
def parse? (text : String) : Option Json := do
  let cs := text.toList
  let (value, rest) ← value? (2 * cs.length + 2) cs
  if (skipGaps rest).isEmpty then some value else none

end ScriptSandbox.Json

import ScriptSandbox.Text.CharSet

/-!
# Characters as bytes

The encoding of a character in one to four bytes. The encodings of all characters of a range are
the sequences of some lists of byte ranges: the range is cut until its ends differ in trailing bytes
only where these run through all values.
-/

namespace ScriptSandbox.Text

/-- A range of bytes, both ends included. -/
structure ByteRange where
  /-- The least byte. -/
  first : Nat
  /-- The greatest byte. -/
  last : Nat
  deriving DecidableEq, Repr

/-- The bytes that encode a code point. -/
def encodePoint (n : Nat) : List Nat :=
  if n < 0x80 then [n]
  else if n < 0x800 then [0xC0 + n / 0x40, 0x80 + n % 0x40]
  else if n < 0x10000 then [0xE0 + n / 0x1000, 0x80 + n / 0x40 % 0x40, 0x80 + n % 0x40]
  else
    [0xF0 + n / 0x40000, 0x80 + n / 0x1000 % 0x40, 0x80 + n / 0x40 % 0x40, 0x80 + n % 0x40]

/-- Where a range of code points must be cut before it is one list of byte ranges: the last point
of the first piece. -/
def cut? (lo hi : Nat) : Option Nat :=
  match [0x7F, 0x7FF, 0xFFFF].find? fun last ↦ lo ≤ last && last < hi with
  | some last => some last
  | none =>
    if hi ≤ 0x7F then none
    else
      [0x40, 0x1000, 0x40000].findSome? fun block ↦
        if lo / block = hi / block then none
        else if lo % block ≠ 0 then some (lo / block * block + block - 1)
        else if hi % block ≠ block - 1 then some (hi / block * block - 1)
        else none

/-- The lists of byte ranges that encode a range of code points without surrogates, ascending. -/
def byteRanges (lo hi : Nat) : List (List ByteRange) :=
  match cut? lo hi with
  | some last =>
    if _h : lo ≤ last ∧ last < hi then byteRanges lo last ++ byteRanges (last + 1) hi else []
  | none => [List.zipWith ByteRange.mk (encodePoint lo) (encodePoint hi)]
termination_by hi - lo

/-- The lists of byte ranges that encode the characters of a set, ascending. -/
def CharSet.byteRanges (s : CharSet) : List (List ByteRange) :=
  s.ranges.toList.flatMap fun (lo, hi) ↦
    let below := (lo, min hi 0xD7FF)
    let above := (max lo 0xE000, hi)
    [below, above].flatMap fun (lo, hi) ↦ if lo ≤ hi then Text.byteRanges lo hi else []

example :
    byteRanges 0x61 0x7FF = [[⟨0x61, 0x7F⟩], [⟨0xC2, 0xDF⟩, ⟨0x80, 0xBF⟩]] := by
  cbv

end ScriptSandbox.Text

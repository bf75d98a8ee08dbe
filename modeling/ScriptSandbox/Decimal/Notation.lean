import ScriptSandbox.Decimal.Shortest

/-!
# Notations of decimals

The two ways to write a decimal, positional and scientific, and the formats that choose between
them. A format names the positions of the decimal point it writes positionally and what stands for
an empty fraction.
-/

namespace ScriptSandbox.Decimal

/-- The position of the decimal point relative to the first digit: `0.1` has 0, `1` has 1. -/
def Scaled.point (s : Scaled) : Int :=
  ((Nat.toDigits 10 s.digits).length : Int) + s.exponent

/-- A decimal written out, without a fraction if it is whole. -/
def Scaled.positional (s : Scaled) : String :=
  let digits := Nat.toDigits 10 s.digits
  let point := s.point
  if 0 ≤ s.exponent then String.ofList (digits ++ List.replicate s.exponent.toNat '0')
  else if 0 < point then
    String.ofList (digits.take point.toNat) ++ "." ++ String.ofList (digits.drop point.toNat)
  else "0." ++ String.ofList (List.replicate (-point).toNat '0' ++ digits)

/-- A decimal with one digit before the point and its power of ten after an `e`; `plus` stands
before a power that is not negative. -/
def Scaled.scientific (s : Scaled) (plus : String) : String :=
  let digits := Nat.toDigits 10 s.digits
  let head := String.ofList (digits.take 1)
  let tail := digits.drop 1
  let mantissa := if tail.isEmpty then head else head ++ "." ++ String.ofList tail
  let power := s.point - 1
  mantissa ++ "e" ++ (if 0 ≤ power then plus else "") ++ toString power

/-- How floats are written. -/
structure Format where
  /-- The least position of the decimal point that is written positionally. -/
  least : Int
  /-- The greatest such position. -/
  greatest : Int
  /-- What follows a whole number written positionally. -/
  whole : String
  /-- What stands before a power of ten that is not negative. -/
  plus : String

/-- A float in a format. -/
def Format.text (format : Format) (f : Float) : String :=
  let sign (negative : Bool) (s : String) : String := if negative then "-" ++ s else s
  match Parts.ofFloat f with
  | .nan => "NaN"
  | .infinite negative => sign negative "inf"
  | .zero negative => sign negative ("0" ++ format.whole)
  | .finite negative m q =>
    let s := shortest m q
    sign negative <|
      if format.least ≤ s.point ∧ s.point ≤ format.greatest then
        if 0 ≤ s.exponent then s.positional ++ format.whole else s.positional
      else s.scientific format.plus

/-- Always positional, and a whole number has no fraction. -/
def plain : Format := ⟨-1000, 1000, "", ""⟩

/-- Scientific for every number but zero. -/
def scientific : Format := ⟨1000, -1000, "", ""⟩

/-- Numbers in records: positional from a hundred-thousandth up to sixteen digits, always with a
fraction. -/
def recorded : Format := ⟨-4, 16, ".0", ""⟩

/-- Numbers in messages about records: as in records, and great powers of ten have a plus sign. -/
def reported : Format := { recorded with plus := "+" }

/-- Numbers in diagnostics: positional from a ten-thousandth up to sixteen digits, always with a
fraction. -/
def diagnostic : Format := ⟨-3, 16, ".0", ""⟩

end ScriptSandbox.Decimal

/-!
# The shortest decimal of a float

A finite float stands for the real `m * 2 ^ q`; the reals nearer to it than to any other float form
an interval around it, whose ends belong to it exactly if `m` is even. Its shortest decimal is the
one of fewest digits in that interval, and of those the nearest to the float. A grid of `n` digits
meets the interval only if one of the two grid points next to the float does, so two candidates per
digit count are enough.
-/

namespace ScriptSandbox.Decimal

/-- A decimal `digits * 10 ^ exponent`. -/
structure Scaled where
  /-- The significant digits, as a number. -/
  digits : Nat
  /-- The power of ten. -/
  exponent : Int
  deriving Repr, DecidableEq, Inhabited

/-- What a float stands for. -/
inductive Parts where
  | nan
  | infinite (negative : Bool)
  | zero (negative : Bool)
  /-- The real `significand * 2 ^ exponent` or its opposite. -/
  | finite (negative : Bool) (significand : Nat) (exponent : Int)
  deriving Repr, DecidableEq, Inhabited

/-- The parts of the float with the given bits: sign, eleven bits of exponent, 52 of fraction. -/
def Parts.ofBits (bits : Nat) : Parts :=
  let negative : Bool := bits / Nat.pow 2 63 % 2 == 1
  let e : Nat := bits / Nat.pow 2 52 % Nat.pow 2 11
  let f : Nat := bits % Nat.pow 2 52
  if e = 2047 then if f = 0 then .infinite negative else .nan
  else if e = 0 then if f = 0 then .zero negative else .finite negative f (-1074)
  else .finite negative (Nat.pow 2 52 + f) ((e : Int) - 1075)

/-- The parts of a float. -/
def Parts.ofFloat (f : Float) : Parts := .ofBits f.toBits.toNat

/-- An interval of rationals with a common denominator, around a centre. -/
structure Interval where
  /-- Numerator of the centre. -/
  centre : Nat
  /-- Numerator of the lower end. -/
  low : Nat
  /-- Numerator of the upper end. -/
  high : Nat
  /-- The common denominator. -/
  denominator : Nat
  /-- Whether the ends belong to it. -/
  closed : Bool

/-- The reals that round to `m * 2 ^ q`. Below a power of two the floats lie twice as dense,
except at the bottom of the exponent range. -/
def Interval.around (m : Nat) (q : Int) : Interval :=
  let scale := Nat.pow 2 q.toNat
  let low := if m = Nat.pow 2 52 ∧ q ≠ -1074 then 4 * m - 1 else 4 * m - 2
  { centre := 4 * m * scale, low := low * scale, high := (4 * m + 2) * scale,
    denominator := 4 * Nat.pow 2 (-q).toNat, closed := m % 2 = 0 }

/-- Whether `digits * num / den` lies in the interval. -/
def Interval.holds (i : Interval) (digits num den : Nat) : Bool :=
  let x := digits * num * i.denominator
  if i.closed then i.low * den ≤ x && x ≤ i.high * den
  else i.low * den < x && x < i.high * den

/-- The candidate on the grid `10 ^ k`: of the two grid points next to the centre that lie in the
interval the nearer one, and of two equally near ones the even one. -/
def Interval.onGrid? (i : Interval) (k : Int) : Option Nat :=
  let num := Nat.pow 10 k.toNat
  let den := Nat.pow 10 (-k).toNat
  let below := i.centre * den / (num * i.denominator)
  let above := below + 1
  let lowOk := below ≠ 0 && i.holds below num den
  let highOk := i.holds above num den
  match lowOk, highOk with
  | false, false => none
  | true, false => some below
  | false, true => some above
  | true, true =>
    let target := 2 * i.centre * den
    let middle := (below + above) * num * i.denominator
    if target < middle then some below
    else if middle < target then some above
    else some (if below % 2 = 0 then below else above)

/-- The number of decimal digits of the integer part of a rational at least one. -/
def digitCount (num den : Nat) : Nat := (Nat.toDigits 10 (num / den)).length

/-- The exponent `e` with `10 ^ e ≤ num / den < 10 ^ (e + 1)`. -/
def magnitude (num den : Nat) : Int :=
  if den ≤ num then (digitCount num den : Int) - 1
  else
    let guess := digitCount den num
    if num * Nat.pow 10 (guess - 1) < den then -(guess : Int) else -((guess : Int) - 1)

/-- Moves zeros at the end of the digits to the exponent; `fuel` bounds their number. -/
def Scaled.strip : Nat → Scaled → Scaled
  | 0, s => s
  | fuel + 1, s =>
    if s.digits % 10 = 0 then strip fuel ⟨s.digits / 10, s.exponent + 1⟩ else s

/-- The first hit among the grids of `n`, `n + 1`, … digits. -/
def Interval.firstHit (i : Interval) (e : Int) : Nat → Nat → Scaled
  | 0, _ => ⟨0, 0⟩
  | fuel + 1, n =>
    let k := e + 1 - n
    match i.onGrid? k with
    | some d => Scaled.strip 20 ⟨d, k⟩
    | none => firstHit i e fuel (n + 1)

/-- The shortest decimal that rounds to `m * 2 ^ q`, nearest among those of its length. -/
def shortest (m : Nat) (q : Int) : Scaled :=
  let i := Interval.around m q
  i.firstHit (magnitude i.centre i.denominator) 18 1

example : shortest 1 (-1074) = ⟨5, -324⟩ := by decide +kernel
example : shortest (2 ^ 52) (-52) = ⟨1, 0⟩ := by decide +kernel

end ScriptSandbox.Decimal

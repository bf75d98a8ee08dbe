/-!
# Sets of characters

A set of code points as ascending ranges, with the set operations a character class is built from
and a search for membership. Tables of the Unicode standard are written as runs: the length of a
gap, the length of the run after it, and so on, in decimal.
-/

namespace ScriptSandbox.Text

/-- A set of code points: ascending ranges, both ends included, no two of which touch. -/
structure CharSet where
  /-- The ranges, ascending. -/
  ranges : Array (Nat × Nat)
  deriving Inhabited, Repr, DecidableEq

namespace CharSet

/-- The greatest code point. -/
def maxPoint : Nat := 0x10FFFF

/-- The set without a member. -/
def empty : CharSet := ⟨#[]⟩

/-- The set of all code points. -/
def full : CharSet := ⟨#[(0, maxPoint)]⟩

/-- Joins neighbours of an ascending list of ranges that overlap or touch. -/
def joinTouching : List (Nat × Nat) → List (Nat × Nat)
  | [] => []
  | (lo, hi) :: rest => go lo hi rest
where
  /-- Joins what follows a range to that range as long as it reaches. -/
  go (lo hi : Nat) : List (Nat × Nat) → List (Nat × Nat)
    | [] => [(lo, hi)]
    | (lo', hi') :: rest =>
      if lo' ≤ hi + 1 then go lo (max hi hi') rest else (lo, hi) :: go lo' hi' rest

/-- The set of all code points in some of the given ranges. -/
def ofRanges (ranges : List (Nat × Nat)) : CharSet :=
  ⟨(joinTouching (ranges.mergeSort fun a b ↦ a.1 < b.1 || (a.1 == b.1 && a.2 ≤ b.2))).toArray⟩

/-- The set of one character. -/
def singleton (c : Char) : CharSet := ⟨#[(c.toNat, c.toNat)]⟩

/-- The set of all characters from one to another. -/
def range (lo hi : Nat) : CharSet := if lo ≤ hi then ⟨#[(lo, hi)]⟩ else empty

/-- Searches a code point among the ranges with positions from `lo` to before `hi`; `fuel` bounds
the halvings. -/
def search (ranges : Array (Nat × Nat)) (n : Nat) : Nat → Nat → Nat → Bool
  | 0, _, _ => false
  | fuel + 1, lo, hi =>
    if lo < hi then
      let mid := (lo + hi) / 2
      match ranges[mid]? with
      | none => false
      | some (a, b) =>
        if n < a then search ranges n fuel lo mid
        else if b < n then search ranges n fuel (mid + 1) hi
        else true
    else false

/-- Whether a character is in the set. -/
def contains (s : CharSet) (c : Char) : Bool :=
  search s.ranges c.toNat (s.ranges.size + 1) 0 s.ranges.size

/-- Whether the set has no member. -/
def isEmpty (s : CharSet) : Bool := s.ranges.isEmpty

/-- All members of either set. -/
def union (s t : CharSet) : CharSet := ofRanges (s.ranges.toList ++ t.ranges.toList)

/-- All code points between the ranges of an ascending list, from `start` on. -/
def gaps (start : Nat) : List (Nat × Nat) → List (Nat × Nat)
  | [] => if start ≤ maxPoint then [(start, maxPoint)] else []
  | (lo, hi) :: rest =>
    if start < lo then (start, lo - 1) :: gaps (hi + 1) rest else gaps (hi + 1) rest

/-- All code points outside the set; a gap of nothing but surrogates is no gap. -/
def complement (s : CharSet) : CharSet :=
  ⟨((gaps 0 s.ranges.toList).filter fun (lo, hi) ↦ !(0xD800 ≤ lo && hi ≤ 0xDFFF)).toArray⟩

/-- The common members. -/
def inter (s t : CharSet) : CharSet := (s.complement.union t.complement).complement

/-- The members of the first that are not in the second. -/
def diff (s t : CharSet) : CharSet := s.inter t.complement

/-- The members of exactly one of the two. -/
def symmDiff (s t : CharSet) : CharSet := (s.union t).diff (s.inter t)

/-- The numbers written in a line, separated by blanks. -/
def numbers (line : String) : List Nat :=
  line.toList.foldr
    (fun c (acc : List Nat × Nat × Nat) ↦
      let (done, value, weight) := acc
      if c = ' ' then (if weight = 1 then done else value :: done, 0, 1)
      else (done, value + (c.toNat - 48) * weight, weight * 10))
    ([], 0, 1)
  |> fun (done, value, weight) ↦ if weight = 1 then done else value :: done

/-- Reads the lengths of gaps and runs, alternating, from the code point `start` on. -/
def rangesOfRuns (start : Nat) : List Nat → List (Nat × Nat)
  | gap :: run :: rest =>
    (start + gap, start + gap + run - 1) :: rangesOfRuns (start + gap + run) rest
  | _ => []

/-- The set written as lines of gap and run lengths. -/
def ofRuns (lines : List String) : CharSet :=
  ⟨(rangesOfRuns 0 (lines.flatMap numbers)).toArray⟩

end CharSet

example : (CharSet.ofRuns ["65 26 6 26"]).contains 'q' = true := by decide

end ScriptSandbox.Text

import ScriptSandbox.Pattern.Node
import ScriptSandbox.Text.Encoding

/-!
# The size of a pattern

A pattern is refused when the automaton of its matches takes too much memory. The automaton works
on the bytes of a text and is laid out twice: once to find where a match ends, once to find, from
there backward, where it begins. What counts is the number of its states, with the arrows of those
that have many; where a set of characters is laid out, states that lead the same way are shared as
far as a table of fixed size remembers them. Only the size is worked out, not the automaton.
-/

namespace ScriptSandbox.Pattern

open ScriptSandbox.Text

/-- The memory that the automaton of a pattern may take, in bytes. -/
def sizeLimit : Nat := 10 * Nat.pow 2 20

/-- The memory of a state. -/
def stateSize : Nat := 32

/-- The memory of one arrow of a state that reads a byte. -/
def arrowSize : Nat := 8

/-- The memory of one arrow of a state that makes a choice. -/
def choiceSize : Nat := 4

/-- The way in which a text is read. -/
inductive Direction where
  | forward
  | backward
  deriving DecidableEq, Repr

/-- Where a state leads, as the table remembers it: the bytes it reads, each with the state after
them. -/
abbrev Arrows := List (ByteRange × Nat)

/-- An automaton as far as it is laid out. -/
structure Layout where
  /-- The number of states. -/
  states : Nat
  /-- Their memory. -/
  memory : Nat
  /-- States to be shared, in the slots of a table, with their arrows. -/
  shared : Array (Arrows × Nat)

/-- The number of slots in the table of states to be shared. -/
def Direction.slots : Direction → Nat
  | forward => 10000
  | backward => 1000

/-- Nothing laid out. -/
def Layout.blank (d : Direction) : Layout := ⟨0, 0, Array.replicate d.slots ([], 0)⟩

/-- A step of laying out, which fails when the memory is used up. -/
abbrev Laying := StateT Layout Option

/-- Takes memory. -/
def grow (bytes : Nat) : Laying Unit := fun l ↦
  if sizeLimit < l.memory + bytes then none
  else some ((), { l with memory := l.memory + bytes })

/-- Adds a state with arrows of a size; gives its number. -/
def addState (arrows : Nat) : Laying Nat := fun l ↦
  if sizeLimit < l.memory + stateSize + arrows then none
  else some (l.states,
    { l with states := l.states + 1, memory := l.memory + stateSize + arrows })

/-- The slot of a table for some numbers. -/
def slotOf (slots : Nat) (numbers : List Nat) : Nat :=
  let hash : UInt64 := numbers.foldl (fun h n ↦ (h ^^^ n.toUInt64) * 1099511628211)
    14695981039346656037
  hash.toNat % slots

/-- The numbers that say in which slot a state with some arrows is looked for. -/
def Direction.slotNumbers : Direction → Arrows → List Nat
  | forward, arrows => arrows.flatMap fun (r, next) ↦ [r.first, r.last, next]
  | backward, arrows => arrows.flatMap fun (r, next) ↦ [next, r.first, r.last]

/-- A state with some arrows: a remembered one, or a new one, which takes the slot. -/
def share (d : Direction) (arrows : Arrows) (size : Nat) : Laying Nat := fun l ↦
  let slot := slotOf d.slots (d.slotNumbers arrows)
  let (known, state) := l.shared.getD slot ([], 0)
  if known = arrows then some (state, l)
  else if sizeLimit < l.memory + stateSize + size then none
  else
    let ⟨states, memory, shared⟩ := l
    some (states, ⟨states + 1, memory + stateSize + size, shared.set! slot (arrows, states)⟩)

/-! ### Sets of characters -/

/-- The states that read one of some lists of byte ranges and go on at `target`, those that end
alike shared; gives the first. `depth` bounds the length of the lists. -/
def layOutLists (target : Nat) : Nat → List (List ByteRange) → Laying Nat
  | 0, _ => return target
  | depth + 1, lists => do
    let groups := lists.splitBy fun a b ↦ a.head? == b.head?
    let arrows ← groups.filterMapM fun group ↦ do
      match group with
      | (range :: _) :: _ =>
        let rests := (group.map (·.drop 1)).filter fun rest ↦ !rest.isEmpty
        let next ← if rests.isEmpty then pure target else layOutLists target depth rests
        return some (range, next)
      | _ => return none
    share .forward arrows (arrowSize * arrows.length)

/-- The states that read one list of byte ranges backward, from `next` on, each shared; gives the
first. -/
def layOutBackward (next : Nat) : List ByteRange → Laying Nat
  | [] => return next
  | range :: rest => do
    let state ← share .backward [(range, next)] 0
    layOutBackward state rest

/-- The states that read one character of a set. -/
def layOutChars (d : Direction) (set : CharSet) : Laying Unit := do
  if set.ranges.all fun r ↦ r.2 < 0x80 then
    discard (addState 0)
    discard (addState (arrowSize * set.ranges.size))
  else
    match d with
    | .forward =>
      let target ← addState 0
      discard (layOutLists target 4 set.byteRanges)
    | .backward =>
      discard (addState 0)
      let target ← addState 0
      for list in set.byteRanges do
        discard (layOutBackward target list)
        grow choiceSize

/-! ### Choices between literals -/

/-- Texts in the pieces between the empty ones; of empty texts in front only one counts. -/
def piecesBetween (texts : List (List Nat)) : List (List (List Nat)) :=
  let rec go : List (List Nat) → List (List Nat) → List (List (List Nat))
    | [], piece => [piece.reverse]
    | [] :: rest, piece => piece.reverse :: go rest []
    | text :: rest, piece => go rest (text :: piece)
  match texts with
  | [] :: rest => [] :: go (rest.dropWhile List.isEmpty) []
  | texts => go texts []

/-- The states that tell some texts apart by their first bytes, and so on; `depth` bounds the length
of the texts. A text that ends on the way to others parts those before it from those after. -/
def layOutTexts : Nat → List (List Nat) → Laying Unit
  | 0, _ => return
  | depth + 1, texts => do
    let pieces := piecesBetween texts
    let mut choices := pieces.length - 1
    for piece in pieces do
      let firsts := (piece.filterMap List.head?).eraseDups
      for first in firsts do
        let rests := (piece.filter fun text ↦ text.head? = some first).map (·.drop 1)
        if rests.any fun rest ↦ !rest.isEmpty then layOutTexts depth rests
      if firsts.length = 1 then discard (addState 0)
      if 1 < firsts.length then discard (addState (arrowSize * firsts.length))
      if !firsts.isEmpty then choices := choices + 1
    discard (addState (choiceSize * choices))

/-- The texts of some nodes, if each is a literal. -/
def literals? : List Node → Option (List (List Char))
  | [] => some []
  | .literal text :: rest => (literals? rest).map (text :: ·)
  | _ => none

/-- The states that tell some literals apart. -/
def layOutLiterals (d : Direction) (texts : List (List Char)) : Laying Unit := do
  let bytes := texts.map fun text ↦
    let bytes := text.flatMap fun c ↦ encodePoint c.toNat
    match d with
    | .forward => bytes
    | .backward => bytes.reverse
  discard (addState 0)
  layOutTexts ((bytes.map List.length).foldl max 0 + 1) bytes

/-! ### Nodes -/

/-- How a part ends: in a state of its own kind or in a choice, which takes an arrow to go on. -/
inductive PartEnd where
  | plain
  | choice
  deriving DecidableEq, Repr

/-- Goes on after a part. -/
def goOn : PartEnd → Laying Unit
  | .plain => return
  | .choice => grow choiceSize

/-- Lays out a part some times, one copy after another; at least an empty state. -/
def layOutTimes (part : Laying PartEnd) : Nat → Laying PartEnd
  | 0 => do
    discard (addState 0)
    return .plain
  | 1 => part
  | n + 2 => do
    goOn (← part)
    layOutTimes part (n + 1)

/-- Lays out a part some times, where each copy may be left out with all after it; `before` is how
what comes before ends. -/
def layOutOptional (part : Laying PartEnd) : Nat → PartEnd → Laying Unit
  | 0, before => goOn before
  | n + 1, before => do
    discard (addState (2 * choiceSize))
    goOn before
    layOutOptional part n (← part)

/-- Lays out a part some times at least. -/
def layOutRepeated (part : Laying PartEnd) (advances : Bool) : Nat → Laying PartEnd
  | 0 =>
    if advances then do
      discard (addState choiceSize)
      goOn (← part)
      return .choice
    else do
      -- the loop, a way around it, and where both lead
      goOn (← part)
      discard (addState (2 * choiceSize))
      discard (addState (2 * choiceSize))
      discard (addState 0)
      return .plain
  | n + 1 => do
    goOn (← layOutTimes part (n + 1))
    discard (addState choiceSize)
    return .choice

mutual

/-- Lays out a node; tells how it ends. -/
def Node.layOut (d : Direction) : Node → Laying PartEnd
  | .empty | .look _ => do
    discard (addState 0)
    return .plain
  | .literal text => do
    for _ in text.flatMap fun c ↦ encodePoint c.toNat do discard (addState 0)
    return .plain
  | .chars set => do
    layOutChars d set
    return .plain
  | .repetition 0 (some 1) _ body => do
    discard (addState (2 * choiceSize))
    goOn (← body.layOut d)
    discard (addState 0)
    return .plain
  | .repetition least (some most) _ body => do
    let before ← layOutTimes (body.layOut d) least
    if most ≤ least then return before
    discard (addState 0)
    layOutOptional (body.layOut d) (most - least) before
    return .plain
  | .repetition least none _ body => layOutRepeated (body.layOut d) body.advances least
  | .group _ body =>
    match d with
    | .forward => do
      discard (addState 0)
      goOn (← body.layOut d)
      discard (addState 0)
      return .plain
    | .backward => body.layOut d
  | .concat parts => Node.layOutParts d .plain parts
  | .branches options =>
    match literals? options with
    | some texts => do
      layOutLiterals d texts
      return .plain
    | none => do
      Node.layOutOptions d 0 options
      return .plain

/-- Lays out nodes one after another, the last first when the text is read backward; `before` is how
what comes before ends. -/
def Node.layOutParts (d : Direction) (before : PartEnd) : List Node → Laying PartEnd
  | [] => return before
  | part :: rest =>
    match d with
    | .forward => do
      let after ← part.layOut d
      goOn before
      Node.layOutParts d after rest
    | .backward => do
      let before ← Node.layOutParts d before rest
      let after ← part.layOut d
      goOn before
      return after

/-- Lays out branches after some others; the choice itself comes after the second. -/
def Node.layOutOptions (d : Direction) (others : Nat) : List Node → Laying Unit
  | [] => return
  | option :: rest => do
    let after ← option.layOut d
    if others = 1 then
      discard (addState 0)
      discard (addState 0)
    grow choiceSize
    goOn after
    Node.layOutOptions d (others + 1) rest

end

/-- Lays out a whole pattern: what skips the text before a match, the pattern as a group of its own,
and the state of a match. -/
def Node.layOutWhole (n : Node) (d : Direction) : Laying Unit := do
  let anchored := match d with
    | .forward => n.isAnchoredAtStart
    | .backward => n.isAnchoredAtStop
  discard (addState 0)
  if !anchored then
    discard (addState 0)
    discard (addState arrowSize)
    grow (2 * choiceSize)
  goOn (← (Node.group 0 n).layOut d)
  discard (addState 0)

/-- Whether the automaton of a pattern, for both directions, keeps within the limit. -/
def Node.fits (n : Node) : Bool :=
  [Direction.forward, .backward].all fun d ↦
    ((n.layOutWhole d).run (.blank d)).isSome

end ScriptSandbox.Pattern

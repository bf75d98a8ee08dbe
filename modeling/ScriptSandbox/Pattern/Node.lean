import ScriptSandbox.Text.CharSet

/-!
# What a pattern matches

A pattern freed of its notation. Nodes are built by functions that keep them small: neighbouring
literals are joined, a sequence in a sequence and a choice in a choice are dissolved, a choice
between characters is a set of characters, and branches share what they all begin with. The
matches stay the same, and so does the preferred one, but for a shared beginning that matches in
several ways: its way is then chosen before the branch.
-/

namespace ScriptSandbox.Pattern

open ScriptSandbox.Text

/-- Conditions on a place in a text. -/
inductive Look where
  | start
  | stop
  | startLine
  | stopLine
  | startLineCrlf
  | stopLineCrlf
  | boundary (unicode : Bool)
  | notBoundary (unicode : Bool)
  | wordStart (unicode : Bool)
  | wordEnd (unicode : Bool)
  | wordStartHalf (unicode : Bool)
  | wordEndHalf (unicode : Bool)
  deriving DecidableEq, Repr

/-- What a pattern matches. -/
inductive Node where
  | empty
  /-- Some characters, in order. -/
  | literal (text : List Char)
  /-- One character of a set. -/
  | chars (set : CharSet)
  | look (kind : Look)
  | repetition (least : Nat) (most : Option Nat) (greedy : Bool) (body : Node)
  /-- A group whose match can be asked for; no two begin at one place of a pattern. -/
  | group (start : Nat) (body : Node)
  | concat (parts : List Node)
  /-- The first branch that leads to a match. -/
  | branches (options : List Node)
  deriving Inhabited

namespace Node

mutual

/-- Whether two nodes are the same. -/
def same : Node → Node → Bool
  | empty, empty => true
  | literal text, literal text' => text == text'
  | chars set, chars set' => set == set'
  | look kind, look kind' => kind == kind'
  | repetition least most greedy body, repetition least' most' greedy' body' =>
    least == least' && most == most' && greedy == greedy' && body.same body'
  | group start body, group start' body' => start == start' && body.same body'
  | concat parts, concat parts' => sameAll parts parts'
  | branches options, branches options' => sameAll options options'
  | _, _ => false

/-- Whether two lists have the same nodes. -/
def sameAll : List Node → List Node → Bool
  | [], [] => true
  | n :: rest, n' :: rest' => n.same n' && sameAll rest rest'
  | _, _ => false

end

/-! ### Lengths -/

/-- The number of bytes that encode a code point. -/
def pointLength (n : Nat) : Nat :=
  if n < 0x80 then 1 else if n < 0x800 then 2 else if n < 0x10000 then 3 else 4

/-- The number of bytes that encode a text. -/
def textLength (text : List Char) : Nat := text.foldl (fun n c ↦ n + pointLength c.toNat) 0

mutual

/-- The bytes of the shortest match; `none` if some choice of branches leads to no match. -/
def leastLength : Node → Option Nat
  | empty | look _ => some 0
  | literal text => some (textLength text)
  | chars set => set.ranges[0]?.map fun r ↦ pointLength r.1
  | repetition least _ _ body => body.leastLength.map (· * least)
  | group _ body => body.leastLength
  | concat parts => leastSum parts
  | branches options => leastOf options

/-- The bytes of the shortest match of all of some nodes. -/
def leastSum : List Node → Option Nat
  | [] => some 0
  | n :: rest => do return (← n.leastLength) + (← leastSum rest)

/-- The bytes of the shortest match of any of some nodes. -/
def leastOf : List Node → Option Nat
  | [] => none
  | [n] => n.leastLength
  | n :: rest => do return min (← n.leastLength) (← leastOf rest)

end

mutual

/-- The bytes of the longest match; `none` if there is no longest one. -/
def mostLength : Node → Option Nat
  | empty | look _ => some 0
  | literal text => some (textLength text)
  | chars set => set.ranges.back?.map fun r ↦ pointLength r.2
  | repetition _ most _ body => do return (← most) * (← body.mostLength)
  | group _ body => body.mostLength
  | concat parts => mostSum parts
  | branches options => mostOf options

/-- The bytes of the longest match of all of some nodes. -/
def mostSum : List Node → Option Nat
  | [] => some 0
  | n :: rest => do return (← n.mostLength) + (← mostSum rest)

/-- The bytes of the longest match of any of some nodes. -/
def mostOf : List Node → Option Nat
  | [] => none
  | [n] => n.mostLength
  | n :: rest => do return max (← n.mostLength) (← mostOf rest)

end

/-- Whether the node matches nothing but the empty text. -/
def isWidthless (n : Node) : Bool := n.mostLength == some 0

/-- Whether each match takes a byte at least. -/
def advances (n : Node) : Bool := n.leastLength.any (0 < ·)

/-! ### Construction -/

/-- One character of a set; of a set of one character, that character. -/
def ofChars (set : CharSet) : Node :=
  match set.ranges.toList with
  | [(lo, hi)] => if lo = hi then literal [Char.ofNat lo] else chars set
  | _ => chars set

/-- A node again and again. What matches the empty text alone need not be tried twice. -/
def repeated (least : Nat) (most : Option Nat) (greedy : Bool) (body : Node) : Node :=
  let least' := if body.isWidthless then min least 1 else least
  let most' := if body.isWidthless then some (min (most.getD 1) 1) else most
  if least' = 0 ∧ most' = some 0 then empty
  else if least' = 1 ∧ most' = some 1 then body
  else repetition least' most' greedy body

/-- The nodes that a node is the sequence of. -/
def parts : Node → List Node
  | empty => []
  | concat ps => ps
  | n => [n]

/-- The nodes that a node is the choice between. -/
def options : Node → List Node
  | branches os => os
  | n => [n]

/-- Nodes with neighbouring literals joined. -/
def joinLiterals : List Node → List Node
  | [] => []
  | n :: rest =>
    match n, joinLiterals rest with
    | literal text, literal text' :: rest => literal (text ++ text') :: rest
    | n, rest => n :: rest

/-- Some nodes, one after another. -/
def sequence (nodes : List Node) : Node :=
  match joinLiterals (nodes.flatMap parts) with
  | [] => empty
  | [n] => n
  | ps => concat ps

/-- The set of some characters, if each node is a single one. -/
def singleChars? : List Node → Option CharSet
  | [] => some .empty
  | literal [c] :: rest => (singleChars? rest).map (CharSet.union (.singleton c))
  | _ => none

/-- The union of some sets, if each node is a set of characters. -/
def unionOfChars? : List Node → Option CharSet
  | [] => some .empty
  | chars set :: rest => (unionOfChars? rest).map set.union
  | _ => none

/-- What two lists of nodes both begin with. -/
def commonStart : List Node → List Node → List Node
  | n :: rest, n' :: rest' => if n.same n' then n :: commonStart rest rest' else []
  | _, _ => []

/-- What some nodes all begin with, if each of them is a sequence. -/
def sharedStart : List Node → List Node
  | [] => []
  | [concat ps] => ps
  | concat ps :: rest => commonStart ps (sharedStart rest)
  | _ => []

/-- A choice between nodes; `fuel` bounds how often a shared beginning is taken out. -/
def choiceWithin : Nat → List Node → Node
  | 0, nodes => branches nodes
  | fuel + 1, nodes =>
    match nodes.flatMap options with
    | [] => chars .empty
    | [n] => n
    | nodes =>
      match (singleChars? nodes).orElse fun _ ↦ unionOfChars? nodes with
      | some set => ofChars set
      | none =>
        match sharedStart nodes with
        | [] => branches nodes
        | shared =>
          let ends := nodes.map fun n ↦ sequence (n.parts.drop shared.length)
          sequence (shared ++ [choiceWithin fuel ends])

mutual

/-- The number of nodes in a node. -/
def count : Node → Nat
  | empty | literal _ | chars _ | look _ => 1
  | repetition _ _ _ body | group _ body => body.count + 1
  | concat ps => countAll ps + 1
  | branches os => countAll os + 1

/-- The number of nodes in some nodes. -/
def countAll : List Node → Nat
  | [] => 0
  | n :: rest => n.count + countAll rest

end

/-- A choice between nodes, the first preferred. -/
def choice (nodes : List Node) : Node := choiceWithin (countAll nodes + 1) nodes

/-! ### Anchors -/

mutual

/-- Whether each match begins at the start of the text, as the node says itself. -/
def isAnchoredAtStart : Node → Bool
  | look .start => true
  | repetition least _ _ body => 0 < least && body.isAnchoredAtStart
  | group _ body => body.isAnchoredAtStart
  | concat ps => anyAnchoredAtStart ps
  | branches os => allAnchoredAtStart os
  | _ => false

/-- Whether some node is anchored at the start and all before it match the empty text alone. -/
def anyAnchoredAtStart : List Node → Bool
  | [] => false
  | n :: rest => n.isAnchoredAtStart || (n.isWidthless && anyAnchoredAtStart rest)

/-- Whether all of some nodes are anchored at the start. -/
def allAnchoredAtStart : List Node → Bool
  | [] => true
  | n :: rest => n.isAnchoredAtStart && allAnchoredAtStart rest

end

mutual

/-- Whether each match ends at the end of the text, as the node says itself. -/
def isAnchoredAtStop : Node → Bool
  | look .stop => true
  | repetition least _ _ body => 0 < least && body.isAnchoredAtStop
  | group _ body => body.isAnchoredAtStop
  | concat ps => anyAnchoredAtStop ps
  | branches os => allAnchoredAtStop os
  | _ => false

/-- Whether some node is anchored at the end and all after it match the empty text alone. -/
def anyAnchoredAtStop : List Node → Bool
  | [] => false
  | n :: rest => anyAnchoredAtStop rest || (n.isAnchoredAtStop && rest.all isWidthless)

/-- Whether all of some nodes are anchored at the end. -/
def allAnchoredAtStop : List Node → Bool
  | [] => true
  | n :: rest => n.isAnchoredAtStop && allAnchoredAtStop rest

end

end Node

end ScriptSandbox.Pattern

import ScriptSandbox.Pattern.Grammar.Primitive

/-!
# The grammar of bracketed classes

Classes in brackets nest and combine by set operations. They are read with a stack of what is still
open, so the fault of a class that is never closed points to the innermost open bracket.
-/

namespace ScriptSandbox.Pattern

/-- Items read so far, and where the first begins. -/
structure OpenUnion where
  /-- Where the items begin. -/
  start : Nat
  /-- The items. -/
  items : List ClassItem

/-- The items as one. -/
def OpenUnion.close (u : OpenUnion) (stop : Nat) : ClassItem :=
  match u.items with
  | [] => .empty ⟨u.start, u.start⟩
  | [item] => item
  | items =>
    let last := (items.getLast?.map (·.stretch.stop)).getD stop
    .union ⟨u.start, last⟩ items

/-- The items with one more; the first one sets the beginning. -/
def OpenUnion.push (u : OpenUnion) (item : ClassItem) : OpenUnion :=
  ⟨if u.items.isEmpty then item.stretch.start else u.start, u.items ++ [item]⟩

/-- A class or an operation that is still open. -/
inductive ClassFrame where
  /-- A class inside `outer`, whose opening covers `stretch`. -/
  | opened (outer : OpenUnion) (stretch : Stretch) (negated : Bool)
  /-- An operation with its left side. -/
  | operation (kind : SetOp) (left : ClassSet)

/-- The fault of a class that is not closed: at the innermost open bracket. -/
def unclosedClass {α : Type} (stack : List ClassFrame) : Parse α := do
  let rec find : List ClassFrame → Option Stretch
    | [] => none
    | .opened _ stretch _ :: _ => some stretch
    | .operation .. :: rest => find rest
  match find stack with
  | some stretch => refuse .classUnclosed stretch
  | none => refuse .classUnclosed (← here)

/-- The names of the ASCII classes. -/
def asciiNames : List String :=
  ["alnum", "alpha", "ascii", "blank", "cntrl", "digit", "graph", "lower", "print", "punct",
    "space", "upper", "word", "xdigit"]

/-- Reads a class of ASCII characters, or nothing if none comes next. -/
def asciiClass? : Parse (Option ClassItem) := do
  let start ← position
  let r ← get
  let after := r.chars.toList.drop (start + 1)
  match after with
  | ':' :: rest =>
    let negated := rest.head? = some '^'
    let rest := if negated then rest.drop 1 else rest
    let name := rest.takeWhile (· ≠ ':')
    match rest.drop name.length with
    | ':' :: ']' :: _ =>
      if asciiNames.contains (String.ofList name) then
        let stop := start + 2 + (if negated then 1 else 0) + name.length + 2
        moveTo stop
        return some (.ascii ⟨start, stop⟩ (String.ofList name) negated)
      else return none
    | _ => return none
  | _ => return none

/-- Reads hyphens at the beginning of a class, each standing for itself. -/
def leadingHyphens (start : Nat) : Nat → OpenUnion → Parse OpenUnion
  | 0, u => return u
  | fuel + 1, u => do
    if (← current?) = some '-' then
      let u := u.push (.literal ⟨← nextStretch, '-', false⟩)
      if !(← bumpPast) then refuse .classUnclosed ⟨start, start⟩
      leadingHyphens start fuel u
    else return u

/-- Reads the opening of a class. -/
def openClass (outer : OpenUnion) : Parse (ClassFrame × OpenUnion) := do
  let start ← position
  if !(← bumpPast) then refuse .classUnclosed (← since start)
  let negated := (← current?) = some '^'
  if negated then
    if !(← bumpPast) then refuse .classUnclosed (← since start)
  let u ← leadingHyphens start (← get).chars.size ⟨← position, []⟩
  let u ←
    if u.items.isEmpty && (← current?) = some ']' then do
      let u := u.push (.literal ⟨← nextStretch, ']', false⟩)
      if !(← bumpPast) then refuse .classUnclosed (← since start)
      pure u
    else pure u
  return (.opened outer (← since start) negated, u)

/-- Applies the operation on top of the stack, if there is one, to a right side. -/
def applyOperation (stack : List ClassFrame) (right : ClassSet) :
    ClassSet × List ClassFrame :=
  match stack with
  | .operation kind left :: rest =>
    (.op ⟨left.stretch.start, right.stretch.stop⟩ kind left right, rest)
  | _ => (right, stack)

/-- Reads one character of a class, or an escape. -/
def classPrimitive : Parse Primitive := do
  match ← current? with
  | some '\\' => escape
  | some c =>
    let stretch ← nextStretch
    discard bump
    return .literal ⟨stretch, c, false⟩
  | none => return .literal ⟨← here, ' ', false⟩

/-- Reads a member of a class: a primitive or a range of characters. -/
def classMember (stack : List ClassFrame) : Parse ClassItem := do
  let first ← classPrimitive
  bumpBlanks
  if ← atEnd then unclosedClass stack
  let ahead ← peekSpace?
  if (← current?) != some '-' || ahead = some ']' || ahead = some '-' then first.toItem
  else
    if !(← bumpPast) then unclosedClass stack
    let second ← classPrimitive
    let stretch : Stretch := ⟨first.stretch.start, second.stretch.stop⟩
    let lo ← first.toBound
    let hi ← second.toBound
    if hi.char < lo.char then refuse .classRangeInvalid stretch
    return .range stretch lo hi

/-- Reads a bracketed class with a stack of what is open; `fuel` bounds the steps. -/
def bracketed : Nat → List ClassFrame → OpenUnion → Parse Ast
  | 0, stack, _ => unclosedClass stack
  | fuel + 1, stack, u => do
    bumpBlanks
    let operation (mark : String) (kind : SetOp) : Parse (List ClassFrame × OpenUnion) := do
      let item := ClassSet.item (u.close (← position))
      discard (bumpIf mark)
      let (left, rest) := applyOperation stack item
      return (.operation kind left :: rest, ⟨← position, []⟩)
    match ← current? with
    | none => unclosedClass stack
    | some '[' =>
      let ascii ← if stack.isEmpty then pure none else asciiClass?
      match ascii with
      | some item => bracketed fuel stack (u.push item)
      | none =>
        let (frame, inner) ← openClass u
        bracketed fuel (frame :: stack) inner
    | some ']' =>
      let (set, rest) := applyOperation stack (.item (u.close (← position)))
      match rest with
      | .opened outer stretch negated :: rest =>
        discard bump
        let whole : Stretch := ⟨stretch.start, ← position⟩
        if rest.isEmpty then return .bracketed whole negated set
        else bracketed fuel rest (outer.push (.bracketed whole negated set))
      | _ => unclosedClass stack
    | some c =>
      let ahead ← peek?
      if c = '&' && ahead = some '&' then
        let (stack, u) ← operation "&&" .intersection
        bracketed fuel stack u
      else if c = '-' && ahead = some '-' then
        let (stack, u) ← operation "--" .difference
        bracketed fuel stack u
      else if c = '~' && ahead = some '~' then
        let (stack, u) ← operation "~~" .symmetricDifference
        bracketed fuel stack u
      else
        let item ← classMember stack
        bracketed fuel stack (u.push item)

end ScriptSandbox.Pattern

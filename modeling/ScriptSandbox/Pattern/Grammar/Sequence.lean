import ScriptSandbox.Pattern.Grammar.Bracketed
import ScriptSandbox.Pattern.Grammar.Group
import ScriptSandbox.Pattern.Grammar.Nesting

/-!
# Reading patterns

Sequences of parts, alternations and repetitions. They are read with a stack of the groups still
open, so a fault at the end of a pattern can point to the parenthesis that was never closed.
-/

namespace ScriptSandbox.Pattern

open ScriptSandbox.Text

/-- Parts read so far, and where they begin. -/
structure OpenConcat where
  /-- Where the parts begin. -/
  start : Nat
  /-- The parts. -/
  parts : List Ast

/-- The parts as one. -/
def OpenConcat.close (c : OpenConcat) (stop : Nat) : Ast :=
  match c.parts with
  | [] => .empty ⟨c.start, stop⟩
  | [part] => part
  | parts => .concat ⟨c.start, stop⟩ parts

/-- A group or an alternation that is still open. -/
inductive Frame where
  /-- A group after `before`; `ignoreBlank` holds again after it. -/
  | group (before : OpenConcat) (stretch : Stretch) (kind : GroupKind) (ignoreBlank : Bool)
  /-- The branches read so far. -/
  | alternation (start : Nat) (branches : List Ast)

/-- Ends a branch of an alternation. -/
def endBranch (stack : List Frame) (concat : OpenConcat) (stop : Nat) : List Frame :=
  match stack with
  | .alternation start branches :: rest =>
    .alternation start (branches ++ [concat.close stop]) :: rest
  | _ => .alternation concat.start [concat.close stop] :: stack

/-- Ends a group: its contents, the frame it was in, and what is still open. -/
def endGroup (stack : List Frame) (concat : OpenConcat) (stop : Nat) : Ast × List Frame :=
  match stack with
  | .alternation start branches :: rest =>
    (.alternation ⟨start, stop⟩ (branches ++ [concat.close stop]), rest)
  | _ => (concat.close stop, stack)

/-- The last part read, which a repetition is to repeat, and the parts before it. -/
def repeated (concat : OpenConcat) : Parse (Ast × OpenConcat) := do
  match concat.parts.getLast? with
  | none | some (.empty _) | some (.flags ..) => refuse .repetitionMissing (← here)
  | some part => return (part, ⟨concat.start, concat.parts.dropLast⟩)

/-- Reads a repetition written by one character. -/
def uncounted (concat : OpenConcat) (least : Nat) (most : Option Nat) : Parse OpenConcat := do
  let (part, concat) ← repeated concat
  let greedy ←
    if (← bump) && (← current?) = some '?' then do
      discard bump
      pure false
    else pure true
  let stretch : Stretch := ⟨part.stretch.start, ← position⟩
  return ⟨concat.start, concat.parts ++ [.repetition stretch least most greedy part]⟩

/-- Reads blanks one by one; `fuel` bounds the characters left. -/
def plainBlanks (step : Parse Bool) : Nat → Parse Unit
  | 0 => return
  | fuel + 1 => do
    if (← current?).any isBlank then
      discard step
      plainBlanks step fuel

/-- Reads digits; `fuel` bounds the characters left. -/
def digits : Nat → List Char → Parse (List Char)
  | 0, ds => return ds
  | fuel + 1, ds => do
    match ← current? with
    | some c =>
      if c.isDigit then
        discard bumpPast
        digits fuel (ds ++ [c])
      else return ds
    | none => return ds

/-- Reads a count, or gives the fault of there being none. -/
def count : Parse (Except Fault Nat) := do
  let size := (← get).chars.size
  plainBlanks bump size
  let start ← position
  let ds ← digits size []
  let stretch ← since start
  plainBlanks bumpPast size
  let n := ds.foldl (fun n c ↦ n * 10 + (c.toNat - 48)) 0
  if ds.isEmpty then return .error ⟨.repetitionCountDecimalEmpty, stretch⟩
  else if Nat.pow 2 32 ≤ n then return .error ⟨.decimalInvalid, stretch⟩
  else return .ok n

/-- Reads a repetition written by counts between braces. -/
def counted (concat : OpenConcat) : Parse OpenConcat := do
  let start ← position
  let (part, concat) ← repeated concat
  if !(← bumpPast) then refuse .repetitionCountUnclosed (← since start)
  let first ← count
  if ← atEnd then refuse .repetitionCountUnclosed (← since start)
  let (least, most) ←
    if (← current?) = some ',' then do
      if !(← bumpPast) then refuse .repetitionCountUnclosed (← since start)
      if (← current?) = some '\x7d' then do
        let least ← MonadExcept.ofExcept first
        pure (least, none)
      else do
        let least ← MonadExcept.ofExcept first
        let most ← MonadExcept.ofExcept (← count)
        pure (least, some most)
    else do
      let n ← MonadExcept.ofExcept first
      pure (n, some n)
  if (← current?) != some '\x7d' then refuse .repetitionCountUnclosed (← since start)
  let greedy ←
    if (← bumpPast) && (← current?) = some '?' then do
      discard bump
      pure false
    else pure true
  let operator ← since start
  if most.any (· < least) then refuse .repetitionCountInvalid operator
  let stretch : Stretch := ⟨part.stretch.start, operator.stop⟩
  return ⟨concat.start, concat.parts ++ [.repetition stretch least most greedy part]⟩

/-- Reads a pattern with a stack of what is open; `fuel` bounds the steps. -/
def sequence : Nat → List Frame → OpenConcat → Parse Ast
  | 0, _, concat => do return concat.close (← position)
  | fuel + 1, stack, concat => do
    bumpBlanks
    let push (part : Ast) : OpenConcat := ⟨concat.start, concat.parts ++ [part]⟩
    match ← current? with
    | none =>
      let (whole, rest) := endGroup stack concat (← position)
      match rest with
      | .group _ stretch _ _ :: _ => refuse .groupUnclosed stretch
      | _ => return whole
    | some '(' =>
      match ← opening with
      | .flags stretch items =>
        match flagState .ignoreBlank items with
        | some on => modify fun r ↦ { r with ignoreBlank := on }
        | none => pure ()
        sequence fuel stack (push (.flags stretch items))
      | .group stretch kind =>
        let old := (← get).ignoreBlank
        match kind with
        | .flagged items =>
          modify fun r ↦ { r with ignoreBlank := (flagState .ignoreBlank items).getD old }
        | .capturing => pure ()
        sequence fuel (.group concat stretch kind old :: stack) ⟨← position, []⟩
    | some ')' =>
      let (body, rest) := endGroup stack concat (← position)
      match rest with
      | .group before stretch kind ignoreBlank :: rest =>
        discard bump
        modify fun r ↦ { r with ignoreBlank := ignoreBlank }
        let group := Ast.group ⟨stretch.start, ← position⟩ kind body
        sequence fuel rest ⟨before.start, before.parts ++ [group]⟩
      | _ => refuse .groupUnopened (← nextStretch)
    | some '|' =>
      let stack := endBranch stack concat (← position)
      discard bump
      sequence fuel stack ⟨← position, []⟩
    | some '[' =>
      let (frame, u) ← openClass ⟨← position, []⟩
      let part ← bracketed ((← get).chars.size + 1) [frame] u
      sequence fuel stack (push part)
    | some '?' => sequence fuel stack (← uncounted concat 0 (some 1))
    | some '*' => sequence fuel stack (← uncounted concat 0 none)
    | some '+' => sequence fuel stack (← uncounted concat 1 none)
    | some '\x7b' => sequence fuel stack (← counted concat)
    | some c =>
      let part ← primitive c
      sequence fuel stack (push part.toAst)

/-- Reads a whole pattern. -/
def Ast.ofString (pattern : String) : Except Fault Ast := do
  let chars := pattern.toList.toArray
  let (ast, _) ← (sequence (2 * chars.size + 2) [] ⟨0, []⟩).run ⟨chars, 0, false, []⟩
  ast.checkNesting 0
  return ast

end ScriptSandbox.Pattern

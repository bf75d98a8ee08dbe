import ScriptSandbox.Pattern.Ast
import ScriptSandbox.Pattern.Fault

/-!
# How deep patterns nest

A pattern nests no deeper than a limit. Each part that holds others is one level deeper than what
it is in; literals and other primitives add none.
-/

namespace ScriptSandbox.Pattern

/-- How deep a pattern may nest. -/
def nestLimit : Nat := 250

/-- A part at depth `depth`, counted from 1, is too deep if that is over the limit. -/
def checkDepth (depth : Nat) (stretch : Stretch) : Except Fault Unit :=
  if nestLimit < depth then .error ⟨.nestLimitExceeded nestLimit, stretch⟩ else .ok ()

mutual

/-- Checks the nesting of an item of a class. -/
def ClassItem.checkNesting (depth : Nat) : ClassItem → Except Fault Unit
  | .bracketed s _ set => do
    checkDepth (depth + 1) s
    set.checkNesting (depth + 1)
  | .union s items => do
    checkDepth (depth + 1) s
    ClassItem.checkAll (depth + 1) items
  | _ => .ok ()

/-- Checks the nesting of items. -/
def ClassItem.checkAll (depth : Nat) : List ClassItem → Except Fault Unit
  | [] => .ok ()
  | item :: rest => do
    item.checkNesting depth
    ClassItem.checkAll depth rest

/-- Checks the nesting of a set. -/
def ClassSet.checkNesting (depth : Nat) : ClassSet → Except Fault Unit
  | .item i => i.checkNesting depth
  | .op s _ left right => do
    checkDepth (depth + 1) s
    left.checkNesting (depth + 1)
    right.checkNesting (depth + 1)

end

mutual

/-- Checks the nesting of a part. -/
def Ast.checkNesting (depth : Nat) : Ast → Except Fault Unit
  | .bracketed s _ set => do
    checkDepth (depth + 1) s
    set.checkNesting (depth + 1)
  | .repetition s _ _ _ body => do
    checkDepth (depth + 1) s
    body.checkNesting (depth + 1)
  | .group s _ body => do
    checkDepth (depth + 1) s
    body.checkNesting (depth + 1)
  | .alternation s branches => do
    checkDepth (depth + 1) s
    Ast.checkAll (depth + 1) branches
  | .concat s parts => do
    checkDepth (depth + 1) s
    Ast.checkAll (depth + 1) parts
  | _ => .ok ()

/-- Checks the nesting of parts. -/
def Ast.checkAll (depth : Nat) : List Ast → Except Fault Unit
  | [] => .ok ()
  | part :: rest => do
    part.checkNesting depth
    Ast.checkAll depth rest

end

end ScriptSandbox.Pattern

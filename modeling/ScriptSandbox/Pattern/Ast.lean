/-!
# Syntax trees of patterns

What a pattern says, with the stretch of its text that each part covers. Places are counted in
characters from the start of the pattern.
-/

namespace ScriptSandbox.Pattern

/-- A stretch of a pattern, from a place up to before another. -/
structure Stretch where
  /-- Where it begins. -/
  start : Nat
  /-- Where it ends. -/
  stop : Nat
  deriving DecidableEq, Repr, Inhabited

/-- The classes written by a backslash and one letter. -/
inductive Shorthand where
  | digit
  | space
  | word
  deriving DecidableEq, Repr

/-- What stands after `\p`. -/
inductive PropertyQuery where
  /-- A single letter. -/
  | letter (c : Char)
  /-- A name between braces. -/
  | named (name : String)
  /-- A property and a value of it. -/
  | valued (property value : String)
  deriving DecidableEq, Repr

/-- The set operations of bracketed classes. -/
inductive SetOp where
  | intersection
  | difference
  | symmetricDifference
  deriving DecidableEq, Repr

/-- A character as it is written. -/
structure Literal where
  /-- Where it is written. -/
  stretch : Stretch
  /-- The character. -/
  char : Char
  /-- Whether it is written by two hexadecimal digits. -/
  byte : Bool
  deriving DecidableEq, Repr

mutual

/-- A part of a bracketed class. -/
inductive ClassItem where
  | empty (stretch : Stretch)
  | literal (l : Literal)
  | range (stretch : Stretch) (lo hi : Literal)
  /-- A class of ASCII characters, by name. -/
  | ascii (stretch : Stretch) (name : String) (negated : Bool)
  | property (stretch : Stretch) (query : PropertyQuery) (negated : Bool)
  | shorthand (stretch : Stretch) (kind : Shorthand) (negated : Bool)
  | bracketed (stretch : Stretch) (negated : Bool) (set : ClassSet)
  | union (stretch : Stretch) (items : List ClassItem)

/-- What a bracketed class holds: items, or an operation on two sets. -/
inductive ClassSet where
  | item (i : ClassItem)
  | op (stretch : Stretch) (kind : SetOp) (left right : ClassSet)

end

instance : Inhabited ClassSet := ⟨.item (.empty ⟨0, 0⟩)⟩

/-- The stretch of an item. -/
def ClassItem.stretch : ClassItem → Stretch
  | literal l => l.stretch
  | empty s | range s .. | ascii s .. | property s .. | shorthand s .. | bracketed s ..
  | union s .. => s

/-- The stretch of a set. -/
def ClassSet.stretch : ClassSet → Stretch
  | item i => i.stretch
  | op s .. => s

/-- The flags a pattern can set. -/
inductive Flag where
  | caseInsensitive
  | multiLine
  | dotMatchesNewLine
  | swapGreed
  | unicode
  | crlf
  | ignoreBlank
  deriving DecidableEq, Repr

/-- One character of a list of flags. -/
inductive FlagItem where
  | negation
  | flag (f : Flag)
  deriving DecidableEq, Repr

/-- Whether a list of flags switches a flag on or off; `none` if it does not say. -/
def flagState (f : Flag) (items : List FlagItem) : Option Bool :=
  go true items
where
  /-- Reads the list, switching on until the negation. -/
  go (on : Bool) : List FlagItem → Option Bool
    | [] => none
    | .negation :: rest => go false rest
    | .flag g :: rest => if f = g then some on else go on rest

/-- The conditions on a place that a pattern can state. -/
inductive Assertion where
  | startLine
  | endLine
  | startText
  | endText
  | wordBoundary
  | notWordBoundary
  | wordStart
  | wordEnd
  | wordStartHalf
  | wordEndHalf
  deriving DecidableEq, Repr

/-- How the text of a group is delimited. -/
inductive GroupKind where
  | capturing
  | flagged (items : List FlagItem)
  deriving DecidableEq, Repr

/-- A pattern or a part of it. -/
inductive Ast where
  | empty (stretch : Stretch)
  | flags (stretch : Stretch) (items : List FlagItem)
  | literal (l : Literal)
  | dot (stretch : Stretch)
  | assertion (stretch : Stretch) (kind : Assertion)
  | property (stretch : Stretch) (query : PropertyQuery) (negated : Bool)
  | shorthand (stretch : Stretch) (kind : Shorthand) (negated : Bool)
  | bracketed (stretch : Stretch) (negated : Bool) (set : ClassSet)
  | repetition (stretch : Stretch) (least : Nat) (most : Option Nat) (greedy : Bool) (body : Ast)
  | group (stretch : Stretch) (kind : GroupKind) (body : Ast)
  | alternation (stretch : Stretch) (branches : List Ast)
  | concat (stretch : Stretch) (parts : List Ast)
  deriving Inhabited

/-- The stretch of a part. -/
def Ast.stretch : Ast → Stretch
  | literal l => l.stretch
  | empty s | flags s .. | dot s | assertion s .. | property s .. | shorthand s ..
  | bracketed s .. | repetition s .. | group s .. | alternation s .. | concat s .. => s

end ScriptSandbox.Pattern

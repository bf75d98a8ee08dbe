import ScriptSandbox.Pattern.Class
import ScriptSandbox.Pattern.Fault
import ScriptSandbox.Pattern.Node
import ScriptSandbox.Unicode.CaseFolding

/-!
# The meaning of a pattern

A pattern with its flags worked in: characters are sets of characters, and assertions name the one
condition they state. Flags hold from where they are set to the end of the group.
-/

namespace ScriptSandbox.Pattern

open ScriptSandbox.Text ScriptSandbox.Unicode

/-- The flags in force. -/
structure Flags where
  caseInsensitive : Bool
  multiLine : Bool
  dotMatchesNewLine : Bool
  swapGreed : Bool
  unicode : Bool
  crlf : Bool
  deriving DecidableEq, Repr

/-- The flags in force at the start of a pattern. -/
def Flags.default : Flags := ⟨false, false, false, false, true, false⟩

/-- The flags after a list of flags. -/
def Flags.set (f : Flags) (items : List FlagItem) : Flags :=
  let get (flag : Flag) (old : Bool) : Bool := (flagState flag items).getD old
  { caseInsensitive := get .caseInsensitive f.caseInsensitive
    multiLine := get .multiLine f.multiLine
    dotMatchesNewLine := get .dotMatchesNewLine f.dotMatchesNewLine
    swapGreed := get .swapGreed f.swapGreed
    unicode := get .unicode f.unicode
    crlf := get .crlf f.crlf }

/-- A step of working in flags: it may change the flags and find a fault. -/
abbrev Meaning := StateT Flags (Except Fault)

/-- A set closed under case where case does not matter. -/
def Flags.fold (f : Flags) (s : CharSet) : CharSet :=
  if f.caseInsensitive then
    if f.unicode then closeUnderCase s else closeUnderAsciiCase s
  else s

/-- A set, negated on demand. Without Unicode a set of bytes must not leave ASCII, or it could
match part of a character. -/
def Flags.finish (f : Flags) (stretch : Stretch) (negated : Bool) (s : CharSet) :
    Except Fault CharSet :=
  let s := if negated then s.complement else s
  if f.unicode || s.ranges.all fun r ↦ r.2 < 128 then .ok s
  else .error ⟨.invalidText, stretch⟩

/-- The characters of a property query. -/
def Flags.property (f : Flags) (stretch : Stretch) (query : PropertyQuery) (negated : Bool) :
    Except Fault CharSet :=
  if !f.unicode then .error ⟨.unicodeNotAllowed, stretch⟩
  else
    match query.chars with
    | .ok s => f.finish stretch negated (f.fold s)
    | .error .property => .error ⟨.propertyNotFound, stretch⟩
    | .error .value => .error ⟨.propertyValueNotFound, stretch⟩

/-- The code point of a member of a class. Without Unicode the members are bytes, and a byte beyond
ASCII is part of a character only. -/
def Flags.member (f : Flags) (l : Literal) : Except Fault Nat :=
  if f.unicode || l.char.toNat < 128 then .ok l.char.toNat
  else .error ⟨if l.byte then .invalidText else .unicodeNotAllowed, l.stretch⟩

mutual

/-- The characters of an item of a class. -/
def ClassItem.chars (f : Flags) : ClassItem → Except Fault CharSet
  | .empty _ => .ok .empty
  | .literal l => do
    let n ← f.member l
    return .range n n
  | .range _ lo hi => do
    let first ← f.member lo
    let last ← f.member hi
    return .range first last
  | .ascii s name negated => f.finish s negated (f.fold (asciiChars name))
  | .property s query negated => f.property s query negated
  | .shorthand s kind negated => f.finish s negated (kind.chars f.unicode)
  | .bracketed s negated set => do
    let inner ← set.chars f
    f.finish s negated (f.fold inner)
  | .union _ items => ClassItem.charsAll f items

/-- The characters of any of some items. -/
def ClassItem.charsAll (f : Flags) : List ClassItem → Except Fault CharSet
  | [] => .ok .empty
  | item :: rest => do
    let s ← item.chars f
    let t ← ClassItem.charsAll f rest
    return s.union t

/-- The characters of a set. -/
def ClassSet.chars (f : Flags) : ClassSet → Except Fault CharSet
  | .item i => i.chars f
  | .op _ kind left right => do
    let s ← left.chars f
    let t ← right.chars f
    let s := f.fold s
    let t := f.fold t
    return match kind with
      | .intersection => s.inter t
      | .difference => s.diff t
      | .symmetricDifference => s.symmDiff t

end

/-- The condition that an assertion states. -/
def Flags.look (f : Flags) : Assertion → Look
  | .startLine =>
    if f.multiLine then if f.crlf then .startLineCrlf else .startLine else .start
  | .endLine => if f.multiLine then if f.crlf then .stopLineCrlf else .stopLine else .stop
  | .startText => .start
  | .endText => .stop
  | .wordBoundary => .boundary f.unicode
  | .notWordBoundary => .notBoundary f.unicode
  | .wordStart => .wordStart f.unicode
  | .wordEnd => .wordEnd f.unicode
  | .wordStartHalf => .wordStartHalf f.unicode
  | .wordEndHalf => .wordEndHalf f.unicode

/-- The characters that a dot matches. -/
def Flags.dot (f : Flags) : CharSet :=
  if f.dotMatchesNewLine then .full
  else if f.crlf then (CharSet.ofRanges [(10, 10), (13, 13)]).complement
  else (CharSet.singleton '\n').complement

mutual

/-- The meaning of a part of a pattern under the flags in force. -/
def Ast.toNode : Ast → Meaning Node
  | .empty _ => return .empty
  | .flags _ items => do
    modify (·.set items)
    return .empty
  | .literal l => do
    let f ← get
    if !f.unicode && l.byte && 128 ≤ l.char.toNat then throw ⟨.invalidText, l.stretch⟩
    return .ofChars (f.fold (.singleton l.char))
  | .dot s => do
    let f ← get
    if !f.unicode then throw ⟨.invalidText, s⟩
    return .ofChars f.dot
  | .assertion _ kind => return .look ((← get).look kind)
  | .property s query negated => do
    let f ← get
    return .ofChars (← MonadExcept.ofExcept (f.property s query negated))
  | .shorthand s kind negated => do
    let f ← get
    return .ofChars (← MonadExcept.ofExcept (f.finish s negated (kind.chars f.unicode)))
  | .bracketed s negated set => do
    let f ← get
    let inner ← MonadExcept.ofExcept (set.chars f)
    return .ofChars (← MonadExcept.ofExcept (f.finish s negated (f.fold inner)))
  | .repetition _ least most greedy body => do
    let node ← body.toNode
    return .repeated least most (greedy != (← get).swapGreed) node
  | .group s kind body => do
    let old ← get
    match kind with
    | .flagged items => modify (·.set items)
    | .capturing => pure ()
    let node ← body.toNode
    set old
    return match kind with
      | .flagged _ => node
      | .capturing => .group s.start node
  | .alternation _ branches => return .choice (← Ast.toNodes branches)
  | .concat _ parts => return .sequence (← Ast.toNodes parts)

/-- The meanings of parts that follow one another in the text. -/
def Ast.toNodes : List Ast → Meaning (List Node)
  | [] => return []
  | part :: rest => do
    let node ← part.toNode
    let nodes ← Ast.toNodes rest
    return node :: nodes

end

/-- The meaning of a whole pattern. -/
def Node.ofAst (ast : Ast) : Except Fault Node := do
  let (node, _) ← ast.toNode.run .default
  return node

end ScriptSandbox.Pattern

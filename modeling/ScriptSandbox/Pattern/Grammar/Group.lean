import ScriptSandbox.Pattern.Grammar.Primitive

/-!
# The grammar of groups

What stands after an opening parenthesis: a name, flags, or nothing. A flag is set once at most,
and two groups never share a name.
-/

namespace ScriptSandbox.Pattern

/-- Reads a flag. -/
def flag (c : Char) : Parse Flag := do
  match c with
  | 'i' => return .caseInsensitive
  | 'm' => return .multiLine
  | 's' => return .dotMatchesNewLine
  | 'U' => return .swapGreed
  | 'u' => return .unicode
  | 'R' => return .crlf
  | 'x' => return .ignoreBlank
  | _ => refuse .flagUnrecognized (← nextStretch)

/-- Reads flags up to a colon or a closing parenthesis; `dangling` is the place of a negation that
no flag follows yet. -/
def flags : Nat → List (FlagItem × Stretch) → Option Stretch → Parse (List FlagItem)
  | 0, _, _ => do refuse .flagUnexpectedEnd (← here)
  | fuel + 1, items, dangling => do
    let stretch ← nextStretch
    let more (item : FlagItem) (repeated : Stretch → FaultKind) (dangling : Option Stretch) :
        Parse (List FlagItem) := do
      match items.find? (·.1 = item) with
      | some (_, first) => refuse (repeated first) stretch
      | none =>
        if !(← bump) then refuse .flagUnexpectedEnd (← here)
        flags fuel (items ++ [(item, stretch)]) dangling
    match ← current? with
    | none => refuse .flagUnexpectedEnd (← here)
    | some c =>
      if c = ':' || c = ')' then
        match dangling with
        | some stretch => refuse .flagDanglingNegation stretch
        | none => return items.map (·.1)
      else if c = '-' then more .negation .flagRepeatedNegation (some stretch)
      else do
        let f ← flag c
        more (.flag f) .flagDuplicate none

/-- Reads the name of a group up to its closing angle bracket; `fuel` bounds the characters left. -/
def groupNameChars (start : Nat) : Nat → List Char → Parse (List Char)
  | 0, name => return name
  | fuel + 1, name => do
    match ← current? with
    | none => return name
    | some '>' => return name
    | some c =>
      if isNameChar ((← position) = start) c then
        discard bump
        groupNameChars start fuel (name ++ [c])
      else refuse .groupNameInvalid (← nextStretch)

/-- Reads the name of a group. -/
def groupName : Parse Unit := do
  if ← atEnd then refuse .groupNameUnexpectedEnd (← here)
  let start ← position
  let name ← groupNameChars start (← get).chars.size []
  let stop ← position
  if ← atEnd then refuse .groupNameUnexpectedEnd (← here)
  discard bump
  if name.isEmpty then refuse .groupNameEmpty ⟨start, start⟩
  let name := String.ofList name
  match (← get).names.lookup name with
  | some first => refuse (.groupNameDuplicate first) ⟨start, stop⟩
  | none => modify fun r ↦ { r with names := (name, ⟨start, stop⟩) :: r.names }

/-- What an opening parenthesis turns out to be. -/
inductive Opening where
  /-- Flags for the rest of the group around. -/
  | flags (stretch : Stretch) (items : List FlagItem)
  /-- A group that begins at a stretch. -/
  | group (stretch : Stretch) (kind : GroupKind)

/-- Reads an opening parenthesis and what belongs to it. -/
def opening : Parse Opening := do
  let paren ← nextStretch
  discard bump
  bumpBlanks
  for look in ["?=", "?!", "?<=", "?<!"] do
    if ← bumpIf look then refuse .unsupportedLookAround (← since paren.start)
  let inner ← here
  if (← bumpIf "?P<") || (← bumpIf "?<") then
    groupName
    return .group paren .capturing
  else if ← bumpIf "?" then
    if ← atEnd then refuse .groupUnclosed paren
    let items ← flags ((← get).chars.size + 1) [] none
    let closing ← current?
    discard bump
    if closing = some ')' then
      if items.isEmpty then refuse .repetitionMissing inner
      return .flags (← since paren.start) items
    else return .group paren (.flagged items)
  else return .group paren .capturing

end ScriptSandbox.Pattern

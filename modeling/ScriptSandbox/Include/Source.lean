import ScriptSandbox.Include.Provider
import ScriptSandbox.Pattern.Search
import ScriptSandbox.Text.NameSet

/-!
# Sources of fragments

The providers a sandbox comes with, and the rules by which a host's own provider can make up
fragments. A source recognises the part of a reference that its pattern matches. None of them has
a state, so each is a provider whose answers depend on the question alone.
-/

namespace ScriptSandbox.Include

open ScriptSandbox.Text ScriptSandbox.Pattern

/-- A rule that makes up the fragment of a token. -/
inductive Rule where
  /-- There is none, for a reason. -/
  | fail (reason : String)
  /-- The token is not known. -/
  | missing
  /-- A text in which the token and its successor are put in. -/
  | template (text : String)
  deriving Repr

/-- A text in which every occurrence of `mark` is replaced; `fuel` bounds the characters left. -/
def replaceAll (mark replacement : List Char) : Nat → List Char → List Char
  | 0, text => text
  | _, [] => []
  | fuel + 1, c :: rest =>
    match dropLead? mark (c :: rest) with
    | some after => replacement ++ replaceAll mark replacement fuel after
    | none => c :: replaceAll mark replacement fuel rest

/-- The number after the one that a token writes, within 64 bits; a token that is no number counts
as zero. -/
def successor (token : String) : Nat :=
  let digits := match token.toList with
    | '+' :: rest => rest
    | cs => cs
  let n :=
    if digits.isEmpty || !digits.all Char.isDigit then 0
    else digits.foldl (fun n c ↦ n * 10 + (c.toNat - 48)) 0
  if Nat.pow 2 64 ≤ n then 1 else (n + 1) % Nat.pow 2 64

/-- The fragment that a rule makes up for a token. -/
def Rule.fragment (rule : Rule) (token : String) : Except HostError (List Char) :=
  match rule with
  | fail reason => .error (.provider token reason)
  | missing => .error (.sourceNotFound token)
  | template text =>
    let put (mark : String) (replacement : List Char) (text : List Char) : List Char :=
      replaceAll mark.toList replacement text.length text
    .ok (put "\x7bnext\x7d" (toString (successor token)).toList
      (put "\x7btoken\x7d" token.toList text.toList))

/-- A provider of fragments without a state. -/
inductive Source where
  /-- Fragments by token. -/
  | memory (pattern : Compiled) (fragments : NameMap String)
  /-- Fragments made up by a rule. -/
  | computed (pattern : Compiled) (rule : Rule)
  /-- Recognises one text wherever it stands. -/
  | literal (needle : String) (rule : Rule)

namespace Source

/-- Reads the pattern of a source. -/
def compile (pattern : String) : Except HostError Compiled :=
  match Compiled.ofString pattern with
  | .ok p => .ok p
  | .error e => .error (.invalidPattern pattern (e.message pattern))

/-- Fragments by token, for references that match a pattern. -/
def ofFragments (pattern : String) (fragments : List (String × String)) :
    Except HostError Source := do
  let p ← compile pattern
  return .memory p (fragments.foldl (fun m (token, text) ↦ m.insert token text) .empty)

/-- Fragments made up by a rule, for references that match a pattern. -/
def ofRule (pattern : String) (rule : Rule) : Except HostError Source := do
  return .computed (← compile pattern) rule

/-- A source with one more fragment, in place of an old one of the token. -/
def add (token text : String) : Source → Source
  | memory p fragments => memory p (fragments.insert token text)
  | s => s

/-- The part of a reference that a source recognises. -/
def find (reference : String) : Source → Option String
  | memory p _ | computed p _ => p.find? reference
  | literal needle _ =>
    if (splitAt? needle.toList [] reference.toList).isSome || needle.isEmpty then some needle
    else none

/-- The fragment of a token. -/
def fetch (token : String) : Source → Except HostError (List Char)
  | memory _ fragments =>
    match fragments.get? token with
    | some text => .ok text.toList
    | none => .error (.sourceNotFound token)
  | computed _ rule | literal _ rule => rule.fragment token

/-- A source as a provider. -/
def provider {σ : Type} (s : Source) : Provider σ :=
  .ofFunctions (fun reference ↦ s.find reference) (fun token ↦ s.fetch token)

/-- A source, for diagnostics. -/
def diagnostic : Source → String
  | memory p fragments =>
    let entries := fragments.toList.map fun (token, text) ↦ quote token ++ ": " ++ quote text
    record "MemoryProvider" [("pattern", "Regex(" ++ quote p.source ++ ")"),
      ("sources", bracketed "\x7b" "\x7d" entries)]
  | computed p _ => "PatternProvider \x7b pattern: " ++ quote p.source ++ ", .. \x7d"
  | literal needle _ => record "Literal" [("needle", quote needle)]

end Source

end ScriptSandbox.Include

import ScriptSandbox.Event
import ScriptSandbox.Text.Quoted
import ScriptSandbox.Text.NameSet
import ScriptSandbox.Include.Line
import ScriptSandbox.Include.Provider

/-!
# Expansion of directives

A source is expanded line by line. A directive line gives way to the expanded fragment of its
token, any other line is kept, and the whole is trimmed. A token is expanded at most once in a
resolution: the set of visited tokens only grows, and a directive whose token is in it contributes
nothing, which also ends cycles. Nesting is limited; the expansion recurses on the levels left.
-/

namespace ScriptSandbox.Include

open ScriptSandbox.Text

/-- The nesting limit where none is given. -/
def defaultMaxDepth : Nat := 64

/-- The tokens expanded so far. -/
structure Visited where
  /-- The tokens. -/
  tokens : NameSet
  deriving DecidableEq, Repr, Inhabited

namespace Visited

/-- No token yet. -/
def empty : Visited := ⟨.empty⟩

/-- Whether a token has been expanded. -/
def contains (v : Visited) (token : String) : Bool := v.tokens.contains token

/-- The tokens with one more. -/
def insert (v : Visited) (token : String) : Visited := ⟨v.tokens.insert token⟩

/-- The number of tokens. -/
def size (v : Visited) : Nat := v.tokens.size

/-- Whether there is no token. -/
def isEmpty (v : Visited) : Bool := v.tokens.isEmpty

/-- The tokens in ascending order. -/
def toList (v : Visited) : List String := v.tokens.toList

/-- The tokens, for diagnostics. -/
def diagnostic (v : Visited) : String :=
  Text.record "VisitedSet" [("tokens", Text.bracketed "\x7b" "\x7d" (v.toList.map Text.quote))]

@[simp] theorem contains_insert (v : Visited) (token other : String) :
    (v.insert token).contains other = (other == token || v.contains other) :=
  NameSet.contains_insert ..

end Visited

/-- What a resolution has met so far. -/
structure Trail (σ : Type) where
  /-- The state of the host's providers. -/
  host : σ
  /-- The tokens expanded. -/
  visited : Visited
  /-- The references dropped, in the order they were met. -/
  unresolved : List String
  /-- The tokens asked for, each with the position of the provider asked. -/
  fetched : List (Nat × String)
  /-- What an observer was told. -/
  events : List Event

namespace Trail

variable {σ : Type}

/-- The trail of a resolution that starts with some tokens visited. -/
def start (host : σ) (visited : Visited) : Trail σ := ⟨host, visited, [], [], []⟩

/-- A reference is dropped, and an observer told. -/
def drop (t : Trail σ) (reference : String) (event : Event) : Trail σ :=
  { t with unresolved := t.unresolved ++ [reference], events := t.events ++ [event] }

/-- A token is about to be fetched from the provider at a position. -/
def visit (t : Trail σ) (index : Nat) (token : String) : Trail σ :=
  { t with visited := t.visited.insert token, fetched := t.fetched ++ [(index, token)] }

end Trail

/-- No provider recognises a reference. -/
def unmatched (reference : String) : Event :=
  .note .debug "no provider matched include; dropped" [("reference", reference)]

/-- A directive lies deeper than the limit. -/
def tooDeep (reference : String) (limit : Nat) : Event :=
  .note .warn "include nesting too deep; dropped"
    [("reference", reference), ("max_depth", toString limit)]

/-- A provider failed to produce a fragment. -/
def fetchFailed (token : String) (e : HostError) : Event :=
  .note .warn "include fetch failed; dropped" [("token", token), ("error", e.message)]

variable {σ : Type}

/-- What turns a source into its expansion and lengthens the trail. -/
abbrev Expander (σ : Type) := List Char → Trail σ → List Char × Trail σ

/-- The contribution of one line. `inner` expands fragments; it is absent at the deepest level,
where every directive that is not skipped is dropped. -/
def expandLine (providers : List (Provider σ)) (limit : Nat) (inner : Option (Expander σ))
    (line : List Char) (trail : Trail σ) : List Char × Trail σ :=
  match reference? line with
  | none => (line ++ ['\n'], trail)
  | some reference =>
    let (found, host) := firstMatch 0 reference providers trail.host
    let trail := { trail with host := host }
    match found with
    | none => ([], trail.drop reference (unmatched reference))
    | some found =>
      if trail.visited.contains found.token then ([], trail)
      else
        match inner with
        | none => ([], trail.drop reference (tooDeep reference limit))
        | some inner =>
          let trail := trail.visit found.index found.token
          let (fragment, host) := found.provider.fetch found.token trail.host
          let trail := { trail with host := host }
          match fragment with
          | .error e => ([], trail.drop reference (fetchFailed found.token e))
          | .ok fragment =>
            let (text, trail) := inner fragment trail
            (text ++ ['\n'], trail)

/-- The contributions of some lines, one after another. -/
def expandLines (providers : List (Provider σ)) (limit : Nat) (inner : Option (Expander σ)) :
    List (List Char) → Trail σ → List Char × Trail σ
  | [], trail => ([], trail)
  | line :: rest, trail =>
    let (text, trail) := expandLine providers limit inner line trail
    let (more, trail) := expandLines providers limit inner rest trail
    (text ++ more, trail)

/-- The expansion of a source, with `levels` levels of directives left of `limit`. -/
def expand (providers : List (Provider σ)) (limit : Nat) : Nat → Expander σ
  | 0, source, trail =>
    let (text, trail) := expandLines providers limit none (lines source) trail
    (trim text, trail)
  | levels + 1, source, trail =>
    let (text, trail) :=
      expandLines providers limit (some (expand providers limit levels)) (lines source) trail
    (trim text, trail)

/-- A list of providers, in order of precedence, and a nesting limit. -/
structure Resolver (σ : Type) where
  /-- The providers. -/
  providers : List (Provider σ)
  /-- How deep directives may nest. -/
  maxDepth : Nat := defaultMaxDepth

/-- A source with its directives expanded, and the trail of the expansion. -/
structure Resolution (σ : Type) where
  /-- The expanded source. -/
  text : List Char
  /-- What was met on the way. -/
  trail : Trail σ

namespace Resolution

/-- The tokens expanded. -/
def visited (r : Resolution σ) : Visited := r.trail.visited

/-- The references dropped. -/
def unresolved (r : Resolution σ) : List String := r.trail.unresolved

end Resolution

namespace Resolver

/-- Expands a source whose tokens in `visited` count as expanded already. -/
def resolveWith (r : Resolver σ) (host : σ) (visited : Visited) (source : List Char) :
    Resolution σ :=
  let (text, trail) :=
    expand r.providers r.maxDepth r.maxDepth source (.start host visited)
  ⟨text, trail⟩

/-- Expands a source from the beginning. -/
def resolve (r : Resolver σ) (host : σ) (source : List Char) : Resolution σ :=
  r.resolveWith host .empty source

end Resolver

end ScriptSandbox.Include

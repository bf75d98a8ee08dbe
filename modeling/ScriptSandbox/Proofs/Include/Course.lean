import Mathlib.Data.List.Basic
import ScriptSandbox.Proofs.Include.Contents
import ScriptSandbox.Proofs.Include.Visiting

/-!
# The course of an expansion

An expansion leaves a text and a trail, but not which line came from where, nor what became of each
directive. Its *course* does: one entry for each line met, in the order in which they were met,
with the text the line stands in, its number there, and its fate. `settle` is what an expansion does
with a line short of expanding its fragment, so a course is written by the same steps
(`expandLine_eq_settle`).

`Unfolds` is the course as a relation, one case for each thing that can come next: no line, a line
that is done with at once, and a directive whose fragment is expanded before the next line. Whatever
is true of a whole course is proved by induction on it, and what a single line does to the trail is
said once, in `Settles`. That an expansion unfolds to its course is `tells_expand`.

Two facts carry the rest. `Unfolds.exists_settles` says for each entry with which tokens visited its
line was met: those visited at the beginning and those fetched by the entries before it. And in a
course each text stands once, line by line and in order (`Unfolds.map_filter_own`,
`Unfolds.map_filter_opened`), however the fragments are nested.
-/

namespace ScriptSandbox.Include

open ScriptSandbox.Text

variable {σ : Type}

/-! ### Entries -/

/-- The text that a line stands in. -/
inductive Origin where
  /-- The text that is expanded. -/
  | source
  /-- The fragment of a token. -/
  | fragment (token : String)
  deriving DecidableEq, Repr

/-- What becomes of a line. -/
inductive Fate where
  /-- The line is ordinary, and kept. -/
  | kept
  /-- No provider recognises the reference; the directive is dropped. -/
  | unmatched
  /-- The token has been visited; the directive contributes nothing. -/
  | skipped (token : String)
  /-- The directive lies deeper than the limit, and is dropped. -/
  | tooDeep (token : String)
  /-- The token was asked for in vain; the directive is dropped. -/
  | failed (token : String) (e : HostError)
  /-- The directive gives way to the expansion of a fragment. -/
  | expanded (token : String) (fragment : List Char)
  deriving DecidableEq, Repr

namespace Fate

/-- The token that a provider recognised. -/
def token? : Fate → Option String
  | kept | unmatched => none
  | skipped token | tooDeep token | failed token _ | expanded token _ => some token

/-- The token that a provider was asked for. -/
def fetched? : Fate → Option String
  | failed token _ | expanded token _ => some token
  | _ => none

/-- The token whose fragment was expanded, and the fragment. -/
def opened? : Fate → Option (String × List Char)
  | expanded token fragment => some (token, fragment)
  | _ => none

/-- The fate of a directive whose token was asked for, by the answer. -/
def ofAnswer (token : String) : Except HostError (List Char) → Fate
  | .ok fragment => expanded token fragment
  | .error e => failed token e

/-- Whether a directive was dropped. -/
def isDropped : Fate → Bool
  | unmatched | tooDeep _ | failed _ _ => true
  | _ => false

/-- What a line contributes to the text, unless a fragment is expanded in its place. -/
def contribution (line : List Char) : Fate → List Char
  | kept => line ++ ['\n']
  | _ => []

theorem token?_of_fetched? {fate : Fate} {token : String} (h : fate.fetched? = some token) :
    fate.token? = some token := by
  cases fate with
  | failed | expanded => exact h
  | kept | unmatched | skipped | tooDeep => cases h

theorem opened?_eq_some_iff {fate : Fate} {token : String} {fragment : List Char} :
    fate.opened? = some (token, fragment) ↔ fate = .expanded token fragment := by
  cases fate <;> simp [opened?]

end Fate

/-- A line that an expansion met. -/
structure Entry where
  /-- The text it stands in. -/
  origin : Origin
  /-- Its number there, from zero. -/
  number : Nat
  /-- The line itself. -/
  line : List Char
  /-- What became of it. -/
  fate : Fate
  deriving DecidableEq, Repr

namespace Entry

/-- The token that was asked for because of the line. -/
def fetched? (e : Entry) : Option String := e.fate.fetched?

/-- The token and the fragment that was expanded in place of the line. -/
def opened? (e : Entry) : Option (String × List Char) := e.fate.opened?

/-- The reference that was dropped with the line. -/
def dropped? (e : Entry) : Option String := if e.fate.isDropped then reference? e.line else none

/-- Whether the line stands in the expanded text, and is not blank. -/
def isOutput (e : Entry) : Bool := e.fate = .kept && !(trim e.line).isEmpty

/-- Whether the line stands in a certain text. -/
def isFrom (origin : Origin) (e : Entry) : Bool := e.origin = origin

/-- The line with its number. -/
def numbered (e : Entry) : List Char × Nat := (e.line, e.number)

end Entry

/-! ### Writing the course -/

/-- What an expansion does with a line short of expanding its fragment; `deeper` says whether
fragments are expanded at all. -/
def settle (providers : List (Provider σ)) (limit : Nat) (deeper : Bool) (line : List Char)
    (trail : Trail σ) : Fate × Trail σ :=
  match reference? line with
  | none => (.kept, trail)
  | some reference =>
    let (found, host) := firstMatch 0 reference providers trail.host
    let trail := { trail with host := host }
    match found with
    | none => (.unmatched, trail.drop reference (unmatched reference))
    | some found =>
      if trail.visited.contains found.token then (.skipped found.token, trail)
      else if deeper then
        let trail := trail.visit found.index found.token
        let (fragment, host) := found.provider.fetch found.token trail.host
        let trail := { trail with host := host }
        match fragment with
        | .error e => (.failed found.token e, trail.drop reference (fetchFailed found.token e))
        | .ok fragment => (.expanded found.token fragment, trail)
      else (.tooDeep found.token, trail.drop reference (tooDeep reference limit))

/-- What writes the course of a text. -/
abbrev Chronicler (σ : Type) := Origin → List Char → Trail σ → List Entry × Trail σ

/-- The entries of one line and of the fragment expanded in its place. -/
def courseLine (providers : List (Provider σ)) (limit : Nat) (inner : Option (Chronicler σ))
    (origin : Origin) (number : Nat) (line : List Char) (trail : Trail σ) :
    List Entry × Trail σ :=
  let (fate, trail) := settle providers limit inner.isSome line trail
  match fate, inner with
  | .expanded token fragment, some inner =>
    let (entries, trail) := inner (.fragment token) fragment trail
    (⟨origin, number, line, fate⟩ :: entries, trail)
  | _, _ => ([⟨origin, number, line, fate⟩], trail)

/-- The entries of some lines, one after another. -/
def courseLines (providers : List (Provider σ)) (limit : Nat) (inner : Option (Chronicler σ))
    (origin : Origin) : Nat → List (List Char) → Trail σ → List Entry × Trail σ
  | _, [], trail => ([], trail)
  | number, line :: rest, trail =>
    let (entries, trail) := courseLine providers limit inner origin number line trail
    let (more, trail) := courseLines providers limit inner origin (number + 1) rest trail
    (entries ++ more, trail)

/-- The course of a text's expansion with `levels` levels of directives left of `limit`. -/
def course (providers : List (Provider σ)) (limit : Nat) : Nat → Chronicler σ
  | 0, origin, source, trail => courseLines providers limit none origin 0 (lines source) trail
  | levels + 1, origin, source, trail =>
    courseLines providers limit (some (course providers limit levels)) origin 0 (lines source) trail

/-- The course of a resolution. -/
def Resolver.course (r : Resolver σ) (host : σ) (visited : Visited) (source : List Char) :
    List Entry :=
  (Include.course r.providers r.maxDepth r.maxDepth .source source (.start host visited)).1

/-! ### What can become of a line -/

/-- The fates of a line met with a trail, each with what leads to it and the trail it leaves. -/
inductive Settles (providers : List (Provider σ)) (limit : Nat) (deeper : Bool) (line : List Char)
    (t : Trail σ) : Fate → Trail σ → Prop
  | kept (hline : reference? line = none) : Settles providers limit deeper line t .kept t
  | unmatched {reference : String} {host : σ} (hline : reference? line = some reference)
      (hmatch : firstMatch 0 reference providers t.host = (none, host)) :
      Settles providers limit deeper line t .unmatched
        (Trail.drop { t with host := host } reference (unmatched reference))
  | skipped {reference : String} {found : Match σ} {host : σ}
      (hline : reference? line = some reference)
      (hmatch : firstMatch 0 reference providers t.host = (some found, host))
      (hseen : t.visited.contains found.token = true) :
      Settles providers limit deeper line t (.skipped found.token) { t with host := host }
  | tooDeep {reference : String} {found : Match σ} {host : σ}
      (hline : reference? line = some reference)
      (hmatch : firstMatch 0 reference providers t.host = (some found, host))
      (hnew : t.visited.contains found.token = false) (hdeep : deeper = false) :
      Settles providers limit deeper line t (.tooDeep found.token)
        (Trail.drop { t with host := host } reference (tooDeep reference limit))
  | failed {reference : String} {found : Match σ} {host host' : σ} {e : HostError}
      (hline : reference? line = some reference)
      (hmatch : firstMatch 0 reference providers t.host = (some found, host))
      (hnew : t.visited.contains found.token = false) (hdeep : deeper = true)
      (hfetch : found.provider.fetch found.token host = (.error e, host')) :
      Settles providers limit deeper line t (.failed found.token e)
        (Trail.drop { Trail.visit t found.index found.token with host := host' } reference
          (fetchFailed found.token e))
  | expanded {reference : String} {found : Match σ} {host host' : σ} {fragment : List Char}
      (hline : reference? line = some reference)
      (hmatch : firstMatch 0 reference providers t.host = (some found, host))
      (hnew : t.visited.contains found.token = false) (hdeep : deeper = true)
      (hfetch : found.provider.fetch found.token host = (.ok fragment, host')) :
      Settles providers limit deeper line t (.expanded found.token fragment)
        { Trail.visit t found.index found.token with host := host' }

variable {providers : List (Provider σ)} {limit : Nat}

theorem settles_settle (providers : List (Provider σ)) (limit : Nat) (deeper : Bool)
    (line : List Char) (t : Trail σ) :
    Settles providers limit deeper line t (settle providers limit deeper line t).1
      (settle providers limit deeper line t).2 := by
  unfold settle
  cases hline : reference? line with
  | none => exact .kept hline
  | some reference =>
    rcases hmatch : firstMatch 0 reference providers t.host with ⟨found, host⟩
    cases found with
    | none => simpa only [hmatch] using .unmatched hline hmatch
    | some found =>
      by_cases hseen : t.visited.contains found.token = true
      · simpa only [hmatch, hseen, if_true] using .skipped hline hmatch hseen
      · rw [Bool.not_eq_true] at hseen
        cases deeper with
        | false =>
          simpa only [hmatch, hseen, Bool.false_eq_true, if_false]
            using .tooDeep hline hmatch hseen rfl
        | true =>
          rcases hfetch : found.provider.fetch found.token host with ⟨fragment, host'⟩
          cases fragment with
          | error e =>
            simpa only [hmatch, hseen, Bool.false_eq_true, if_false, if_true, Trail.visit, hfetch]
              using .failed hline hmatch hseen rfl hfetch
          | ok fragment =>
            simpa only [hmatch, hseen, Bool.false_eq_true, if_false, if_true, Trail.visit, hfetch]
              using .expanded hline hmatch hseen rfl hfetch

/-- **An expansion settles each line, and then expands its fragment.** -/
theorem expandLine_eq_settle (inner : Option (Expander σ)) (line : List Char) (t : Trail σ) :
    expandLine providers limit inner line t =
      match settle providers limit inner.isSome line t, inner with
      | (.expanded _ fragment, t'), some f => ((f fragment t').1 ++ ['\n'], (f fragment t').2)
      | (fate, t'), _ => (fate.contribution line, t') := by
  unfold expandLine settle
  cases reference? line with
  | none => rfl
  | some reference =>
    rcases hmatch : firstMatch 0 reference providers t.host with ⟨found, host⟩
    cases found with
    | none => simp only [hmatch, Fate.contribution]
    | some found =>
      by_cases hseen : t.visited.contains found.token = true
      · simp only [hmatch, hseen, if_true, Fate.contribution]
      · rw [Bool.not_eq_true] at hseen
        cases inner with
        | none => simp only [hmatch, hseen, Bool.false_eq_true, if_false, Option.isSome_none,
            Fate.contribution]
        | some f =>
          rcases hfetch : found.provider.fetch found.token host with ⟨fragment, host'⟩
          cases fragment with
          | error e => simp only [hmatch, hseen, Bool.false_eq_true, if_false, Option.isSome_some,
              if_true, Trail.visit, hfetch, Fate.contribution]
          | ok fragment => simp only [hmatch, hseen, Bool.false_eq_true, if_false,
              Option.isSome_some, if_true, Trail.visit, hfetch]

theorem expandLine_of_opened?_eq_none {inner : Option (Expander σ)} {line : List Char}
    {t t' : Trail σ} {fate : Fate} (h : settle providers limit inner.isSome line t = (fate, t'))
    (hopened : fate.opened? = none) :
    expandLine providers limit inner line t = (fate.contribution line, t') := by
  cases fate with
  | expanded token fragment => cases hopened
  | _ => simp only [expandLine_eq_settle, h]

theorem courseLine_of_opened?_eq_none {inner : Option (Chronicler σ)} {origin : Origin}
    {number : Nat} {line : List Char} {t t' : Trail σ} {fate : Fate}
    (h : settle providers limit inner.isSome line t = (fate, t')) (hopened : fate.opened? = none) :
    courseLine providers limit inner origin number line t =
      ([⟨origin, number, line, fate⟩], t') := by
  cases fate with
  | expanded token fragment => cases hopened
  | _ => simp only [courseLine, h]

/-! ### The course as a relation -/

/-- The course of some lines: with `levels` levels of directives left, the lines of a text from a
number on, met with the trail `t`, give the entries and the text, and leave the trail `t'`. -/
inductive Unfolds (providers : List (Provider σ)) (limit : Nat) :
    Nat → Origin → Nat → List (List Char) → Trail σ → List Entry → List Char → Trail σ → Prop
  | nil {levels : Nat} {origin : Origin} {number : Nat} {t : Trail σ} :
      Unfolds providers limit levels origin number [] t [] [] t
  | passed {levels : Nat} {origin : Origin} {number : Nat} {line : List Char}
      {rest : List (List Char)} {t t' t'' : Trail σ} {fate : Fate} {entries : List Entry}
      {text : List Char} (hsettles : Settles providers limit (decide (0 < levels)) line t fate t')
      (hopened : fate.opened? = none)
      (hrest : Unfolds providers limit levels origin (number + 1) rest t' entries text t'') :
      Unfolds providers limit levels origin number (line :: rest) t
        (⟨origin, number, line, fate⟩ :: entries) (fate.contribution line ++ text) t''
  | expanded {levels : Nat} {origin : Origin} {number : Nat} {line : List Char}
      {rest : List (List Char)} {t t' t'' t''' : Trail σ} {token : String} {fragment : List Char}
      {inner entries : List Entry} {text more : List Char}
      (hsettles : Settles providers limit true line t (.expanded token fragment) t')
      (hinner :
        Unfolds providers limit levels (.fragment token) 0 (lines fragment) t' inner text t'')
      (hrest :
        Unfolds providers limit (levels + 1) origin (number + 1) rest t'' entries more t''') :
      Unfolds providers limit (levels + 1) origin number (line :: rest) t
        (⟨origin, number, line, .expanded token fragment⟩ :: (inner ++ entries))
        (trim text ++ '\n' :: more) t'''

/-- An expander and a chronicler that go through the same with `levels` levels left. -/
def Tells (providers : List (Provider σ)) (limit levels : Nat) (f : Expander σ)
    (c : Chronicler σ) : Prop :=
  ∀ (origin : Origin) (source : List Char) (t : Trail σ), ∃ text,
    Unfolds providers limit levels origin 0 (lines source) t (c origin source t).1 text
      (f source t).2 ∧
    (f source t).1 = trim text ∧ (c origin source t).2 = (f source t).2

theorem unfolds_lines {levels : Nat} {inner : Option (Expander σ)}
    {chronicler : Option (Chronicler σ)}
    (hinner : (levels = 0 ∧ inner = none ∧ chronicler = none) ∨
      ∃ fewer f c, levels = fewer + 1 ∧ inner = some f ∧ chronicler = some c ∧
        Tells providers limit fewer f c)
    (origin : Origin) (number : Nat) (ls : List (List Char)) (t : Trail σ) :
    Unfolds providers limit levels origin number ls t
        (courseLines providers limit chronicler origin number ls t).1
        (expandLines providers limit inner ls t).1 (expandLines providers limit inner ls t).2 ∧
      (courseLines providers limit chronicler origin number ls t).2 =
        (expandLines providers limit inner ls t).2 := by
  have hdeep : inner.isSome = decide (0 < levels) ∧ chronicler.isSome = decide (0 < levels) := by
    rcases hinner with ⟨rfl, rfl, rfl⟩ | ⟨fewer, f, c, rfl, rfl, rfl, -⟩
    · exact ⟨rfl, rfl⟩
    · simp only [Option.isSome_some, Nat.succ_pos, decide_true, and_self]
  induction ls generalizing number t with
  | nil => exact ⟨.nil, rfl⟩
  | cons line rest ih =>
    have hsettles := settles_settle providers limit (decide (0 < levels)) line t
    rcases hsettle : settle providers limit (decide (0 < levels)) line t with ⟨fate, t'⟩
    rw [hsettle] at hsettles
    cases hopened : fate.opened? with
    | none =>
      obtain ⟨hrest, htrail⟩ := ih (number + 1) t'
      rw [expandLines, courseLines, expandLine_of_opened?_eq_none (hdeep.1 ▸ hsettle) hopened,
        courseLine_of_opened?_eq_none (hdeep.2 ▸ hsettle) hopened]
      exact ⟨.passed hsettles hopened hrest, htrail⟩
    | some opened =>
      obtain ⟨token, fragment⟩ := opened
      obtain rfl := Fate.opened?_eq_some_iff.1 hopened
      rcases hinner with ⟨rfl, rfl, rfl⟩ | ⟨fewer, f, c, rfl, rfl, rfl, htells⟩
      -- No fragment is asked for where there is no level left.
      · cases hsettles with
        | expanded hline hmatch hnew hdeeper hfetch => cases hdeeper
      · rw [decide_eq_true (Nat.succ_pos fewer)] at hsettle hsettles
        obtain ⟨text, hunfolds, htext, htrail⟩ := htells (.fragment token) fragment t'
        obtain ⟨hrest, hmore⟩ := ih (number + 1) (f fragment t').2
        rw [expandLines, courseLines, expandLine_eq_settle, courseLine]
        simp only [Option.isSome_some, hsettle, htext, htrail, List.cons_append,
          List.append_assoc, List.nil_append]
        exact ⟨.expanded hsettles hunfolds hrest, hmore⟩

/-- **An expansion unfolds to its course.** -/
theorem tells_expand (providers : List (Provider σ)) (limit levels : Nat) :
    Tells providers limit levels (expand providers limit levels)
      (course providers limit levels) := by
  induction levels with
  | zero =>
    intro origin source t
    obtain ⟨hunfolds, htrail⟩ := @unfolds_lines _ providers limit _ _ _
      (.inl ⟨rfl, rfl, rfl⟩) origin 0 (lines source) t
    exact ⟨_, hunfolds, rfl, htrail⟩
  | succ levels ih =>
    intro origin source t
    obtain ⟨hunfolds, htrail⟩ := unfolds_lines
      (.inr ⟨levels, _, _, rfl, rfl, rfl, ih⟩) origin 0 (lines source) t
    exact ⟨_, hunfolds, rfl, htrail⟩

/-! ### There is one course -/

theorem Settles.eq_settle {deeper : Bool} {line : List Char} {t t' : Trail σ} {fate : Fate}
    (h : Settles providers limit deeper line t fate t') :
    settle providers limit deeper line t = (fate, t') := by
  cases h with
  | kept hline => simp only [settle, hline]
  | unmatched hline hmatch => simp only [settle, hline, hmatch]
  | skipped hline hmatch hseen => simp only [settle, hline, hmatch, hseen, if_true]
  | tooDeep hline hmatch hnew hdeep =>
    simp only [settle, hline, hmatch, hnew, hdeep, Bool.false_eq_true, if_false]
  | failed hline hmatch hnew hdeep hfetch | expanded hline hmatch hnew hdeep hfetch =>
    simp only [settle, hline, hmatch, hnew, hdeep, Bool.false_eq_true, if_false, if_true,
      Trail.visit, hfetch]

/-- One thing becomes of a line. -/
theorem Settles.unique {deeper : Bool} {line : List Char} {t t₁ t₂ : Trail σ} {fate₁ fate₂ : Fate}
    (h₁ : Settles providers limit deeper line t fate₁ t₁)
    (h₂ : Settles providers limit deeper line t fate₂ t₂) : fate₁ = fate₂ ∧ t₁ = t₂ :=
  Prod.mk.inj (h₁.eq_settle.symm.trans h₂.eq_settle)

/-- **There is one course**, with one text and one trail. -/
theorem Unfolds.unique {levels number : Nat} {origin : Origin} {ls : List (List Char)}
    {t t₁ t₂ : Trail σ} {entries₁ entries₂ : List Entry} {text₁ text₂ : List Char}
    (h₁ : Unfolds providers limit levels origin number ls t entries₁ text₁ t₁)
    (h₂ : Unfolds providers limit levels origin number ls t entries₂ text₂ t₂) :
    entries₁ = entries₂ ∧ text₁ = text₂ ∧ t₁ = t₂ := by
  induction h₁ generalizing entries₂ text₂ t₂ with
  | nil =>
    cases h₂ with
    | nil => exact ⟨rfl, rfl, rfl⟩
  | passed hsettles hopened hrest ih =>
    cases h₂ with
    | passed hsettles' hopened' hrest' =>
      obtain ⟨rfl, rfl⟩ := hsettles.unique hsettles'
      obtain ⟨rfl, rfl, rfl⟩ := ih hrest'
      exact ⟨rfl, rfl, rfl⟩
    | expanded hsettles' hinner' hrest' =>
      rw [decide_eq_true (Nat.succ_pos _)] at hsettles
      obtain ⟨rfl, -⟩ := hsettles.unique hsettles'
      cases hopened
  | expanded hsettles hinner hrest ihinner ihrest =>
    cases h₂ with
    | passed hsettles' hopened' hrest' =>
      rw [decide_eq_true (Nat.succ_pos _)] at hsettles'
      obtain ⟨rfl, -⟩ := hsettles.unique hsettles'
      cases hopened'
    | expanded hsettles' hinner' hrest' =>
      obtain ⟨heq, rfl⟩ := hsettles.unique hsettles'
      cases heq
      obtain ⟨rfl, rfl, rfl⟩ := ihinner hinner'
      obtain ⟨rfl, rfl, rfl⟩ := ihrest hrest'
      exact ⟨rfl, rfl, rfl⟩

/-! ### The course of a resolution -/

/-- The course of a resolution leaves the trail of the resolution, and its text but for a trim. -/
theorem Resolver.exists_unfolds (r : Resolver σ) (host : σ) (visited : Visited)
    (source : List Char) :
    ∃ text, Unfolds r.providers r.maxDepth r.maxDepth .source 0 (lines source)
        (.start host visited) (r.course host visited source) text
        (r.resolveWith host visited source).trail ∧
      (r.resolveWith host visited source).text = trim text := by
  obtain ⟨text, hunfolds, htext, -⟩ :=
    tells_expand r.providers r.maxDepth r.maxDepth .source source (.start host visited)
  exact ⟨text, hunfolds, htext⟩

end ScriptSandbox.Include

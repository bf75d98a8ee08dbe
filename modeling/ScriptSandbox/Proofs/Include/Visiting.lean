import Mathlib.Data.List.Nodup
import ScriptSandbox.Include.Expansion

/-!
# Each token is fetched at most once

A resolution threads the set of visited tokens through a recursion inside a loop: every fragment
is expanded with the set as its directive left it, and the lines after the directive go on with the
set as the fragment left it. `Trail.Visits` says what any stretch of this does to the trail, and
composes (`Trail.Visits.trans`), so that it is proved once for a line and follows for lines, for
fragments, and for the whole source. What is fetched in a stretch is new to the set before it and is
in the set after it; this alone keeps two stretches from fetching the same.

The trail's own list of what was fetched could be wrong about what the providers were asked.
Therefore the theorem is about providers that keep a record themselves (`Provider.recording`), which
changes nothing else (`expand_recording`).
-/

namespace ScriptSandbox.Include

variable {σ : Type}

/-! ### Stretches of a resolution -/

theorem Visited.contains_foldl_insert (tokens : List String) (v : Visited) (token : String) :
    (tokens.foldl Visited.insert v).contains token = true ↔
      v.contains token = true ∨ token ∈ tokens := by
  induction tokens generalizing v with
  | nil => simp
  | cons head tail ih =>
    rw [List.foldl_cons, ih, Visited.contains_insert, Bool.or_eq_true, beq_iff_eq, List.mem_cons,
      or_assoc, or_left_comm]

/-- What a stretch of a resolution that fetched some tokens has made of the trail. -/
structure Trail.Visits (t t' : Trail σ) (tokens : List String) : Prop where
  /-- The tokens were asked for in that order. -/
  fetched : t'.fetched.map (·.2) = t.fetched.map (·.2) ++ tokens
  /-- None was asked for twice. -/
  nodup : tokens.Nodup
  /-- None had been visited. -/
  fresh : ∀ token ∈ tokens, t.visited.contains token = false
  /-- They have been visited now, and nothing else is new. -/
  visited : t'.visited = tokens.foldl Visited.insert t.visited

namespace Trail.Visits

variable {t t' t'' : Trail σ} {tokens more : List String}

/-- Nothing was fetched. -/
theorem of_eq (hf : t'.fetched = t.fetched) (hv : t'.visited = t.visited) : Visits t t' [] where
  fetched := by rw [hf, List.append_nil]
  nodup := .nil
  fresh _ h := by cases h
  visited := hv

theorem visit {token : String} (h : t.visited.contains token = false) (index : Nat) :
    Visits t (t.visit index token) [token] where
  fetched := List.map_append
  nodup := List.nodup_singleton token
  fresh other hmem := by rw [List.mem_singleton.1 hmem, h]
  visited := rfl

/-- **Stretches compose.** What the first fetched is in the set with which the second begins. -/
theorem trans (h : Visits t t' tokens) (h' : Visits t' t'' more) :
    Visits t t'' (tokens ++ more) where
  fetched := by rw [h'.fetched, h.fetched, List.append_assoc]
  nodup := by
    refine List.nodup_append.2 ⟨h.nodup, h'.nodup, fun token hmem other hmore heq ↦ ?_⟩
    have hseen : t'.visited.contains token = true := by
      rw [h.visited, Visited.contains_foldl_insert]
      exact .inr hmem
    rw [heq, h'.fresh other hmore] at hseen
    cases hseen
  fresh token hmem := by
    rcases List.mem_append.1 hmem with hmem | hmem
    · exact h.fresh token hmem
    · -- The set only grew, so what is new to it now was new to it before.
      have hnew := h'.fresh token hmem
      rw [h.visited, Bool.eq_false_iff, ne_eq, Visited.contains_foldl_insert, not_or] at hnew
      exact Bool.eq_false_iff.2 hnew.1
  visited := by rw [h'.visited, h.visited, List.foldl_append]

end Trail.Visits

/-- An expander that keeps the account of what it fetches. -/
def Expander.KeepsAccount (f : Expander σ) : Prop :=
  ∀ (source : List Char) (trail : Trail σ), ∃ tokens, trail.Visits (f source trail).2 tokens

variable {providers : List (Provider σ)} {limit : Nat} {inner : Option (Expander σ)}

theorem exists_visits_expandLine (hinner : ∀ f, inner = some f → Expander.KeepsAccount f)
    (line : List Char) (trail : Trail σ) :
    ∃ tokens, trail.Visits (expandLine providers limit inner line trail).2 tokens := by
  unfold expandLine
  cases reference? line with
  | none => exact ⟨[], .of_eq rfl rfl⟩
  | some reference =>
    simp only
    rcases firstMatch 0 reference providers trail.host with ⟨found, host⟩
    cases found with
    | none => exact ⟨[], .of_eq rfl rfl⟩
    | some found =>
      simp only
      split
      · exact ⟨[], .of_eq rfl rfl⟩
      · next hseen =>
        cases inner with
        | none => exact ⟨[], .of_eq rfl rfl⟩
        | some f =>
          -- The token is in the set before the fragment is asked for, so before it is expanded.
          have hvisit := Trail.Visits.visit (t := { trail with host := host })
            (Bool.eq_false_iff.2 hseen) found.index
          have hstart : trail.Visits { trail with host := host } [] := .of_eq rfl rfl
          simp only
          rcases found.provider.fetch found.token _ with ⟨fragment, host'⟩
          cases fragment with
          | error e => exact ⟨_, (hstart.trans hvisit).trans (.of_eq rfl rfl)⟩
          | ok fragment =>
            let asked : Trail σ := Trail.visit { trail with host := host } found.index found.token
            have hfetch : asked.Visits { asked with host := host' } [] := .of_eq rfl rfl
            obtain ⟨tokens, hrest⟩ := hinner f rfl fragment { asked with host := host' }
            exact ⟨_, ((hstart.trans hvisit).trans hfetch).trans hrest⟩

theorem exists_visits_expandLines (hinner : ∀ f, inner = some f → Expander.KeepsAccount f)
    (lines : List (List Char)) (trail : Trail σ) :
    ∃ tokens, trail.Visits (expandLines providers limit inner lines trail).2 tokens := by
  induction lines generalizing trail with
  | nil => exact ⟨[], .of_eq rfl rfl⟩
  | cons line rest ih =>
    obtain ⟨tokens, hline⟩ := exists_visits_expandLine hinner line trail
    obtain ⟨more, hrest⟩ := ih (expandLine providers limit inner line trail).2
    exact ⟨tokens ++ more, hline.trans hrest⟩

/-- **An expansion keeps the account**, however deep the directives nest. -/
theorem keepsAccount_expand (providers : List (Provider σ)) (limit levels : Nat) :
    Expander.KeepsAccount (expand providers limit levels) := by
  induction levels with
  | zero => exact fun source trail ↦ exists_visits_expandLines (fun f hf ↦ by cases hf) _ trail
  | succ levels ih =>
    refine fun source trail ↦ exists_visits_expandLines (fun f hf ↦ ?_) _ trail
    exact Option.some.inj hf ▸ ih

/-! ### Providers that keep a record -/

/-- A provider that works like another, and keeps a list of the tokens it is asked to fetch. -/
def Provider.recording (p : Provider σ) : Provider (σ × List String) where
  find reference := fun (host, asked) ↦
    let (token, host) := p.find reference host
    (token, (host, asked))
  fetch token := fun (host, asked) ↦
    let (fragment, host) := p.fetch token host
    (fragment, (host, asked ++ [token]))

/-- A match of a provider that keeps a record. -/
def Match.recording (m : Match σ) : Match (σ × List String) :=
  ⟨m.index, m.provider.recording, m.token⟩

/-- A trail with the record that its providers would have kept. -/
def Trail.recording (t : Trail σ) : Trail (σ × List String) :=
  ⟨(t.host, t.fetched.map (·.2)), t.visited, t.unresolved, t.fetched, t.events⟩

/-- A resolver whose providers keep a record. -/
def Resolver.recording (r : Resolver σ) : Resolver (σ × List String) :=
  ⟨r.providers.map Provider.recording, r.maxDepth⟩

/-- An expander that does what another does, and keeps the record. -/
def Expander.Records (f' : Expander (σ × List String)) (f : Expander σ) : Prop :=
  ∀ source trail, f' source trail.recording = ((f source trail).1, (f source trail).2.recording)

theorem firstMatch_recording (index : Nat) (reference : String) (providers : List (Provider σ))
    (host : σ) (asked : List String) :
    firstMatch index reference (providers.map Provider.recording) (host, asked) =
      ((firstMatch index reference providers host).1.map Match.recording,
        ((firstMatch index reference providers host).2, asked)) := by
  induction providers generalizing index host with
  | nil => rfl
  | cons provider rest ih =>
    rcases hf : provider.find reference host with ⟨token, host'⟩
    have hf' : provider.recording.find reference (host, asked) = (token, (host', asked)) := by
      simp only [Provider.recording, hf]
    rw [List.map_cons]
    cases token with
    | none => rw [firstMatch_cons_of_none hf, firstMatch_cons_of_none hf', ih]
    | some token =>
      rw [firstMatch_cons_of_some hf, firstMatch_cons_of_some hf']
      rfl

theorem expandLine_recording {inner' : Option (Expander (σ × List String))}
    (hinner : Option.Rel Expander.Records inner' inner) (line : List Char) (trail : Trail σ) :
    expandLine (providers.map Provider.recording) limit inner' line trail.recording =
      ((expandLine providers limit inner line trail).1,
        (expandLine providers limit inner line trail).2.recording) := by
  unfold expandLine
  cases reference? line with
  | none => rfl
  | some reference =>
    simp only [Trail.recording, firstMatch_recording]
    rcases firstMatch 0 reference providers trail.host with ⟨found, host⟩
    cases found with
    | none => rfl
    | some found =>
      simp only [Option.map_some, Match.recording]
      by_cases hseen : trail.visited.contains found.token = true
      · simp only [hseen, if_true]
      · rw [Bool.not_eq_true] at hseen
        simp only [hseen, Bool.false_eq_true, if_false]
        cases hinner with
        | none => rfl
        | some hf =>
          simp only [Provider.recording, Trail.visit]
          rcases found.provider.fetch found.token host with ⟨fragment, host'⟩
          cases fragment with
          | error e => simp only [Trail.drop, List.map_append, List.map_cons, List.map_nil]
          | ok fragment =>
            have hrest := hf fragment
              { trail with
                host := host'
                visited := trail.visited.insert found.token
                fetched := trail.fetched ++ [(found.index, found.token)] }
            simp only [Trail.recording, List.map_append, List.map_cons, List.map_nil] at hrest
            simp only [hrest]

theorem expandLines_recording {inner' : Option (Expander (σ × List String))}
    (hinner : Option.Rel Expander.Records inner' inner) (lines : List (List Char))
    (trail : Trail σ) :
    expandLines (providers.map Provider.recording) limit inner' lines trail.recording =
      ((expandLines providers limit inner lines trail).1,
        (expandLines providers limit inner lines trail).2.recording) := by
  induction lines generalizing trail with
  | nil => rfl
  | cons line rest ih => simp only [expandLines, expandLine_recording hinner, ih]

/-- **A record changes nothing**, and it is what the trail says. -/
theorem expand_recording (providers : List (Provider σ)) (limit levels : Nat) :
    Expander.Records (expand (providers.map Provider.recording) limit levels)
      (expand providers limit levels) := by
  induction levels with
  | zero =>
    intro source trail
    simp only [expand, expandLines_recording Option.Rel.none]
  | succ levels ih =>
    intro source trail
    simp only [expand, expandLines_recording (Option.Rel.some ih)]

theorem Resolver.resolveWith_recording (r : Resolver σ) (host : σ) (visited : Visited)
    (source : List Char) :
    r.recording.resolveWith (host, []) visited source =
      ⟨(r.resolveWith host visited source).text,
        (r.resolveWith host visited source).trail.recording⟩ := by
  have h := expand_recording r.providers r.maxDepth r.maxDepth source (.start host visited)
  simp only [resolveWith, recording]
  exact congrArg (fun p : List Char × Trail (σ × List String) ↦ Resolution.mk p.1 p.2) h

/-! ### The account of a resolution -/

/-- What a resolution has fetched, where `recorded` is the same resolution with providers that keep
a record. -/
structure FetchesOnce (visited : Visited) (resolution : Resolution σ)
    (recorded : Resolution (σ × List String)) : Prop where
  /-- The record changes nothing. -/
  same : recorded = ⟨resolution.text, { resolution.trail with host := recorded.trail.host }⟩ ∧
    recorded.trail.host.1 = resolution.trail.host
  /-- No token is fetched twice, by whichever provider and at whichever level, and also if it could
  not be fetched. -/
  nodup : recorded.trail.host.2.Nodup
  /-- No token is fetched that counted as visited at the beginning. -/
  fresh : ∀ token ∈ recorded.trail.host.2, visited.contains token = false
  /-- The tokens visited at the end are those of the beginning and those fetched. -/
  visited : ∀ token, resolution.visited.contains token = true ↔
    visited.contains token = true ∨ token ∈ recorded.trail.host.2

/-- **Each token is fetched at most once**, and the account of that is exact: for all providers,
whatever state they have and whether or not they fail, for all tokens visited before, all nesting
limits and all sources. -/
theorem Resolver.fetches_once (r : Resolver σ) (host : σ) (source : List Char) :
    (∀ visited, FetchesOnce visited (r.resolveWith host visited source)
      (r.recording.resolveWith (host, []) visited source)) ∧
    FetchesOnce .empty (r.resolve host source) (r.recording.resolve (host, []) source) := by
  have hwith (visited : Visited) : FetchesOnce visited (r.resolveWith host visited source)
      (r.recording.resolveWith (host, []) visited source) := by
    obtain ⟨tokens, hvisits⟩ := keepsAccount_expand r.providers r.maxDepth r.maxDepth source
      (.start host visited)
    have hrecord : (r.resolveWith host visited source).trail.fetched.map (·.2) = tokens :=
      hvisits.fetched
    rw [r.resolveWith_recording]
    refine ⟨⟨rfl, rfl⟩, ?_, ?_, fun token ↦ ?_⟩
    · simp only [Trail.recording, hrecord]
      exact hvisits.nodup
    · simp only [Trail.recording, hrecord]
      exact hvisits.fresh
    · simp only [Trail.recording, hrecord]
      have hvisited : (r.resolveWith host visited source).visited =
          tokens.foldl Visited.insert visited := hvisits.visited
      rw [hvisited, Visited.contains_foldl_insert]
  exact ⟨hwith, hwith .empty⟩

end ScriptSandbox.Include

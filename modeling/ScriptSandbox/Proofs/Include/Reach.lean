import ScriptSandbox.Proofs.Include.Catalogue
import ScriptSandbox.Proofs.Text.Table

/-!
# A resolution visits what its source leads to

With catalogues that agree, and enough levels for the tokens there are, the tokens visited are
exactly those of `Reach`. The order of the directives, and how often and from where a token is asked
for, do not show in them.

Nothing else is visited, because every line met stands in the source or in a fragment of a token
that is reached (`Unfolds.reach_of_token?`). Nothing is left out, because the tokens visited are
closed: a directive that is met has its token visited unless it lies too deep
(`Unfolds.mem_fetched`), and all directives of all fragments are met. No directive lies too deep: a
level is used up only by a token that was asked for, so a directive that lies too deep has as many
tokens asked for before it as there are levels, and its own is one more (`Unfolds.levels_lt_card`).
-/

namespace ScriptSandbox.Include

open ScriptSandbox.Text

variable {σ : Type}

/-! ### Nothing else is visited -/

theorem Settles.answers_of_expanded {catalogues : List Catalogue} {limit : Nat} {deeper : Bool}
    {line fragment : List Char} {t t' : Trail σ} {token : String}
    (h : Settles (Catalogue.providers σ catalogues) limit deeper line t
      (.expanded token fragment) t') : Answers catalogues token (.ok fragment) := by
  obtain ⟨answer, hanswers, heq⟩ := h.exists_answers rfl
  cases answer with
  | error e => cases heq
  | ok fragment' =>
    cases heq
    exact hanswers

/-- **The tokens met are reached**, if those that the lines themselves ask for are. -/
theorem Unfolds.reach_of_token? {catalogues : List Catalogue} {limit levels number : Nat}
    {origin : Origin} {ls : List (List Char)} {t t' : Trail σ} {entries : List Entry}
    {text source : List Char}
    (h : Unfolds (Catalogue.providers σ catalogues) limit levels origin number ls t entries text t')
    (hls : ∀ line ∈ ls, ∀ token, AsksLine catalogues line token → Reach catalogues source token)
    {e : Entry} (he : e ∈ entries) {token : String} (htoken : e.fate.token? = some token) :
    Reach catalogues source token := by
  induction h generalizing token with
  | nil => cases he
  | passed hsettles hopened hrest ih =>
    obtain ⟨hline, hls⟩ := List.forall_mem_cons.1 hls
    rcases List.mem_cons.1 he with rfl | he
    · exact hline token (hsettles.asksLine_iff.2 htoken)
    · exact ih hls he htoken
  | @expanded _ _ _ _ _ _ _ _ _ token' fragment _ _ _ _ hsettles hinner hrest ihinner ihrest =>
    obtain ⟨hline, hls⟩ := List.forall_mem_cons.1 hls
    have hreach : Reach catalogues source token' := hline token' (hsettles.asksLine_iff.2 rfl)
    rcases List.mem_cons.1 he with rfl | he
    · cases htoken
      exact hreach
    rcases List.mem_append.1 he with he | he
    -- What the fragment asks for is one step further than its token.
    · refine ihinner (fun line hmem other hasks ↦ ?_) he htoken
      exact .step hreach ⟨fragment, hsettles.answers_of_expanded, line, hmem, hasks⟩
    · exact ihrest hls he htoken

/-! ### Nothing is left out -/

theorem Settles.levels_eq_zero_of_tooDeep {providers : List (Provider σ)} {limit : Nat}
    {deeper : Bool} {line : List Char} {t t' : Trail σ} {token : String}
    (h : Settles providers limit deeper line t (.tooDeep token) t') :
    deeper = false ∧ t.visited.contains token = false := by
  cases h with
  | tooDeep hline hmatch hnew hdeep => exact ⟨hdeep, hnew⟩

section Run

variable {providers : List (Provider σ)} {catalogues : List Catalogue} {limit levels : Nat}
  {host : σ} {source text : List Char} {course : List Entry} {t : Trail σ}

/-- What is visited at the end was asked for. -/
theorem Unfolds.contains_iff
    (h : Unfolds providers limit levels .source 0 (lines source) (.start host .empty) course text t)
    {token : String} :
    t.visited.contains token = true ↔ token ∈ course.filterMap Entry.fetched? := by
  rw [h.visits.visited, Visited.contains_foldl_insert]
  exact or_iff_right Bool.false_ne_true

/-- A token that was met was asked for, unless it lay too deep. -/
theorem Unfolds.mem_fetched_or_tooDeep
    (h : Unfolds providers limit levels .source 0 (lines source) (.start host .empty) course text t)
    {e : Entry} (he : e ∈ course) {token : String} (htoken : e.fate.token? = some token) :
    token ∈ course.filterMap Entry.fetched? ∨ e.fate = .tooDeep token := by
  cases hfate : e.fate with
  | kept | unmatched =>
    rw [hfate] at htoken
    cases htoken
  | tooDeep token' =>
    rw [hfate] at htoken
    cases htoken
    exact .inr rfl
  | failed token' err | expanded token' fragment =>
    rw [hfate] at htoken
    cases htoken
    exact .inl (List.mem_filterMap.2 ⟨e, he, by rw [Entry.fetched?, hfate]; rfl⟩)
  | skipped token' =>
    rw [hfate] at htoken
    cases htoken
    -- Nothing had been visited at the beginning, so the token was asked for by an entry before.
    obtain ⟨before, after, hcourse⟩ := List.append_of_mem he
    have hbefore := (h.mem_of_skipped hcourse hfate).resolve_left Bool.false_ne_true
    rw [hcourse, List.filterMap_append]
    exact .inl (List.mem_append_left _ hbefore)

theorem Unfolds.mem_fetched
    (h : Unfolds providers limit levels .source 0 (lines source) (.start host .empty) course text t)
    (hdeep : ∀ e ∈ course, ∀ token, e.fate ≠ .tooDeep token) {e : Entry} (he : e ∈ course)
    {token : String} (htoken : e.fate.token? = some token) :
    token ∈ course.filterMap Entry.fetched? :=
  (h.mem_fetched_or_tooDeep he htoken).resolve_right (hdeep e he token)

theorem Unfolds.reach_of_mem_course
    (h : Unfolds (Catalogue.providers σ catalogues) limit levels .source 0 (lines source)
      (.start host .empty) course text t) {e : Entry} (he : e ∈ course) {token : String}
    (htoken : e.fate.token? = some token) : Reach catalogues source token :=
  h.reach_of_token? (fun line hmem _ hasks ↦ .root ⟨line, hmem, hasks⟩) he htoken

theorem Unfolds.reach_of_mem_fetched
    (h : Unfolds (Catalogue.providers σ catalogues) limit levels .source 0 (lines source)
      (.start host .empty) course text t) {token : String}
    (hmem : token ∈ course.filterMap Entry.fetched?) : Reach catalogues source token := by
  obtain ⟨e, he, hfetched⟩ := List.mem_filterMap.1 hmem
  exact h.reach_of_mem_course he (Fate.token?_of_fetched? hfetched)

/-- **A directive that lies too deep** has fewer levels above it than there are tokens: those asked
for on the way, and its own. -/
theorem Unfolds.levels_lt_card
    (h : Unfolds providers limit levels .source 0 (lines source) (.start host .empty) course text t)
    {tokens : Finset String}
    (htokens : ∀ e ∈ course, ∀ token, e.fate.token? = some token → token ∈ tokens) {e : Entry}
    (he : e ∈ course) {token : String} (hfate : e.fate = .tooDeep token) :
    levels < tokens.card := by
  obtain ⟨before, after, hcourse⟩ := List.append_of_mem he
  obtain ⟨fewer, s, s', hsettles, hvisits, hused⟩ := h.exists_settles hcourse
  rw [hfate] at hsettles
  obtain ⟨hnone, hnew⟩ := hsettles.levels_eq_zero_of_tooDeep
  have hfewer : fewer = 0 := Nat.eq_zero_of_not_pos (of_decide_eq_false hnone)
  have hfresh : token ∉ before.filterMap Entry.fetched? := fun hmem ↦
    Bool.false_ne_true (hnew.symm.trans (hvisits.contains_of_mem hmem))
  have hnodup : (token :: before.filterMap Entry.fetched?).Nodup :=
    List.nodup_cons.2 ⟨hfresh, hvisits.nodup⟩
  have hsub : (token :: before.filterMap Entry.fetched?).toFinset ⊆ tokens := by
    intro other hmem
    rcases List.mem_cons.1 (List.mem_toFinset.1 hmem) with rfl | hmem
    · exact htokens e he other (by rw [hfate]; rfl)
    · obtain ⟨d, hd, hfetched⟩ := List.mem_filterMap.1 hmem
      exact htokens d (hcourse ▸ List.mem_append_left _ hd) other (Fate.token?_of_fetched? hfetched)
  have hcount := Finset.card_le_card hsub
  rw [List.toFinset_card_of_nodup hnodup, List.length_cons] at hcount
  omega

/-- **No directive lies too deep** where there are as many levels as tokens that are reached. -/
theorem Unfolds.ne_tooDeep
    (h : Unfolds (Catalogue.providers σ catalogues) limit levels .source 0 (lines source)
      (.start host .empty) course text t)
    (hfinite : (reach catalogues source).Finite)
    (hlevels : (reach catalogues source).ncard ≤ levels) {e : Entry} (he : e ∈ course)
    (token : String) : e.fate ≠ .tooDeep token := by
  intro hfate
  have hreached : ∀ e ∈ course, ∀ token, e.fate.token? = some token → token ∈ hfinite.toFinset :=
    fun e he token htoken ↦ hfinite.mem_toFinset.2 (h.reach_of_mem_course he htoken)
  have hlt := h.levels_lt_card hreached he hfate
  rw [← Set.ncard_eq_toFinset_card _ hfinite] at hlt
  omega

/-- A fragment that was expanded is what a catalogue answers. -/
theorem Covers.answers_of_expanded
    (hcovers : Covers (Catalogue.providers σ catalogues) limit source course) {e : Entry}
    (he : e ∈ course) {token : String} {fragment : List Char}
    (hfate : e.fate = .expanded token fragment) : Answers catalogues token (.ok fragment) := by
  obtain ⟨deeper, s, s', hsettles⟩ := hcovers.settled e he
  rw [hfate] at hsettles
  exact hsettles.answers_of_expanded

/-- A fragment that is answered for a token asked for is one of the texts of the course. -/
theorem Covers.textOf_fragment
    (hcovers : Covers (Catalogue.providers σ catalogues) limit source course)
    (hagree : Agree catalogues) {token : String}
    (hmem : token ∈ course.filterMap Entry.fetched?) {fragment : List Char}
    (hanswers : Answers catalogues token (.ok fragment)) :
    TextOf source course (.fragment token) fragment := by
  obtain ⟨e, he, hfetched⟩ := List.mem_filterMap.1 hmem
  obtain ⟨deeper, s, s', hsettles⟩ := hcovers.settled e he
  obtain ⟨answer, hanswers', hfate⟩ := hsettles.exists_answers hfetched
  obtain rfl := hagree token _ _ hanswers' hanswers
  exact .fragment (mem_opened_iff.2 ⟨e, he, hfate⟩)

/-- **What is visited is closed**: what a text of the course asks for has been asked for. -/
theorem Unfolds.mem_fetched_of_asks
    (h : Unfolds (Catalogue.providers σ catalogues) limit levels .source 0 (lines source)
      (.start host .empty) course text t)
    (hcovers : Covers (Catalogue.providers σ catalogues) limit source course)
    (hdeep : ∀ e ∈ course, ∀ token, e.fate ≠ .tooDeep token) {origin : Origin} {body : List Char}
    (htext : TextOf source course origin body) {token : String}
    (hasks : Asks catalogues body token) : token ∈ course.filterMap Entry.fetched? := by
  obtain ⟨line, hline, hasks⟩ := hasks
  obtain ⟨number, hnumber⟩ := List.getElem?_of_mem hline
  obtain ⟨e, he, -, -, rfl⟩ := hcovers.exists_entry htext hnumber
  obtain ⟨deeper, s, s', hsettles⟩ := hcovers.settled e he
  exact h.mem_fetched hdeep he (hsettles.asksLine_iff.1 hasks)

theorem Unfolds.mem_fetched_of_reach
    (h : Unfolds (Catalogue.providers σ catalogues) limit levels .source 0 (lines source)
      (.start host .empty) course text t)
    (hcovers : Covers (Catalogue.providers σ catalogues) limit source course)
    (hagree : Agree catalogues) (hdeep : ∀ e ∈ course, ∀ token, e.fate ≠ .tooDeep token)
    {token : String} (hreach : Reach catalogues source token) :
    token ∈ course.filterMap Entry.fetched? := by
  induction hreach with
  | root hasks => exact h.mem_fetched_of_asks hcovers hdeep .source hasks
  | step hreach hleads ih =>
    obtain ⟨fragment, hanswers, hasks⟩ := hleads
    exact h.mem_fetched_of_asks hcovers hdeep (hcovers.textOf_fragment hagree ih hanswers) hasks

end Run

/-! ### The tokens visited -/

theorem Visited.eq_of_contains_iff {v v' : Visited}
    (h : ∀ token, v.contains token = true ↔ v'.contains token = true) : v = v' :=
  congrArg Visited.mk (NameSet.eq_of_contains_iff h)

theorem Catalogue.contains_resolve_iff {catalogues : List Catalogue} (hagree : Agree catalogues)
    {source : List Char} (hfinite : (reach catalogues source).Finite) {maxDepth : Nat}
    (hdepth : (reach catalogues source).ncard ≤ maxDepth) (host : σ) (token : String) :
    ((resolver catalogues maxDepth).resolve host source).visited.contains token = true ↔
      token ∈ reach catalogues source := by
  obtain ⟨text, hunfolds, -⟩ := (resolver catalogues maxDepth).exists_unfolds host .empty source
  have hcovers := (resolver catalogues maxDepth).covers_course host .empty source
  have hdeep : ∀ e ∈ (resolver catalogues maxDepth).course host .empty source, ∀ token,
      e.fate ≠ .tooDeep token := fun e he ↦ hunfolds.ne_tooDeep hfinite hdepth he
  exact hunfolds.contains_iff.trans
    ⟨hunfolds.reach_of_mem_fetched, hunfolds.mem_fetched_of_reach hcovers hagree hdeep⟩

/-- Sources that ask for the same tokens, with catalogues by which these lead to the same, lead to
the same tokens. -/
theorem reach_congr {catalogues catalogues' : List Catalogue} {source source' : List Char}
    (hasks : ∀ token, Asks catalogues source token ↔ Asks catalogues' source' token)
    (hleads : ∀ token ∈ reach catalogues source, ∀ other,
      Leads catalogues token other ↔ Leads catalogues' token other) :
    reach catalogues source = reach catalogues' source' := by
  ext token
  constructor
  · intro h
    induction h with
    | root h => exact Reach.root ((hasks _).1 h)
    | step h hlead ih => exact Reach.step ih ((hleads _ h _).1 hlead)
  · intro h
    induction h with
    | root h => exact Reach.root ((hasks _).2 h)
    | step h hlead ih => exact Reach.step ih ((hleads _ ih _).2 hlead)

/-- **A resolution visits exactly what its source leads to**, if the catalogues agree and there are
as many levels as tokens to visit. What is visited is therefore the same wherever the directives of
the source and of the fragments ask for the same tokens, in whatever order and however often. -/
theorem Catalogue.visited_eq_reach {catalogues : List Catalogue} (hagree : Agree catalogues)
    {source : List Char} (hfinite : (reach catalogues source).Finite) {maxDepth : Nat}
    (hdepth : (reach catalogues source).ncard ≤ maxDepth) (host : σ) :
    {token | ((resolver catalogues maxDepth).resolve host source).visited.contains token = true} =
        reach catalogues source ∧
      ∀ (catalogues' : List Catalogue) (source' : List Char) (maxDepth' : Nat), Agree catalogues' →
        (reach catalogues source).ncard ≤ maxDepth' →
        (∀ token, Asks catalogues source token ↔ Asks catalogues' source' token) →
        (∀ token ∈ reach catalogues source, ∀ other,
          Leads catalogues token other ↔ Leads catalogues' token other) →
        ((resolver catalogues' maxDepth').resolve host source').visited =
          ((resolver catalogues maxDepth).resolve host source).visited := by
  refine ⟨Set.ext (contains_resolve_iff hagree hfinite hdepth host), ?_⟩
  intro catalogues' source' maxDepth' hagree' hdepth' hasks hleads
  have hreach := reach_congr hasks hleads
  refine Visited.eq_of_contains_iff fun token ↦ ?_
  rw [contains_resolve_iff hagree hfinite hdepth, contains_resolve_iff hagree' (hreach ▸ hfinite)
    (hreach ▸ hdepth'), hreach]

/-- Two fragments that include each other. -/
def Catalogue.loop : Catalogue where
  find reference := if reference = "a" ∨ reference = "b" then some reference else none
  fetch token :=
    .ok (if token = "a" then "#include b\nlet a = 1;" else "#include a\nlet b = 2;").toList

theorem Catalogue.eq_of_find_loop {reference token : String}
    (h : loop.find reference = some token) : token = "a" ∨ token = "b" := by
  simp only [loop, Option.ite_none_right_eq_some, Option.some.injEq] at h
  obtain ⟨hreference, rfl⟩ := h
  exact hreference

theorem reach_loop_subset (source : List Char) : reach [.loop] source ⊆ {"a", "b"} := by
  intro token hreach
  obtain ⟨c, hc, reference, hfind⟩ := Reach.exists_find hreach
  rw [List.mem_singleton.1 hc] at hfind
  exact Catalogue.eq_of_find_loop hfind

theorem finite_reach_loop (source : List Char) : (reach [.loop] source).Finite :=
  (Set.toFinite {"a", "b"}).subset (reach_loop_subset source)

theorem ncard_reach_loop_le (source : List Char) : (reach [.loop] source).ncard ≤ 2 := by
  calc (reach [.loop] source).ncard
      ≤ ({"a", "b"} : Set String).ncard := Set.ncard_le_ncard (reach_loop_subset source)
    _ = 2 := Set.ncard_pair (by decide)

/-- Both fragments are reached from a directive for either of them, and visited with two levels; a
directive more, or another order, changes nothing. -/
theorem Catalogue.visited_eq_reach_loop :
    let source := "#include a\nlet main = 0;".toList
    let source' := "let main = 0;\n#include a\n#include a".toList
    (reach [loop] source).Finite ∧ (reach [loop] source).ncard ≤ 2 ∧
      {token | ((resolver [loop] 2).resolve () source).visited.contains token = true} =
        reach [loop] source ∧
      ((resolver [loop] 2).resolve () source').visited =
        ((resolver [loop] 2).resolve () source).visited := by
  intro source source'
  obtain ⟨hreach, hsame⟩ := visited_eq_reach (agree_singleton loop) (finite_reach_loop source)
    (ncard_reach_loop_le source) ()
  have hasks (token : String) : Asks [loop] source token ↔ Asks [loop] source' token := by
    have hasked : asked [loop] source' = asked [loop] source ++ asked [loop] source := by
      decide +kernel
    rw [← mem_asked_iff, ← mem_asked_iff, hasked, List.mem_append, or_self]
  exact ⟨finite_reach_loop source, ncard_reach_loop_le source, hreach,
    hsame [loop] source' 2 (agree_singleton loop) (ncard_reach_loop_le source) hasks
      fun _ _ _ ↦ .rfl⟩

end ScriptSandbox.Include

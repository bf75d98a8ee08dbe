import ScriptSandbox.Proofs.Include.Depth
import ScriptSandbox.Proofs.Include.Precedence

/-!
# What a greater limit can lose

A greater limit can lose a fragment. It lets an expansion go further down, where it may meet a
fragment that it would otherwise have met closer to the source; the fragment is expanded there, deep
down, and its directives are too deep, while the directive that is closer is skipped
(`Catalogue.exists_lost`).

This is the only way to lose something. Where the includes of a token break off under the greater
limit (`Break`), a directive that was followed is too deep now, or another catalogue answered. What
is lost is included, under the smaller limit, by a token where the includes break off. The proof
goes along the course of the smaller limit: the text that a line stands in is met under the greater
limit too, or its token is lost (`Found`); and a line that is met again asks for what it asked for
before (`Found.mem_fetched_or_lost`).
-/

namespace ScriptSandbox.Include

open ScriptSandbox.Text

variable {σ : Type}

/-! ### Where includes break off -/

/-- A token asked for in a course, at which the includes break off in another: the directive that
asked for it, in the same line of the same fragment, is too deep there, or the token has another
answer. -/
inductive Break (course course' : List Entry) (token : String) : Prop
  | cut {e e' : Entry} {outer : String} (he : e ∈ course) (he' : e' ∈ course')
      (horigin : e.origin = .fragment outer) (horigin' : e'.origin = .fragment outer)
      (hnumber : e'.number = e.number) (hline : e'.line = e.line)
      (hfetched : e.fetched? = some token) (hdeep : e'.fate = .tooDeep token)
  | answered {e e' : Entry} (he : e ∈ course) (he' : e' ∈ course')
      (hfetched : e.fetched? = some token) (hfetched' : e'.fetched? = some token)
      (hne : e'.fate ≠ e.fate)

/-- A token that a course includes through one where the includes break off in another course. -/
def Lost (course course' : List Entry) (token : String) : Prop :=
  ∃ other, Break course course' other ∧ Relation.ReflTransGen (Includes course) other token

/-- Some lines are met in the other course too, in the same text and with the same numbers, or the
token of the text is lost. -/
def Found (source : List Char) (course course' : List Entry) (origin : Origin) (number : Nat)
    (ls : List (List Char)) : Prop :=
  (∃ text, TextOf source course' origin text ∧ (lines text).drop number = ls) ∨
    ∃ token, origin = .fragment token ∧ Lost course course' token

variable {catalogues : List Catalogue} {providers : List (Provider σ)}
  {limit limit' levels number : Nat} {source text text' : List Char}
  {course course' entries : List Entry} {origin : Origin} {line : List Char}
  {ls : List (List Char)} {t t' : Trail σ} {host : σ} {token : String}

theorem Found.tail (h : Found source course course' origin number (line :: ls)) :
    Found source course course' origin (number + 1) ls := by
  rcases h with ⟨text, htext, hdrop⟩ | hlost
  · refine .inl ⟨text, htext, ?_⟩
    rw [← List.tail_drop, hdrop, List.tail_cons]
  · exact .inr hlost

/-- No directive of the source is too deep, unless every directive is. -/
theorem Unfolds.ne_tooDeep_of_source
    (h : Unfolds providers limit levels origin number ls t entries text t') (hpos : 0 < levels)
    {e : Entry} (he : e ∈ entries) (horigin : e.origin = .source) : e.fate ≠ .tooDeep token := by
  induction h with
  | nil => cases he
  | passed hsettles hopened hrest ih =>
    rcases List.mem_cons.1 he with rfl | he
    · rintro rfl
      exact of_decide_eq_false hsettles.levels_eq_zero_of_tooDeep.1 hpos
    · exact ih hpos he
  | expanded hsettles hinner hrest ihinner ihrest =>
    rcases List.mem_cons.1 he with rfl | he
    · rintro ⟨⟩
    rcases List.mem_append.1 he with he | he
    · rcases hinner.origin_of_mem he with heq | ⟨other, fragment, heq, -⟩
      · cases horigin.symm.trans heq
      · cases horigin.symm.trans heq
    · exact ihrest hpos he

/-- **A directive that is met again asks for its token**, unless it is too deep now. -/
theorem Found.mem_fetched_or_lost
    (h : Found source course course' origin number (line :: ls))
    (hunfolds' : Unfolds (Catalogue.providers σ catalogues) limit' limit' .source 0 (lines source)
      (.start host .empty) course' text' t')
    (hcovers' : Covers (Catalogue.providers σ catalogues) limit' source course')
    (hpos : 0 < limit') {fate : Fate} (he : ⟨origin, number, line, fate⟩ ∈ course)
    (hfetched : fate.fetched? = some token) (hasks : AsksLine catalogues line token) :
    token ∈ course'.filterMap Entry.fetched? ∨ Lost course course' token := by
  have htoken := Fate.token?_of_fetched? hfetched
  rcases h with ⟨body, htext, hdrop⟩ | ⟨outer, rfl, b, hbreak, hpath⟩
  · have hline : (lines body)[number]? = some line := by
      rw [← List.head?_drop, hdrop, List.head?_cons]
    obtain ⟨e', he', rfl, hnumber, rfl⟩ := hcovers'.exists_entry htext hline
    obtain ⟨deeper, s, s', hsettles⟩ := hcovers'.settled e' he'
    rcases hunfolds'.mem_fetched_or_tooDeep he' (hsettles.asksLine_iff.1 hasks) with hmem | hdeep
    · exact .inl hmem
    · cases horigin : e'.origin with
      | source => exact absurd hdeep (hunfolds'.ne_tooDeep_of_source hpos he' horigin)
      | fragment outer =>
        exact .inr ⟨token, .cut he he' horigin horigin hnumber rfl hfetched hdeep, .refl⟩
  · -- The text that the line stands in is lost, and with it what it includes.
    exact .inr ⟨b, hbreak, hpath.tail ⟨_, he, rfl, htoken⟩⟩

/-- The fragment of a token that is asked for again is met again, unless another is. -/
theorem found_of_fetched {fragment : List Char}
    (he : ⟨origin, number, line, .expanded token fragment⟩ ∈ course)
    (h : token ∈ course'.filterMap Entry.fetched? ∨ Lost course course' token) :
    Found source course course' (.fragment token) 0 (lines fragment) := by
  rcases h with hmem | hlost
  · obtain ⟨e', he', hfetched'⟩ := List.mem_filterMap.1 hmem
    by_cases hfate : e'.fate = .expanded token fragment
    · exact .inl ⟨fragment, .fragment (mem_opened_iff.2 ⟨e', he', hfate⟩), rfl⟩
    · exact .inr ⟨token, rfl, token, .answered he he' rfl hfetched' hfate, .refl⟩
  · exact .inr ⟨token, rfl, hlost⟩

/-- **What is asked for under the smaller limit** is asked for under the greater, or lost. -/
theorem Unfolds.mem_fetched_or_lost
    (h : Unfolds (Catalogue.providers σ catalogues) limit levels origin number ls t entries text t')
    {s : Trail σ}
    (hunfolds' : Unfolds (Catalogue.providers σ catalogues) limit' limit' .source 0 (lines source)
      (.start host .empty) course' text' s)
    (hcovers' : Covers (Catalogue.providers σ catalogues) limit' source course')
    (hle : levels ≤ limit') (hsub : entries ⊆ course)
    (hfound : Found source course course' origin number ls) {e : Entry} (he : e ∈ entries)
    (hfetched : e.fetched? = some token) :
    token ∈ course'.filterMap Entry.fetched? ∨ Lost course course' token := by
  induction h generalizing token with
  | nil => cases he
  | passed hsettles hopened hrest ih =>
    rcases List.mem_cons.1 he with rfl | he
    · obtain ⟨hdeeper, c, ⟨reference, hline, hfirst⟩, -⟩ := hsettles.exists_picks hfetched
      have hpos := of_decide_eq_true hdeeper
      exact hfound.mem_fetched_or_lost hunfolds' hcovers' (by omega) (hsub he) hfetched
        (hsettles.asksLine_iff.2 (Fate.token?_of_fetched? hfetched))
    · exact ih hle (List.subset_of_cons_subset hsub) hfound.tail he hfetched
  | @expanded levels _ _ _ _ _ _ _ _ token' _ _ _ _ _ hsettles hinner hrest ihinner ihrest =>
    have hhead := hsub List.mem_cons_self
    obtain ⟨hinnersub, hrestsub⟩ := List.append_subset.1 (List.subset_of_cons_subset hsub)
    have hasked : token' ∈ course'.filterMap Entry.fetched? ∨ Lost course course' token' :=
      hfound.mem_fetched_or_lost hunfolds' hcovers' (by omega) hhead rfl
        (hsettles.asksLine_iff.2 rfl)
    rcases List.mem_cons.1 he with rfl | he
    · cases hfetched
      exact hasked
    rcases List.mem_append.1 he with he | he
    · exact ihinner (by omega) hinnersub (found_of_fetched hhead hasked) he hfetched
    · exact ihrest hle hrestsub hfound.tail he hfetched

/-! ### What is visited under both limits -/

/-- **A greater limit loses only what is included where the includes break off**, for all
catalogues, all sources and all limits. What is visited under the smaller limit is visited under the
greater, or it is included by a token whose directive is too deep under the greater limit, or which
has another answer there. So nothing is lost where the catalogues agree and the greater limit drops
no directive. -/
theorem Catalogue.visited_deeper_or_lost (catalogues : List Catalogue) {maxDepth maxDepth' : Nat}
    (hle : maxDepth ≤ maxDepth') (host : σ) (source : List Char) :
    let r : Resolver σ := resolver catalogues maxDepth
    let r' : Resolver σ := resolver catalogues maxDepth'
    (∀ token, (r.resolve host source).visited.contains token = true →
        (r'.resolve host source).visited.contains token = true ∨
          Lost (r.course host .empty source) (r'.course host .empty source) token) ∧
      (Agree catalogues → ¬ r'.DropsForDepth host source →
        ∀ token, (r.resolve host source).visited.contains token = true →
          (r'.resolve host source).visited.contains token = true) := by
  intro r r'
  obtain ⟨text, hunfolds, -⟩ := r.exists_unfolds host .empty source
  obtain ⟨text', hunfolds', -⟩ := r'.exists_unfolds host .empty source
  have hcovers := r.covers_course host .empty source
  have hcovers' := r'.covers_course host .empty source
  have hlost : ∀ token, (r.resolve host source).visited.contains token = true →
      (r'.resolve host source).visited.contains token = true ∨
        Lost (r.course host .empty source) (r'.course host .empty source) token := by
    intro token hvisited
    obtain ⟨e, he, hfetched⟩ := List.mem_filterMap.1 (hunfolds.contains_iff.1 hvisited)
    have hfound : Found source (r.course host .empty source) (r'.course host .empty source)
        .source 0 (lines source) := .inl ⟨source, .source, rfl⟩
    exact (hunfolds.mem_fetched_or_lost hunfolds' hcovers' hle (List.Subset.refl _) hfound he
      hfetched).imp_left hunfolds'.contains_iff.2
  refine ⟨hlost, fun hagree hnot token hvisited ↦ (hlost token hvisited).resolve_right ?_⟩
  rintro ⟨b, hbreak, -⟩
  cases hbreak with
  | cut he he' horigin horigin' hnumber hline hfetched hdeep =>
    exact hnot (Resolver.dropsForDepth_iff.2 ⟨_, he', b, hdeep⟩)
  | answered he he' hfetched hfetched' hne =>
    obtain ⟨deeper, s, s', hsettles⟩ := hcovers.settled _ he
    obtain ⟨deeper', u, u', hsettles'⟩ := hcovers'.settled _ he'
    obtain ⟨answer, hanswers, hfate⟩ := hsettles.exists_answers hfetched
    obtain ⟨answer', hanswers', hfate'⟩ := hsettles'.exists_answers hfetched'
    rw [hfate, hfate', hagree b answer answer' hanswers hanswers'] at hne
    exact hne rfl

/-- Fragments that lead to `y` by way of `a`, `b` and `x`. -/
def Catalogue.detour : Catalogue where
  find := some
  fetch token :=
    .ok (if token = "a" then "#include b" else if token = "b" then "#include x"
      else if token = "x" then "#include y" else "let y = 1;").toList

/-- A source that leads to `y` by a detour, and then directly by way of `x`. -/
def detourSource : List Char := "#include a\n#include x".toList

/-- **A greater limit can lose a fragment.** With two levels `x` is met closer to the source, and
`y` is visited; with three it is met on the detour, where `y` is too deep. -/
theorem Catalogue.exists_lost :
    ¬ ∀ (catalogues : List Catalogue) (source : List Char) (maxDepth maxDepth' : Nat),
      maxDepth ≤ maxDepth' → ∀ token,
        ((resolver catalogues maxDepth : Resolver Unit).resolve () source).visited.contains token =
          true →
        ((resolver catalogues maxDepth' : Resolver Unit).resolve () source).visited.contains
          token = true := by
  intro h
  have hsmaller : ((resolver [detour] 2).resolve () detourSource).visited.contains "y" = true := by
    decide +kernel
  have hgreater : ((resolver [detour] 3).resolve () detourSource).visited.contains "y" = false := by
    decide +kernel
  have hvisited := h [detour] detourSource 2 3 (by decide) "y" hsmaller
  exact Bool.false_ne_true (hgreater.symm.trans hvisited)

/-- With three levels `y` is lost, where the includes break off; with four nothing is. -/
theorem Catalogue.visited_deeper_or_lost_detour :
    let course := (resolver [detour] 2).course () .empty detourSource
    let course' := (resolver [detour] 3).course () .empty detourSource
    ((resolver [detour] 2).resolve () detourSource).visited.contains "y" = true ∧
      Lost course course' "y" ∧
      Agree [detour] ∧ ¬ (resolver [detour] 4).DropsForDepth () detourSource ∧
      ((resolver [detour] 4).resolve () detourSource).visited.contains "y" = true := by
  intro course course'
  have hvisited : ((resolver [detour] 2).resolve () detourSource).visited.contains "y" = true := by
    decide +kernel
  have hlost : ((resolver [detour] 3).resolve () detourSource).visited.contains "y" = false := by
    decide +kernel
  have hquiet : ((resolver [detour] 4).resolve () detourSource).trail.events = [] := by
    decide +kernel
  have hnot : ¬ (resolver [detour] 4).DropsForDepth () detourSource := by
    rintro ⟨reference, hmem⟩
    rw [hquiet] at hmem
    cases hmem
  have hthree := (visited_deeper_or_lost [detour] (show 2 ≤ 3 by decide) () detourSource).1
  have hfour := (visited_deeper_or_lost [detour] (show 2 ≤ 4 by decide) () detourSource).2
  have hagree := agree_singleton detour
  refine ⟨hvisited, (hthree "y" hvisited).resolve_left ?_, hagree, hnot,
    hfour hagree hnot "y" hvisited⟩
  rw [hlost]
  exact Bool.false_ne_true

end ScriptSandbox.Include

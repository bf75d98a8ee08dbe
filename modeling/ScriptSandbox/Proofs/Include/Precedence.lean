import Mathlib.Logic.Relation
import ScriptSandbox.Proofs.Include.Accounting

/-!
# What is included comes first

Where nothing was dropped and no fragment includes itself, all lines of a fragment stand before the
lines that follow a directive for it, also where the directive was skipped because the fragment had
been expanded for another one.

The entries of a fragment form one stretch of the course, right after the entry that expanded it
(`Unfolds.exists_extent`), and whatever lies in the stretch is included by the fragment, directly or
through others. A directive that was skipped lies behind the entry that expanded its token. It does
not lie in the stretch, or the fragment would include itself; so it lies behind it, with all that
follows (`Unfolds.exists_cut`).
-/

namespace ScriptSandbox.Include

open ScriptSandbox.Text

variable {σ : Type} {providers : List (Provider σ)} {limit : Nat}

/-- The fragment of a token has a directive for another token. -/
def Includes (course : List Entry) (token other : String) : Prop :=
  ∃ e ∈ course, e.origin = .fragment token ∧ e.fate.token? = some other

/-! ### The extent of a fragment -/

namespace Unfolds

variable {levels number : Nat} {origin : Origin} {ls : List (List Char)} {t t' : Trail σ}
  {entries : List Entry} {text : List Char} {token : String} {fragment : List Char}

/-- The lines met while a fragment is expanded stand in fragments that it includes. -/
theorem reflTransGen_includes
    (h : Unfolds providers limit levels origin number ls t entries text t')
    (horigin : origin = .fragment token) {course : List Entry} (hcourse : entries ⊆ course)
    {e : Entry} (he : e ∈ entries) :
    ∃ other, e.origin = .fragment other ∧ Relation.ReflTransGen (Includes course) token other := by
  induction h generalizing token with
  | nil => cases he
  | passed hsettles hopened hrest ih =>
    rcases List.mem_cons.1 he with rfl | he
    · exact ⟨token, horigin, .refl⟩
    · exact ih horigin (List.subset_of_cons_subset hcourse) he
  | @expanded _ _ _ _ _ _ _ _ _ token' _ inner entries _ _ hsettles hinner hrest ihinner ihrest =>
    obtain ⟨hinnersub, hrestsub⟩ := List.append_subset.1 (List.subset_of_cons_subset hcourse)
    rcases List.mem_cons.1 he with rfl | he
    · exact ⟨token, horigin, .refl⟩
    rcases List.mem_append.1 he with he | he
    · have hincludes : Includes course token token' := ⟨_, hcourse List.mem_cons_self, horigin, rfl⟩
      obtain ⟨other, hother, hpath⟩ := ihinner rfl hinnersub he
      exact ⟨other, hother, .head hincludes hpath⟩
    · exact ihrest horigin hrestsub he

/-- What follows an entry that expands a fragment begins with the course of the fragment. -/
theorem exists_block (h : Unfolds providers limit levels origin number ls t entries text t')
    {before after : List Entry} {e : Entry} (hentries : entries = before ++ e :: after)
    (hfate : e.fate = .expanded token fragment) :
    ∃ fewer s s' inner block rest, after = block ++ rest ∧ s.visited.contains token = true ∧
      Unfolds providers limit fewer (.fragment token) 0 (lines fragment) s block inner s' := by
  induction h generalizing before after with
  | nil => exact absurd hentries (List.append_ne_nil_of_right_ne_nil _ (List.cons_ne_nil _ _)).symm
  | passed hsettles hopened hrest ih =>
    rcases List.cons_eq_append_iff.1 hentries with ⟨rfl, heq⟩ | ⟨before', rfl, heq⟩
    · cases heq
      rw [Fate.opened?_eq_some_iff.2 hfate] at hopened
      cases hopened
    · exact ih heq
  | expanded hsettles hinner hrest ihinner ihrest =>
    rcases List.cons_eq_append_iff.1 hentries with ⟨rfl, heq⟩ | ⟨before', rfl, heq⟩
    · cases heq
      cases hfate
      exact ⟨_, _, _, _, _, _, rfl, hsettles.visits.contains_of_mem (List.mem_singleton_self _),
        hinner⟩
    · rcases append_eq_append_cons heq with ⟨mid, hmid, rfl⟩ | ⟨mid, rfl, hmid⟩
      · obtain ⟨fewer, s, s', inner, block, rest, rfl, hseen, hblock⟩ := ihinner hmid
        exact ⟨fewer, s, s', inner, block, _, List.append_assoc _ _ _, hseen, hblock⟩
      · exact ihrest hmid

/-- **The lines of a fragment stand together**, right after the directive that it was expanded for,
with the lines of nothing but what it includes. -/
theorem exists_extent (h : Unfolds providers limit levels origin number ls t entries text t')
    (hbegun : origin.IsBegun t.visited) {before after : List Entry} {e : Entry}
    (hentries : entries = before ++ e :: after) (hfate : e.fate = .expanded token fragment) :
    ∃ block rest, after = block ++ rest ∧
      (∀ x ∈ block, ∃ other, x.origin = .fragment other ∧
        Relation.ReflTransGen (Includes entries) token other) ∧
      ∀ x ∈ rest, x.origin ≠ .fragment token := by
  obtain ⟨fewer, s, s', inner, block, rest, rfl, hseen, hblock⟩ := h.exists_block hentries hfate
  refine ⟨block, rest, rfl, fun x hx ↦ ?_, ?_⟩
  · refine hblock.reflTransGen_includes rfl (fun y hy ↦ ?_) hx
    rw [hentries]
    exact List.mem_append_right _ (List.mem_cons_of_mem _ (List.mem_append_left _ hy))
  · -- All lines of the fragment stand in the block, and there are no more of them in the course.
    have hopened : (token, fragment) ∈ entries.filterMap Entry.opened? :=
      mem_opened_iff.2 ⟨e, by rw [hentries]; simp, hfate⟩
    have hall := congrArg List.length (h.map_filter_opened hbegun hopened)
    have hown := congrArg List.length (hblock.map_filter_own hseen)
    rw [List.length_map, List.length_zipIdx] at hall hown
    rw [hentries, List.filter_append, List.filter_cons, List.filter_append] at hall
    have hnone : (rest.filter (Entry.isFrom (.fragment token))).length = 0 := by
      split at hall
      all_goals
        simp only [List.length_append, List.length_cons] at hall
        omega
    intro x hx hfrom
    have hx' := List.filter_eq_nil_iff.1 (List.length_eq_zero_iff.1 hnone) x hx
    exact hx' (decide_eq_true hfrom)

end Unfolds

/-! ### Before and after a directive -/

/-- What the fragment of a directive includes does not hold the directive. -/
theorem origin_ne_of_reflTransGen {course : List Entry}
    (hacyclic : ∀ token, ¬ Relation.TransGen (Includes course) token token) {d : Entry}
    (hd : d ∈ course) {token other : String} (htoken : d.fate.token? = some token)
    (hpath : Relation.ReflTransGen (Includes course) token other) : d.origin ≠ .fragment other :=
  fun horigin ↦ hacyclic token (.tail' hpath ⟨d, hd, horigin, htoken⟩)

section Cut

variable {levels number : Nat} {ls : List (List Char)} {host : σ} {t : Trail σ}
  {course before after : List Entry} {text source : List Char} {d : Entry} {token : String}

/-- The cut at a directive whose fragment was expanded in its place lies behind the fragment. -/
theorem Unfolds.exists_cut_of_expanded {fragment : List Char}
    (h : Unfolds providers limit levels .source number ls (.start host .empty) course text t)
    (hcovers : Covers providers limit source course)
    (hacyclic : ∀ token, ¬ Relation.TransGen (Includes course) token token)
    (hcourse : course = before ++ d :: after) (hfate : d.fate = .expanded token fragment) :
    ∃ first second, course = first ++ second ∧
      (∀ y ∈ first, y.origin = d.origin → y.number ≤ d.number) ∧
      ∀ x ∈ second, x.origin ≠ .fragment token := by
  have hd : d ∈ course := by simp [hcourse]
  have htoken : d.fate.token? = some token := by rw [hfate]; rfl
  obtain ⟨block, rest, rfl, hblock, hrest⟩ := h.exists_extent trivial hcourse hfate
  refine ⟨before ++ d :: block, rest, by rw [hcourse, List.append_assoc]; rfl, ?_, hrest⟩
  intro y hy horigin
  rcases List.mem_append.1 hy with hy | hy
  · exact Nat.le_of_lt (hcovers.number_lt hcourse hy horigin)
  rcases List.mem_cons.1 hy with rfl | hy
  · exact Nat.le_refl _
  · obtain ⟨other, hother, hpath⟩ := hblock y hy
    exact absurd (horigin.symm.trans hother) (origin_ne_of_reflTransGen hacyclic hd htoken hpath)

/-- The cut at a directive that was skipped lies behind the directive: the fragment had been
expanded for an entry before it, and has ended. -/
theorem Unfolds.exists_cut_of_skipped
    (h : Unfolds providers limit levels .source number ls (.start host .empty) course text t)
    (hcovers : Covers providers limit source course)
    (hcomplete : course.filterMap Entry.dropped? = [])
    (hacyclic : ∀ token, ¬ Relation.TransGen (Includes course) token token)
    (hcourse : course = before ++ d :: after) (hfate : d.fate = .skipped token) :
    ∃ first second, course = first ++ second ∧
      (∀ y ∈ first, y.origin = d.origin → y.number ≤ d.number) ∧
      ∀ x ∈ second, x.origin ≠ .fragment token := by
  have hd : d ∈ course := by simp [hcourse]
  have htoken : d.fate.token? = some token := by rw [hfate]; rfl
  have hasked := (h.mem_of_skipped hcourse hfate).resolve_left Bool.false_ne_true
  obtain ⟨e, he, hfetched⟩ := List.mem_filterMap.1 hasked
  obtain ⟨fragment, hexpanded⟩ :=
    hcovers.exists_expanded hcomplete (by simp [hcourse, he]) hfetched
  obtain ⟨early, late, rfl⟩ := List.append_of_mem he
  have hcourse' : course = early ++ e :: (late ++ d :: after) := by
    rw [hcourse, List.append_assoc, List.cons_append]
  obtain ⟨block, rest, hextent, hblock, hrest⟩ := h.exists_extent trivial hcourse' hexpanded
  rcases append_eq_append_cons hextent.symm with ⟨mid, rfl, -⟩ | ⟨mid, rfl, rfl⟩
  -- The directive does not lie in the fragment, which would include itself.
  · obtain ⟨other, hother, hpath⟩ := hblock d (by simp)
    exact absurd hother (origin_ne_of_reflTransGen hacyclic hd htoken hpath)
  · refine ⟨early ++ e :: (block ++ mid) ++ [d], after, ?_, ?_, ?_⟩
    · rw [hcourse, List.append_assoc _ [d]]
      rfl
    · intro y hy horigin
      rcases List.mem_append.1 hy with hy | hy
      · exact Nat.le_of_lt (hcovers.number_lt hcourse hy horigin)
      · exact Nat.le_of_eq (by rw [List.mem_singleton.1 hy])
    · exact fun x hx ↦ hrest x (List.mem_append_right _ (List.mem_cons_of_mem _ hx))

/-- **The course can be cut** between the lines of a directive's fragment and the lines that follow
the directive. -/
theorem Unfolds.exists_cut
    (h : Unfolds providers limit levels .source number ls (.start host .empty) course text t)
    (hcovers : Covers providers limit source course)
    (hcomplete : course.filterMap Entry.dropped? = [])
    (hacyclic : ∀ token, ¬ Relation.TransGen (Includes course) token token) (hd : d ∈ course)
    (htoken : d.fate.token? = some token) :
    ∃ first second, course = first ++ second ∧
      (∀ y ∈ first, y.origin = d.origin → y.number ≤ d.number) ∧
      ∀ x ∈ second, x.origin ≠ .fragment token := by
  obtain ⟨before, after, hcourse⟩ := List.append_of_mem hd
  have hdropped := hcovers.isDropped_eq_false hcomplete hd
  cases hfate : d.fate with
  | kept | unmatched =>
    rw [hfate] at htoken
    cases htoken
  | tooDeep _ | failed _ _ =>
    rw [hfate] at hdropped
    cases hdropped
  | expanded token' fragment =>
    rw [hfate] at htoken
    cases htoken
    exact h.exists_cut_of_expanded hcovers hacyclic hcourse hfate
  | skipped token' =>
    rw [hfate] at htoken
    cases htoken
    exact h.exists_cut_of_skipped hcovers hcomplete hacyclic hcourse hfate

end Cut

/-- What does not belong to the second part of a list comes before what does not belong to the
first. -/
theorem lt_of_getElem_append {first second : List Entry} {i j : Nat}
    (hi : i < (first ++ second).length) (hj : j < (first ++ second).length)
    (hsecond : (first ++ second)[i] ∉ second) (hfirst : (first ++ second)[j] ∉ first) : i < j := by
  have hifirst : i < first.length := by
    by_contra hge
    rw [List.getElem_append_right (Nat.not_lt.1 hge)] at hsecond
    exact hsecond (List.getElem_mem _)
  have hjsecond : first.length ≤ j := by
    by_contra hlt
    rw [List.getElem_append_left (Nat.not_le.1 hlt)] at hfirst
    exact hfirst (List.getElem_mem _)
  exact Nat.lt_of_lt_of_le hifirst hjsecond

/-- **What is included is defined before it is used.** Where a resolution dropped nothing and no
fragment includes itself, every line of the fragment of a directive stands in the text before every
line that follows the directive in its own text, whether the directive gave way to the fragment or
was skipped. -/
theorem Resolver.included_before_following (r : Resolver σ) (host : σ) (source : List Char)
    (hcomplete : (r.resolve host source).unresolved = [])
    (hacyclic : ∀ token,
      ¬ Relation.TransGen (Includes (r.course host .empty source)) token token) :
    let course := r.course host .empty source
    let output := course.filter Entry.isOutput
    Covers r.providers r.maxDepth source course ∧
      contents (r.resolve host source).text = output.map Entry.stripped ∧
      ∀ d ∈ course, ∀ token, d.fate.token? = some token →
        ∀ (i j : Nat) (hi : i < output.length) (hj : j < output.length),
          output[i].origin = .fragment token → output[j].origin = d.origin →
          d.number < output[j].number → i < j := by
  obtain ⟨text, hunfolds, htext⟩ := r.exists_unfolds host .empty source
  have hcovers := r.covers_course host .empty source
  have hdropped : (r.course host .empty source).filterMap Entry.dropped? = [] :=
    hunfolds.unresolved.symm.trans hcomplete
  refine ⟨hcovers, ?_, ?_⟩
  · rw [Resolver.resolve, htext, contents_trim]
    exact hunfolds.contents_eq fun _ hline ↦ not_mem_of_mem_lines hline
  · intro d hd token htoken i j hi hj hfragment horigin hnumber
    obtain ⟨first, second, hcut, hfirst, hsecond⟩ :=
      hunfolds.exists_cut hcovers hdropped hacyclic hd htoken
    simp only [hcut, List.filter_append] at hi hj hfragment horigin hnumber
    exact lt_of_getElem_append hi hj
      (fun hmem ↦ hsecond _ (List.mem_of_mem_filter hmem) hfragment)
      fun hmem ↦ absurd hnumber (Nat.not_lt.2 (hfirst _ (List.mem_of_mem_filter hmem) horigin))

/-- Two fragments, of which `a` includes `b`. -/
def diamond : Resolver Unit where
  providers := [.ofFunctions (fun reference ↦ some reference) fun token ↦
    .ok (if token = "a" then "#include b\nlet a = 1;" else "let b = 2;").toList]

/-- A source that includes `b` once more. -/
def diamondSource : List Char := "#include a\n#include b\nlet main = 0;".toList

theorem includes_diamond {token other : String}
    (h : Includes (diamond.course () .empty diamondSource) token other) :
    token = "a" ∧ other = "b" := by
  obtain ⟨e, he, horigin, htoken⟩ := h
  have hentries : (diamond.course () .empty diamondSource).map
        (fun e ↦ (e.origin, e.fate.token?)) =
      [(.source, some "a"), (.fragment "a", some "b"), (.fragment "b", none),
        (.fragment "a", none), (.source, some "b"), (.source, none)] := by
    decide +kernel
  have hmem := List.mem_map_of_mem (f := fun e ↦ (Entry.origin e, e.fate.token?)) he
  rw [hentries, horigin, htoken] at hmem
  simpa using hmem

/-- The second directive of the source is skipped, and what it asks for stands before `main`. -/
theorem Resolver.included_before_following_diamond :
    let course := diamond.course () .empty diamondSource
    let output := course.filter Entry.isOutput
    (diamond.resolve () diamondSource).unresolved = [] ∧
      (∀ token, ¬ Relation.TransGen (Includes course) token token) ∧
      ⟨.source, 1, "#include b".toList, .skipped "b"⟩ ∈ course ∧
      ∀ (i j : Nat) (hi : i < output.length) (hj : j < output.length),
        output[i].origin = .fragment "b" → output[j].origin = .source →
        1 < output[j].number → i < j := by
  intro course output
  have hnone : (diamond.resolve () diamondSource).unresolved = [] := by decide +kernel
  have hpath {token other : String} (h : Relation.TransGen (Includes course) token other) :
      token = "a" ∧ other = "b" := by
    induction h with
    | single h => exact includes_diamond h
    | tail hpath h ih => exact ⟨ih.1, (includes_diamond h).2⟩
  have hacyclic (token : String) : ¬ Relation.TransGen (Includes course) token token := fun h ↦
    absurd ((hpath h).1.symm.trans (hpath h).2) (by decide)
  have hskipped : ⟨.source, 1, "#include b".toList, .skipped "b"⟩ ∈ course := by decide +kernel
  obtain ⟨-, -, hbefore⟩ := diamond.included_before_following () diamondSource hnone hacyclic
  exact ⟨hnone, hacyclic, hskipped, hbefore _ hskipped "b" rfl⟩

end ScriptSandbox.Include

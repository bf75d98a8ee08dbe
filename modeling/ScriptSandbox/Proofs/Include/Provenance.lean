import Mathlib.Data.List.Nodup
import ScriptSandbox.Proofs.Include.Course

/-!
# Where each line comes from

What a course says about the run it was written by. The tokens its entries asked for are those that
the trail says were fetched (`Unfolds.visits`), and the references its entries dropped are those
that the trail says were dropped (`Unfolds.unresolved`).

Each text stands in a course once, line by line and in order: the text that is expanded, and every
fragment that was expanded on the way (`Covers`). An entry that expands a fragment has asked for a
token that was new to the set, while the text it stands in had been there before it; so no text is
opened again inside itself or after it has ended.
-/

namespace ScriptSandbox.Include

open ScriptSandbox.Text

variable {σ : Type} {providers : List (Provider σ)} {limit : Nat}

/-! ### The trail that a course leaves -/

namespace Trail.Visits

variable {t t' : Trail σ} {tokens : List String} {token : String}

theorem contains_of_contains (h : Visits t t' tokens) (hseen : t.visited.contains token = true) :
    t'.visited.contains token = true := by
  rw [h.visited, Visited.contains_foldl_insert]
  exact .inl hseen

theorem contains_of_mem (h : Visits t t' tokens) (hmem : token ∈ tokens) :
    t'.visited.contains token = true := by
  rw [h.visited, Visited.contains_foldl_insert]
  exact .inr hmem

end Trail.Visits

theorem Settles.visits {deeper : Bool} {line : List Char} {t t' : Trail σ} {fate : Fate}
    (h : Settles providers limit deeper line t fate t') : t.Visits t' fate.fetched?.toList := by
  cases h with
  | kept | unmatched | skipped | tooDeep => exact .of_eq rfl rfl
  | failed hline hmatch hnew hdeep hfetch | expanded hline hmatch hnew hdeep hfetch =>
    exact (Trail.Visits.visit hnew _).trans (.of_eq rfl rfl)

theorem Settles.unresolved {deeper : Bool} {line : List Char} {t t' : Trail σ} {fate : Fate}
    (h : Settles providers limit deeper line t fate t') :
    t'.unresolved = t.unresolved ++ (if fate.isDropped then reference? line else none).toList := by
  cases h with
  | kept hline => exact (List.append_nil _).symm
  | skipped hline hmatch hseen => exact (List.append_nil _).symm
  | expanded hline hmatch hnew hdeep hfetch => exact (List.append_nil _).symm
  | unmatched hline | tooDeep hline | failed hline =>
    rw [hline]
    rfl

theorem filterMap_cons_toList {α : Type} (f : Entry → Option α) (e : Entry) (entries : List Entry) :
    (e :: entries).filterMap f = (f e).toList ++ entries.filterMap f := by
  rw [List.filterMap_eq_flatMap_toList, List.flatMap_cons, ← List.filterMap_eq_flatMap_toList]

/-- An entry of two stretches belongs to one of them. -/
theorem append_eq_append_cons {first second before after : List Entry} {e : Entry}
    (h : first ++ second = before ++ e :: after) :
    (∃ mid, first = before ++ e :: mid ∧ after = mid ++ second) ∨
      ∃ mid, before = first ++ mid ∧ second = mid ++ e :: after := by
  rcases List.append_eq_append_iff.1 h with ⟨mid, hbefore, hsecond⟩ | ⟨mid, hfirst, hafter⟩
  · exact .inr ⟨mid, hbefore, hsecond⟩
  · rcases List.cons_eq_append_iff.1 hafter with ⟨rfl, hsecond⟩ | ⟨mid', rfl, hafter⟩
    · exact .inr ⟨[], by rw [hfirst, List.append_nil, List.append_nil], hsecond⟩
    · exact .inl ⟨mid', hfirst, (List.cons.inj hafter).2⟩

/-- Every token whose fragment was expanded had been asked for. -/
theorem opened_sublist_fetched (entries : List Entry) :
    ((entries.filterMap Entry.opened?).map Prod.fst).Sublist
      (entries.filterMap Entry.fetched?) := by
  induction entries with
  | nil => exact .refl _
  | cons e entries ih =>
    rw [filterMap_cons_toList, filterMap_cons_toList, List.map_append]
    refine .append ?_ ih
    rw [Entry.opened?, Entry.fetched?]
    cases e.fate with
    | expanded token fragment => exact .refl _
    | _ => exact List.nil_sublist _

theorem mem_fetched_of_mem_opened {entries : List Entry} {token : String} {fragment : List Char}
    (h : (token, fragment) ∈ entries.filterMap Entry.opened?) :
    token ∈ entries.filterMap Entry.fetched? :=
  (opened_sublist_fetched entries).subset (List.mem_map_of_mem h)

theorem mem_opened_iff {entries : List Entry} {token : String} {fragment : List Char} :
    (token, fragment) ∈ entries.filterMap Entry.opened? ↔
      ∃ e ∈ entries, e.fate = .expanded token fragment := by
  simp only [List.mem_filterMap, Entry.opened?, Fate.opened?_eq_some_iff]

theorem mem_of_firstMatch {index : Nat} {reference : String} {host host' : σ} {found : Match σ}
    (h : firstMatch index reference providers host = (some found, host')) :
    found.provider ∈ providers := by
  induction providers generalizing index host with
  | nil => cases h
  | cons provider rest ih =>
    rcases hfind : provider.find reference host with ⟨token, host''⟩
    cases token with
    | none =>
      rw [firstMatch_cons_of_none hfind] at h
      exact List.mem_cons_of_mem _ (ih h)
    | some token =>
      rw [firstMatch_cons_of_some hfind] at h
      cases h
      exact List.mem_cons_self

namespace Unfolds

variable {levels number : Nat} {origin : Origin} {ls : List (List Char)} {t t' : Trail σ}
  {entries : List Entry} {text : List Char} {token : String} {fragment : List Char}

/-- The tokens fetched are those the entries asked for. -/
theorem visits (h : Unfolds providers limit levels origin number ls t entries text t') :
    t.Visits t' (entries.filterMap Entry.fetched?) := by
  induction h with
  | nil => exact .of_eq rfl rfl
  | passed hsettles hopened hrest ih =>
    rw [filterMap_cons_toList]
    exact hsettles.visits.trans ih
  | expanded hsettles hinner hrest ihinner ihrest =>
    rw [filterMap_cons_toList, List.filterMap_append]
    exact hsettles.visits.trans (ihinner.trans ihrest)

/-- The references dropped are those the entries dropped. -/
theorem unresolved (h : Unfolds providers limit levels origin number ls t entries text t') :
    t'.unresolved = t.unresolved ++ entries.filterMap Entry.dropped? := by
  induction h with
  | nil => exact (List.append_nil _).symm
  | passed hsettles hopened hrest ih =>
    rw [filterMap_cons_toList, ih, hsettles.unresolved, List.append_assoc]
    rfl
  | expanded hsettles hinner hrest ihinner ihrest =>
    rw [filterMap_cons_toList, List.filterMap_append, ihrest, ihinner, hsettles.unresolved,
      List.append_assoc, List.append_assoc]
    rfl

/-- **Each line was met with what the entries before it had visited**, and with as many levels fewer
at most as they had asked for tokens. -/
theorem exists_settles (h : Unfolds providers limit levels origin number ls t entries text t')
    {before after : List Entry} {e : Entry} (hentries : entries = before ++ e :: after) :
    ∃ fewer s s', Settles providers limit (decide (0 < fewer)) e.line s e.fate s' ∧
      t.Visits s (before.filterMap Entry.fetched?) ∧
      levels ≤ fewer + (before.filterMap Entry.fetched?).length := by
  induction h generalizing before after with
  | nil => exact absurd hentries (List.append_ne_nil_of_right_ne_nil _ (List.cons_ne_nil _ _)).symm
  | @passed levels _ _ _ _ t _ _ _ _ _ hsettles hopened hrest ih =>
    rcases List.cons_eq_append_iff.1 hentries with ⟨rfl, heq⟩ | ⟨before', rfl, heq⟩
    · cases heq
      exact ⟨levels, t, _, hsettles, .of_eq rfl rfl, Nat.le_add_right _ _⟩
    · obtain ⟨fewer, s, s', hs, hvisits, hlevels⟩ := ih heq
      refine ⟨fewer, s, s', hs, ?_, ?_⟩
      · rw [filterMap_cons_toList]
        exact hsettles.visits.trans hvisits
      · rw [filterMap_cons_toList, List.length_append]
        omega
  | @expanded levels _ _ _ _ t _ _ _ _ _ _ _ _ _ hsettles hinner hrest ihinner ihrest =>
    rcases List.cons_eq_append_iff.1 hentries with ⟨rfl, heq⟩ | ⟨before', rfl, heq⟩
    · cases heq
      exact ⟨levels + 1, t, _, by simpa using hsettles, .of_eq rfl rfl, Nat.le_add_right _ _⟩
    · rw [filterMap_cons_toList]
      rcases append_eq_append_cons heq with ⟨mid, hmid, -⟩ | ⟨mid, rfl, hmid⟩
      -- The entry belongs to the fragment, which has one level fewer and one token more.
      · obtain ⟨fewer, s, s', hs, hvisits, hlevels⟩ := ihinner hmid
        refine ⟨fewer, s, s', hs, hsettles.visits.trans hvisits, ?_⟩
        simp only [Entry.fetched?, Fate.fetched?, Option.toList_some, List.singleton_append,
          List.length_cons]
        omega
      -- The entry stands after the fragment.
      · obtain ⟨fewer, s, s', hs, hvisits, hlevels⟩ := ihrest hmid
        refine ⟨fewer, s, s', hs, ?_, ?_⟩
        · rw [List.filterMap_append]
          exact hsettles.visits.trans (hinner.visits.trans hvisits)
        · simp only [List.filterMap_append, List.length_append]
          omega

/-- A token that is skipped was visited at the beginning, or asked for before. -/
theorem mem_of_skipped (h : Unfolds providers limit levels origin number ls t entries text t')
    {before after : List Entry} {e : Entry} (hentries : entries = before ++ e :: after)
    (hfate : e.fate = .skipped token) :
    t.visited.contains token = true ∨ token ∈ before.filterMap Entry.fetched? := by
  obtain ⟨fewer, s, s', hsettles, hvisits, -⟩ := h.exists_settles hentries
  rw [hfate] at hsettles
  cases hsettles with
  | skipped hline hmatch hseen => rwa [hvisits.visited, Visited.contains_foldl_insert] at hseen

/-! ### Where the entries come from -/

/-- An entry stands in the text whose lines are expanded, or in a fragment expanded on the way. -/
theorem origin_of_mem (h : Unfolds providers limit levels origin number ls t entries text t')
    {e : Entry} (he : e ∈ entries) :
    e.origin = origin ∨ ∃ token fragment, e.origin = .fragment token ∧
      (token, fragment) ∈ entries.filterMap Entry.opened? := by
  induction h with
  | nil => cases he
  | passed hsettles hopened hrest ih =>
    rcases List.mem_cons.1 he with rfl | he
    · exact .inl rfl
    · rcases ih he with heq | ⟨token, fragment, heq, hmem⟩
      · exact .inl heq
      · refine .inr ⟨token, fragment, heq, ?_⟩
        rw [filterMap_cons_toList]
        exact List.mem_append_right _ hmem
  | @expanded _ _ _ _ _ _ _ _ _ token fragment _ _ _ _ hsettles hinner hrest ihinner ihrest =>
    rw [filterMap_cons_toList, List.filterMap_append]
    rcases List.mem_cons.1 he with rfl | he
    · exact .inl rfl
    rcases List.mem_append.1 he with he | he
    · refine .inr ?_
      rcases ihinner he with heq | ⟨token', fragment', heq, hmem⟩
      · exact ⟨token, fragment, heq, List.mem_append_left _ (List.mem_singleton_self _)⟩
      · exact ⟨token', fragment', heq, List.mem_append_right _ (List.mem_append_left _ hmem)⟩
    · rcases ihrest he with heq | ⟨token', fragment', heq, hmem⟩
      · exact .inl heq
      · exact .inr ⟨token', fragment', heq,
          List.mem_append_right _ (List.mem_append_right _ hmem)⟩

end Unfolds

/-- A text that an expansion has begun with: the one it started from, or a fragment whose token has
been visited. -/
def Origin.IsBegun (visited : Visited) : Origin → Prop
  | source => True
  | fragment token => visited.contains token = true

theorem Origin.IsBegun.mono {origin : Origin} {t t' : Trail σ} {tokens : List String}
    (h : origin.IsBegun t.visited) (hvisits : t.Visits t' tokens) : origin.IsBegun t'.visited := by
  cases origin with
  | source => trivial
  | fragment token => exact hvisits.contains_of_contains h

theorem Origin.IsBegun.ne {origin : Origin} {visited : Visited} {token : String}
    (h : origin.IsBegun visited) (hnew : visited.contains token = false) :
    origin ≠ .fragment token := by
  rintro rfl
  exact Bool.false_ne_true (hnew.symm.trans h)

namespace Unfolds

variable {levels number : Nat} {origin : Origin} {ls : List (List Char)} {t t' : Trail σ}
  {entries : List Entry} {text : List Char} {token : String} {fragment : List Char}

/-- A text that has been begun does not come up again in the lines of another. -/
theorem filter_isFrom_eq_nil
    (h : Unfolds providers limit levels origin number ls t entries text t') {other : Origin}
    (hother : other.IsBegun t.visited) (hne : origin ≠ other) :
    entries.filter (Entry.isFrom other) = [] := by
  rw [List.filter_eq_nil_iff]
  intro e he hfrom
  have hfrom : e.origin = other := of_decide_eq_true hfrom
  rcases h.origin_of_mem he with heq | ⟨token, fragment, heq, hopened⟩
  · exact hne (heq.symm.trans hfrom)
  · have hnew := h.visits.fresh token (mem_fetched_of_mem_opened hopened)
    exact hother.ne hnew (hfrom.symm.trans heq)

/-- What has not been visited at the end does not come up. -/
theorem filter_isFrom_eq_nil_of_new
    (h : Unfolds providers limit levels origin number ls t entries text t')
    (hbegun : origin.IsBegun t.visited) (hnew : t'.visited.contains token = false) :
    entries.filter (Entry.isFrom (.fragment token)) = [] := by
  rw [List.filter_eq_nil_iff]
  intro e he hfrom
  have hfrom : e.origin = .fragment token := of_decide_eq_true hfrom
  rcases h.origin_of_mem he with heq | ⟨token', fragment, heq, hopened⟩
  · exact (hbegun.mono h.visits).ne hnew (heq.symm.trans hfrom)
  · have hseen : Origin.IsBegun t'.visited (.fragment token') :=
      h.visits.contains_of_mem (mem_fetched_of_mem_opened hopened)
    exact hseen.ne hnew (heq.symm.trans hfrom)

/-- **The lines stand in their course once, and in order.** -/
theorem map_filter_own (h : Unfolds providers limit levels origin number ls t entries text t')
    (hbegun : origin.IsBegun t.visited) :
    (entries.filter (Entry.isFrom origin)).map Entry.numbered = ls.zipIdx number := by
  induction h with
  | nil => rfl
  | passed hsettles hopened hrest ih =>
    rw [List.filter_cons_of_pos (by simp [Entry.isFrom]), List.map_cons, List.zipIdx_cons,
      ih (hbegun.mono hsettles.visits)]
    rfl
  | expanded hsettles hinner hrest ihinner ihrest =>
    -- The fragment's token was new, so the text begun before is another, not opened in it again.
    have hnew := hsettles.visits.fresh _ (List.mem_singleton_self _)
    have hbegun' := hbegun.mono hsettles.visits
    rw [List.filter_cons_of_pos (by simp [Entry.isFrom]), List.map_cons, List.zipIdx_cons,
      List.filter_append, hinner.filter_isFrom_eq_nil hbegun' (hbegun.ne hnew).symm,
      List.nil_append, ihrest (hbegun'.mono hinner.visits)]
    rfl

/-- **A fragment expanded on the way stands in the course once, and in order.** -/
theorem map_filter_opened (h : Unfolds providers limit levels origin number ls t entries text t')
    (hbegun : origin.IsBegun t.visited)
    (hopened : (token, fragment) ∈ entries.filterMap Entry.opened?) :
    (entries.filter (Entry.isFrom (.fragment token))).map Entry.numbered =
      (lines fragment).zipIdx := by
  induction h with
  | nil => cases hopened
  | @passed _ origin _ _ _ _ _ _ _ _ _ hsettles hpassed hrest ih =>
    rw [filterMap_cons_toList, Entry.opened?, hpassed] at hopened
    have hbegun' := hbegun.mono hsettles.visits
    have hnew := hrest.visits.fresh token (mem_fetched_of_mem_opened hopened)
    rw [List.filter_cons_of_neg (by simpa [Entry.isFrom] using hbegun'.ne hnew)]
    exact ih hbegun' hopened
  | @expanded _ origin number line _ t t' t'' _ token' fragment' inner entries _ _
      hsettles hinner hrest ihinner ihrest =>
    have hvisited' : t'.visited.contains token' = true :=
      hsettles.visits.contains_of_mem (List.mem_singleton_self _)
    have hbegun' := hbegun.mono hsettles.visits
    have hbegun'' := hbegun'.mono hinner.visits
    rw [filterMap_cons_toList, List.filterMap_append, List.mem_append, List.mem_append] at hopened
    -- The line itself stands in a text begun before, and its fragment comes up nowhere else.
    have hskip {token : String} (hne : origin ≠ .fragment token) : Entry.isFrom (.fragment token)
        ⟨origin, number, line, .expanded token' fragment'⟩ ≠ true := by
      simpa [Entry.isFrom] using hne
    rw [List.filter_cons, List.filter_append]
    rcases hopened with hopened | hopened | hopened
    · obtain ⟨rfl, rfl⟩ := Prod.mk.inj (List.mem_singleton.1 hopened)
      have hne := hbegun.ne (hsettles.visits.fresh _ (List.mem_singleton_self _))
      have hbegun'' : Origin.IsBegun t''.visited (.fragment token) :=
        hinner.visits.contains_of_contains hvisited'
      rw [if_neg (hskip hne), hrest.filter_isFrom_eq_nil hbegun'' hne, List.append_nil]
      exact hinner.map_filter_own hvisited'
    · have hne := hbegun'.ne (hinner.visits.fresh _ (mem_fetched_of_mem_opened hopened))
      have hseen : Origin.IsBegun t''.visited (.fragment token) :=
        hinner.visits.contains_of_mem (mem_fetched_of_mem_opened hopened)
      rw [if_neg (hskip hne), hrest.filter_isFrom_eq_nil hseen hne, List.append_nil]
      exact ihinner hvisited' hopened
    · have hnew := hrest.visits.fresh _ (mem_fetched_of_mem_opened hopened)
      rw [if_neg (hskip (hbegun''.ne hnew)), hinner.filter_isFrom_eq_nil_of_new hvisited' hnew,
        List.nil_append]
      exact ihrest hbegun'' hopened

end Unfolds

/-! ### The texts of a course -/

/-- The texts whose lines a course holds: the source, and each fragment that was expanded. -/
inductive TextOf (source : List Char) (entries : List Entry) : Origin → List Char → Prop
  | source : TextOf source entries .source source
  | fragment {token : String} {fragment : List Char}
      (h : (token, fragment) ∈ entries.filterMap Entry.opened?) :
      TextOf source entries (.fragment token) fragment

/-- What a course says of the lines of a source and of the fragments expanded on the way. -/
structure Covers (providers : List (Provider σ)) (limit : Nat) (source : List Char)
    (entries : List Entry) : Prop where
  /-- Each text stands in it line by line, once and in order. -/
  lines : ∀ origin text, TextOf source entries origin text →
    (entries.filter (Entry.isFrom origin)).map Entry.numbered = (lines text).zipIdx
  /-- No line of another text stands in it. -/
  origin : ∀ e ∈ entries, ∃ text, TextOf source entries e.origin text
  /-- The fate of each line is what the providers make of it. -/
  settled : ∀ e ∈ entries, ∃ deeper s s', Settles providers limit deeper e.line s e.fate s'

/-- A token asked for was answered as the fate says. -/
theorem Settles.exists_answer {deeper : Bool} {line : List Char} {t t' : Trail σ} {fate : Fate}
    (h : Settles providers limit deeper line t fate t') {token : String}
    (hfetched : fate.fetched? = some token) :
    ∃ p ∈ providers, ∃ host host' answer, p.fetch token host = (answer, host') ∧
      fate = .ofAnswer token answer := by
  cases h with
  | kept | unmatched | skipped | tooDeep => cases hfetched
  | failed hline hmatch hnew hdeep hfetch | expanded hline hmatch hnew hdeep hfetch =>
    cases hfetched
    exact ⟨_, mem_of_firstMatch hmatch, _, _, _, hfetch, rfl⟩

theorem Settles.eq_kept_iff {deeper : Bool} {line : List Char} {t t' : Trail σ} {fate : Fate}
    (h : Settles providers limit deeper line t fate t') :
    fate = .kept ↔ reference? line = none := by
  cases h with
  | kept hline => exact iff_of_true rfl hline
  | unmatched hline | skipped hline | tooDeep hline | failed hline | expanded hline =>
    rw [hline]
    exact iff_of_false (fun h ↦ by cases h) (fun h ↦ by cases h)

namespace Covers

variable {source text : List Char} {entries : List Entry} {origin : Origin}

/-- The lines kept are the ordinary ones. -/
theorem eq_kept_iff (h : Covers providers limit source entries) {e : Entry} (he : e ∈ entries) :
    e.fate = .kept ↔ reference? e.line = none := by
  obtain ⟨deeper, s, s', hsettles⟩ := h.settled e he
  exact hsettles.eq_kept_iff

/-- Where no reference was dropped, no directive was. -/
theorem isDropped_eq_false (h : Covers providers limit source entries)
    (hnone : entries.filterMap Entry.dropped? = []) {e : Entry} (he : e ∈ entries) :
    e.fate.isDropped = false := by
  have hdropped : e.dropped? = none := List.filterMap_eq_nil_iff.1 hnone e he
  by_contra hne
  rw [Bool.not_eq_false] at hne
  have hdirective : reference? e.line = none := by rwa [Entry.dropped?, if_pos hne] at hdropped
  rw [(h.eq_kept_iff he).2 hdirective] at hne
  cases hne

/-- Each line of a text of the course has its entry. -/
theorem exists_entry (h : Covers providers limit source entries)
    (htext : TextOf source entries origin text) {number : Nat} {line : List Char}
    (hline : (Text.lines text)[number]? = some line) :
    ∃ e ∈ entries, e.origin = origin ∧ e.number = number ∧ e.line = line := by
  have hmem : (line, number) ∈ (Text.lines text).zipIdx := List.mem_zipIdx_iff_getElem?.2 hline
  rw [← h.lines origin text htext] at hmem
  obtain ⟨e, he, heq⟩ := List.mem_map.1 hmem
  obtain ⟨hmem, hfrom⟩ := List.mem_filter.1 he
  exact ⟨e, hmem, of_decide_eq_true hfrom, congrArg Prod.snd heq, congrArg Prod.fst heq⟩

/-- Each entry has its line in a text of the course. -/
theorem exists_text (h : Covers providers limit source entries) {e : Entry} (he : e ∈ entries) :
    ∃ text, TextOf source entries e.origin text ∧ (Text.lines text)[e.number]? = some e.line := by
  obtain ⟨text, htext⟩ := h.origin e he
  have hmem : e.numbered ∈ (Text.lines text).zipIdx := by
    rw [← h.lines e.origin text htext]
    exact List.mem_map_of_mem (List.mem_filter.2 ⟨he, decide_eq_true rfl⟩)
  exact ⟨text, htext, List.mem_zipIdx_iff_getElem?.1 hmem⟩

/-- The lines of one text come in the order of their numbers. -/
theorem pairwise_number (h : Covers providers limit source entries) :
    entries.Pairwise fun e e' ↦ e.origin = e'.origin → e.number < e'.number := by
  rw [List.pairwise_iff_forall_sublist]
  intro e e' hsub heq
  obtain ⟨text, htext, -⟩ := h.exists_text (hsub.subset List.mem_cons_self)
  have hfrom : [e, e'].Sublist (entries.filter (Entry.isFrom e.origin)) := by
    simpa [Entry.isFrom, heq] using hsub.filter (Entry.isFrom e.origin)
  have hnumbers : [e.number, e'.number].Sublist (List.range' 0 (Text.lines text).length) := by
    have hzip := (hfrom.map Entry.numbered).map Prod.snd
    rwa [h.lines e.origin text htext, List.zipIdx_map_snd] at hzip
  exact List.pairwise_iff_forall_sublist.1 List.pairwise_lt_range' hnumbers

theorem number_lt (h : Covers providers limit source entries) {before after : List Entry}
    {d : Entry} (hentries : entries = before ++ d :: after) {e : Entry} (he : e ∈ before)
    (horigin : e.origin = d.origin) : e.number < d.number := by
  have hpairwise := h.pairwise_number
  rw [hentries, List.pairwise_append] at hpairwise
  exact hpairwise.2.2 e he d List.mem_cons_self horigin

/-- Where no directive was dropped, a token asked for has its fragment expanded. -/
theorem exists_expanded (h : Covers providers limit source entries)
    (hnone : entries.filterMap Entry.dropped? = []) {e : Entry} (he : e ∈ entries) {token : String}
    (hfetched : e.fetched? = some token) : ∃ fragment, e.fate = .expanded token fragment := by
  have hdropped := h.isDropped_eq_false hnone he
  rw [Entry.fetched?] at hfetched
  cases hfate : e.fate with
  | expanded token' fragment =>
    rw [hfate] at hfetched
    cases hfetched
    exact ⟨fragment, rfl⟩
  | failed token' err =>
    rw [hfate] at hdropped
    cases hdropped
  | kept | unmatched | skipped | tooDeep =>
    rw [hfate] at hfetched
    cases hfetched

end Covers

theorem Resolver.covers_course (r : Resolver σ) (host : σ) (visited : Visited)
    (source : List Char) :
    Covers r.providers r.maxDepth source (r.course host visited source) := by
  obtain ⟨text, hunfolds, -⟩ := r.exists_unfolds host visited source
  refine ⟨?_, ?_, ?_⟩
  · intro origin text htext
    cases htext with
    | source => exact hunfolds.map_filter_own trivial
    | fragment hopened => exact hunfolds.map_filter_opened trivial hopened
  · intro e he
    rcases hunfolds.origin_of_mem he with heq | ⟨token, fragment, heq, hopened⟩
    · exact ⟨source, heq ▸ .source⟩
    · exact ⟨fragment, heq ▸ .fragment hopened⟩
  · intro e he
    obtain ⟨before, after, heq⟩ := List.append_of_mem he
    obtain ⟨fewer, s, s', hsettles, -⟩ := hunfolds.exists_settles heq
    exact ⟨_, s, s', hsettles⟩

end ScriptSandbox.Include

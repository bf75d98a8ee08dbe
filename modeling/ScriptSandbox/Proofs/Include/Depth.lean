import ScriptSandbox.Proofs.Include.Reach

/-!
# The nesting limit

The limit bounds how deep directives nest, and does nothing else. A token that is fetched stands at
the end of a chain of directives, each in the fragment of the one before, that is no longer than the
limit (`Unfolds.exists_nested`), whatever the catalogues make up. Where no directive is dropped for
its depth, the limit has not been felt: the course is that of any greater limit (`Unfolds.deepen`),
and as there is one course, so is the resolution. And a limit that is not less than the number of
tokens that the directives met can ask for drops none of them, as a token that has been visited is
recognised before the limit is looked at (`Unfolds.levels_lt_card`).

That a directive was dropped for its depth is something an observer is told, so the theorem speaks
of the events of a resolution. They can be read off the course (`Unfolds.events`).
-/

namespace ScriptSandbox.Include

open ScriptSandbox.Text

variable {σ : Type}

/-! ### What an observer is told -/

/-- What an observer is told because of a line. -/
def Entry.event? (limit : Nat) (e : Entry) : Option Event :=
  (reference? e.line).bind fun reference ↦
    match e.fate with
    | .unmatched => some (unmatched reference)
    | .tooDeep _ => some (tooDeep reference limit)
    | .failed token err => some (fetchFailed token err)
    | _ => none

theorem tooDeep_ne_unmatched (reference reference' : String) (limit : Nat) :
    tooDeep reference limit ≠ unmatched reference' := by
  intro heq
  have hlevel : Level.warn = Level.debug := congrArg Event.level heq
  cases hlevel

theorem tooDeep_ne_fetchFailed (reference token : String) (limit : Nat) (e : HostError) :
    tooDeep reference limit ≠ fetchFailed token e := by
  intro heq
  have hmessage : "include nesting too deep; dropped" = "include fetch failed; dropped" :=
    congrArg Event.message heq
  exact absurd hmessage (by decide)

/-- Only a directive that lay too deep is said to. -/
theorem Entry.exists_of_event?_eq_tooDeep {limit limit' : Nat} {e : Entry} {reference : String}
    (h : e.event? limit = some (tooDeep reference limit')) : ∃ token, e.fate = .tooDeep token := by
  obtain ⟨reference', -, h⟩ := Option.bind_eq_some_iff.1 h
  cases hfate : e.fate with
  | tooDeep token => exact ⟨token, rfl⟩
  | unmatched =>
    rw [hfate] at h
    exact absurd (Option.some.inj h).symm (tooDeep_ne_unmatched _ _ _)
  | failed token err =>
    rw [hfate] at h
    exact absurd (Option.some.inj h).symm (tooDeep_ne_fetchFailed _ _ _ _)
  | kept | skipped | expanded =>
    rw [hfate] at h
    cases h

variable {providers : List (Provider σ)} {limit levels number : Nat} {origin : Origin}
  {ls : List (List Char)} {t t' : Trail σ} {entries : List Entry} {text : List Char}

theorem Settles.events {deeper : Bool} {line : List Char} {fate : Fate}
    (h : Settles providers limit deeper line t fate t') (origin : Origin) (number : Nat) :
    t'.events = t.events ++ (Entry.event? limit ⟨origin, number, line, fate⟩).toList := by
  cases h with
  | kept hline | skipped hline | expanded hline =>
    simp only [Entry.event?, hline, Option.bind_none, Option.bind_some, Option.toList_none,
      List.append_nil, Trail.visit]
  | unmatched hline | tooDeep hline | failed hline =>
    simp only [Entry.event?, hline, Option.bind_some, Option.toList_some, Trail.drop, Trail.visit]

/-- **An observer is told of the entries**, one after another. -/
theorem Unfolds.events (h : Unfolds providers limit levels origin number ls t entries text t') :
    t'.events = t.events ++ entries.filterMap (Entry.event? limit) := by
  induction h with
  | nil => exact (List.append_nil _).symm
  | passed hsettles hopened hrest ih =>
    rw [filterMap_cons_toList, ih, hsettles.events, List.append_assoc]
  | expanded hsettles hinner hrest ihinner ihrest =>
    rw [filterMap_cons_toList, List.filterMap_append, ihrest, ihinner, hsettles.events,
      List.append_assoc, List.append_assoc]

/-- A directive is dropped for its depth, and an observer told so. -/
def Resolver.DropsForDepth (r : Resolver σ) (host : σ) (source : List Char) : Prop :=
  ∃ reference, tooDeep reference r.maxDepth ∈ (r.resolve host source).trail.events

theorem Resolver.dropsForDepth_iff {r : Resolver σ} {host : σ} {source : List Char} :
    r.DropsForDepth host source ↔
      ∃ e ∈ r.course host .empty source, ∃ token, e.fate = .tooDeep token := by
  obtain ⟨text, hunfolds, -⟩ := r.exists_unfolds host .empty source
  have hevents : (r.resolve host source).trail.events =
      (r.course host .empty source).filterMap (Entry.event? r.maxDepth) := hunfolds.events
  rw [DropsForDepth, hevents]
  constructor
  · rintro ⟨reference, hmem⟩
    obtain ⟨e, he, hevent⟩ := List.mem_filterMap.1 hmem
    exact ⟨e, he, Entry.exists_of_event?_eq_tooDeep hevent⟩
  · rintro ⟨e, he, token, hfate⟩
    have hcovers := r.covers_course host .empty source
    have hdirective : reference? e.line ≠ none := by
      intro hnone
      rw [(hcovers.eq_kept_iff he).2 hnone] at hfate
      cases hfate
    obtain ⟨reference, hline⟩ := Option.ne_none_iff_exists'.1 hdirective
    exact ⟨reference, List.mem_filterMap.2 ⟨e, he, by rw [Entry.event?, hline, hfate]; rfl⟩⟩

/-! ### Chains of directives -/

/-- The token is asked for at the end of a chain of `depth` directives: the first stands in the
source, and each other in the fragment of the one before. The catalogue is the one that recognises
the token. -/
inductive Nested (catalogues : List Catalogue) (source : List Char) :
    Nat → Catalogue → String → Prop
  | outermost {line : List Char} {c : Catalogue} {token : String} (hline : line ∈ lines source)
      (hpicks : Picks catalogues line c token) : Nested catalogues source 1 c token
  | inside {depth : Nat} {line fragment : List Char} {c c' : Catalogue} {token token' : String}
      (h : Nested catalogues source depth c token) (hfetch : c.fetch token = .ok fragment)
      (hline : line ∈ lines fragment) (hpicks : Picks catalogues line c' token') :
      Nested catalogues source (depth + 1) c' token'

theorem Nested.pos {catalogues : List Catalogue} {source : List Char} {depth : Nat} {c : Catalogue}
    {token : String} (h : Nested catalogues source depth c token) : 0 < depth := by
  cases h with
  | outermost => exact Nat.one_pos
  | inside => exact Nat.succ_pos _

/-- **What is fetched lies no deeper than there are levels.** The lines themselves stand inside
`depth` directives. -/
theorem Unfolds.exists_nested {catalogues : List Catalogue} {source : List Char} {depth : Nat}
    (h : Unfolds (Catalogue.providers σ catalogues) limit levels origin number ls t entries text t')
    (hls : ∀ line ∈ ls, ∀ c token, Picks catalogues line c token →
      Nested catalogues source (depth + 1) c token)
    {e : Entry} (he : e ∈ entries) {token : String} (hfetched : e.fetched? = some token) :
    ∃ n ≤ depth + levels, ∃ c, Nested catalogues source n c token := by
  induction h generalizing depth with
  | nil => cases he
  | @passed levels _ _ line _ _ _ _ _ _ _ hsettles hopened hrest ih =>
    obtain ⟨hline, hls⟩ := List.forall_mem_cons.1 hls
    rcases List.mem_cons.1 he with rfl | he
    · obtain ⟨hdeep, c, hpicks, -⟩ := hsettles.exists_picks hfetched
      have hpos : 0 < levels := of_decide_eq_true hdeep
      exact ⟨depth + 1, by omega, c, hline c token hpicks⟩
    · exact ih hls he
  | @expanded levels _ _ line _ _ _ _ _ token' fragment _ _ _ _ hsettles hinner hrest ihinner
      ihrest =>
    obtain ⟨hline, hls⟩ := List.forall_mem_cons.1 hls
    obtain ⟨-, c, hpicks, hanswer⟩ := hsettles.exists_picks rfl
    have hnested : Nested catalogues source (depth + 1) c token' := hline c token' hpicks
    rcases List.mem_cons.1 he with rfl | he
    · cases hfetched
      exact ⟨depth + 1, by omega, c, hnested⟩
    rcases List.mem_append.1 he with he | he
    -- The fragment stands inside one directive more, and has one level less.
    · have hfetch : c.fetch token' = .ok fragment := by
        cases hfetch : c.fetch token' with
        | error err =>
          rw [hfetch] at hanswer
          cases hanswer
        | ok fragment' =>
          rw [hfetch] at hanswer
          cases hanswer
          rfl
      have hinside : ∀ line' ∈ lines fragment, ∀ c' other, Picks catalogues line' c' other →
          Nested catalogues source (depth + 1 + 1) c' other :=
        fun line' hmem c' other hpicks' ↦ .inside hnested hfetch hmem hpicks'
      obtain ⟨n, hn, hother⟩ := ihinner hinside he
      exact ⟨n, by omega, hother⟩
    · exact ihrest hls he

/-! ### A limit that is not felt -/

/-- What becomes of a line, unless it lies too deep, does not depend on the limit. -/
theorem Settles.deepen {deeper deeper' : Bool} {line : List Char} {fate : Fate}
    (h : Settles providers limit deeper line t fate t') (hnot : ∀ token, fate ≠ .tooDeep token)
    (hle : deeper = true → deeper' = true) (limit' : Nat) :
    Settles providers limit' deeper' line t fate t' := by
  cases h with
  | kept hline => exact .kept hline
  | unmatched hline hmatch => exact .unmatched hline hmatch
  | skipped hline hmatch hseen => exact .skipped hline hmatch hseen
  | tooDeep => exact absurd rfl (hnot _)
  | failed hline hmatch hnew hdeep hfetch => exact .failed hline hmatch hnew (hle hdeep) hfetch
  | expanded hline hmatch hnew hdeep hfetch => exact .expanded hline hmatch hnew (hle hdeep) hfetch

/-- **A course that drops nothing for its depth** is the course of any greater limit. -/
theorem Unfolds.deepen (h : Unfolds providers limit levels origin number ls t entries text t')
    (hnot : ∀ e ∈ entries, ∀ token, e.fate ≠ .tooDeep token) {levels' : Nat}
    (hle : levels ≤ levels') (limit' : Nat) :
    Unfolds providers limit' levels' origin number ls t entries text t' := by
  induction h generalizing levels' with
  | nil => exact .nil
  | passed hsettles hopened hrest ih =>
    obtain ⟨hfate, hnot⟩ := List.forall_mem_cons.1 hnot
    have hdeeper : decide (0 < _) = true → decide (0 < levels') = true := fun hlt ↦
      decide_eq_true (lt_of_lt_of_le (of_decide_eq_true hlt) hle)
    exact .passed (hsettles.deepen hfate hdeeper limit') hopened (ih hnot hle)
  | expanded hsettles hinner hrest ihinner ihrest =>
    obtain ⟨hfate, hnot⟩ := List.forall_mem_cons.1 hnot
    obtain ⟨hnotinner, hnotrest⟩ := List.forall_mem_append.1 hnot
    obtain ⟨fewer, rfl⟩ : ∃ fewer, levels' = fewer + 1 := ⟨levels' - 1, by omega⟩
    exact .expanded (hsettles.deepen hfate id limit')
      (ihinner hnotinner (Nat.le_of_succ_le_succ hle)) (ihrest hnotrest hle)

theorem Resolver.resolve_eq_of_not_dropsForDepth {maxDepth maxDepth' : Nat} {host : σ}
    {source : List Char}
    (hnot : ¬ Resolver.DropsForDepth ⟨providers, maxDepth⟩ host source)
    (hle : maxDepth ≤ maxDepth') :
    Resolver.resolve ⟨providers, maxDepth'⟩ host source =
      Resolver.resolve ⟨providers, maxDepth⟩ host source := by
  obtain ⟨text, hunfolds, htext⟩ :=
    Resolver.exists_unfolds ⟨providers, maxDepth⟩ host .empty source
  obtain ⟨text', hunfolds', htext'⟩ :=
    Resolver.exists_unfolds ⟨providers, maxDepth'⟩ host .empty source
  have hnone : ∀ e ∈ Resolver.course ⟨providers, maxDepth⟩ host .empty source, ∀ token,
      e.fate ≠ .tooDeep token :=
    fun e he token hfate ↦ hnot (Resolver.dropsForDepth_iff.2 ⟨e, he, token, hfate⟩)
  obtain ⟨-, rfl, htrail⟩ := hunfolds'.unique (hunfolds.deepen hnone hle maxDepth')
  have hsame : (Resolver.resolve ⟨providers, maxDepth'⟩ host source).text =
      (Resolver.resolve ⟨providers, maxDepth⟩ host source).text := htext'.trans htext.symm
  exact (congr (congrArg Resolution.mk hsame) htrail :)

/-! ### What the limit does -/

/-- **The limit bounds nesting, and is otherwise invisible**, for all catalogues, all sources and
all limits. What is fetched, and catalogues that keep a record of what they are asked to fetch have
recorded, is asked for at the end of a chain of directives no longer than the limit. Where none is
dropped for its depth, a greater limit gives the same resolution, and the same record. And none is
dropped where the limit is not less than the number of tokens that the lines met can ask for. -/
theorem Catalogue.depth_bounds_nesting (catalogues : List Catalogue) (maxDepth : Nat) (host : σ)
    (source : List Char) :
    let r : Resolver σ := resolver catalogues maxDepth
    (r.recording.resolve (host, []) source).trail.host.2 =
        (r.resolve host source).trail.fetched.map Prod.snd ∧
      (∀ token ∈ (r.resolve host source).trail.fetched.map Prod.snd,
        ∃ n ≤ maxDepth, ∃ c, Nested catalogues source n c token) ∧
      (maxDepth = 0 → (r.resolve host source).trail.fetched = []) ∧
      (¬ r.DropsForDepth host source → ∀ maxDepth', maxDepth ≤ maxDepth' →
        (resolver catalogues maxDepth').resolve host source = r.resolve host source ∧
          (resolver catalogues maxDepth').recording.resolve (host, []) source =
            r.recording.resolve (host, []) source) ∧
      ∀ tokens : Finset String,
        (∀ e ∈ r.course host .empty source, ∀ token, AsksLine catalogues e.line token →
          token ∈ tokens) →
        tokens.card ≤ maxDepth → ¬ r.DropsForDepth host source := by
  intro r
  obtain ⟨text, hunfolds, -⟩ := r.exists_unfolds host .empty source
  have hcovers := r.covers_course host .empty source
  have hnested : ∀ token ∈ (r.resolve host source).trail.fetched.map Prod.snd,
      ∃ n ≤ maxDepth, ∃ c, Nested catalogues source n c token := by
    intro token hmem
    have hfetched : (r.resolve host source).trail.fetched.map Prod.snd =
        (r.course host .empty source).filterMap Entry.fetched? := hunfolds.visits.fetched
    rw [hfetched] at hmem
    obtain ⟨e, he, hasked⟩ := List.mem_filterMap.1 hmem
    have houtermost : ∀ line ∈ lines source, ∀ c token, Picks catalogues line c token →
        Nested catalogues source (0 + 1) c token :=
      fun line hline c token hpicks ↦ .outermost hline hpicks
    obtain ⟨n, hn, hchain⟩ := hunfolds.exists_nested houtermost he hasked
    exact ⟨n, by rwa [Nat.zero_add] at hn, hchain⟩
  have hrecording (maxDepth' : Nat) :
      (resolver catalogues maxDepth').recording.resolve (host, []) source =
        ⟨((resolver catalogues maxDepth').resolve host source).text,
          ((resolver catalogues maxDepth').resolve host source).trail.recording⟩ :=
    Resolver.resolveWith_recording (resolver catalogues maxDepth') host .empty source
  refine ⟨by rw [hrecording]; rfl, hnested, fun hzero ↦ ?_, fun hnot maxDepth' hle ↦ ?_,
    fun tokens htokens hcard hdrops ↦ ?_⟩
  · refine List.eq_nil_iff_forall_not_mem.2 fun asked hmem ↦ ?_
    obtain ⟨n, hn, c, hchain⟩ := hnested asked.2 (List.mem_map_of_mem hmem)
    have hpos := hchain.pos
    omega
  · have hsame : (resolver catalogues maxDepth').resolve host source = r.resolve host source :=
      Resolver.resolve_eq_of_not_dropsForDepth hnot hle
    exact ⟨hsame, by rw [hrecording, hrecording, hsame]⟩
  · obtain ⟨e, he, token, hfate⟩ := Resolver.dropsForDepth_iff.1 hdrops
    refine absurd (hunfolds.levels_lt_card (fun d hd other hother ↦ ?_) he hfate) (not_lt.2 hcard)
    obtain ⟨deeper, s, s', hsettles⟩ := hcovers.settled d hd
    exact htokens d hd other (hsettles.asksLine_iff.2 hother)

/-- Two fragments that include each other need two levels, and nothing more is felt of the limit. -/
theorem Catalogue.depth_bounds_nesting_loop :
    let source := "#include a\nlet main = 0;".toList
    ((resolver [loop] 2 : Resolver Unit).recording.resolve ((), []) source).trail.host.2 =
        ["a", "b"] ∧
      (∀ token ∈ ["a", "b"], ∃ n ≤ 2, ∃ c, Nested [loop] source n c token) ∧
      ({"a", "b"} : Finset String).card ≤ 2 ∧
      ¬ (resolver [loop] 2 : Resolver Unit).DropsForDepth () source ∧
      ∀ maxDepth, 2 ≤ maxDepth →
        (resolver [loop] maxDepth).resolve () source = (resolver [loop] 2).resolve () source := by
  intro source
  obtain ⟨hrecorded, hnested, -, hsame, hfew⟩ := depth_bounds_nesting [loop] 2 () source
  have hfetched : ((resolver [loop] 2).resolve () source).trail.fetched.map Prod.snd =
      ["a", "b"] := by decide +kernel
  rw [hfetched] at hnested hrecorded
  have hcard : ({"a", "b"} : Finset String).card ≤ 2 := by decide
  have hnot : ¬ (resolver [loop] 2).DropsForDepth () source := by
    refine hfew {"a", "b"} (fun e _ token hasks ↦ ?_) hcard
    obtain ⟨reference, -, hfirst⟩ := hasks
    obtain ⟨⟨c, token'⟩, hmatch, rfl⟩ := Option.map_eq_some_iff.1 hfirst
    obtain ⟨hc, hfind⟩ := mem_of_first? hmatch
    rw [List.mem_singleton.1 hc] at hfind
    rw [Finset.mem_insert, Finset.mem_singleton]
    exact eq_of_find_loop hfind
  exact ⟨hrecorded, hnested, hcard, hnot, fun maxDepth hle ↦ (hsame hnot maxDepth hle).1⟩

end ScriptSandbox.Include

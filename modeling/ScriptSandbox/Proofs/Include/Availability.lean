import ScriptSandbox.Proofs.Include.Reach
import ScriptSandbox.Session.Basic

/-!
# Nothing is dropped exactly where everything is available

A directive can pass without a trace: where its token has been visited, nothing is dropped and
nothing is added. Still an empty list of dropped references means a complete program. A token is
visited only when it is asked for, and where that fails the reference of that directive is dropped;
so a token that another directive skips has been expanded, or is being expanded, and its fragment
was there (`Resolver.complete_of_unresolved_eq_nil`).

With catalogues, completeness can be said of the source alone: each directive of the source and of
each fragment it leads to is recognised, and each token has its fragment (`Available`). A resolution
that drops nothing shows that, at whatever depth (`Covers.available`); and where all that is
available, a resolution with enough levels drops nothing (`Unfolds.isDropped_eq_false`). A session
that insists on its directives therefore rejects exactly the sources for which something is missing.
-/

namespace ScriptSandbox

namespace Include

open ScriptSandbox.Text

variable {σ : Type}

/-! ### A resolution that dropped nothing -/

theorem Fate.exists_token? {fate : Fate} (hkept : fate ≠ .kept)
    (hdropped : fate.isDropped = false) : ∃ token, fate.token? = some token := by
  cases fate with
  | kept => exact absurd rfl hkept
  | unmatched | tooDeep | failed => cases hdropped
  | skipped token | expanded token => exact ⟨token, rfl⟩

/-- The token of a fate is that of a provider's match. -/
theorem Settles.exists_match {providers : List (Provider σ)} {limit : Nat} {deeper : Bool}
    {line : List Char} {t t' : Trail σ} {fate : Fate} {token reference : String}
    (h : Settles providers limit deeper line t fate t') (hline : reference? line = some reference)
    (htoken : fate.token? = some token) :
    ∃ found host', firstMatch 0 reference providers t.host = (some found, host') ∧
      found.token = token := by
  cases h with
  | kept | unmatched => cases htoken
  | skipped hline' hmatch | tooDeep hline' hmatch | failed hline' hmatch | expanded hline' hmatch =>
    obtain rfl := Option.some.inj (hline.symm.trans hline')
    cases htoken
    exact ⟨_, _, hmatch, rfl⟩

section Complete

variable {providers : List (Provider σ)} {limit : Nat} {source : List Char} {course : List Entry}
  {e : Entry}

/-- Where nothing was dropped, no directive lay too deep. -/
theorem Covers.ne_tooDeep (h : Covers providers limit source course)
    (hnone : course.filterMap Entry.dropped? = []) (he : e ∈ course) (token : String) :
    e.fate ≠ .tooDeep token := by
  intro hfate
  have hdropped := h.isDropped_eq_false hnone he
  rw [hfate] at hdropped
  cases hdropped

/-- Where nothing was dropped, each directive has its token. -/
theorem Covers.exists_token? (h : Covers providers limit source course)
    (hnone : course.filterMap Entry.dropped? = []) (he : e ∈ course) {reference : String}
    (hline : reference? e.line = some reference) : ∃ token, e.fate.token? = some token := by
  refine Fate.exists_token? (fun hfate ↦ ?_) (h.isDropped_eq_false hnone he)
  rw [(h.eq_kept_iff he).1 hfate] at hline
  cases hline

end Complete

/-- What is true of a resolution that dropped nothing, where `recorded` is the same resolution with
providers that keep a record of what they are asked for. -/
structure IsComplete (r : Resolver σ) (source : List Char) (course : List Entry)
    (resolution : Resolution σ) (recorded : Resolution (σ × List String)) : Prop where
  /-- The course has the lines of the source and of the fragments expanded, each once. -/
  covers : Covers r.providers r.maxDepth source course
  /-- Each directive of the source and of each fragment was recognised, and its token visited. -/
  recognised : ∀ origin text, TextOf source course origin text → ∀ number line reference,
    (lines text)[number]? = some line → reference? line = some reference →
    ∃ e ∈ course, e.origin = origin ∧ e.number = number ∧ ∃ found host host',
      firstMatch 0 reference r.providers host = (some found, host') ∧
      e.fate.token? = some found.token ∧ resolution.visited.contains found.token = true
  /-- Each token visited was asked for once, and its fragment is one of the texts of the course. -/
  fetched : ∀ token, resolution.visited.contains token = true →
    recorded.trail.host.2.count token = 1 ∧
      ∃ fragment, TextOf source course (.fragment token) fragment
  /-- No token was asked for in vain. -/
  answered : ∀ e ∈ course, ∀ token, e.fetched? = some token →
    ∃ fragment, e.fate = .expanded token fragment

/-- **Where nothing was dropped, nothing is missing**, whatever state the providers have. -/
theorem Resolver.complete_of_unresolved_eq_nil (r : Resolver σ) (host : σ) (source : List Char)
    (h : (r.resolve host source).unresolved = []) :
    IsComplete r source (r.course host .empty source) (r.resolve host source)
      (r.recording.resolve (host, []) source) := by
  obtain ⟨text, hunfolds, -⟩ := r.exists_unfolds host .empty source
  have hcovers := r.covers_course host .empty source
  have hnone : (r.course host .empty source).filterMap Entry.dropped? = [] :=
    hunfolds.unresolved.symm.trans h
  refine ⟨hcovers, ?_, ?_, fun e he token ↦ hcovers.exists_expanded hnone he⟩
  · intro origin body htext number line reference hnumber hline
    obtain ⟨e, he, horigin, heq, rfl⟩ := hcovers.exists_entry htext hnumber
    obtain ⟨deeper, s, s', hsettles⟩ := hcovers.settled e he
    obtain ⟨token, htoken⟩ := hcovers.exists_token? hnone he hline
    obtain ⟨found, host', hmatch, rfl⟩ := hsettles.exists_match hline htoken
    exact ⟨e, he, horigin, heq, found, _, host', hmatch, htoken, hunfolds.contains_iff.2
      (hunfolds.mem_fetched (fun e he ↦ hcovers.ne_tooDeep hnone he) he htoken)⟩
  · intro token hseen
    -- The token was asked for by an entry, and had that failed, the entry would have been dropped.
    have hmem := hunfolds.contains_iff.1 hseen
    obtain ⟨e, he, hfetched⟩ := List.mem_filterMap.1 hmem
    obtain ⟨fragment, hfate⟩ := hcovers.exists_expanded hnone he hfetched
    refine ⟨?_, fragment, .fragment (mem_opened_iff.2 ⟨e, he, hfate⟩)⟩
    have hasked : (r.recording.resolve (host, []) source).trail.host.2 =
        (r.course host .empty source).filterMap Entry.fetched? := by
      rw [Resolver.resolve, r.resolveWith_recording]
      exact hunfolds.visits.fetched
    rw [hasked]
    exact List.count_eq_one_of_mem hunfolds.visits.nodup hmem

/-! ### What is available -/

/-- Each directive of a text is recognised. -/
def Recognised (catalogues : List Catalogue) (text : List Char) : Prop :=
  ∀ line ∈ lines text, ∀ reference, reference? line = some reference →
    (Catalogue.first? reference catalogues).isSome = true

/-- All that a source leads to is there. -/
structure Available (catalogues : List Catalogue) (source : List Char) : Prop where
  /-- Its own directives are recognised. -/
  recognised : Recognised catalogues source
  /-- Each token it leads to has a fragment. -/
  exists_fragment : ∀ token ∈ reach catalogues source,
    ∃ fragment, Answers catalogues token (.ok fragment)
  /-- The directives of each fragment are recognised. -/
  recognised_fragment : ∀ token ∈ reach catalogues source, ∀ fragment,
    Answers catalogues token (.ok fragment) → Recognised catalogues fragment

section Run

variable {catalogues : List Catalogue} {limit levels : Nat} {host : σ} {source text : List Char}
  {course : List Entry} {t : Trail σ}

/-- Where nothing was dropped, the directives of all texts of the course are recognised. -/
theorem Covers.recognised (h : Covers (Catalogue.providers σ catalogues) limit source course)
    (hnone : course.filterMap Entry.dropped? = []) {origin : Origin} {body : List Char}
    (htext : TextOf source course origin body) : Recognised catalogues body := by
  intro line hmem reference hline
  obtain ⟨number, hnumber⟩ := List.getElem?_of_mem hmem
  obtain ⟨e, he, -, -, rfl⟩ := h.exists_entry htext hnumber
  obtain ⟨deeper, s, s', hsettles⟩ := h.settled e he
  obtain ⟨token, htoken⟩ := h.exists_token? hnone he hline
  rw [hsettles.token?_eq hline] at htoken
  obtain ⟨p, hp, -⟩ := Option.map_eq_some_iff.1 htoken
  rw [hp]
  rfl

/-- **A resolution that dropped nothing shows that all is available**, at whatever depth. -/
theorem Covers.available (hcovers : Covers (Catalogue.providers σ catalogues) limit source course)
    (h : Unfolds (Catalogue.providers σ catalogues) limit levels .source 0 (Text.lines source)
      (.start host .empty) course text t)
    (hagree : Agree catalogues) (hnone : course.filterMap Entry.dropped? = []) :
    Available catalogues source := by
  have hfetched : ∀ token ∈ reach catalogues source, token ∈ course.filterMap Entry.fetched? :=
    fun token ↦ h.mem_fetched_of_reach hcovers hagree fun e he ↦ hcovers.ne_tooDeep hnone he
  refine ⟨hcovers.recognised hnone .source, ?_, ?_⟩
  · intro token hreach
    obtain ⟨e, he, hasked⟩ := List.mem_filterMap.1 (hfetched token hreach)
    obtain ⟨fragment, hfate⟩ := hcovers.exists_expanded hnone he hasked
    exact ⟨fragment, hcovers.answers_of_expanded he hfate⟩
  · intro token hreach fragment hanswers
    exact hcovers.recognised hnone
      (hcovers.textOf_fragment hagree (hfetched token hreach) hanswers)

/-- The texts of a course are the source and fragments that it leads to. -/
theorem Available.recognised_of_textOf (havailable : Available catalogues source)
    (hcovers : Covers (Catalogue.providers σ catalogues) limit source course)
    (h : Unfolds (Catalogue.providers σ catalogues) limit levels .source 0 (lines source)
      (.start host .empty) course text t)
    {origin : Origin} {body : List Char} (htext : TextOf source course origin body) :
    Recognised catalogues body := by
  cases htext with
  | source => exact havailable.recognised
  | @fragment token body hopened =>
    obtain ⟨e, he, hfate⟩ := mem_opened_iff.1 hopened
    have hreach := h.reach_of_mem_course he (by rw [hfate]; rfl)
    exact havailable.recognised_fragment token hreach body (hcovers.answers_of_expanded he hfate)

/-- **Where all is available, no directive is dropped** but for the depth. -/
theorem Unfolds.isDropped_eq_false
    (h : Unfolds (Catalogue.providers σ catalogues) limit levels .source 0 (lines source)
      (.start host .empty) course text t)
    (hcovers : Covers (Catalogue.providers σ catalogues) limit source course)
    (hagree : Agree catalogues) (havailable : Available catalogues source) {e : Entry}
    (he : e ∈ course) (hdeep : ∀ token, e.fate ≠ .tooDeep token) : e.fate.isDropped = false := by
  obtain ⟨deeper, s, s', hsettles⟩ := hcovers.settled e he
  cases hfate : e.fate with
  | kept | skipped | expanded => rfl
  | tooDeep token => exact absurd hfate (hdeep token)
  | unmatched =>
    -- The line stands in a text whose directives are all recognised.
    cases hline : reference? e.line with
    | none =>
      rw [hsettles.eq_kept_iff.2 hline] at hfate
      cases hfate
    | some reference =>
      obtain ⟨body, htext, hnumber⟩ := hcovers.exists_text he
      have hrecognised := havailable.recognised_of_textOf hcovers h htext
      have hfirst := hrecognised e.line (List.mem_of_getElem? hnumber) reference hline
      have htoken := hsettles.token?_eq hline
      rw [hfate] at htoken
      rw [Option.map_eq_none_iff.1 htoken.symm] at hfirst
      cases hfirst
  | failed token err =>
    -- The token is reached, so one catalogue has its fragment, and none answers otherwise.
    have hfetched : e.fate.fetched? = some token := by rw [hfate]; rfl
    obtain ⟨answer, hanswers, heq⟩ := hsettles.exists_answers hfetched
    have hreach := h.reach_of_mem_course he (Fate.token?_of_fetched? hfetched)
    obtain ⟨fragment, hfragment⟩ := havailable.exists_fragment token hreach
    obtain rfl := hagree token _ _ hanswers hfragment
    rw [hfate] at heq
    cases heq

end Run

namespace Catalogue

variable {catalogues : List Catalogue} {source : List Char} {maxDepth : Nat}

theorem available_of_unresolved_eq_nil (hagree : Agree catalogues) (host : σ)
    (h : ((resolver catalogues maxDepth).resolve host source).unresolved = []) :
    Available catalogues source := by
  obtain ⟨text, hunfolds, -⟩ := (resolver catalogues maxDepth).exists_unfolds host .empty source
  exact ((resolver catalogues maxDepth).covers_course host .empty source).available hunfolds hagree
    (hunfolds.unresolved.symm.trans h)

theorem unresolved_eq_nil_of_available (hagree : Agree catalogues)
    (hfinite : (reach catalogues source).Finite)
    (hdepth : (reach catalogues source).ncard ≤ maxDepth) (host : σ)
    (havailable : Available catalogues source) :
    ((resolver catalogues maxDepth).resolve host source).unresolved = [] := by
  obtain ⟨text, hunfolds, -⟩ := (resolver catalogues maxDepth).exists_unfolds host .empty source
  have hcovers := (resolver catalogues maxDepth).covers_course host .empty source
  refine hunfolds.unresolved.trans (List.filterMap_eq_nil_iff.2 fun e he ↦ ?_)
  have hdropped := hunfolds.isDropped_eq_false hcovers hagree havailable he
    (hunfolds.ne_tooDeep hfinite hdepth he)
  rw [Entry.dropped?, hdropped]
  rfl

end Catalogue

end Include

/-! ### Sessions that insist on their directives -/

namespace Session

/-- A script that runs does not end with dropped references. -/
theorem runText_ne_unresolvedInclude (s : Session) (text : String) (references : List String) :
    s.runText text ≠ .done (.error (.unresolvedInclude references)) := by
  unfold runText
  cases s.interpreter.interpret s.engine.engine s.scope text with
  | error e => exact nofun
  | ok run =>
    simp only
    cases run.bind Script.Ending.flatten with
    | ask q go => exact nofun
    | done ending =>
      cases ending with
      | value v | failed e | panicked message => exact nofun

/-- A session that insists on its directives ends with dropped references where there are some. -/
theorem exists_unresolvedInclude_iff {s : Session}
    (hstrict : s.parts.config.strictIncludes = true) :
    (∃ references, s.evaluation.run = .done (.error (.unresolvedInclude references))) ↔
      s.resolve.unresolved ≠ [] := by
  cases hnone : s.resolve.unresolved with
  | nil =>
    have hrun : s.evaluation.run = s.runText (String.ofList s.resolve.text) := by
      simp only [evaluation, hnone, List.isEmpty_nil, Bool.not_true, Bool.and_false,
        Bool.false_eq_true, if_false]
    refine iff_of_false ?_ (fun h ↦ h rfl)
    rintro ⟨references, h⟩
    exact s.runText_ne_unresolvedInclude _ references (hrun.symm.trans h)
  | cons reference rest =>
    refine iff_of_true ⟨reference :: rest, ?_⟩ (List.cons_ne_nil _ _)
    simp only [evaluation, hstrict, hnone, List.isEmpty_cons, Bool.not_false, Bool.and_self,
      if_true]

theorem resolve_eq {s : Session} {catalogues : List Include.Catalogue}
    (hproviders : s.parts.providers = Include.Catalogue.providers Unit catalogues) :
    s.resolve = (Include.Catalogue.resolver catalogues s.parts.config.maxIncludeDepth).resolve ()
      s.source.toList := by
  rw [resolve, hproviders]
  rfl

end Session

namespace Include

/-- **An empty list of dropped references means a complete program, and only an incomplete one is
rejected.** The first part is about all providers. The others are about catalogues that agree: where
nothing is dropped, at whatever depth, all is available; where all is available and there are as
many levels as tokens to visit, nothing is dropped; and with that many levels a session that insists
on its directives ends with dropped references exactly if something is not available. -/
theorem accepts_exactly_available {catalogues : List Catalogue} (hagree : Agree catalogues) :
    (∀ {σ : Type} (r : Resolver σ) (host : σ) (source : List Char),
      (r.resolve host source).unresolved = [] →
      IsComplete r source (r.course host .empty source) (r.resolve host source)
        (r.recording.resolve (host, []) source)) ∧
    (∀ {σ : Type} (host : σ) (source : List Char) (maxDepth : Nat),
      ((Catalogue.resolver catalogues maxDepth).resolve host source).unresolved = [] →
      Available catalogues source) ∧
    (∀ {σ : Type} (host : σ) (source : List Char) (maxDepth : Nat),
      (reach catalogues source).Finite → (reach catalogues source).ncard ≤ maxDepth →
      Available catalogues source →
      ((Catalogue.resolver catalogues maxDepth).resolve host source).unresolved = []) ∧
    ∀ s : Session, s.parts.providers = Catalogue.providers Unit catalogues →
      s.parts.config.strictIncludes = true →
      (reach catalogues s.source.toList).Finite →
      (reach catalogues s.source.toList).ncard ≤ s.parts.config.maxIncludeDepth →
      ((∃ references, s.evaluation.run = .done (.error (.unresolvedInclude references))) ↔
        ¬ Available catalogues s.source.toList) := by
  refine ⟨fun r host source ↦ r.complete_of_unresolved_eq_nil host source,
    fun host source maxDepth ↦ Catalogue.available_of_unresolved_eq_nil hagree host,
    fun host source maxDepth hfinite hdepth ↦
      Catalogue.unresolved_eq_nil_of_available hagree hfinite hdepth host, ?_⟩
  -- The session rejects where its list is not empty, which the two parts before decide.
  intro s hproviders hstrict hfinite hdepth
  rw [Session.exists_unresolvedInclude_iff hstrict, Session.resolve_eq hproviders, not_iff_not]
  exact ⟨Catalogue.available_of_unresolved_eq_nil hagree (),
    Catalogue.unresolved_eq_nil_of_available hagree hfinite hdepth ()⟩

/-- A session with a cycle of directives, all of which are available. -/
def ringSession : Session :=
  Builder.build
    { Builder.empty with
      providers := Catalogue.providers Unit [.loop]
      config := { Config.default with strictIncludes := true } }
    "#include a\nlet main = 0;"

/-- The session is not rejected; with a directive for an unknown fragment it would be. -/
theorem accepts_exactly_available_ring :
    let unknown : Session := { ringSession with source := "#include c" }
    IsComplete ⟨ringSession.parts.providers, 64⟩ ringSession.source.toList
        (Resolver.course ⟨ringSession.parts.providers, 64⟩ () .empty ringSession.source.toList)
        ringSession.resolve
        (Resolver.recording ⟨ringSession.parts.providers, 64⟩ |>.resolve ((), [])
          ringSession.source.toList) ∧
      Available [.loop] ringSession.source.toList ∧
      (¬ ∃ references,
        ringSession.evaluation.run = .done (.error (.unresolvedInclude references))) ∧
      ∃ references, unknown.evaluation.run = .done (.error (.unresolvedInclude references)) := by
  intro unknown
  obtain ⟨hcomplete, havailable, -, hrejects⟩ := accepts_exactly_available (agree_singleton .loop)
  have hnone : ringSession.resolve.unresolved = [] := by decide +kernel
  have hring : Available [.loop] ringSession.source.toList :=
    havailable () ringSession.source.toList 64 hnone
  have hdepth (source : List Char) : (reach [.loop] source).ncard ≤ 64 :=
    (ncard_reach_loop_le source).trans (by decide)
  refine ⟨hcomplete _ () _ hnone, hring, fun h ↦ ?_, ?_⟩
  · exact (hrejects ringSession rfl rfl (finite_reach_loop _) (hdepth _)).1 h hring
  · refine (hrejects unknown rfl rfl (finite_reach_loop _) (hdepth _)).2 fun h ↦ ?_
    have hfirst := h.recognised "#include c".toList (by decide +kernel) "c" (by decide +kernel)
    exact absurd hfirst (by decide +kernel)

end Include

end ScriptSandbox

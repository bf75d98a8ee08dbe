import Mathlib.Data.List.Perm.Basic
import ScriptSandbox.Proofs.Session.Bindings

/-!
# What a history of calls builds

Each part of a session can be told from the calls that built it, without going through them one by
one (`BuiltFrom`): what is allowed are the identifiers that some call carried, offers and providers
are those of the calls that made them, in order, a name has the value bound to it last, and the
limits are the last ones set. One lemma for a call and one induction for each part make this so.

What decides about a part is therefore a summary of the calls, and calls with the same summaries
build the same session (`buildWith_congr`). Two neighbours change places in all of the summaries at
once, unless both are about the same (`SameHistory.swap`).
-/

namespace ScriptSandbox

open Text Script

/-! ### What calls are about -/

namespace BuilderCall

/-- The identifier that a call allows. -/
def allowed? : BuilderCall → Option String
  | .capability c => some c.id
  | .allow id => some id
  | .expose typeId => some typeId
  | .variable _ typeId _ => some typeId
  | .sharedVariable _ typeId _ => some typeId
  | _ => none

/-- The capability that a call offers. -/
def offered? : BuilderCall → Option (Capability Engine)
  | .capability c => some c
  | .offer c => some c
  | _ => none

/-- The provider that a call adds. -/
def provider? : BuilderCall → Option (Include.Provider Unit)
  | .provider p => some p
  | _ => none

/-- The limits that a call puts in place of all others. -/
def config? : BuilderCall → Option Config
  | .config c => some c
  | _ => none

/-- The time that a call sets, alone or with all other limits. -/
def runtime? : BuilderCall → Option Span
  | .maxRuntime limit => some limit
  | .config c => some c.maxRuntime
  | _ => none

/-- Two calls are about the same: they bind the same name, or both make an offer, add a provider,
or set the time an execution may take. -/
def Interfere (c d : BuilderCall) : Prop :=
  (∃ name, c.bound? name ≠ none ∧ d.bound? name ≠ none) ∨
    (c.offered? ≠ none ∧ d.offered? ≠ none) ∨ (c.provider? ≠ none ∧ d.provider? ≠ none) ∨
    (c.runtime? ≠ none ∧ d.runtime? ≠ none)

theorem config?_eq_none_of_runtime? {c : BuilderCall} (h : c.runtime? = none) :
    c.config? = none := by
  cases c with
  | config => cases h
  | _ => rfl

end BuilderCall

/-- What the last of some calls that gives something gives. -/
def lastGiven {α : Type} (given? : BuilderCall → Option α) (calls : List BuilderCall) : Option α :=
  calls.reverse.findSome? given?

/-- The limits that were set together last, with the time that was set last, alone or with them. -/
def limitsOf (calls : List BuilderCall) : Config :=
  { (lastGiven BuilderCall.config? calls).getD .default with
    maxRuntime := (lastGiven BuilderCall.runtime? calls).getD Config.defaultMaxRuntime }

/-- The calls account for all that was built. -/
structure BuiltFrom (calls : List BuilderCall) (b : Builder) : Prop where
  /-- An identifier is allowed if one of the calls carried it. -/
  allows : ∀ id, b.filter.allows id = true ↔ ∃ c ∈ calls, c.allowed? = some id
  /-- The offers are those of the calls, in their order. -/
  offers : b.capabilities.offers = calls.filterMap BuilderCall.offered?
  /-- A name has the value that was bound to it last. -/
  bindings : ∀ name, b.bindings.get? name = lastBound calls name
  /-- A name is hidden if one of the calls hides it. -/
  hidden : ∀ name, b.hidden.contains name = true ↔ .hide name ∈ calls
  /-- The providers are those of the calls, in their order. -/
  providers : b.providers = calls.filterMap BuilderCall.provider?
  /-- The limits are those that the calls come to. -/
  config : b.config = limitsOf calls

/-! ### Part by part -/

section LastGiven

variable {α : Type} (given? : BuilderCall → Option α)

theorem lastGiven_cons (c : BuilderCall) (calls : List BuilderCall) :
    lastGiven given? (c :: calls) = (lastGiven given? calls).or (given? c) := by
  simp [lastGiven]

theorem lastGiven_append (calls more : List BuilderCall) :
    lastGiven given? (calls ++ more) = (lastGiven given? more).or (lastGiven given? calls) := by
  rw [lastGiven, List.reverse_append, List.findSome?_append]
  rfl

end LastGiven

namespace Builder

variable (b : Builder) (c : BuilderCall) (calls : List BuilderCall)

theorem filter_apply :
    (b.apply c).filter = c.allowed?.elim b.filter b.filter.register := by
  cases c <;> rfl

theorem allows_apply (id : String) :
    (b.apply c).filter.allows id = true ↔ c.allowed? = some id ∨ b.filter.allows id = true := by
  rw [filter_apply]
  cases c.allowed? with
  | none => simp
  | some other =>
    rw [Option.elim_some, Capability.Filter.allows_register, Bool.or_eq_true, beq_iff_eq,
      Option.some_inj, eq_comm]

theorem allows_applyAll (id : String) :
    (b.applyAll calls).filter.allows id = true ↔
      (∃ c ∈ calls, c.allowed? = some id) ∨ b.filter.allows id = true := by
  induction calls generalizing b with
  | nil => simp [applyAll]
  | cons c calls ih =>
    have hrest := ih (b.apply c)
    rw [allows_apply, ← or_assoc] at hrest
    rw [List.exists_mem_cons_iff, or_comm (a := c.allowed? = some id)]
    exact hrest

/-- A part to which each call adds at most one thing holds what the calls add, in their order. -/
theorem collected_applyAll {α : Type} (part : Builder → List α) {given? : BuilderCall → Option α}
    (hpart : ∀ b c, part (b.apply c) = part b ++ (given? c).toList) :
    part (b.applyAll calls) = part b ++ calls.filterMap given? := by
  induction calls generalizing b with
  | nil => exact (List.append_nil _).symm
  | cons c calls ih =>
    have hrest := ih (b.apply c)
    rw [hpart, List.append_assoc] at hrest
    rw [List.filterMap_cons]
    cases hc : given? c with
    | none =>
      rw [hc] at hrest
      exact hrest
    | some x =>
      rw [hc] at hrest
      exact hrest

theorem offers_apply :
    (b.apply c).capabilities.offers = b.capabilities.offers ++ c.offered?.toList := by
  cases c with
  | capability | offer => rfl
  | _ => exact (List.append_nil _).symm

theorem providers_apply : (b.apply c).providers = b.providers ++ c.provider?.toList := by
  cases c with
  | provider => rfl
  | _ => exact (List.append_nil _).symm

theorem config_apply :
    (b.apply c).config =
      { c.config?.getD b.config with maxRuntime := c.runtime?.getD b.config.maxRuntime } := by
  cases c <;> rfl

theorem config_applyAll :
    (b.applyAll calls).config =
      { (lastGiven BuilderCall.config? calls).getD b.config with
        maxRuntime := (lastGiven BuilderCall.runtime? calls).getD b.config.maxRuntime } := by
  induction calls generalizing b with
  | nil => rfl
  | cons c calls ih =>
    have hrest := ih (b.apply c)
    rw [config_apply] at hrest
    rw [lastGiven_cons, lastGiven_cons, Option.getD_or, Option.getD_or]
    -- The call sets the other limits only if none of those that follow sets them.
    cases hlast : lastGiven BuilderCall.config? calls with
    | none =>
      rw [hlast] at hrest
      exact hrest
    | some config =>
      rw [hlast] at hrest
      exact hrest

end Builder

/-- **The calls account for all that is built.** -/
theorem builtFrom_applyAll (calls : List BuilderCall) :
    BuiltFrom calls (Builder.empty.applyAll calls) where
  allows id := (Builder.allows_applyAll .empty calls id).trans (or_iff_left Bool.false_ne_true)
  offers := Builder.collected_applyAll .empty calls (·.capabilities.offers) Builder.offers_apply
  bindings name := (Builder.get?_bindings_applyAll .empty calls name).trans Option.or_none
  hidden name :=
    (Builder.contains_hidden_applyAll .empty calls name).trans (or_iff_left Bool.false_ne_true)
  providers := Builder.collected_applyAll .empty calls Builder.providers Builder.providers_apply
  config := Builder.config_applyAll .empty calls

/-! ### Calls that build the same -/

/-- Two histories have the same to say about every part. -/
structure SameHistory (calls calls' : List BuilderCall) : Prop where
  /-- They allow the same identifiers. -/
  allowed : ∀ id, (∃ c ∈ calls, c.allowed? = some id) ↔ ∃ c ∈ calls', c.allowed? = some id
  /-- They make the same offers, in the same order. -/
  offered : calls.filterMap BuilderCall.offered? = calls'.filterMap BuilderCall.offered?
  /-- They bind the same to each name last. -/
  bound : ∀ name, lastBound calls name = lastBound calls' name
  /-- They hide the same names. -/
  hidden : ∀ name, .hide name ∈ calls ↔ .hide name ∈ calls'
  /-- They add the same providers, in the same order. -/
  provided : calls.filterMap BuilderCall.provider? = calls'.filterMap BuilderCall.provider?
  /-- They set the same limits last. -/
  config : lastGiven BuilderCall.config? calls = lastGiven BuilderCall.config? calls'
  /-- They set the same time last. -/
  runtime : lastGiven BuilderCall.runtime? calls = lastGiven BuilderCall.runtime? calls'

/-- **Histories that say the same build the same session.** -/
theorem buildWith_congr {calls calls' : List BuilderCall} (h : SameHistory calls calls')
    (source : String) : buildWith calls source = buildWith calls' source := by
  have hb := builtFrom_applyAll calls
  have hb' := builtFrom_applyAll calls'
  have hfilter : (Builder.empty.applyAll calls).filter = (Builder.empty.applyAll calls').filter :=
    congrArg Capability.Filter.mk <| NameSet.eq_of_contains_iff fun id ↦
      (hb.allows id).trans ((h.allowed id).trans (hb'.allows id).symm)
  have hoffers : (Builder.empty.applyAll calls).capabilities =
      (Builder.empty.applyAll calls').capabilities :=
    congrArg Capability.Table.mk (hb.offers.trans (h.offered.trans hb'.offers.symm))
  have hbindings : (Builder.empty.applyAll calls).bindings =
      (Builder.empty.applyAll calls').bindings :=
    (Builder.ascending_bindings_empty_applyAll calls).eq_of_get?_eq
      (Builder.ascending_bindings_empty_applyAll calls') fun name ↦
        (hb.bindings name).trans ((h.bound name).trans (hb'.bindings name).symm)
  have hhidden : (Builder.empty.applyAll calls).hidden = (Builder.empty.applyAll calls').hidden :=
    NameSet.eq_of_contains_iff fun name ↦
      (hb.hidden name).trans ((h.hidden name).trans (hb'.hidden name).symm)
  have hproviders : (Builder.empty.applyAll calls).providers =
      (Builder.empty.applyAll calls').providers :=
    hb.providers.trans (h.provided.trans hb'.providers.symm)
  have hconfig : (Builder.empty.applyAll calls).config =
      (Builder.empty.applyAll calls').config := by
    rw [hb.config, hb'.config, limitsOf, limitsOf, h.config, h.runtime]
  have hparts : Builder.empty.applyAll calls = Builder.empty.applyAll calls' := by
    rw [Builder.mk.injEq]
    exact ⟨hfilter, hoffers, hbindings, hhidden, hproviders, hconfig⟩
  exact congrArg (Builder.build · source) hparts

section Swap

variable {α : Type} {given? : BuilderCall → Option α} {c d : BuilderCall}

theorem lastGiven_swap (h : given? c = none ∨ given? d = none) (before after : List BuilderCall) :
    lastGiven given? (before ++ c :: d :: after) =
      lastGiven given? (before ++ d :: c :: after) := by
  have hpair (earlier : Option α) :
      (given? d).or ((given? c).or earlier) = (given? c).or ((given? d).or earlier) := by
    rcases h with h | h
    · rw [h, Option.none_or, Option.none_or]
    · rw [h, Option.none_or, Option.none_or]
  simp only [lastGiven_append, lastGiven_cons, Option.or_assoc]
  rw [hpair]

theorem filterMap_swap (h : given? c = none ∨ given? d = none) (before after : List BuilderCall) :
    (before ++ c :: d :: after).filterMap given? =
      (before ++ d :: c :: after).filterMap given? := by
  rw [List.filterMap_append, List.filterMap_append]
  refine congrArg (before.filterMap given? ++ ·) ?_
  rcases h with h | h
  · simp only [List.filterMap_cons, h]
  · simp only [List.filterMap_cons, h]

/-- **Neighbours that are not about the same can change places.** -/
theorem SameHistory.swap (h : ¬ c.Interfere d) (before after : List BuilderCall) :
    SameHistory (before ++ c :: d :: after) (before ++ d :: c :: after) := by
  obtain ⟨hbound, hrest⟩ := not_or.1 h
  obtain ⟨hoffered, hrest⟩ := not_or.1 hrest
  obtain ⟨hprovided, hruntime⟩ := not_or.1 hrest
  have hone {α : Type} {x y : Option α} (hboth : ¬ (x ≠ none ∧ y ≠ none)) : x = none ∨ y = none :=
    (not_and_or.1 hboth).imp not_ne_iff.1 not_ne_iff.1
  have hmem (e : BuilderCall) : e ∈ before ++ c :: d :: after ↔ e ∈ before ++ d :: c :: after :=
    ((List.Perm.swap d c after).append_left before).mem_iff
  exact
    { allowed := fun id ↦ exists_congr fun e ↦ and_congr_left' (hmem e)
      offered := filterMap_swap (hone hoffered) before after
      bound := fun name ↦ lastGiven_swap (hone fun hboth ↦ hbound ⟨name, hboth⟩) before after
      hidden := fun name ↦ hmem (.hide name)
      provided := filterMap_swap (hone hprovided) before after
      config := lastGiven_swap ((hone hruntime).imp BuilderCall.config?_eq_none_of_runtime?
        BuilderCall.config?_eq_none_of_runtime?) before after
      runtime := lastGiven_swap (hone hruntime) before after }

end Swap

/-! ### The law of histories -/

section Limits

variable (before after : List BuilderCall) (source : String)

/-- Limits that are set together leave nothing of those before them. -/
theorem config_buildWith_config (c : Config) :
    (buildWith (before ++ .config c :: after) source).parts.config =
      (buildWith (.config c :: after) source).parts.config := by
  have hforgotten {α : Type} (given? : BuilderCall → Option α) {x : α}
      (hgiven : given? (.config c) = some x) :
      lastGiven given? (before ++ .config c :: after) = lastGiven given? (.config c :: after) := by
    rw [lastGiven_append, lastGiven_cons, hgiven, Option.or_assoc, Option.some_or]
  have hlimits : limitsOf (before ++ .config c :: after) = limitsOf (.config c :: after) := by
    rw [limitsOf, hforgotten BuilderCall.config? rfl, hforgotten BuilderCall.runtime? rfl, limitsOf]
  exact (builtFrom_applyAll _).config.trans (hlimits.trans (builtFrom_applyAll _).config.symm)

/-- A time that is set alone leaves all other limits as they are. -/
theorem config_buildWith_maxRuntime (limit : Span) :
    ∃ time, (buildWith (before ++ .maxRuntime limit :: after) source).parts.config =
      { (buildWith (before ++ after) source).parts.config with maxRuntime := time } := by
  have hother : lastGiven BuilderCall.config? (before ++ .maxRuntime limit :: after) =
      lastGiven BuilderCall.config? (before ++ after) := by
    rw [lastGiven_append, lastGiven_append, lastGiven_cons]
    exact congrArg (Option.or · _) Option.or_none
  have hlimits : limitsOf (before ++ .maxRuntime limit :: after) =
      { limitsOf (before ++ after) with
        maxRuntime := (limitsOf (before ++ .maxRuntime limit :: after)).maxRuntime } := by
    simp only [limitsOf, hother]
  have hrest : (buildWith (before ++ after) source).parts.config = limitsOf (before ++ after) :=
    (builtFrom_applyAll _).config
  rw [hrest]
  exact ⟨_, (builtFrom_applyAll _).config.trans hlimits⟩

end Limits

/-- **The law of histories.** The calls account for every part of the session that they build:
nothing but what they carry is allowed. Neighbours that are not about the same can change places.
Of those that are, what is bound last counts, offers and providers stay in order, limits that are
set together leave nothing of those before, and a time that is set alone leaves the others. -/
theorem history_law (calls : List BuilderCall) (source : String) :
    (buildWith calls source).source = source ∧ BuiltFrom calls (buildWith calls source).parts ∧
      (∀ before c d after, calls = before ++ c :: d :: after → ¬ c.Interfere d →
        buildWith (before ++ d :: c :: after) source = buildWith calls source) ∧
      (∀ before c after, calls = before ++ .config c :: after →
        (buildWith calls source).parts.config =
          (buildWith (.config c :: after) source).parts.config) ∧
      ∀ before limit after, calls = before ++ .maxRuntime limit :: after →
        ∃ time, (buildWith calls source).parts.config =
          { (buildWith (before ++ after) source).parts.config with maxRuntime := time } := by
  refine ⟨rfl, builtFrom_applyAll calls, ?_, ?_, ?_⟩
  · rintro before c d after rfl hapart
    exact (buildWith_congr (SameHistory.swap hapart before after) source).symm
  · rintro before c after rfl
    exact config_buildWith_config before after source c
  · rintro before limit after rfl
    exact config_buildWith_maxRuntime before after source limit

/-- Calls that offer a disk without allowing it, and bind a name twice. -/
def clockCalls : List BuilderCall :=
  [.maxRuntime (.ofSeconds 7), .offer ⟨"host::Disk", id⟩, .variable "now" "i64" (.int 1),
    .config { Config.default with maxIncludeDepth := 2 }, .capability ⟨"host::Clock", id⟩,
    .hide "now", .sharedVariable "now" "u8" (.int 2), .maxRuntime (.ofSeconds 1)]

/-- The disk stays denied, the first binding and the limits can change places, and of the limits
those count that are set together last, with the time that is set after them. The time that is set
first might as well not be. -/
theorem history_law_clock :
    (buildWith clockCalls "now").parts.filter.allows "host::Disk" = false ∧
      (buildWith clockCalls "now").parts.bindings.get? "now" = some (.shared (.int 2)) ∧
      buildWith [.maxRuntime (.ofSeconds 7), .offer ⟨"host::Disk", id⟩,
        .config { Config.default with maxIncludeDepth := 2 }, .variable "now" "i64" (.int 1),
        .capability ⟨"host::Clock", id⟩, .hide "now", .sharedVariable "now" "u8" (.int 2),
        .maxRuntime (.ofSeconds 1)] "now" = buildWith clockCalls "now" ∧
      (buildWith clockCalls "now").parts.config =
        { Config.default with maxRuntime := .ofSeconds 1, maxIncludeDepth := 2 } ∧
      ∃ time, (buildWith clockCalls "now").parts.config =
        { (buildWith clockCalls.tail "now").parts.config with maxRuntime := time } := by
  obtain ⟨-, hbuilt, hswap, hconfig, htime⟩ := history_law clockCalls "now"
  have hdenied : ¬ ∃ c ∈ clockCalls, c.allowed? = some "host::Disk" := by
    simp [clockCalls, BuilderCall.allowed?]
  have hapart : ¬ (BuilderCall.variable "now" "i64" (.int 1)).Interfere
      (.config { Config.default with maxIncludeDepth := 2 }) := by
    simp [BuilderCall.Interfere, BuilderCall.bound?, BuilderCall.offered?, BuilderCall.provider?,
      BuilderCall.runtime?]
  exact ⟨Bool.eq_false_iff.2 (mt (hbuilt.allows "host::Disk").1 hdenied),
    (hbuilt.bindings "now").trans rfl,
    hswap [.maxRuntime (.ofSeconds 7), .offer ⟨"host::Disk", id⟩] _ _ _ rfl hapart,
    (hconfig [.maxRuntime (.ofSeconds 7), .offer ⟨"host::Disk", id⟩,
      .variable "now" "i64" (.int 1)] _ _ rfl).trans rfl,
    htime [] _ _ rfl⟩

end ScriptSandbox

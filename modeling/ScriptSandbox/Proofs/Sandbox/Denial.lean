import ScriptSandbox.Proofs.Capability.Installation
import ScriptSandbox.Proofs.Sandbox.Likeness
import ScriptSandbox.Proofs.Script.Confinement

/-!
# Denied capabilities

What a session does not allow might as well not be offered. Two sessions that are the same but for
offers that they do not allow build the same engine, and from there on nothing shows a difference:
under every schedule their executions make the same moves and come to the same
(`denied_offers_unseen`), whatever interprets their scripts. What a script can make happen through
the host is what the allowed surfaces install, if its interpreter is confined, and of several that
install the same the last decides.
-/

namespace ScriptSandbox

open Script Capability

/-- Two sessions are the same but for offers that they do not allow, which may be put in, taken out,
moved or replaced anywhere. -/
structure Session.DiffersInDenied (a b : Session) : Prop where
  /-- All but the offers is the same. -/
  rest : b = { a with parts := { a.parts with capabilities := b.parts.capabilities } }
  /-- The offers are equal but for denied ones. -/
  offers : a.parts.capabilities.EqualButDenied a.parts.filter b.parts.capabilities

namespace Session

/-- The offers that a session allows, in order. -/
def allowed (s : Session) : List (Capability Engine) := s.parts.capabilities.allowed s.parts.filter

/-- The engine of a session before anything is installed. -/
def bareEngine (s : Session) : Engine := .standardWith s.parts.config.limits

variable {a b : Session} {role : Role} {name : String} {types : List String} {g : HostFunction}

theorem engine_eq (s : Session) : s.engine.engine = installAll s.allowed s.bareEngine :=
  Table.engine_installAllowed ..

/-- Nothing is found in an engine in which nothing is installed. -/
theorem find?_bareEngine (s : Session) : s.bareEngine.find? role name types = none := rfl

theorem exists_allowed (h : a.engine.engine.find? role name types = some g) :
    ∃ before c after, a.allowed = before ++ c :: after ∧
      (installAll before a.bareEngine).find? role name types ≠ some g ∧
      (c.install (installAll before a.bareEngine)).find? role name types = some g := by
  rw [engine_eq] at h
  exact exists_installer (by rw [find?_bareEngine]; exact (Option.some_ne_none g).symm) h

namespace DiffersInDenied

theorem filter_eq (h : a.DiffersInDenied b) : b.parts.filter = a.parts.filter := by
  rw [h.rest]

theorem config_eq (h : a.DiffersInDenied b) : b.parts.config = a.parts.config := by
  rw [h.rest]

theorem allowed_eq (h : a.DiffersInDenied b) : a.allowed = b.allowed := by
  rw [allowed, allowed, h.filter_eq]
  exact Table.equalButDenied_iff.1 h.offers

theorem engine_eq (h : a.DiffersInDenied b) : a.engine.engine = b.engine.engine := by
  rw [a.engine_eq, b.engine_eq, bareEngine, bareEngine, h.allowed_eq, h.config_eq]

theorem run_eq (h : a.DiffersInDenied b) : a.evaluation.run = b.evaluation.run := by
  refine evaluation_run_congr ?_ ?_ h.config_eq.symm h.engine_eq ?_
  · rw [h.rest]
    rfl
  · rw [h.rest]
  · rw [h.rest]
    rfl

theorem alike (h : a.DiffersInDenied b) : a.Alike (fun _ ↦ True) b := by
  refine ⟨?_, h.run_eq, by rw [h.config_eq], .of_forall (fun q ↦ ?_) _⟩
  · rw [h.rest]
    rfl
  · cases q <;> trivial

theorem installed_eq (h : a.DiffersInDenied b) : a.engine.installed = b.engine.installed := by
  show (a.parts.capabilities.installAllowed _ _).installed =
    (b.parts.capabilities.installAllowed _ _).installed
  rw [Table.installed_installAllowed, Table.installed_installAllowed]
  exact congrArg List.length h.allowed_eq

/-- One session can take the place of the other in every run. -/
theorem runs (h : a.DiffersInDenied b) (before after : List Session) (threads : Nat)
    (acts : List Sandbox.Act) : Option.Rel (Sandbox.Alike fun _ _ ↦ True)
      ((Sandbox.ofSessions (before ++ a :: after) threads).run acts)
      ((Sandbox.ofSessions (before ++ b :: after) threads).run acts) := by
  have hcells : ∀ c, True → a.cells.get? c = b.cells.get? c := fun c _ ↦ by
    rw [h.rest]
    rfl
  have hstart := Sandbox.alike_replace before after h.alike hcells threads
  simp only [implies_true] at hstart
  exact hstart.run acts

end DiffersInDenied

/-- What a script asks for beyond what its evaluation takes and its shared variables hold, a
function asks for that an allowed surface puts into an engine. -/
theorem asksOnly_of_allowed (hconfined : a.interpreter.Confined) {P : Request → Prop}
    (hpoll : P .poll) (hprint : ∀ text, P (.print text)) (hdebug : ∀ text p, P (.debug text p))
    (hcells : ∀ name v, (name, Binding.shared v) ∈ a.visible → (Slot.shared name).Within P)
    (hcalls : ∀ c ∈ a.allowed, ∀ (e : Engine) role name types g, e.find? role name types ≠ some g →
      (c.install e).find? role name types = some g → ∀ args, (g.body args).AsksOnly P) :
    a.evaluation.run.AsksOnly P := by
  refine a.asksOnly_evaluation hconfined ⟨hpoll, hprint, hdebug, fun role name types g hg ↦ ?_⟩
    hcells
  obtain ⟨before, c, after, hsplit, hnot, hinstalled⟩ := exists_allowed hg
  exact hcalls c (by rw [hsplit]; simp) _ role name types g hnot hinstalled

/-- Denied offers cannot be seen, and allowed ones are all there is. -/
structure DenialUnseen (a b : Session) : Prop where
  /-- Both sessions build the same engine. -/
  engine : a.engine.engine = b.engine.engine
  /-- As many surfaces are installed. -/
  installed : a.engine.installed = b.engine.installed
  /-- In any sandbox one session can take the place of the other: the same acts are possible, and
  lead to the same executions in the same world, but for what observers are told. -/
  runs : ∀ before after threads acts, Option.Rel (Sandbox.Alike fun _ _ ↦ True)
    ((Sandbox.ofSessions (before ++ a :: after) threads).run acts)
    ((Sandbox.ofSessions (before ++ b :: after) threads).run acts)
  /-- Under different schedules, too, executions that are not interfered with come to the same, and
  leave the same behind, if they find the same. -/
  reports : ∀ P h h' left left' r r', a.evaluation.run.AsksOnly P → a.Reports P h left r →
    b.Reports P h' left' r' → h.AgreeOn P h' →
      r.outcome = r'.outcome ∧ r.logs = r'.logs ∧ left.AgreeOn P left'
  /-- What a call finds in the engine was installed by an allowed surface. -/
  installer : ∀ role name types g, a.engine.engine.find? role name types = some g →
    ∃ before c after, a.allowed = before ++ c :: after ∧
      (installAll before a.bareEngine).find? role name types ≠ some g ∧
      (c.install (installAll before a.bareEngine)).find? role name types = some g
  /-- Of several allowed surfaces that install something for the same call the last decides. -/
  last : ∀ role name types g before c after, a.allowed = before ++ c :: after →
    (∀ e, (c.install e).find? role name types = some g) →
    (∀ d ∈ after, ∀ e : Engine,
      (d.install e).find? role name types = e.find? role name types) →
    a.engine.engine.find? role name types = some g
  /-- A script asks for nothing but what its evaluation takes, what visible shared bindings hold,
  and what functions ask for that an allowed surface puts into an engine, if the interpreter is
  confined. -/
  asks : a.interpreter.Confined → ∀ P : Request → Prop, P .poll → (∀ text, P (.print text)) →
    (∀ text p, P (.debug text p)) →
    (∀ name v, (name, Binding.shared v) ∈ a.visible → (Slot.shared name).Within P) →
    (∀ c ∈ a.allowed, ∀ (e : Engine) role name types g, e.find? role name types ≠ some g →
      (c.install e).find? role name types = some g → ∀ args, (g.body args).AsksOnly P) →
    a.evaluation.run.AsksOnly P

/-- **By default everything is denied, and what is denied cannot be told from what is not offered.**
Whatever an engine is and whatever installing does to it, only the allowed offers are installed, in
their order, and their number is given; and sessions that differ in denied offers cannot be told
apart. -/
theorem denied_offers_unseen {ε : Type} (t : Table ε) (f : Filter) (engine : ε)
    (h : a.DiffersInDenied b) :
    ((t.installAllowed f engine).engine = installAll (t.allowed f) engine ∧
      (t.installAllowed f engine).installed = (t.allowed f).length) ∧ DenialUnseen a b := by
  refine ⟨⟨t.engine_installAllowed f engine, t.installed_installAllowed f engine⟩, ?_⟩
  exact
    { engine := h.engine_eq
      installed := h.installed_eq
      runs := h.runs
      reports := fun P h₀ h₀' left left' r r' hasks hr hr' ↦ hr.congr hr' h.run_eq hasks
      installer := fun role name types g ↦ exists_allowed
      last := fun role name types g before c after hsplit hc hafter ↦ by
        rw [a.engine_eq, hsplit]
        exact find?_installAll_of_last hc hafter _
      asks := fun hconfined P ↦ asksOnly_of_allowed hconfined }

/-- A session that allows one identifier and calls a function. -/
def answering (offers : List (Capability Engine)) : Session :=
  (Builder.empty.applyAll (.allow "kept" :: offers.map .offer)).build "answer()"

/-- A surface that answers with a number. -/
def answer (id : String) (n : Int) : Capability Engine := Surface.data id "answer" (.int n)

/-- Two surfaces that are allowed, and between them one that is not. -/
def offersWithDenied : List (Capability Engine) :=
  [answer "kept" 1, answer "denied" 2, answer "kept" 3]

/-- The same two, with others that are not allowed, of which one comes last. -/
def offersWithOthers : List (Capability Engine) :=
  [Surface.math "unused", answer "kept" 1, answer "kept" 3, answer "denied" 4]

/-- The last of the surfaces that are allowed answers, whatever else is offered. -/
theorem denied_offers_unseen_answering :
    (answering offersWithDenied).engine.engine = (answering offersWithOthers).engine.engine ∧
      (answering offersWithOthers).engine.installed = 2 ∧
      (answering offersWithDenied).engine.engine.find? .function "answer" [] =
        some (Surface.pureFunction .function "answer" [] fun _ ↦ .int 3) ∧
      ∃ s e r,
        (Sandbox.ofSessions [answering offersWithOthers] 1).run (Sandbox.soloActs 0 9) = some s ∧
        s.executions[0]? = some e ∧ e.sent = [r] ∧ r.outcome = .completed (.own (.int 3)) := by
  have hdiffers : (answering offersWithDenied).DiffersInDenied (answering offersWithOthers) :=
    ⟨rfl, Table.equalButDenied_iff.2 rfl⟩
  obtain ⟨⟨-, hinstalled⟩, hunseen⟩ :=
    denied_offers_unseen (answering offersWithOthers).parts.capabilities
      (answering offersWithOthers).parts.filter (answering offersWithOthers).bareEngine hdiffers
  refine ⟨hunseen.engine, hinstalled, ?_, ?_⟩
  · exact hunseen.last .function "answer" [] _ [answer "kept" 1] (answer "kept" 3) [] rfl
      (fun _ ↦ rfl) (fun d hd ↦ absurd hd List.not_mem_nil)
  · obtain ⟨s, e, hrun, he, hp⟩ :=
      Sandbox.exists_run_of_any (.ofSessions [answering offersWithDenied] 1)
        (Sandbox.soloActs 0 9) 0 (Sandbox.hasReported 3) (by decide +kernel)
    obtain ⟨r, hsent, houtcome⟩ := Sandbox.exists_report_of_hasReported hp
    obtain ⟨s', e', hrun', he', hsent'⟩ :=
      Sandbox.Alike.exists_report (hunseen.runs [] [] 1 _) hrun he hsent
    exact ⟨s', e', r, hrun', he', hsent', houtcome⟩

end Session

end ScriptSandbox

import ScriptSandbox.Proofs.Sandbox.Likeness
import ScriptSandbox.Proofs.Script.Confinement
import ScriptSandbox.Proofs.Session.Bindings

/-!
# Hidden bindings

Scripts see the bound names that are not hidden, with the values that were bound last, and nothing
else of the bindings (`ShowsLastBound`). So the values of hidden names are kept from them: sessions
that were built in the same way, but for these values, have the same engine, the same scope and the
same resolution, and, if their interpreter is confined, their executions cannot be told apart
(`hidden_bindings_unseen`).

Binding a value also allows its type, so the types of hidden values do show. A hidden shared binding
has a cell, too, which a session keeps for itself: no script is given it.
-/

namespace ScriptSandbox

open Script

/-! ### Calls that differ in hidden values -/

/-- Two calls bind values to a name, in the same way and of the same type. -/
inductive BuilderCall.Rebinds (name : String) : BuilderCall → BuilderCall → Prop where
  | ofVariable (typeId : String) (v v' : Value) :
      Rebinds name (.variable name typeId v) (.variable name typeId v')
  | ofSharedVariable (typeId : String) (v v' : Value) :
      Rebinds name (.sharedVariable name typeId v) (.sharedVariable name typeId v')
  | ofJsonVariable (data data' : Json) :
      Rebinds name (.jsonVariable name data) (.jsonVariable name data')

/-- Two calls differ at most in the value that they bind to one of some names. -/
def BuilderCall.AlikeBut (H : String → Prop) (c c' : BuilderCall) : Prop :=
  c = c' ∨ ∃ name, H name ∧ c.Rebinds name c'

/-- Two sequences of calls differ only in the values given to names that are hidden by one of the
calls, be it earlier or later. -/
def DifferInHidden (calls calls' : List BuilderCall) : Prop :=
  List.Forall₂ (BuilderCall.AlikeBut fun name ↦ .hide name ∈ calls) calls calls'

section

variable {H : String → Prop} {c c' : BuilderCall} {calls calls' : List BuilderCall} {name : String}

theorem BuilderCall.AlikeBut.hide_eq_iff (h : c.AlikeBut H c') :
    .hide name = c ↔ .hide name = c' := by
  obtain rfl | ⟨other, -, hc⟩ := h
  · rfl
  · cases hc <;> simp

theorem BuilderCall.AlikeBut.bound?_eq (h : c.AlikeBut H c') (hname : ¬ H name) :
    c.bound? name = c'.bound? name := by
  obtain rfl | ⟨other, hother, hc⟩ := h
  · rfl
  · have hne : name ≠ other := fun heq ↦ hname (heq ▸ hother)
    cases hc <;> simp [bound?, hne]

theorem hide_mem_iff_of_alikeBut (h : List.Forall₂ (BuilderCall.AlikeBut H) calls calls') :
    .hide name ∈ calls ↔ .hide name ∈ calls' := by
  induction h with
  | nil => rfl
  | cons hc _ ih => rw [List.mem_cons, List.mem_cons, hc.hide_eq_iff, ih]

theorem lastBound_eq_of_alikeBut (h : List.Forall₂ (BuilderCall.AlikeBut H) calls calls')
    (hname : ¬ H name) : lastBound calls name = lastBound calls' name := by
  induction h with
  | nil => rfl
  | cons hc _ ih => rw [lastBound_cons, lastBound_cons, hc.bound?_eq hname, ih]

/-- All that is built but the bindings. -/
def Builder.besidesBindings (b : Builder) : Builder := { b with bindings := .empty }

/-- What a call does to the other parts does not depend on the bindings. -/
theorem besidesBindings_apply (b : Builder) (c : BuilderCall) :
    (b.apply c).besidesBindings = (b.besidesBindings.apply c).besidesBindings := by
  cases c <;> rfl

/-- Nor does it depend on what is bound. -/
theorem BuilderCall.AlikeBut.besidesBindings_apply (h : c.AlikeBut H c') (b : Builder) :
    (b.apply c).besidesBindings = (b.apply c').besidesBindings := by
  obtain rfl | ⟨other, -, hc⟩ := h
  · rfl
  · cases hc <;> rfl

theorem besidesBindings_applyAll (h : List.Forall₂ (BuilderCall.AlikeBut H) calls calls')
    {b b' : Builder} (hb : b.besidesBindings = b'.besidesBindings) :
    (b.applyAll calls).besidesBindings = (b'.applyAll calls').besidesBindings := by
  induction h generalizing b b' with
  | nil => exact hb
  | @cons c c' calls calls' hc _ ih =>
    have hstep : (b.apply c).besidesBindings = (b'.apply c').besidesBindings := by
      rw [besidesBindings_apply, hb, ← besidesBindings_apply, hc.besidesBindings_apply]
    exact ih hstep

end

/-! ### What scripts do not see -/

/-- The host functions that scripts can call read no cells of some names. A cell belongs to its
session, and nothing leads to it but the binding. -/
def Session.HostSpares (s : Session) (H : String → Prop) : Prop :=
  ∀ role name types f, s.engine.engine.find? role name types = some f →
    ∀ args, (f.body args).AsksOnly (Request.LoadsIn fun cell ↦ ¬ H cell)

/-- Two sessions show no difference in what is bound to hidden names. -/
structure HiddenUnseen (H : String → Prop) (a b : Session) : Prop where
  /-- They build the same engine, and observers are told the same about it. -/
  engine : a.engine = b.engine
  /-- Their executions start with the same scope. -/
  scope : a.scope = b.scope
  /-- Their sources are resolved in the same way. -/
  resolve : a.resolve = b.resolve
  /-- Their scripts run in the same way. -/
  run : a.evaluation.run = b.evaluation.run
  /-- No script loads a hidden cell. -/
  loads : a.interpreter.Confined → a.HostSpares H →
    a.evaluation.run.AsksOnly (Request.LoadsIn fun cell ↦ ¬ H cell)
  /-- In any sandbox one session can take the place of the other: the same acts are possible, and
  lead to the same executions in the same world, but for the cells of hidden names. -/
  runs : a.interpreter.Confined → a.HostSpares H → ∀ before after threads acts,
    Option.Rel (Sandbox.Alike fun site cell ↦ site = before.length → ¬ H cell)
      ((Sandbox.ofSessions (before ++ a :: after) threads).run acts)
      ((Sandbox.ofSessions (before ++ b :: after) threads).run acts)
  /-- Under different schedules, too, executions that are not interfered with come to the same, and
  leave the same behind, if they find the same. -/
  reports : ∀ P h h' left left' r r', a.evaluation.run.AsksOnly P → a.Reports P h left r →
    b.Reports P h' left' r' → h.AgreeOn P h' →
      r.outcome = r'.outcome ∧ r.logs = r'.logs ∧ left.AgreeOn P left'

/-- Sessions show no difference if they show scripts the same, if all their parts but the bindings
are the same, and if the cells of all other names start alike. -/
theorem hiddenUnseen_of_visible {H : String → Prop} {a b : Session} (hsource : a.source = b.source)
    (hinterpreter : a.interpreter = b.interpreter)
    (hparts : a.parts.besidesBindings = b.parts.besidesBindings) (hvisible : a.visible = b.visible)
    (hcells : ∀ cell, ¬ H cell → a.cells.get? cell = b.cells.get? cell)
    (hshown : ∀ name binding, (name, binding) ∈ a.visible → ¬ H name) : HiddenUnseen H a b := by
  simp only [Builder.besidesBindings, Builder.mk.injEq, true_and] at hparts
  obtain ⟨hfilter, hoffers, -, hproviders, hconfig⟩ := hparts
  have hengine : a.engine = b.engine := by
    rw [Session.engine, Session.engine, hfilter, hoffers, hconfig]
  have hresolve : a.resolve = b.resolve := by
    rw [Session.resolve, Session.resolve, hsource, hproviders, hconfig]
  have hrun : a.evaluation.run = b.evaluation.run :=
    Session.evaluation_run_congr hresolve hinterpreter hconfig (congrArg _ hengine) hvisible
  have hloads (hconfined : a.interpreter.Confined) (hhost : a.HostSpares H) :
      a.evaluation.run.AsksOnly (Request.LoadsIn fun cell ↦ ¬ H cell) :=
    a.asksOnly_evaluation hconfined ⟨trivial, fun _ ↦ trivial, fun _ _ ↦ trivial, hhost⟩
      fun name v hv ↦ ⟨hshown name _ hv, fun _ ↦ trivial, trivial⟩
  exact
    { engine := hengine
      scope := congrArg (List.map _) hvisible
      resolve := hresolve
      run := hrun
      loads := hloads
      runs := fun hconfined hhost before after threads acts ↦ by
        have halike : a.Alike (fun cell ↦ ¬ H cell) b :=
          ⟨hresolve, hrun, congrArg Config.maxRuntime hconfig, hloads hconfined hhost⟩
        exact (Sandbox.alike_replace before after halike hcells threads).run acts
      reports := fun P h h' left left' r r' hasks hr hr' ↦ hr.congr hr' hrun hasks }

/-- Every execution of a session, in every run, starts with what was bound last and is not
hidden. -/
def StartsWithLastBound (calls : List BuilderCall) (s : Session) : Prop :=
  ∀ (sessions : List Session) (threads : Nat) (acts : List Sandbox.Act) (t : Sandbox) (i : Nat)
    (e : Execution), (Sandbox.ofSessions sessions threads).run acts = some t →
    t.executions[i]? = some e → sessions[e.site]? = some s → ShowsLastBound calls e.session

/-- **Hidden bindings are confidential.** Whatever the calls are that built a session, and whatever
interprets its scripts, they start with what was bound last and is not hidden. And whatever differs
in the values of hidden names cannot be told by any source, if the interpreter is confined. -/
theorem hidden_bindings_unseen (history : List BuilderCall) (source : String)
    (interpreter : Interpreter) {calls calls' : List BuilderCall}
    (h : DifferInHidden calls calls') :
    (ShowsLastBound history (buildWith history source interpreter) ∧
        StartsWithLastBound history (buildWith history source interpreter)) ∧
      HiddenUnseen (fun name ↦ .hide name ∈ calls) (buildWith calls source interpreter)
        (buildWith calls' source interpreter) := by
  have hhide (name : String) : .hide name ∈ calls ↔ .hide name ∈ calls' :=
    hide_mem_iff_of_alikeBut h
  have hbound (name : String) (hname : .hide name ∉ calls) :
      lastBound calls name = lastBound calls' name := lastBound_eq_of_alikeBut h hname
  refine ⟨⟨showsLastBound_buildWith history source interpreter, ?_⟩,
    hiddenUnseen_of_visible rfl rfl ?_ ?_ ?_ ?_⟩
  · intro sessions threads acts t i e hrun he hsession
    have hplace := Sandbox.session_of_run hrun he
    rw [hsession] at hplace
    rw [← Option.some.inj hplace]
    exact showsLastBound_buildWith history source interpreter
  · exact besidesBindings_applyAll h rfl
  · exact visible_buildWith_congr hhide hbound source
  · intro cell hcell
    rw [get?_cells_buildWith, get?_cells_buildWith, hbound cell hcell]
  · intro name binding hmem
    exact ((mem_visible_buildWith calls source).1 hmem).2

/-- Calls that bind and hide a key, and bind a number twice, in different ways. -/
def keyed (key : Int) : List BuilderCall :=
  [.variable "key" "i64" (.int key), .hide "key", .sharedVariable "n" "i64" (.int 1),
    .sharedVariable "key" "i64" (.int (key + 1)), .variable "n" "i64" (.int 5)]

/-- Nothing shows which key it is. -/
theorem hidden_bindings_unseen_keyed :
    (buildWith (keyed 7) "n * 2").scope = [⟨"n", .own (.int 5), none⟩] ∧
      (buildWith (keyed 8) "n * 2").scope = [⟨"n", .own (.int 5), none⟩] ∧
      ∃ s e r,
        (Sandbox.ofSessions [buildWith (keyed 8) "n * 2"] 1).run (Sandbox.soloActs 0 10) = some s ∧
        s.executions[0]? = some e ∧ e.sent = [r] ∧ r.outcome = .completed (.own (.int 10)) := by
  have hdiffer : DifferInHidden (keyed 7) (keyed 8) := by
    have hkey : .hide "key" ∈ keyed 7 := by simp [keyed]
    exact .cons (.inr ⟨"key", hkey, .ofVariable ..⟩) (.cons (.inl rfl) (.cons (.inl rfl)
      (.cons (.inr ⟨"key", hkey, .ofSharedVariable ..⟩) (.cons (.inl rfl) .nil))))
  obtain ⟨-, hunseen⟩ := hidden_bindings_unseen (keyed 7) "n * 2" .standard hdiffer
  have hscope : (buildWith (keyed 7) "n * 2").scope = [⟨"n", .own (.int 5), none⟩] := rfl
  have hhost : (buildWith (keyed 7) "n * 2").HostSpares fun name ↦ .hide name ∈ keyed 7 :=
    fun role name types f hf ↦ by cases hf
  refine ⟨hscope, hunseen.scope ▸ hscope, ?_⟩
  obtain ⟨s, e, hrun, he, hp⟩ :=
    Sandbox.exists_run_of_any (.ofSessions [buildWith (keyed 7) "n * 2"] 1)
      (Sandbox.soloActs 0 10) 0 (Sandbox.hasReported 10) (by decide +kernel)
  obtain ⟨r, hsent, houtcome⟩ := Sandbox.exists_report_of_hasReported hp
  obtain ⟨s', e', hrun', he', hsent'⟩ :=
    Sandbox.Alike.exists_report (hunseen.runs Interpreter.confined_standard hhost [] [] 1 _) hrun he
      hsent
  exact ⟨s', e', r, hrun', he', hsent', houtcome⟩

end ScriptSandbox

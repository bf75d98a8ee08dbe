import ScriptSandbox.Proofs.Execution.Foregone
import ScriptSandbox.Proofs.Include.Availability
import ScriptSandbox.Proofs.Sandbox.Agreement
import ScriptSandbox.Proofs.Sandbox.Callback
import ScriptSandbox.Proofs.Sandbox.Likeness
import ScriptSandbox.Proofs.Sandbox.Snapshots

/-!
# Sessions that insist on their directives

A session can insist on its directives: an execution of it fails if one was dropped. It fails
before anything else, whatever the rest of the source is and whenever it is stopped: the failure is
all that its evaluation is, so the result is foregone (`foregone_of_run`), and the worker comes to
its end without asking for anything (`exists_run_work`).

Where nothing is dropped, insisting costs nothing. The evaluation is the same as that of the session
that does not insist (`Session.evaluation_eq_lenient`), so in every run one can take the place of
the other.
-/

namespace ScriptSandbox

open Script

/-! ### Evaluations of such sessions -/

namespace Session

/-- The session, if it did not insist on its directives. -/
def lenient (a : Session) : Session :=
  { a with parts := { a.parts with config := { a.parts.config with strictIncludes := false } } }

variable {a : Session}

/-- **Where directives were dropped, the failure is all there is.** -/
theorem evaluation_run_of_dropped (hstrict : a.parts.config.strictIncludes = true)
    (hdropped : a.resolve.unresolved ≠ []) :
    a.evaluation.run = .done (.error (.unresolvedInclude a.resolve.unresolved)) := by
  rw [a.evaluation_run, hstrict, List.isEmpty_eq_false_iff.2 hdropped]
  rfl

/-- **Where none was dropped, the evaluation is that of the other session.** -/
theorem evaluation_eq_lenient (hnone : a.resolve.unresolved = []) :
    a.evaluation = a.lenient.evaluation := by
  have hnone' : a.lenient.resolve.unresolved = [] := hnone
  unfold evaluation
  dsimp only
  rw [hnone, hnone', List.isEmpty_nil, Bool.not_true, Bool.and_false, Bool.and_false]
  rfl

theorem alike_lenient (hnone : a.resolve.unresolved = []) : a.Alike (fun _ ↦ True) a.lenient := by
  refine ⟨rfl, congrArg Evaluation.run (evaluation_eq_lenient hnone), rfl,
    .of_forall (fun q ↦ ?_) _⟩
  cases q <;> trivial

end Session

namespace Sandbox

variable {sessions : List Session} {threads : Nat} {s s' : Sandbox} {acts : List Act} {i : Nat}
  {e : Execution} {result : Except Failure Slot}

/-! ### Runs that are foregone -/

/-- In every run an execution of a session whose evaluation is a result keeps to that result. -/
theorem foregone_of_run (h : (ofSessions sessions threads).run acts = some s)
    (he : s.executions[i]? = some e) (hrun : e.session.evaluation.run = .done result) :
    e.Foregone result := by
  have hforegone : e.session.evaluation.run = .done result → e.Foregone result :=
    run_establishes (P := fun e ↦ e.session.evaluation.run = .done result → e.Foregone result)
      (fun id session site callback _ ↦ Execution.foregone_queue result id session site callback)
      (fun w m e e' hm hf hrun ↦ by
        rw [hm.session_eq] at hrun
        exact hm.foregone hrun (hf hrun)) h he
  exact hforegone hrun

/-- Nothing is ever written to the cells of its session. -/
theorem site_ne_of_mem_writes (h : (ofSessions sessions threads).run acts = some s)
    (he : s.executions[i]? = some e) (hrun : e.session.evaluation.run = .done result) {w : Write}
    (hw : w ∈ (ofSessions sessions threads).writes acts) : w.site ≠ e.site := by
  intro hsite
  obtain ⟨before, t, x, q, hmoment, hx, hasking⟩ := exists_moment_of_mem_writes h hw
  -- The author stands at the same place, so it is of the same session and asks for nothing.
  have hsession : x.session = e.session := by
    have hplace := session_of_run hmoment.reached hmoment.present
    rw [hx, hsite, session_of_run h he] at hplace
    exact (Option.some.inj hplace).symm
  rw [(foregone_of_run hmoment.reached hmoment.present (hsession ▸ hrun)).asking?_eq_none]
    at hasking
  cases hasking

/-- So the cells are what they were at first. -/
theorem cell_eq_of_run (h : (ofSessions sessions threads).run acts = some s)
    (he : s.executions[i]? = some e) (hrun : e.session.evaluation.run = .done result)
    (cell : String) :
    s.world.load e.site cell = (ofSessions sessions threads).world.load e.site cell ∧
      s.world.isPoisoned e.site cell = false := by
  have hleaves := leaves_of_run (placed_of_run (run_nil _)) h e.site cell
  constructor
  · have hnone : lastWrite e.site cell ((ofSessions sessions threads).writes acts) = none :=
      List.findSome?_eq_none_iff.2 fun w hw ↦ if_neg fun hcell ↦
        site_ne_of_mem_writes h he hrun (List.mem_reverse.1 hw) hcell.1
    rw [hleaves.load, hnone, Option.getD_none]
  · have hfalse : poisons e.site cell ((ofSessions sessions threads).writes acts) = false :=
      List.any_eq_false.2 fun w hw hcell ↦
        site_ne_of_mem_writes h he hrun hw (of_decide_eq_true hcell).1
    rw [hleaves.isPoisoned, hfalse]
    rfl

theorem permits_work (hfree : e.worker = .queued → s.isLive = true ∧ s.busy < s.threads) :
    s.permits e .work = true := by
  cases hw : e.worker with
  | queued =>
    obtain ⟨hlive, hbusy⟩ := hfree hw
    simp only [permits, hw, hlive, hbusy, decide_true, Bool.and_self, Bool.or_true]
  | _ => simp only [permits, hw, Worker.isQueued, Bool.not_false, Bool.true_or]

/-- **Its worker comes to its end** by its own moves, once it has a thread. -/
theorem exists_run_work (he : s.executions[i]? = some e) (hf : e.Foregone result)
    (hrun : e.session.evaluation.run = .done result)
    (hfree : e.worker = .queued → s.isLive = true ∧ s.busy < s.threads) :
    ∃ n ≤ e.worker.remaining, ∃ s' e', s.run (List.replicate n (.move i .work)) = some s' ∧
      s'.executions[i]? = some e' ∧ e'.worker.isDone = true ∧ s'.isLive = s.isLive := by
  induction hn : e.worker.remaining using Nat.strong_induction_on generalizing s e with
  | _ n ih =>
    cases hend : e.worker.isDone with
    | true => exact ⟨0, Nat.zero_le _, s, e, rfl, he, hend, rfl⟩
    | false =>
      obtain ⟨w, e₁, hwork⟩ := hf.exists_work hend s.world
      have hstep := (Execution.step_of_work hwork).1
      have hlt : e₁.worker.remaining < n := hn ▸ hstep.remaining_lt hf
      have hrun₁ : e₁.session.evaluation.run = .done result := by rw [hstep.session_eq, hrun]
      have hmove := step_of_permits he (permits_work hfree) hwork
      have hpresent : i < s.executions.length := (List.getElem?_eq_some_iff.1 he).1
      obtain ⟨k, hk, s', e', hmore, he', hend', hlive⟩ :=
        ih _ hlt (s := { s with world := w, executions := s.executions.set i e₁ })
          (by simp [hpresent]) (hstep.foregone hrun hf) hrun₁
          (fun hqueued ↦ absurd hqueued hstep.ne_queued_of_work) rfl
      refine ⟨k + 1, by omega, s', e', ?_, he', hend', hlive⟩
      rw [List.replicate_succ, run_cons, perform, hmove]
      exact hmore

/-! ### All or nothing -/

/-- What holds in a run of an execution that fails before it does anything, when the run has led to
it. -/
structure FailsOutright (s₀ : Sandbox) (acts : List Act) (i : Nat) (s : Sandbox) (e : Execution)
    (f : Failure) : Prop where
  /-- Its evaluation is the failure; no script is read, and no function called. -/
  evaluation : e.session.evaluation.run = .done (.error f)
  /-- At no moment of the run it asks for anything. -/
  asking : ∀ m before t x, Moment s₀ acts i m before t x → x.asking? m = none
  /-- None of its moves changes a shared variable, or gives the host a message. -/
  keeps : ∀ m before t x w x', Moment s₀ acts i m before t x →
    x.step m t.world = some (w, x') → Execution.Keeps t.world w
  /-- The shared variables of its session hold what they held at first, and can be read, so none of
  its other executions has changed them either. -/
  shared : ∀ cell, s.world.load e.site cell = s₀.world.load e.site cell ∧
    s.world.isPoisoned e.site cell = false
  /-- It has no printed texts. -/
  logs : e.logs = #[]
  /-- What is reported is the failure, without any texts, and it is what the handle gives. -/
  reported : ∀ r ∈ e.sent, s.report? i = some r ∧ r.outcome = .failed f ∧ r.logs = []
  /-- There is no other end than to have failed. -/
  state : e.state.isTerminal = true → e.state = .failed
  /-- The error callback, if there is one, has not been called, or once and with the failure. -/
  calls : s.callsOf e.id = [] ∨ s.callsOf e.id = e.callback.toList.map fun _ ↦ f
  /-- It has been called when the worker has ended. -/
  called : e.worker.isDone = true → s.callsOf e.id = e.callback.toList.map fun _ ↦ f
  /-- The end can be reached from here by moves of its own: once there is a thread for it, nothing
  holds it up. -/
  ends : s.isLive = true → (e.worker = .queued → s.busy < s.threads) →
    ∃ n n' s' e' r,
      s.run (List.replicate n (.move i .work) ++ List.replicate n' (.move i .watch)) = some s' ∧
        s'.executions[i]? = some e' ∧ e'.sent = [r] ∧ r.outcome = .failed f ∧ r.logs = []

section

variable {f : Failure} (h : (ofSessions sessions threads).run acts = some s)
  (he : s.executions[i]? = some e) (hrun : e.session.evaluation.run = .done (.error f))
  (hown : f.isTermination = false)
  (hcallback : ∀ callback, e.callback = some callback → callback f = .returns)

include h he hrun hown hcallback

theorem outcome_of_mem_sent {r : Report} (hr : r ∈ e.sent) : r.outcome = .failed f ∧ r.logs = [] :=
  (foregone_of_run h he hrun).outcome_of_endReport? (accounted_of_run h he) (prints_of_run h he)
    hown hcallback ((coherent_of_run h he).endReport?_of_mem_sent hr)

/-- From here the worker comes to its end, and then the watchdog to its report. -/
theorem exists_run_report (hlive : s.isLive = true)
    (hfree : e.worker = .queued → s.busy < s.threads) :
    ∃ n n' s' e' r,
      s.run (List.replicate n (.move i .work) ++ List.replicate n' (.move i .watch)) = some s' ∧
        s'.executions[i]? = some e' ∧ e'.sent = [r] ∧ r.outcome = .failed f ∧ r.logs = [] := by
  obtain ⟨n, -, t, x, hwork, hx, hend, hlive'⟩ := exists_run_work he (foregone_of_run h he hrun)
    hrun fun hqueued ↦ ⟨hlive, hfree hqueued⟩
  obtain ⟨s', e', hwatch, he', hdone⟩ := exists_run_watch (hlive'.trans hlive) hx hend
  have hmoves : s.run (List.replicate n (.move i .work) ++
      List.replicate x.watchdog.remaining (.move i .watch)) = some s' := by
    rw [run_append, hwork]
    exact hwatch
  -- The moves continue the run from the beginning, in which the execution is still the same.
  have hall := run_append (ofSessions sessions threads) acts (List.replicate n (.move i .work) ++
    List.replicate x.watchdog.remaining (.move i .watch))
  rw [h, Option.bind_some, hmoves] at hall
  have hev := evolves_of_run hmoves he he'
  obtain ⟨-, r, hsent, -⟩ := exists_report_of_done hall he' hdone
  obtain ⟨houtcome, hlogs⟩ := outcome_of_mem_sent hall he' (by rw [hev.session_eq, hrun]) hown
    (by rwa [hev.callback_eq]) (hsent ▸ List.mem_singleton_self r)
  exact ⟨n, _, s', e', r, hmoves, he', hsent, houtcome, hlogs⟩

/-- **An execution whose evaluation is a failure fails outright**, in every run from the beginning,
if the failure is no stop and the error callback returns from it. -/
theorem failsOutright_of_run : FailsOutright (ofSessions sessions threads) acts i s e f := by
  have hf := foregone_of_run h he hrun
  have ha := accounted_of_run h he
  have hc := coherent_of_run h he
  have hmoment {m : Move} {before : List Act} {t : Sandbox} {x : Execution}
      (hm : Moment (ofSessions sessions threads) acts i m before t x) :
      x.Foregone (.error f) := by
    refine foregone_of_run hm.reached hm.present ?_
    rw [← (hm.evolves h he).session_eq, hrun]
  have hcalls : s.callsOf e.id = e.called := by
    have hr := recorded_of_run h
    rw [hr.number i e he, hr.calls i e he]
  refine
    { evaluation := hrun
      asking := fun m before t x hm ↦ (hmoment hm).asking?_eq_none m
      keeps := fun m before t x w x' hm hstep ↦ (hmoment hm).keeps hstep
      shared := cell_eq_of_run h he hrun
      logs := hf.logs
      reported := fun r hr ↦ ⟨?_, outcome_of_mem_sent h he hrun hown hcallback hr⟩
      state := hf.state_eq hc hown
      calls := ?_
      called := fun hend ↦ hcalls.trans (hf.called_eq ha hown hend)
      ends := exists_run_report h he hrun hown hcallback }
  · obtain ⟨r', hsent⟩ := hc.exists_sent_eq hr
    obtain rfl : r = r' := List.mem_singleton.1 (hsent ▸ hr)
    simp only [report?, he, hsent, List.head?_cons]
  · rw [hcalls]
    rcases ha.called_eq_nil_or with hnil | ⟨v, hv, howed⟩
    · exact .inl hnil
    · obtain rfl := hf.verdict?_eq hown hv
      exact .inr howed

end

end Sandbox

/-! ### What insisting comes to -/

namespace Session

/-- Insisting makes no difference: nothing tells the session from the one that does not insist. -/
structure InsistsForFree (a : Session) : Prop where
  /-- Everything that is done before the script runs is the same, and so is its run. -/
  evaluation : a.evaluation = a.lenient.evaluation
  /-- In any sandbox one session can take the place of the other: the same acts are possible, and
  lead to the same executions in the same world. -/
  runs : ∀ before after threads acts, Option.Rel (Sandbox.Alike fun _ _ ↦ True)
    ((Sandbox.ofSessions (before ++ a :: after) threads).run acts)
    ((Sandbox.ofSessions (before ++ a.lenient :: after) threads).run acts)
  /-- Under different schedules, too, executions that are not interfered with come to the same, and
  leave the same behind, if they find the same. -/
  reports : ∀ P h h' left left' r r', a.evaluation.run.AsksOnly P → a.Reports P h left r →
    a.lenient.Reports P h' left' r' → h.AgreeOn P h' →
      r.outcome = r'.outcome ∧ r.logs = r'.logs ∧ left.AgreeOn P left'

variable {a : Session}

theorem insistsForFree (hnone : a.resolve.unresolved = []) : a.InsistsForFree where
  evaluation := evaluation_eq_lenient hnone
  runs before after threads acts := by
    have hstart := Sandbox.alike_replace before after (alike_lenient hnone)
      (fun c _ ↦ rfl) threads
    simp only [implies_true] at hstart
    exact hstart.run acts
  reports P h h' left left' r r' hasks hr hr' :=
    hr.congr hr' (congrArg Evaluation.run (evaluation_eq_lenient hnone)) hasks

/-- **Insisting on directives is all or nothing, and free if nothing is missing.** Where directives
of the session were dropped, every execution fails with them outright, in every run from the
beginning and for every error callback that returns. Where none was dropped, the session cannot be
told from the one that does not insist. -/
theorem strict_all_or_nothing (hstrict : a.parts.config.strictIncludes = true) :
    (a.resolve.unresolved ≠ [] → ∀ {sessions threads acts s i e},
      (Sandbox.ofSessions sessions threads).run acts = some s → s.executions[i]? = some e →
      e.session = a →
      (∀ callback, e.callback = some callback →
        callback (.unresolvedInclude a.resolve.unresolved) = .returns) →
      Sandbox.FailsOutright (.ofSessions sessions threads) acts i s e
        (.unresolvedInclude a.resolve.unresolved)) ∧
      (a.resolve.unresolved = [] → a.InsistsForFree) := by
  refine ⟨fun hdropped ↦ ?_, insistsForFree⟩
  intro sessions threads acts s i e h he hsession hcallback
  have hrun := evaluation_run_of_dropped hstrict hdropped
  rw [← hsession] at hrun hcallback ⊢
  exact Sandbox.failsOutright_of_run h he hrun rfl hcallback

/-- The session's directive is dropped, and the rest of its source is no script. -/
def droppedBeforeNoScript : Session :=
  { Sandbox.unknownDirective with source := "#include x\n)" }

/-- The host cancels before the worker begins, and the deadline expires before the evaluation. -/
def cancelAtOnce : List Sandbox.Act :=
  [.start 0 (some fun _ ↦ .returns), .move 0 .cancel, .move 0 .work, .move 0 .work, .move 0 .watch,
    .passTo 4000000000, .move 0 .expire, .move 0 .watch, .move 0 .work, .move 0 .work,
    .move 0 .work, .move 0 .work, .move 0 .work, .move 0 .work, .move 0 .watch, .move 0 .watch]

/-- The dropped directive is what is reported and called in; where directives form a cycle, and none
is dropped, insisting is for free. -/
theorem strict_all_or_nothing_cancelAtOnce :
    (∃ s e r, (Sandbox.ofSessions [droppedBeforeNoScript] 1).run cancelAtOnce = some s ∧
      s.executions[0]? = some e ∧ e.stop = true ∧ e.deadlineHit = true ∧ s.report? 0 = some r ∧
      r.outcome = .failed (.unresolvedInclude ["x"]) ∧ r.logs = [] ∧
      s.callsOf e.id = [.unresolvedInclude ["x"]]) ∧
    Include.ringSession.InsistsForFree := by
  refine ⟨?_, (strict_all_or_nothing rfl).2 (by decide +kernel)⟩
  have hlist : droppedBeforeNoScript.resolve.unresolved = ["x"] := by decide +kernel
  obtain ⟨s, e, hrun, he, hp⟩ := Sandbox.exists_run_of_any
    (Sandbox.ofSessions [droppedBeforeNoScript] 1) cancelAtOnce 0
    (fun e ↦ e.stop && e.deadlineHit && decide (e.site = 0) && decide (e.watchdog = .done) &&
      e.callback.any fun callback : Callback ↦
        decide (callback (.unresolvedInclude ["x"]) = .returns))
    (by decide +kernel)
  simp only [Bool.and_eq_true, decide_eq_true_eq, Option.any_eq_true] at hp
  obtain ⟨⟨⟨⟨hstop, hhit⟩, hsite⟩, hdone⟩, callback, hcallback, hreturns⟩ := hp
  have hsession := Sandbox.session_of_run hrun he
  rw [hsite] at hsession
  have houtright := (strict_all_or_nothing rfl).1 (by rw [hlist]; exact List.cons_ne_nil _ _)
    hrun he (Option.some.inj hsession).symm fun callback' hcallback' ↦ by
      obtain rfl := Option.some.inj (hcallback.symm.trans hcallback')
      rw [hlist, hreturns]
  rw [hlist] at houtright
  obtain ⟨hend, r, hsent, -⟩ := Sandbox.exists_report_of_done hrun he hdone
  obtain ⟨hreport, houtcome, hlogs⟩ := houtright.reported r (hsent ▸ List.mem_singleton_self r)
  exact ⟨s, e, r, hrun, he, hstop, hhit, hreport, houtcome, hlogs,
    (houtright.called hend).trans (by rw [hcallback]; rfl)⟩

end Session

end ScriptSandbox

import ScriptSandbox.Proofs.Sandbox.Run

/-!
# Why an execution was stopped

A stop leaves two traces, the request and the note of the deadline, which are written and read by
different parties at different moments. That the reason in a report is the true one is proved by
going back: what is reported was read at some moment, what was read there was written at an earlier
one, and so on to the cancel or to the timer (`exists_origin`). Each step back is one inversion of
`Execution.Step` in the first section.

Only one fact about order is needed besides. The watchdog notes the deadline before it asks for the
stop, so a request without a note is the host's (`cancel_or_deadlineHit`).
-/

namespace ScriptSandbox

namespace Execution

variable {w : World} {e e' : Execution} {m : Move}

/-! ### Which step makes a fact -/

theorem Step.eq_work_of_queued (h : Step w e m e') (hw : e.worker = .queued)
    (hw' : e'.worker ≠ .queued) : m = .work := by
  cases h with
  | arm | join | bury | trip | send | expire | cancel | release => exact absurd hw hw'
  | _ => rfl

/-- A worker that has left the queue does not come back. -/
theorem Step.ne_queued (h : Step w e m e') (hw : e.worker ≠ .queued) : e'.worker ≠ .queued := by
  cases h with
  | arm | join | bury | trip | send | expire | cancel | release => exact hw
  | proceed | _ => exact fun hw' ↦ by cases hw'

theorem Step.eq_watch_of_armed (h : Step w e m e') {due : Nat} (hd : e.watchdog ≠ .armed due)
    (hd' : e'.watchdog = .armed due) :
    m = .watch ∧ e.watchdog = .waiting ∧ e.worker.isAnnounced = true ∧
      due = w.clock + e.limit.totalNanos := by
  cases h with
  | arm hwaiting hstarted =>
    cases hd'
    exact ⟨rfl, hwaiting, hstarted, rfl⟩
  | join | bury | trip | send | expire => cases hd'
  | _ => exact absurd hd' hd

theorem Step.eq_expire_of_deadlineHit (h : Step w e m e') (hn : e.deadlineHit ≠ true)
    (hn' : e'.deadlineHit = true) : m = .expire := by
  cases h with
  | expire => rfl
  | _ => exact absurd hn' hn

theorem Step.armed_of_expire (h : Step w e .expire e') :
    ∃ due, e.watchdog = .armed due ∧ due ≤ w.clock := by
  cases h with
  | expire due hd hdue => exact ⟨due, hd, hdue⟩

theorem Step.deadlineHit_mono (h : Step w e m e') (hn : e.deadlineHit = true) :
    e'.deadlineHit = true := by
  cases h with
  | expire => rfl
  | _ => exact hn

/-- A watchdog that is about to ask for the stop has noted why. -/
theorem Step.deadlineHit_of_tripping (h : Step w e m e')
    (hn : e.watchdog = .tripping → e.deadlineHit = true) :
    e'.watchdog = .tripping → e'.deadlineHit = true := by
  intro hd'
  cases h with
  | expire => rfl
  | arm | join | bury | trip | send => cases hd'
  | _ => exact hn hd'

theorem Step.cancel_or_tripping (h : Step w e m e') (hs : e.stop ≠ true) (hs' : e'.stop = true) :
    m = .cancel ∨ e.watchdog = .tripping := by
  cases h with
  | cancel => exact .inl rfl
  | trip hd => exact .inr hd
  | _ => exact absurd hs' hs

theorem Step.judging_of_stopped (h : Step w e m e') (hw : e.worker ≠ .stopped)
    (hw' : e'.worker = .stopped) :
    m = .work ∧ ∃ f, e.worker = .judging (.error f) ∧ e.stop = true := by
  cases h with
  | yield f hf _ hstop => exact ⟨rfl, f, hf, hstop⟩
  | arm | join | bury | trip | send | expire | cancel | release => exact absurd hw' hw
  | _ => cases hw'

theorem Step.stopped_of_terminated (h : Step w e m e') {reason : Termination}
    (ho : e.worker.outcome? ≠ some (.terminated reason))
    (ho' : e'.worker.outcome? = some (.terminated reason)) :
    m = .work ∧ e.worker = .stopped ∧ e.reason = reason := by
  cases h with
  | explain hw =>
    cases ho'
    exact ⟨rfl, hw, rfl⟩
  | settle o hw | close o hw =>
    rw [hw] at ho
    exact absurd ho' ho
  | arm | join | bury | trip | send | expire | cancel | release => exact absurd ho' ho
  | _ => cases ho'

theorem Evolves.ne_queued (h : e.Evolves e') (hw : e.worker ≠ .queued) : e'.worker ≠ .queued :=
  h.preserves (P := fun x ↦ x.worker ≠ .queued) (fun hm hx ↦ hm.ne_queued hx) hw

theorem Evolves.deadlineHit_mono (h : e.Evolves e') (hn : e.deadlineHit = true) :
    e'.deadlineHit = true :=
  h.preserves (P := fun x ↦ x.deadlineHit = true) (fun hm hx ↦ hm.deadlineHit_mono hx) hn

end Execution

namespace Sandbox

variable {sessions : List Session} {threads : Nat} {s : Sandbox} {acts : List Act} {i : Nat}
  {e : Execution}

/-! ### The moments before -/

/-- A worker that is past the queue was taken at some moment. -/
theorem exists_taken (h : (ofSessions sessions threads).run acts = some s)
    (he : s.executions[i]? = some e) (hw : e.worker ≠ .queued) :
    ∃ before t x, Moment (ofSessions sessions threads) acts i .work before t x ∧
      x.worker = .queued := by
  obtain ⟨m, before, t, x, x', hmoment, hstep, hx, hx', -⟩ :=
    exists_origin (Q := fun e ↦ e.worker ≠ .queued) (fun _ _ _ _ hn ↦ hn rfl) h he hw
  have hqueued : x.worker = .queued := not_not.1 hx
  obtain rfl := hstep.eq_work_of_queued hqueued hx'
  exact ⟨before, t, x, hmoment, hqueued⟩

/-- A timer was set at some moment, after the worker had said that it started, and to the whole
limit from then. -/
theorem exists_armed (h : (ofSessions sessions threads).run acts = some s)
    (he : s.executions[i]? = some e) {due : Nat} (hd : e.watchdog = .armed due) :
    ∃ before t x, Moment (ofSessions sessions threads) acts i .watch before t x ∧
      x.watchdog = .waiting ∧ x.worker.isAnnounced = true ∧
      due = t.world.clock + e.limit.totalNanos := by
  obtain ⟨m, before, t, x, x', hmoment, hstep, hx, hx', hev⟩ :=
    exists_origin (Q := fun e ↦ e.watchdog = .armed due) (fun _ _ _ _ hn ↦ by cases hn) h he hd
  obtain ⟨rfl, hwaiting, hstarted, hdue⟩ := hstep.eq_watch_of_armed hx hx'
  have hlimit : e.limit = x.limit := by
    rw [Execution.limit, hev.session_eq, hstep.session_eq]
    rfl
  exact ⟨before, t, x, hmoment, hwaiting, hstarted, by rw [hlimit]; exact hdue⟩

/-- A noted deadline was noted because the timer fired. -/
theorem exists_expired (h : (ofSessions sessions threads).run acts = some s)
    (he : s.executions[i]? = some e) (hn : e.deadlineHit = true) :
    ∃ before t x, Moment (ofSessions sessions threads) acts i .expire before t x := by
  obtain ⟨m, before, t, x, x', hmoment, hstep, hx, hx', -⟩ :=
    exists_origin (Q := fun e ↦ e.deadlineHit = true) (fun _ _ _ _ hn ↦ by cases hn) h he hn
  obtain rfl := hstep.eq_expire_of_deadlineHit hx hx'
  exact ⟨before, t, x, hmoment⟩

/-- **A request without a note is the host's.** -/
theorem cancel_or_deadlineHit (h : (ofSessions sessions threads).run acts = some s)
    (he : s.executions[i]? = some e) (hs : e.stop = true) :
    .move i .cancel ∈ acts ∨ e.deadlineHit = true := by
  obtain ⟨m, before, t, x, x', hmoment, hstep, hx, hx', hev⟩ :=
    exists_origin (Q := fun e ↦ e.stop = true) (fun _ _ _ _ hn ↦ by cases hn) h he hs
  rcases hstep.cancel_or_tripping hx hx' with rfl | htripping
  · exact .inl hmoment.mem
  · -- The watchdog asked for the stop, and it had noted the deadline when it set out to.
    have hnoted : x.watchdog = .tripping → x.deadlineHit = true :=
      run_establishes (P := fun e ↦ e.watchdog = .tripping → e.deadlineHit = true)
        (fun _ _ _ _ hd ↦ by cases hd) (fun _ _ _ _ hm hn ↦ hm.deadlineHit_of_tripping hn)
        hmoment.reached hmoment.present
    exact .inr (hev.deadlineHit_mono (hstep.deadlineHit_mono (hnoted htripping)))

/-- A worker that saw a request to stop saw it when it judged its result. What was noted then is
still noted. -/
theorem exists_judged (h : (ofSessions sessions threads).run acts = some s)
    (he : s.executions[i]? = some e) (hw : e.worker = .stopped) :
    ∃ before t x f, Moment (ofSessions sessions threads) acts i .work before t x ∧
      x.worker = .judging (.error f) ∧ x.stop = true ∧
      (x.deadlineHit = true → e.deadlineHit = true) := by
  obtain ⟨m, before, t, x, x', hmoment, hstep, hx, hx', hev⟩ :=
    exists_origin (Q := fun e ↦ e.worker = .stopped) (fun _ _ _ _ hn ↦ by cases hn) h he hw
  obtain ⟨rfl, f, hf, hstop⟩ := hstep.judging_of_stopped hx hx'
  exact ⟨before, t, x, f, hmoment, hf, hstop,
    fun hn ↦ hev.deadlineHit_mono (hstep.deadlineHit_mono hn)⟩

/-- The reason that an outcome shows was read at some moment, by a worker that had been stopped. -/
theorem exists_explained (h : (ofSessions sessions threads).run acts = some s)
    (he : s.executions[i]? = some e) {reason : Termination}
    (ho : e.worker.outcome? = some (.terminated reason)) :
    ∃ before t x, Moment (ofSessions sessions threads) acts i .work before t x ∧
      x.worker = .stopped ∧ x.reason = reason ∧ x.limit = e.limit := by
  obtain ⟨m, before, t, x, x', hmoment, hstep, hx, hx', hev⟩ :=
    exists_origin (Q := fun e ↦ e.worker.outcome? = some (.terminated reason))
      (fun _ _ _ _ hn ↦ by cases hn) h he ho
  obtain ⟨rfl, hstopped, hreason⟩ := hstep.stopped_of_terminated hx hx'
  have hlimit : x.limit = e.limit := by
    rw [Execution.limit, ← hstep.session_eq, ← hev.session_eq]
    rfl
  exact ⟨before, t, x, hmoment, hstopped, hreason, hlimit⟩

/-! ### The causes of stops -/

/-- A report that shows a stop is the worker's own. -/
theorem outcome?_of_report? (h : (ofSessions sessions threads).run acts = some s)
    (he : s.executions[i]? = some e) {r : Report} (hr : s.report? i = some r)
    {reason : Termination} (ho : r.outcome = .terminated reason) :
    e.worker.outcome? = some (.terminated reason) := by
  simp only [report?, he] at hr
  cases hsent : e.sent.head? with
  | some r' =>
    simp only [hsent, Option.some.injEq] at hr
    have hmem : r ∈ e.sent := List.mem_of_head? (hr ▸ hsent)
    exact Execution.outcome?_of_endReport? ((coherent_of_run h he).endReport?_of_mem_sent hmem) ho
  | none =>
    simp only [hsent] at hr
    split at hr
    · cases hr
    · rw [← Option.some.inj hr] at ho
      cases ho

/-- What justifies that an execution was stopped, or that it was not, in a run that leads to it. -/
structure StopsJustified (s₀ : Sandbox) (acts : List Act) (i : Nat) (s : Sandbox)
    (e : Execution) : Prop where
  /-- A stop reported as the host's was asked for by the host before the worker judged its
  result. -/
  cancelled : ∀ r, s.report? i = some r → r.outcome = .terminated .cancelled →
    ∃ before t x f, Moment s₀ acts i .work before t x ∧ x.worker = .judging (.error f) ∧
      .move i .cancel ∈ before
  /-- A stop reported as a deadline's shows the limit of the session that was asked for, and the
  timer of the execution had fired before the worker read the reason. -/
  deadline : ∀ r limit, s.report? i = some r → r.outcome = .terminated (.deadline limit) →
    AskedFor s₀ acts i e ∧ limit = e.session.parts.config.maxRuntime ∧
      ∃ before t x, Moment s₀ acts i .work before t x ∧ x.worker = .stopped ∧
        .move i .expire ∈ before
  /-- A timer fires only if it was set after the worker had said that it started, which it says
  after it was taken from the queue; and not before the whole limit has passed since then. -/
  fired : ∀ before t x, Moment s₀ acts i .expire before t x → x.state ≠ .pending ∧
    ∃ armed u y taken v z,
      Moment s₀ before i .watch armed u y ∧ y.watchdog = .waiting ∧
        y.worker.isAnnounced = true ∧
      Moment s₀ armed i .work taken v z ∧ z.worker = .queued ∧ z.state = .pending ∧
      v.world.clock ≤ u.world.clock ∧
      u.world.clock + e.session.parts.config.maxRuntime.totalNanos ≤ t.world.clock
  /-- An execution that waits for a thread is not stopped for its deadline. -/
  pending : e.state = .pending → e.deadlineHit = false
  /-- An execution that the host did not cancel, and whose timer did not fire, is not stopped. -/
  untouched : .move i .cancel ∉ acts → .move i .expire ∉ acts →
    e.state ≠ .forciblyTerminated ∧
      ∀ r, s.report? i = some r → r.outcome.state ≠ .forciblyTerminated
  /-- What is reported was judged at some moment. -/
  judged : ∀ r ∈ e.sent, ∃ before t x result, Moment s₀ acts i .work before t x ∧
    x.worker = .judging result
  /-- A stop is reported exactly if the script had been stopped and that had been asked for when
  its result was judged; any other result counts for itself, whatever has been asked for. -/
  classified : ∀ before t x result, Moment s₀ acts i .work before t x →
    x.worker = .judging result → ∀ r ∈ e.sent,
      (r.outcome.state = .forciblyTerminated ↔
        ∃ err, result = .error (.runtime err) ∧ err.isTermination = true ∧ x.stop = true) ∧
      (∀ v, result = .ok v → r.outcome = .completed v) ∧
      (∀ f, result = .error f → ¬ (f.isTermination = true ∧ x.stop = true) →
        r.outcome.state = .failed)

section

variable (h : (ofSessions sessions threads).run acts = some s) (he : s.executions[i]? = some e)

include h he

/-- The reason read was the host's, so no deadline was noted, then or when the result was judged. -/
theorem exists_cancel (ho : e.worker.outcome? = some (.terminated .cancelled)) :
    ∃ before t x f, Moment (ofSessions sessions threads) acts i .work before t x ∧
      x.worker = .judging (.error f) ∧ .move i .cancel ∈ before := by
  obtain ⟨before, t, x, hmoment, hstopped, hreason, -⟩ := exists_explained h he ho
  have hnot : x.deadlineHit ≠ true := fun hn ↦ by
    rw [Execution.reason, hn] at hreason
    cases hreason
  obtain ⟨before', t', y, f, hmoment', hf, hstop, hnoted⟩ :=
    exists_judged hmoment.reached hmoment.present hstopped
  refine ⟨before', t', y, f, hmoment.trans hmoment', hf, ?_⟩
  rcases cancel_or_deadlineHit hmoment'.reached hmoment'.present hstop with hcancel | hn
  · exact hcancel
  · exact absurd (hnoted hn) hnot

/-- The reason read was a deadline, so one was noted. -/
theorem exists_expire {limit : Span}
    (ho : e.worker.outcome? = some (.terminated (.deadline limit))) :
    limit = e.limit ∧
      ∃ before t x, Moment (ofSessions sessions threads) acts i .work before t x ∧
        x.worker = .stopped ∧ .move i .expire ∈ before := by
  obtain ⟨before, t, x, hmoment, hstopped, hreason, hlimit⟩ := exists_explained h he ho
  rw [Execution.reason] at hreason
  split at hreason
  · next hn =>
    obtain ⟨before', t', y, hfired⟩ := exists_expired hmoment.reached hmoment.present hn
    rw [hlimit] at hreason
    cases hreason
    exact ⟨rfl, before, t, x, hmoment, hstopped, hfired.mem⟩
  · cases hreason

/-- Whatever the reason, one of the two happened. -/
theorem cancel_or_expire {reason : Termination}
    (ho : e.worker.outcome? = some (.terminated reason)) :
    .move i .cancel ∈ acts ∨ .move i .expire ∈ acts := by
  cases reason with
  | cancelled =>
    obtain ⟨before, t, x, f, hmoment, -, hcancel⟩ := exists_cancel h he ho
    exact .inl (hmoment.subset hcancel)
  | deadline limit =>
    obtain ⟨-, before, t, x, hmoment, -, hexpire⟩ := exists_expire h he ho
    exact .inr (hmoment.subset hexpire)

/-- A timer fires on what it was set to. -/
theorem exists_set {before : List Act} {t : Sandbox} {x : Execution}
    (hfired : Moment (ofSessions sessions threads) acts i .expire before t x) :
    ∃ armed u y, Moment (ofSessions sessions threads) before i .watch armed u y ∧
      y.watchdog = .waiting ∧ y.worker.isAnnounced = true ∧
      u.world.clock + e.limit.totalNanos ≤ t.world.clock := by
  obtain ⟨x', hstep, -⟩ := hfired.exists_step h he
  obtain ⟨due, hd, hdue⟩ := hstep.armed_of_expire
  obtain ⟨armed, u, y, hset, hwaiting, hstarted, rfl⟩ :=
    exists_armed hfired.reached hfired.present hd
  have hlimit : e.limit = x.limit := by
    rw [Execution.limit, (hfired.evolves h he).session_eq]
    rfl
  exact ⟨armed, u, y, hset, hwaiting, hstarted, by rw [hlimit]; exact hdue⟩

/-- When a timer fires its execution has left the queue. -/
theorem ne_queued_of_expire {before : List Act} {t : Sandbox} {x : Execution}
    (hfired : Moment (ofSessions sessions threads) acts i .expire before t x) :
    x.worker ≠ .queued := by
  obtain ⟨armed, u, y, hset, -, hstarted, -⟩ := exists_set h he hfired
  refine (hset.evolves hfired.reached hfired.present).ne_queued fun hw ↦ ?_
  rw [hw] at hstarted
  cases hstarted

end

/-- **The reasons of stops are the true ones**, in every run from the beginning and for every
execution in it, whatever the other executions do. -/
theorem stops_justified (h : (ofSessions sessions threads).run acts = some s)
    (he : s.executions[i]? = some e) :
    StopsJustified (ofSessions sessions threads) acts i s e where
  cancelled r hr ho := exists_cancel h he (outcome?_of_report? h he hr ho)
  deadline r limit hr ho :=
    ⟨askedFor_of_run h he, exists_expire h he (outcome?_of_report? h he hr ho)⟩
  fired before t x hfired := by
    have hleft := ne_queued_of_expire h he hfired
    have hc := coherent_of_run hfired.reached hfired.present
    obtain ⟨armed, u, y, hset, hwaiting, hstarted, hdue⟩ := exists_set h he hfired
    have hpast : y.worker ≠ .queued := fun hw ↦ by rw [hw] at hstarted; cases hstarted
    obtain ⟨taken, v, z, htaken, hqueued⟩ := exists_taken hset.reached hset.present hpast
    have hpending : z.state = .pending :=
      (coherent_of_run htaken.reached htaken.present).state_eq_pending_iff.2 hqueued
    exact ⟨fun hp ↦ hleft (hc.state_eq_pending_iff.1 hp), armed, u, y, taken, v, z, hset,
      hwaiting, hstarted, htaken, hqueued, hpending, htaken.clock_le hset.reached, hdue⟩
  pending hp := by
    have hqueued := (coherent_of_run h he).state_eq_pending_iff.1 hp
    refine Bool.eq_false_iff.2 fun hn ↦ ?_
    obtain ⟨before, t, x, hfired⟩ := exists_expired h he hn
    exact (hfired.evolves h he).ne_queued (ne_queued_of_expire h he hfired) hqueued
  untouched hcancel hexpire := by
    have hnone {reason : Termination} : e.worker.outcome? ≠ some (.terminated reason) := fun ho ↦ by
      rcases cancel_or_expire h he ho with hmem | hmem
      · exact hcancel hmem
      · exact hexpire hmem
    refine ⟨fun hs ↦ ?_, fun r hr hs ↦ ?_⟩
    · rcases (coherent_of_run h he).outcome?_or_crashed (by rw [hs]; rfl) with
        ⟨o, ho, hstate⟩ | ⟨message, -, hstate⟩
      · obtain ⟨reason, rfl⟩ := Outcome.state_eq_forciblyTerminated_iff.1 (hstate.trans hs)
        exact hnone ho
      · rw [hs] at hstate
        cases hstate
    · obtain ⟨reason, ho⟩ := Outcome.state_eq_forciblyTerminated_iff.1 hs
      exact hnone (outcome?_of_report? h he hr ho)
  judged r hr := by
    have hc := coherent_of_run h he
    obtain ⟨v, hv⟩ := (accounted_of_run h he).exists_verdict?
      (Execution.isDone_of_endReport? (hc.endReport?_of_mem_sent hr))
    exact exists_verdict h he hv
  classified before t x result hmoment hx r hr := by
    have hr' := (coherent_of_run h he).endReport?_of_mem_sent hr
    have hv := verdict?_of_moment h he hmoment hx
    rcases Execution.verdict_of_endReport? hr' hv with hshown | ⟨f, message, hf, -, ho⟩
    · refine ⟨?_, fun v hres ↦ ?_, fun f hres hown ↦ ?_⟩
      · rw [← Outcome.verdict_eq_stop_iff, hshown, Verdict.on_eq_stop_iff]
      · rw [hres] at hshown
        exact Outcome.eq_completed_of_verdict hshown
      · rw [hres, Verdict.on_eq_failure hown] at hshown
        rw [Outcome.eq_failed_of_verdict hshown]
        rfl
    -- The worker broke down in its callback, so its verdict was a failure.
    · refine ⟨?_, fun v hres ↦ ?_, fun _ _ _ ↦ ?_⟩
      · rw [← Verdict.on_eq_stop_iff, hf, ho]
        exact iff_of_false (fun h ↦ by cases h) (fun h ↦ by cases h)
      · rw [hres] at hf
        cases hf
      · rw [ho]
        rfl

/-- Two executions of a script that asks once whether it is to stop: the host cancels the first, and
the timer of the second fires. -/
def cancelAndDeadline : List Act :=
  [.start 0 none, .start 0 none, .move 0 .work, .move 0 .work, .move 0 .work, .move 0 .cancel,
    .move 1 .work, .move 1 .work, .move 1 .watch, .move 1 .work, .passTo 3000000000,
    .move 1 .expire, .move 1 .watch, .move 0 .work, .move 0 .work, .move 0 .work, .move 0 .work,
    .move 0 .work, .move 0 .work, .move 1 .work, .move 1 .work, .move 1 .work, .move 1 .work,
    .move 1 .work, .move 1 .work, .move 0 .watch, .move 0 .watch, .move 1 .watch, .move 1 .watch]

/-- Each of two executions stopped at the same time has its own reason, and its own cause. -/
theorem stops_justified_cancelAndDeadline :
    ∃ s, (ofSessions [Builder.empty.build "1"] 2).run cancelAndDeadline = some s ∧
      (∃ r before t x f, s.report? 0 = some r ∧ r.outcome = .terminated .cancelled ∧
        Moment (ofSessions [Builder.empty.build "1"] 2) cancelAndDeadline 0 .work before t x ∧
        x.worker = .judging (.error f) ∧ .move 0 .cancel ∈ before) ∧
      ∃ r before t x, s.report? 1 = some r ∧
        r.outcome = .terminated (.deadline Config.defaultMaxRuntime) ∧
        Moment (ofSessions [Builder.empty.build "1"] 2) cancelAndDeadline 1 .work before t x ∧
        x.worker = .stopped ∧ .move 1 .expire ∈ before := by
  have hreport {s : Sandbox} {i : Nat} {e : Execution} {reason : Termination}
      (he : s.executions[i]? = some e)
      (hp : (e.sent.head?.any fun r : Report ↦
        decide (r.outcome.termination? = some reason)) = true) :
      ∃ r, s.report? i = some r ∧ r.outcome = .terminated reason := by
    obtain ⟨r, hr, ho⟩ := (Option.any_eq_true _ _).1 hp
    exact ⟨r, by simp only [report?, he, hr],
      Outcome.eq_terminated_of_termination? (of_decide_eq_true ho)⟩
  obtain ⟨s, e, hrun, he, hp⟩ :=
    exists_run_of_any (ofSessions [Builder.empty.build "1"] 2) cancelAndDeadline 0
      (fun e ↦ e.sent.head?.any fun r : Report ↦ decide (r.outcome.termination? = some .cancelled))
      (by decide +kernel)
  obtain ⟨s', e', hrun', he', hp'⟩ :=
    exists_run_of_any (ofSessions [Builder.empty.build "1"] 2) cancelAndDeadline 1
      (fun e ↦ e.sent.head?.any fun r : Report ↦
        decide (r.outcome.termination? = some (.deadline Config.defaultMaxRuntime)))
      (by decide +kernel)
  obtain rfl : s = s' := by rw [hrun] at hrun'; exact Option.some.inj hrun'
  obtain ⟨r, hr, ho⟩ := hreport he hp
  obtain ⟨r', hr', ho'⟩ := hreport he' hp'
  obtain ⟨before, t, x, f, hmoment, hf, hcancel⟩ := (stops_justified hrun he).cancelled r hr ho
  obtain ⟨-, -, before', t', x', hmoment', hw, hexpire⟩ :=
    (stops_justified hrun' he').deadline r' _ hr' ho'
  exact ⟨s, hrun, ⟨r, before, t, x, f, hr, ho, hmoment, hf, hcancel⟩,
    r', before', t', x', hr', ho', hmoment', hw, hexpire⟩

end Sandbox

end ScriptSandbox

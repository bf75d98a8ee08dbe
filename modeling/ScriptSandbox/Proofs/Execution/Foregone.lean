import ScriptSandbox.Proofs.Execution.Prospect

/-!
# Executions whose result is there before they run

A session whose evaluation is a result, and no run of a script, leaves its executions nothing to
ask: there is only one thing for the worker to judge (`Foregone`), and every step keeps that. So no
move is about a request, nothing is printed, and the cells and the outbox stay as they are
(`Foregone.keeps`).

Such a worker is never held up. It can always make its next move, at the gate or not, and each move
brings it closer to its end (`Foregone.exists_work`). Where the result is a failure that is not a
stop, and the error callback returns from it, a stop that was asked for makes no difference: the
failure is called in and reported (`Foregone.outcome_of_endReport?`, `Foregone.called_eq`).
-/

namespace ScriptSandbox

open Script

/-- How many moves a worker can make at most, from the beginning of its evaluation on without those
by which requests are answered. -/
def Worker.remaining : Worker → Nat
  | queued => 8
  | taken => 7
  | started => 6
  | evaluating _ _ => 5
  | judging _ => 4
  | stopped | failing _ => 3
  | settling _ => 2
  | closing _ => 1
  | finished _ | crashed _ => 0

namespace Execution

variable {w w' : World} {e e' : Execution} {m : Move} {result : Except Failure Slot} {f : Failure}

/-- Whatever is evaluated and judged is the one result, and nothing has been printed. -/
structure Foregone (result : Except Failure Slot) (e : Execution) : Prop where
  /-- There is no run but the result. -/
  evaluating : ∀ run ticket, e.worker = .evaluating run ticket → run = .done result
  /-- Nothing else is judged. -/
  judging : ∀ r, e.worker = .judging r → r = result
  /-- Nothing else was judged. -/
  verdict : ∀ v, e.verdict? = some v → ∃ stop, v = .on stop result
  /-- Nothing was printed. -/
  logs : e.logs = #[]

theorem foregone_queue (result : Except Failure Slot) (id : Nat) (session : Session) (site : Nat)
    (callback : Option Callback) : Foregone result (queue id session site callback) where
  evaluating _ _ hw := by cases hw
  judging _ hw := by cases hw
  verdict _ hv := by cases hv
  logs := rfl

/-- A worker that evaluates nothing but a result has nothing to ask. -/
theorem Foregone.asking?_eq_none (h : Foregone result e) (m : Move) : e.asking? m = none := by
  cases m with
  | work =>
    cases hw : e.worker with
    | evaluating run ticket =>
      obtain rfl := h.evaluating run ticket hw
      simp only [asking?, hw]
    | _ => simp only [asking?, hw]
  | _ => rfl

/-- **Every step keeps to the result.** -/
theorem Step.foregone (h : Step w e m e') (hrun : e.session.evaluation.run = .done result)
    (hf : Foregone result e) : Foregone result e' := by
  have hverdict (v : Verdict) (hv : e'.verdict? = some v) : ∃ stop, v = .on stop result := by
    rcases h.verdict?_or_judging hv with hv | ⟨r, hr, rfl⟩
    · exact hf.verdict v hv
    · obtain rfl := hf.judging r hr
      exact ⟨e.stop, rfl⟩
  cases h with
  | enter =>
    refine ⟨fun run ticket hw' ↦ ?_, fun _ hw' ↦ (by cases hw'), hverdict, hf.logs⟩
    cases hw'
    exact hrun
  | arrive go hw => cases hf.evaluating _ _ hw
  | proceed q go ticket hw => cases hf.evaluating _ _ hw
  | conclude r ticket hw =>
    refine ⟨fun _ _ hw' ↦ (by cases hw'), fun r' hw' ↦ ?_, hverdict, hf.logs⟩
    cases hw'
    exact Run.done.inj (hf.evaluating _ _ hw)
  | take | announce | accept | yield | blame | explain | pass | report | crash | settle | close =>
    exact ⟨fun _ _ hw' ↦ (by cases hw'), fun _ hw' ↦ (by cases hw'), hverdict, hf.logs⟩
  | arm | join | bury | trip | send | expire | cancel | release =>
    exact ⟨hf.evaluating, hf.judging, hverdict, hf.logs⟩

/-- **No move touches the cells or the outbox.** -/
theorem Foregone.keeps (hf : Foregone result e) (h : step m w e = some (w', e')) : Keeps w w' := by
  have hkeeps := keeps_of_step h
  rwa [hf.asking?_eq_none m] at hkeeps

/-! ### Its end -/

/-- Each move of the worker is one of those that remained. -/
theorem Step.remaining_lt (h : Step w e .work e') (hf : Foregone result e) :
    e'.worker.remaining < e.worker.remaining := by
  cases h with
  | arrive go hw => cases hf.evaluating _ _ hw
  | proceed q go ticket hw => cases hf.evaluating _ _ hw
  | take hw | announce hw | enter hw | conclude _ _ hw | accept _ hw | yield _ hw | blame _ hw
  | explain hw | pass _ hw | report _ _ hw | crash _ _ _ hw | settle _ hw | close _ hw =>
    simp [hw, Worker.remaining]

/-- A worker that moves has left the queue. -/
theorem Step.ne_queued_of_work (h : Step w e .work e') : e'.worker ≠ .queued := by
  cases h <;> exact fun hw ↦ by cases hw

/-- **The worker can go on until it has ended.** -/
theorem Foregone.exists_work (hf : Foregone result e) (hend : e.worker.isDone = false)
    (w : World) : ∃ w' e', e.work w = some (w', e') := by
  unfold work
  cases hw : e.worker with
  | evaluating run ticket =>
    obtain rfl := hf.evaluating run ticket hw
    exact ⟨_, _, rfl⟩
  | finished r | crashed message =>
    rw [hw] at hend
    cases hend
  | _ => exact ⟨_, _, rfl⟩

/-- The verdict on a failure that is not a stop is that failure, whatever was asked for. -/
theorem Foregone.verdict?_eq (hf : Foregone (.error f) e) (hown : f.isTermination = false)
    {v : Verdict} (hv : e.verdict? = some v) : v = .failure f := by
  obtain ⟨stop, rfl⟩ := hf.verdict v hv
  exact Verdict.on_eq_failure fun hstop ↦ Bool.false_ne_true (hown.symm.trans hstop.1)

/-- The error callback is called with the failure. -/
theorem Foregone.called_eq (hf : Foregone (.error f) e) (ha : e.Accounted)
    (hown : f.isTermination = false) (hend : e.worker.isDone = true) :
    e.called = e.callback.toList.map fun _ ↦ f := by
  obtain ⟨v, hv⟩ := ha.exists_verdict? hend
  obtain rfl := hf.verdict?_eq hown hv
  exact ha.called_eq hend hv

/-- A worker does not break down in a callback that returns. -/
theorem Foregone.worker_ne_crashed (hf : Foregone (.error f) e) (ha : e.Accounted)
    (hown : f.isTermination = false)
    (hcallback : ∀ callback, e.callback = some callback → callback f = .returns)
    (message : String) : e.worker ≠ .crashed message := by
  intro hw
  obtain ⟨f', callback, p, hcalled, hsome, hpanics, -⟩ := ha.crashed message hw
  have howed := hf.called_eq ha hown (by rw [hw]; rfl)
  rw [hcalled, hsome] at howed
  obtain rfl : f' = f := List.singleton_inj.1 howed
  rw [hcallback callback hsome] at hpanics
  cases hpanics

/-- **What is reported is the failure, and nothing that was printed.** -/
theorem Foregone.outcome_of_endReport? (hf : Foregone (.error f) e) (ha : e.Accounted)
    (hp : e.Prints) (hown : f.isTermination = false)
    (hcallback : ∀ callback, e.callback = some callback → callback f = .returns) {r : Report}
    (hr : e.endReport? = some r) : r.outcome = .failed f ∧ r.logs = [] := by
  unfold endReport? at hr
  split at hr
  · next r' hw =>
    obtain rfl := Option.some.inj hr
    have hv := verdict?_of_outcome? (e := e) (o := r'.outcome) (by rw [hw]; rfl)
    refine ⟨Outcome.eq_failed_of_verdict (hf.verdict?_eq hown hv), ?_⟩
    rw [hp.report r' hw, hf.logs]
  · next message hw => exact absurd hw (hf.worker_ne_crashed ha hown hcallback message)
  · cases hr

/-- The end that the lifecycle shows is a failure. -/
theorem Foregone.state_eq (hf : Foregone (.error f) e) (hc : e.Coherent)
    (hown : f.isTermination = false) (hs : e.state.isTerminal = true) : e.state = .failed := by
  rcases hc.outcome?_or_crashed hs with ⟨o, ho, hstate⟩ | ⟨message, -, hstate⟩
  · have hverdict := hf.verdict?_eq hown (verdict?_of_outcome? ho)
    rw [← hstate, Outcome.eq_failed_of_verdict hverdict]
    rfl
  · exact hstate

end Execution

end ScriptSandbox

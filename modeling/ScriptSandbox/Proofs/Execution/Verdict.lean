import ScriptSandbox.Proofs.Execution.Control

/-!
# What a worker makes of its result

A worker judges the result of its evaluation once. What it makes of it, its **verdict**, depends on
the result and on whether a stop was asked for at that moment (`Verdict.on`), and on nothing that
comes later: the verdict can be read off the execution from then on (`Execution.verdict?`), and no
step changes it (`Step.verdict?_eq`).

The verdict in turn fixes what is reported, up to the breakdown of an error callback
(`verdict_of_endReport?`), and which calls of the error callback are owed (`Verdict.calls`). The
calls made are never more than those, and all of them once the worker has ended (`Accounted`).
-/

namespace ScriptSandbox

open Script

/-- What a worker makes of a result. -/
inductive Verdict where
  /-- The script has a value. -/
  | value (v : Slot)
  /-- The script failed, and it is the script's own failure. -/
  | failure (f : Failure)
  /-- The script was stopped on request. -/
  | stop

namespace Verdict

/-- The verdict on a result, given whether a stop has been asked for. -/
def on (stop : Bool) : Except Failure Slot → Verdict
  | .ok v => .value v
  | .error f => if f.isTermination && stop then .stop else .failure f

/-- The failures that an error callback is called with. -/
def calls (callback : Option Callback) : Verdict → List Failure
  | failure f => callback.toList.map fun _ ↦ f
  | _ => []

/-- Only a script that had been stopped counts as stopped, and only if that had been asked for. -/
theorem on_eq_stop_iff {stop : Bool} {result : Except Failure Slot} :
    on stop result = .stop ↔
      ∃ err, result = .error (.runtime err) ∧ err.isTermination = true ∧ stop = true := by
  rcases result with f | v
  · cases f <;> simp [on, Failure.isTermination]
  · simp [on]

theorem on_eq_failure {stop : Bool} {f : Failure} (h : ¬ (f.isTermination = true ∧ stop = true)) :
    on stop (.error f) = .failure f := by
  rw [on, if_neg (by rwa [Bool.and_eq_true])]

theorem length_calls_le (callback : Option Callback) (v : Verdict) :
    (v.calls callback).length ≤ 1 := by
  cases v with
  | failure f => cases callback <;> simp [calls]
  | _ => exact Nat.zero_le _

theorem eq_failure_of_mem_calls {callback : Option Callback} {v : Verdict} {f : Failure}
    (h : f ∈ v.calls callback) : v = .failure f := by
  cases v with
  | failure f' =>
    obtain ⟨-, -, rfl⟩ := List.mem_map.1 h
    rfl
  | _ => cases h

theorem calls_none (v : Verdict) : v.calls none = [] := by
  cases v <;> rfl

end Verdict

/-- The verdict that an outcome shows. -/
def Outcome.verdict : Outcome → Verdict
  | completed v => .value v
  | failed f => .failure f
  | terminated _ => .stop

namespace Outcome

theorem state_eq_forciblyTerminated_iff {o : Outcome} :
    o.state = .forciblyTerminated ↔ ∃ reason, o = .terminated reason := by
  cases o with
  | terminated reason => exact iff_of_true rfl ⟨reason, rfl⟩
  | _ => exact iff_of_false (fun h ↦ by cases h) (fun ⟨_, h⟩ ↦ by cases h)

theorem exists_of_state_eq_failed {o : Outcome} (h : o.state = .failed) : ∃ f, o = .failed f := by
  cases o with
  | failed f => exact ⟨f, rfl⟩
  | _ => cases h

theorem eq_terminated_of_termination? {o : Outcome} {reason : Termination}
    (h : o.termination? = some reason) : o = .terminated reason := by
  cases o <;> cases h
  rfl

theorem verdict_eq_stop_iff {o : Outcome} : o.verdict = .stop ↔ o.state = .forciblyTerminated := by
  cases o with
  | terminated reason => exact iff_of_true rfl rfl
  | _ => exact iff_of_false (fun h ↦ by cases h) (fun h ↦ by cases h)

theorem eq_completed_of_verdict {o : Outcome} {v : Slot} (h : o.verdict = .value v) :
    o = .completed v := by
  cases o <;> cases h
  rfl

theorem eq_failed_of_verdict {o : Outcome} {f : Failure} (h : o.verdict = .failure f) :
    o = .failed f := by
  cases o <;> cases h
  rfl

end Outcome

/-- The outcome that a worker has come to. A worker that broke down has none. -/
def Worker.outcome? : Worker → Option Outcome
  | settling o | closing o => some o
  | finished r => some r.outcome
  | _ => none

namespace Execution

variable {w : World} {e e' : Execution} {m : Move}

/-- What the worker has made of its result, once it has judged it. -/
def verdict? (e : Execution) : Option Verdict :=
  match e.worker with
  | .stopped => some .stop
  | .failing f => some (.failure f)
  | .settling o | .closing o => some o.verdict
  | .finished r => some r.outcome.verdict
  | .crashed _ => e.called.getLast?.map .failure
  | _ => none

/-- The step that judges a result gives the verdict on it. -/
theorem Step.verdict?_of_judging (h : Step w e .work e') {result : Except Failure Slot}
    (hw : e.worker = .judging result) : e'.verdict? = some (.on e.stop result) := by
  cases h with
  | accept v hv =>
    obtain rfl : result = .ok v := by rw [hw] at hv; cases hv; rfl
    rfl
  | yield f hf hterm hstop =>
    obtain rfl : result = .error f := by rw [hw] at hf; cases hf; rfl
    simp only [Verdict.on, hterm, hstop, Bool.and_self, if_true]
    rfl
  | blame f hf hown =>
    obtain rfl : result = .error f := by rw [hw] at hf; cases hf; rfl
    simp only [Verdict.on, Bool.and_eq_true, if_neg hown]
    rfl
  | _ => simp_all only [reduceCtorEq]

/-- A verdict is given on a result that is being judged. -/
theorem Step.judging_of_verdict? (h : Step w e m e') {v : Verdict} (hn : e.verdict? ≠ some v)
    (hv : e'.verdict? = some v) : m = .work ∧ ∃ result, e.worker = .judging result := by
  cases h with
  | accept v hw => exact ⟨rfl, _, hw⟩
  | yield f hw | blame f hw => exact ⟨rfl, _, hw⟩
  | explain hw | pass _ hw | report _ _ hw | settle _ hw | close _ hw =>
    rw [verdict?, hw] at hn
    exact absurd hv hn
  | crash f _ _ hw =>
    rw [verdict?, hw] at hn
    simp only [verdict?, List.getLast?_concat] at hv
    exact absurd hv hn
  | take | announce | enter | arrive | proceed | conclude => cases hv
  | _ => exact absurd hv hn

/-- A verdict after a step was there before, or is the one on the result that the step judges. -/
theorem Step.verdict?_or_judging (h : Step w e m e') {v : Verdict} (hv : e'.verdict? = some v) :
    e.verdict? = some v ∨ ∃ result, e.worker = .judging result ∧ v = .on e.stop result := by
  by_cases hn : e.verdict? = some v
  · exact .inl hn
  · obtain ⟨rfl, result, hresult⟩ := h.judging_of_verdict? hn hv
    rw [h.verdict?_of_judging hresult] at hv
    exact .inr ⟨result, hresult, (Option.some.inj hv).symm⟩

/-- **A verdict stands.** No step changes it. -/
theorem Step.verdict?_eq (h : Step w e m e') {v : Verdict} (hv : e.verdict? = some v) :
    e'.verdict? = some v := by
  cases h with
  | explain hw | pass _ hw _ | report _ _ hw _ _ | settle _ hw | close _ hw =>
    rw [verdict?, hw] at hv
    exact hv
  | crash f callback p hw hcallback hreply =>
    -- The worker has lost its failure, but its last call still shows it.
    rw [verdict?, hw] at hv
    simp only [verdict?, List.getLast?_concat]
    exact hv
  | take hw | announce hw | enter hw | arrive _ hw | proceed _ _ _ hw | conclude _ _ hw
  | accept _ hw | yield _ hw _ _ | blame _ hw _ =>
    rw [verdict?, hw] at hv
    cases hv
  | _ => exact hv

theorem Evolves.verdict?_eq (h : e.Evolves e') {v : Verdict} (hv : e.verdict? = some v) :
    e'.verdict? = some v :=
  h.preserves (P := fun x ↦ x.verdict? = some v) (fun hm hx ↦ hm.verdict?_eq hx) hv

theorem verdict?_of_outcome? {o : Outcome} (h : e.worker.outcome? = some o) :
    e.verdict? = some o.verdict := by
  unfold verdict?
  cases hw : e.worker <;> rw [hw] at h <;> cases h <;> rfl

/-- A report that shows a stop is the worker's own. -/
theorem outcome?_of_endReport? {r : Report} (hr : e.endReport? = some r) {reason : Termination}
    (ho : r.outcome = .terminated reason) : e.worker.outcome? = some (.terminated reason) := by
  unfold endReport? at hr
  split at hr
  · next hw =>
    rw [hw, ← ho, Option.some.inj hr]
    rfl
  · rw [← Option.some.inj hr] at ho
    cases ho
  · cases hr

/-- A lifecycle at its end shows the outcome of the worker, or that the worker broke down. -/
theorem Coherent.outcome?_or_crashed (hc : Coherent e) (hs : e.state.isTerminal = true) :
    (∃ o, e.worker.outcome? = some o ∧ o.state = e.state) ∨
      ∃ message, e.worker = .crashed message ∧ e.state = .failed := by
  have hshown := hc.state_eq
  cases hw : e.worker with
  | closing o =>
    rw [hw] at hshown
    exact .inl ⟨o, rfl, hshown.symm⟩
  | finished r =>
    rw [hw] at hshown
    exact .inl ⟨r.outcome, rfl, hshown.symm⟩
  | crashed message =>
    rw [hw, Worker.shows] at hshown
    split at hshown
    · exact .inr ⟨message, rfl, hshown⟩
    · rw [hshown] at hs
      cases hs
  | _ =>
    rw [hw] at hshown
    rw [hshown] at hs
    cases hs

/-- The report on a worker's end says what its verdict was, unless it broke down in the callback
for its failure. -/
theorem verdict_of_endReport? {r : Report} (hr : e.endReport? = some r) {v : Verdict}
    (hv : e.verdict? = some v) :
    r.outcome.verdict = v ∨
      ∃ f message, v = .failure f ∧ e.worker = .crashed message ∧
        r.outcome = .failed (.panicked message) := by
  unfold endReport? at hr
  unfold verdict? at hv
  split at hr
  · next hw =>
    rw [hw] at hv
    left
    rw [← Option.some.inj hr]
    exact Option.some.inj hv
  · next message hw =>
    rw [hw] at hv
    obtain ⟨f, -, rfl⟩ := Option.map_eq_some_iff.1 hv
    exact .inr ⟨f, message, rfl, hw, congrArg Report.outcome (Option.some.inj hr).symm⟩
  · cases hr

/-! ### The calls of the error callback -/

/-- The calls made are the ones owed. -/
structure Accounted (e : Execution) : Prop where
  /-- As long as a worker has not come past its callback, there was no call. -/
  early : e.worker.outcome? = none → e.worker.isDone = false → e.called = []
  /-- A worker that came past it made the calls that its verdict asks for. -/
  settled : ∀ o, e.worker.outcome? = some o → e.called = o.verdict.calls e.callback
  /-- It came past it because the callback returned. -/
  returned : ∀ f callback, e.worker.outcome? = some (.failed f) → e.callback = some callback →
    callback f = .returns
  /-- A worker that broke down did so in its one call. -/
  crashed : ∀ message, e.worker = .crashed message → ∃ f callback p, e.called = [f] ∧
    e.callback = some callback ∧ callback f = .panics p ∧ message = panicText p

theorem accounted_queue (id : Nat) (session : Session) (site : Nat) (callback : Option Callback) :
    Accounted (queue id session site callback) where
  early _ _ := rfl
  settled _ h := by cases h
  returned _ _ h := by cases h
  crashed _ h := by cases h

/-- Nothing has to be shown of steps on which the worker has no outcome yet. -/
theorem Accounted.of_early (ha : Accounted e) (h : e.worker.outcome? = none)
    (hdone : e.worker.isDone = false) (hcalled : e'.called = e.called)
    (h' : e'.worker.outcome? = none) (hdone' : e'.worker.isDone = false) : Accounted e' where
  early _ _ := hcalled.trans (ha.early h hdone)
  settled o ho := by rw [h'] at ho; cases ho
  returned f callback ho := by rw [h'] at ho; cases ho
  crashed message hw := by rw [hw] at hdone'; cases hdone'

/-- Steps that leave the outcome of the worker alone keep the account. -/
theorem Accounted.of_outcome? (ha : Accounted e) (hcalled : e'.called = e.called)
    (hcallback : e'.callback = e.callback) {o : Outcome} (h : e.worker.outcome? = some o)
    (h' : e'.worker.outcome? = some o) : Accounted e' where
  early hn := by rw [h'] at hn; cases hn
  settled o' ho' := by
    rw [h'] at ho'
    rw [hcalled, hcallback, ← Option.some.inj ho']
    exact ha.settled o h
  returned f callback ho' hc := by
    rw [h'] at ho'
    exact ha.returned f callback (h.trans ho') (hcallback ▸ hc)
  crashed message hw := by rw [hw] at h'; cases h'

/-- **The account is kept.** -/
theorem Step.accounted (h : Step w e m e') (ha : Accounted e) : Accounted e' := by
  cases h with
  | take hw | announce hw | enter hw | arrive _ hw | proceed _ _ _ hw | conclude _ _ hw
  | yield _ hw | blame _ hw =>
    exact ha.of_early (by rw [hw]; rfl) (by rw [hw]; rfl) rfl rfl rfl
  | accept v hw =>
    have hcalled : e.called = [] := ha.early (by rw [hw]; rfl) (by rw [hw]; rfl)
    exact ⟨fun hn ↦ (by cases hn), fun o ho ↦ (by cases ho; exact hcalled),
      fun _ _ ho ↦ (by cases ho), fun _ hc ↦ (by cases hc)⟩
  | explain hw =>
    have hcalled : e.called = [] := ha.early (by rw [hw]; rfl) (by rw [hw]; rfl)
    exact ⟨fun hn ↦ (by cases hn), fun o ho ↦ (by cases ho; exact hcalled),
      fun _ _ ho ↦ (by cases ho), fun _ hc ↦ (by cases hc)⟩
  | pass f hw hcallback =>
    have hcalled : e.called = [] := ha.early (by rw [hw]; rfl) (by rw [hw]; rfl)
    refine ⟨fun hn ↦ (by cases hn), fun o ho ↦ ?_, fun _ _ _ hc ↦ ?_, fun _ hc ↦ (by cases hc)⟩
    · cases ho
      rw [hcalled, hcallback, Verdict.calls_none]
    · rw [hcallback] at hc
      cases hc
  | report f callback hw hcallback hreply =>
    have hcalled : e.called = [] := ha.early (by rw [hw]; rfl) (by rw [hw]; rfl)
    refine ⟨fun hn ↦ (by cases hn), fun o ho ↦ ?_, fun _ _ ho hc ↦ ?_, fun _ hc ↦ (by cases hc)⟩
    · cases ho
      rw [hcalled, hcallback]
      rfl
    · cases ho
      rw [hcallback] at hc
      exact Option.some.inj hc ▸ hreply
  | crash f callback p hw hcallback hreply =>
    have hcalled : e.called = [] := ha.early (by rw [hw]; rfl) (by rw [hw]; rfl)
    refine ⟨fun _ hd ↦ (by cases hd), fun o ho ↦ (by cases ho), fun _ _ ho ↦ (by cases ho),
      fun message hc ↦ ?_⟩
    cases hc
    exact ⟨f, callback, p, by rw [hcalled]; rfl, hcallback, hreply, rfl⟩
  -- From here on the outcome stands, and with it the calls that it owes.
  | settle o hw => exact ha.of_outcome? rfl rfl (by rw [hw]; rfl) rfl
  | close o hw => exact ha.of_outcome? rfl rfl (by rw [hw]; rfl) rfl
  | arm | join | bury | trip | send | expire | cancel | release =>
    exact ⟨ha.early, ha.settled, ha.returned, ha.crashed⟩

/-- A worker that has ended has judged its result. -/
theorem Accounted.exists_verdict? (ha : Accounted e) (hend : e.worker.isDone = true) :
    ∃ v, e.verdict? = some v := by
  cases hw : e.worker with
  | finished r => exact ⟨_, verdict?_of_outcome? (o := r.outcome) (by rw [hw]; rfl)⟩
  | crashed message =>
    obtain ⟨f, callback, p, hcalled, -⟩ := ha.crashed message hw
    exact ⟨.failure f, by rw [verdict?, hw, hcalled]; rfl⟩
  | _ => rw [hw] at hend; cases hend

/-- The calls that a worker has made at its end are those that its verdict asks for. -/
theorem Accounted.called_eq (ha : Accounted e) (hend : e.worker.isDone = true) {v : Verdict}
    (hv : e.verdict? = some v) : e.called = v.calls e.callback := by
  cases hw : e.worker with
  | finished r =>
    have ho : e.worker.outcome? = some r.outcome := by rw [hw]; rfl
    rw [verdict?_of_outcome? ho] at hv
    rw [ha.settled _ ho, Option.some.inj hv]
  | crashed message =>
    obtain ⟨f, callback, p, hcalled, hcallback, -, -⟩ := ha.crashed message hw
    rw [verdict?, hw, hcalled] at hv
    rw [hcalled, hcallback, ← Option.some.inj hv]
    rfl
  | _ => rw [hw] at hend; cases hend

/-- There were no calls, or those that the verdict asks for. -/
theorem Accounted.called_eq_nil_or (ha : Accounted e) :
    e.called = [] ∨ ∃ v, e.verdict? = some v ∧ e.called = v.calls e.callback := by
  rcases ho : e.worker.outcome? with - | o
  · cases hend : e.worker.isDone with
    | false => exact .inl (ha.early ho hend)
    | true =>
      obtain ⟨v, hv⟩ := ha.exists_verdict? hend
      exact .inr ⟨v, hv, ha.called_eq hend hv⟩
  · exact .inr ⟨o.verdict, verdict?_of_outcome? ho, ha.settled o ho⟩

theorem Accounted.length_called_le (ha : Accounted e) : e.called.length ≤ 1 := by
  rcases ha.called_eq_nil_or with hnil | ⟨v, -, hcalls⟩
  · rw [hnil]
    exact Nat.zero_le _
  · rw [hcalls]
    exact v.length_calls_le e.callback

theorem Accounted.called_eq_nil (ha : Accounted e) (hnone : e.callback = none) :
    e.called = [] := by
  rcases ha.called_eq_nil_or with hnil | ⟨v, -, hcalls⟩
  · exact hnil
  · rw [hcalls, hnone, Verdict.calls_none]

/-- A call before an outcome returned, and the outcome is the failure that it was made with. -/
theorem Accounted.returns_of_mem_called (ha : Accounted e) {o : Outcome}
    (ho : e.worker.outcome? = some o) {f : Failure} (hf : f ∈ e.called) {callback : Callback}
    (hcallback : e.callback = some callback) : callback f = .returns ∧ o = .failed f := by
  rw [ha.settled o ho] at hf
  have hout : o = .failed f :=
    Outcome.eq_failed_of_verdict (Verdict.eq_failure_of_mem_calls hf)
  exact ⟨ha.returned f callback (ho.trans (congrArg some hout)) hcallback, hout⟩

/-- What is reported after a call is what the callback was called with, if it returned, and
otherwise its own breakdown. -/
theorem Accounted.outcome_of_mem_called (ha : Accounted e) {r : Report}
    (hr : e.endReport? = some r) {f : Failure} (hf : f ∈ e.called) {callback : Callback}
    (hcallback : e.callback = some callback) :
    (callback f = .returns ∧ r.outcome = .failed f) ∨
      ∃ p, callback f = .panics p ∧ r.outcome = .failed (.panicked (panicText p)) := by
  unfold endReport? at hr
  split at hr
  · next r' hw =>
    obtain rfl := Option.some.inj hr
    exact .inl (ha.returns_of_mem_called (by rw [hw]; rfl) hf hcallback)
  · next message hw =>
    obtain ⟨f', callback', p, hcalled, hcallback', hpanics, rfl⟩ := ha.crashed message hw
    obtain rfl : f = f' := by rw [hcalled] at hf; exact List.mem_singleton.1 hf
    obtain rfl : callback = callback' := Option.some.inj (hcallback.symm.trans hcallback')
    exact .inr ⟨p, hpanics, by rw [← Option.some.inj hr]; rfl⟩
  · cases hr

end Execution

end ScriptSandbox

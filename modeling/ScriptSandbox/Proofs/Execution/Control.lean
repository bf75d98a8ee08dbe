import ScriptSandbox.Proofs.Execution.Step

/-!
# What the control points determine

The lifecycle of an execution is written from two sides, by the worker when it has an outcome and by
the watchdog when the worker broke down, and either side may make the report. Still both are
determined by how far the two parties have come: `Coherent` says what the lifecycle shows and what
has been sent at each pair of control points, and every step keeps it (`Step.coherent`).

From this a step moves the lifecycle by one place at most (`Step.next`), and a report agrees with
the lifecycle it is sent under (`Coherent.state_eq_of_endReport?`).
-/

namespace ScriptSandbox

/-! ### One place forward -/

namespace Lifecycle

/-- The lifecycles that can be shown one after the other. -/
inductive Next : Lifecycle → Lifecycle → Prop where
  /-- Nothing has changed. -/
  | stay (l : Lifecycle) : Next l l
  /-- A thread took the execution. -/
  | start : Next .pending .running
  /-- The execution came to an end. -/
  | finish (l : Lifecycle) (h : l.isTerminal = true) : Next .running l

/-- A later lifecycle: not below, and the same once there is an end. -/
def Later (a b : Lifecycle) : Prop := a.rank ≤ b.rank ∧ (a.isTerminal = true → b = a)

theorem Later.refl (a : Lifecycle) : a.Later a := ⟨Nat.le_refl _, fun _ ↦ rfl⟩

theorem Later.trans {a b c : Lifecycle} (hab : a.Later b) (hbc : b.Later c) : a.Later c := by
  refine ⟨Nat.le_trans hab.1 hbc.1, fun ha ↦ ?_⟩
  obtain rfl := hab.2 ha
  exact hbc.2 ha

theorem Next.later {a b : Lifecycle} (h : a.Next b) : a.Later b := by
  cases h with
  | stay => exact .refl a
  | start => exact ⟨by decide, fun hp ↦ by cases hp⟩
  | finish b hb =>
    refine ⟨?_, fun hr ↦ by cases hr⟩
    cases b <;> first | decide | cases hb

theorem pending_advance_running : pending.advance running = running := rfl

theorem running_advance {l : Lifecycle} (h : l.isTerminal = true) : running.advance l = l := by
  cases l <;> first | rfl | cases h

end Lifecycle

/-- Whether the watchdog has seen the end of its worker. -/
def Watchdog.hasJoined : Watchdog → Bool
  | joined | done => true
  | _ => false

/-- What the lifecycle shows when the worker has come so far. A worker that broke down wrote
nothing; its watchdog does, once it has seen that. -/
def Worker.shows (joined : Bool) : Worker → Lifecycle
  | .queued => .pending
  | .closing o => o.state
  | .finished r => r.outcome.state
  | .crashed _ => if joined then .failed else .running
  | _ => .running

namespace Execution

variable {w : World} {e e' : Execution} {m : Move}

/-- What the control points of the two parties determine. -/
structure Coherent (e : Execution) : Prop where
  /-- What the lifecycle shows. -/
  state_eq : e.state = e.worker.shows e.watchdog.hasJoined
  /-- The watchdog sees an end only where there is one. -/
  isDone : e.watchdog.hasJoined = true → e.worker.isDone = true
  /-- A watchdog that is done has sent the report on the worker's end, and no other has. -/
  sent_eq : e.sent = if e.watchdog = .done then e.endReport?.toList else []
  /-- That report carries the number of the execution. -/
  id_eq : ∀ r, e.endReport? = some r → r.id = e.id

theorem coherent_queue (id : Nat) (session : Session) (site : Nat) (callback : Option Callback) :
    Coherent (queue id session site callback) where
  state_eq := rfl
  isDone h := by cases h
  sent_eq := rfl
  id_eq r h := by cases h

namespace Coherent

theorem hasJoined_eq_false (hc : Coherent e) (h : e.worker.isDone = false) :
    e.watchdog.hasJoined = false := by
  rcases hj : e.watchdog.hasJoined with - | -
  · rfl
  · exact absurd (hc.isDone hj) (by simp [h])

/-- Nothing has been sent before the worker's end. -/
theorem sent_eq_nil (hc : Coherent e) (h : e.worker.isDone = false) : e.sent = [] := by
  have hne : e.watchdog ≠ .done := fun hd ↦ by
    have := hc.hasJoined_eq_false h
    rw [hd] at this
    cases this
  rw [hc.sent_eq, if_neg hne]

/-- The steps of a worker that has not ended keep the four facts if the new lifecycle is right. -/
theorem of_worker (hc : Coherent e) (h : e.worker.isDone = false) {worker : Worker}
    (hid : ∀ r, worker = .finished r → r.id = e.id) {state : Lifecycle}
    (hstate : state = worker.shows false) {logs : Array String} {startedAt : Nat}
    {called : List Failure} :
    Coherent { e with
      state := state, worker := worker, logs := logs, startedAt := startedAt,
      called := called } where
  state_eq := by
    have hj := hc.hasJoined_eq_false h
    simpa only [hj] using hstate
  isDone hj := by
    have := hc.hasJoined_eq_false h
    rw [this] at hj
    cases hj
  sent_eq := by
    have hne : e.watchdog ≠ .done := fun hd ↦ by
      have := hc.hasJoined_eq_false h
      rw [hd] at this
      cases this
    simp only [hc.sent_eq_nil h, if_neg hne]
  id_eq r hr := by
    cases worker with
    | finished r' => exact Option.some.inj hr ▸ hid r' rfl
    | crashed message => exact Option.some.inj hr ▸ rfl
    | _ => cases hr

/-- The steps of a watchdog that neither sees the end nor sends keep the four facts. -/
theorem of_watchdog (hc : Coherent e) (h : e.watchdog.hasJoined = false) {watchdog : Watchdog}
    (h' : watchdog.hasJoined = false) {stop deadlineHit : Bool} :
    Coherent { e with watchdog := watchdog, stop := stop, deadlineHit := deadlineHit } where
  state_eq := by rw [hc.state_eq, h, h']
  isDone hj := by rw [h'] at hj; cases hj
  sent_eq := by
    have hne : e.watchdog ≠ .done := fun hd ↦ by rw [hd] at h; cases h
    have hne' : watchdog ≠ .done := fun hd ↦ by rw [hd] at h'; cases h'
    rw [hc.sent_eq, if_neg hne, if_neg hne']
  id_eq := hc.id_eq

/-- What the lifecycle shows once the watchdog has seen the end is what the report says. -/
theorem state_eq_of_endReport? (hc : Coherent e) (hj : e.watchdog.hasJoined = true) {r : Report}
    (hr : e.endReport? = some r) : e.state = r.outcome.state := by
  rw [hc.state_eq, hj]
  unfold endReport? at hr
  split at hr
  · next hw => rw [hw, ← Option.some.inj hr]; rfl
  · next hw => rw [hw, ← Option.some.inj hr]; rfl
  · cases hr

/-- An execution shows that it waits for a thread exactly as long as it does. -/
theorem state_eq_pending_iff (hc : Coherent e) : e.state = .pending ↔ e.worker = .queued := by
  rw [hc.state_eq]
  cases e.worker with
  | queued => exact iff_of_true rfl rfl
  | closing o | finished r =>
    refine iff_of_false (fun h ↦ ?_) (fun h ↦ by cases h)
    have := congrArg Lifecycle.isTerminal h
    rw [Worker.shows, Outcome.isTerminal_state] at this
    cases this
  | crashed message =>
    refine iff_of_false (fun h ↦ ?_) (fun h ↦ by cases h)
    rw [Worker.shows] at h
    split at h <;> cases h
  | _ => exact iff_of_false (fun h ↦ by cases h) (fun h ↦ by cases h)

/-- What was sent is the report on the worker's end. -/
theorem endReport?_of_mem_sent (hc : Coherent e) {r : Report} (hr : r ∈ e.sent) :
    e.endReport? = some r := by
  rw [hc.sent_eq] at hr
  split at hr
  · exact Option.mem_toList.1 hr
  · cases hr

/-- What was sent is all that was. -/
theorem exists_sent_eq (hc : Coherent e) {r : Report} (hr : r ∈ e.sent) : ∃ r', e.sent = [r'] := by
  have hend := hc.endReport?_of_mem_sent hr
  rw [hc.sent_eq] at hr ⊢
  split at hr
  · next hdone => exact ⟨r, by rw [if_pos hdone, hend]; rfl⟩
  · cases hr

/-- Once something has been sent the lifecycle shows what it says. -/
theorem state_eq_of_mem_sent (hc : Coherent e) {r : Report} (hr : r ∈ e.sent) :
    e.state = r.outcome.state := by
  have hdone : e.watchdog = .done := Decidable.byContradiction fun hne ↦ by
    rw [hc.sent_eq, if_neg hne] at hr
    cases hr
  exact hc.state_eq_of_endReport? (by rw [hdone]; rfl) (hc.endReport?_of_mem_sent hr)

end Coherent

/-- A watchdog that waits has not seen the end of its worker. -/
theorem hasJoined_eq_false_of_waits {d : Watchdog}
    (h : d = .waiting ∨ (∃ due, d = .armed due) ∨ d = .joining) : d.hasJoined = false := by
  rcases h with rfl | ⟨due, rfl⟩ | rfl <;> rfl

/-- There is a report only on a worker that has ended. -/
theorem isDone_of_endReport? {r : Report} (hr : e.endReport? = some r) :
    e.worker.isDone = true := by
  unfold endReport? at hr
  split at hr
  · next hw => rw [hw]; rfl
  · next hw => rw [hw]; rfl
  · cases hr

/-- A worker that has ended has a report. -/
theorem exists_endReport? (h : e.worker.isDone = true) : ∃ r, e.endReport? = some r := by
  unfold endReport?
  split
  · exact ⟨_, rfl⟩
  · exact ⟨_, rfl⟩
  · next hf hc =>
    cases hw : e.worker with
    | finished r => exact absurd hw (hf r)
    | crashed message => exact absurd hw (hc message)
    | _ => rw [hw] at h; cases h

/-- **Every step keeps what the control points determine.** -/
theorem Step.coherent (h : Step w e m e') (hc : Coherent e) : Coherent e' := by
  cases h with
  -- The worker writes the lifecycle when it is taken and when it settles, and at no other step.
  | take hw =>
    refine hc.of_worker (by rw [hw]; rfl) (fun _ hr ↦ by cases hr) ?_
    rw [hc.state_eq, hw]
    rfl
  | settle o hw =>
    refine hc.of_worker (by rw [hw]; rfl) (fun _ hr ↦ by cases hr) ?_
    rw [hc.state_eq, hw]
    exact Lifecycle.running_advance o.isTerminal_state
  | close o hw =>
    refine hc.of_worker (by rw [hw]; rfl) (fun _ hr ↦ by cases hr; rfl) ?_
    rw [hc.state_eq, hw]
    rfl
  | announce hw | enter hw | arrive _ hw | proceed _ _ _ hw | conclude _ _ hw | accept _ hw
  | yield _ hw | blame _ hw | explain hw | pass _ hw | report _ _ hw | crash _ _ _ hw =>
    refine hc.of_worker (by rw [hw]; rfl) (fun _ hr ↦ by cases hr) ?_
    rw [hc.state_eq, hw]
    rfl
  | arm hd => exact hc.of_watchdog (by rw [hd]; rfl) rfl
  | trip hd => exact hc.of_watchdog (by rw [hd]; rfl) rfl
  | expire _ hd => exact hc.of_watchdog (by rw [hd]; rfl) rfl
  | cancel => exact ⟨hc.state_eq, hc.isDone, hc.sent_eq, hc.id_eq⟩
  | release => exact ⟨hc.state_eq, hc.isDone, hc.sent_eq, hc.id_eq⟩
  | join r hw hd =>
    have hj := hasJoined_eq_false_of_waits hd
    have hne : e.watchdog ≠ .done := fun h ↦ by rw [h] at hj; cases hj
    refine ⟨?_, fun _ ↦ by rw [hw]; rfl, ?_, hc.id_eq⟩
    · rw [hc.state_eq, hw]
      rfl
    · rw [hc.sent_eq, if_neg hne]
      rfl
  | bury message hw hd =>
    -- The worker broke down before it could write an end, so the watchdog finds it running.
    have hj := hasJoined_eq_false_of_waits hd
    have hne : e.watchdog ≠ .done := fun h ↦ by rw [h] at hj; cases hj
    refine ⟨?_, fun _ ↦ by rw [hw]; rfl, ?_, hc.id_eq⟩
    · rw [hc.state_eq, hw, hj]
      rfl
    · rw [hc.sent_eq, if_neg hne]
      rfl
  | send r hd hr =>
    have hj : e.watchdog.hasJoined = true := by rw [hd]; rfl
    have hne : e.watchdog ≠ .done := fun h ↦ by rw [hd] at h; cases h
    refine ⟨?_, fun _ ↦ hc.isDone hj, ?_, hc.id_eq⟩
    · rw [hc.state_eq, hj]
      rfl
    · have hr' : endReport? { e with sent := e.sent ++ [r], watchdog := .done } = some r := hr
      rw [if_pos rfl, hr', hc.sent_eq, if_neg hne]
      rfl

/-- What was sent stays, and nothing is sent after it. -/
theorem Step.sent_eq (h : Step w e m e') (hc : Coherent e) (hs : e.sent ≠ []) :
    e'.sent = e.sent := by
  cases h with
  | send r hd hr =>
    rw [hc.sent_eq, hd, if_neg (by decide)] at hs
    exact absurd rfl hs
  | _ => rfl

theorem Evolves.sent_eq (h : e.Evolves e') (hc : Coherent e) (hs : e.sent ≠ []) :
    e'.sent = e.sent := by
  have hkept : e'.Coherent ∧ e'.sent = e.sent :=
    h.preserves (P := fun x ↦ x.Coherent ∧ x.sent = e.sent)
      (fun hm hx ↦ ⟨hm.coherent hx.1, (hm.sent_eq hx.1 (hx.2 ▸ hs)).trans hx.2⟩) ⟨hc, rfl⟩
  exact hkept.2

/-- **A step moves the lifecycle by one place at most**, and to an end only from running. -/
theorem Step.next (h : Step w e m e') (hc : Coherent e) : e.state.Next e'.state := by
  cases h with
  | take hw =>
    have hs : e.state = .pending := by rw [hc.state_eq, hw]; rfl
    simp only [hs, Lifecycle.pending_advance_running]
    exact .start
  | settle o hw =>
    have hs : e.state = .running := by rw [hc.state_eq, hw]; rfl
    simp only [hs, Lifecycle.running_advance o.isTerminal_state]
    exact .finish _ o.isTerminal_state
  | bury message hw hd =>
    have hs : e.state = .running := by
      rw [hc.state_eq, hw, hasJoined_eq_false_of_waits hd]
      rfl
    rw [hs]
    exact .finish .failed rfl
  | _ => exact .stay e.state

end Execution

end ScriptSandbox

import Mathlib.Logic.Relation
import ScriptSandbox.Execution.Basic

/-!
# What one move can do

`Execution.step` is a function of the world and the execution; here its effect on the execution is
said once, as a relation with one constructor for each thing that can happen. Every later argument
about moves is a case analysis of `Execution.Step` and never opens the functions behind it.

The relation forgets what a move does to the world. Two things about that are said beside it
(`Execution.Effect`): no move turns the clock, and the calls of the error callback that a move makes
are the ones that it enters in the world.
-/

namespace ScriptSandbox

open Script

namespace Execution

variable {w w' : World} {e e' : Execution} {m : Move}

/-! ### Answers to requests -/

/-- The printed lines after a request: only a request to print adds one. -/
def logged (logs : Array String) : Request → Array String
  | .print text => logs.push text
  | _ => logs

theorem proceed_execution (w : World) (e : Execution) (q : Request)
    (go : q.Answer → Run (Except Failure Slot)) :
    (proceed w e q go).2 =
      { e with logs := logged e.logs q, worker := .evaluating (go (serve w e q).1) none } := by
  cases q <;> rfl

theorem proceed_clock (w : World) (e : Execution) (q : Request)
    (go : q.Answer → Run (Except Failure Slot)) : (proceed w e q go).1.clock = w.clock := by
  cases q <;> rfl

theorem proceed_calls (w : World) (e : Execution) (q : Request)
    (go : q.Answer → Run (Except Failure Slot)) : (proceed w e q go).1.calls = w.calls := by
  cases q <;> rfl

/-! ### The relation -/

/-- What a move makes of an execution in a world. -/
inductive Step (w : World) (e : Execution) : Move → Execution → Prop where
  /-- A thread takes the worker. -/
  | take (h : e.worker = .queued) :
      Step w e .work
        { e with state := e.state.advance .running, startedAt := w.clock, worker := .taken }
  /-- The worker tells its watchdog that it started. -/
  | announce (h : e.worker = .taken) : Step w e .work { e with worker := .started }
  /-- The session is resolved and its script begins. -/
  | enter (h : e.worker = .started) :
      Step w e .work { e with worker := .evaluating e.session.evaluation.run none }
  /-- The script comes to the gate and takes a number. -/
  | arrive (go : Request.gate.Answer → Run (Except Failure Slot))
      (h : e.worker = .evaluating (.ask .gate go) none) :
      Step w e .work { e with worker := .evaluating (.ask .gate go) (some w.arrivals) }
  /-- A request of the script is answered. -/
  | proceed (q : Request) (go : q.Answer → Run (Except Failure Slot)) (ticket : Option Nat)
      (h : e.worker = .evaluating (.ask q go) ticket) :
      Step w e .work
        { e with logs := logged e.logs q, worker := .evaluating (go (serve w e q).1) none }
  /-- The evaluation has a result. -/
  | conclude (result : Except Failure Slot) (ticket : Option Nat)
      (h : e.worker = .evaluating (.done result) ticket) :
      Step w e .work { e with worker := .judging result }
  /-- A value completes the execution. -/
  | accept (v : Slot) (h : e.worker = .judging (.ok v)) :
      Step w e .work { e with worker := .settling (.completed v) }
  /-- The script was stopped, and that was asked for. -/
  | yield (f : Failure) (h : e.worker = .judging (.error f)) (hf : f.isTermination = true)
      (hstop : e.stop = true) : Step w e .work { e with worker := .stopped }
  /-- Any other failure is the script's own. -/
  | blame (f : Failure) (h : e.worker = .judging (.error f))
      (hown : ¬ (f.isTermination = true ∧ e.stop = true)) :
      Step w e .work { e with worker := .failing f }
  /-- The reason of a stop is read. -/
  | explain (h : e.worker = .stopped) :
      Step w e .work { e with worker := .settling (.terminated e.reason) }
  /-- A failure that nobody wants to know of. -/
  | pass (f : Failure) (h : e.worker = .failing f) (hcallback : e.callback = none) :
      Step w e .work { e with worker := .settling (.failed f) }
  /-- The callback is called and returns. -/
  | report (f : Failure) (callback : Callback) (h : e.worker = .failing f)
      (hcallback : e.callback = some callback) (hreply : callback f = .returns) :
      Step w e .work { e with called := e.called ++ [f], worker := .settling (.failed f) }
  /-- The callback is called and breaks down, and the worker with it. -/
  | crash (f : Failure) (callback : Callback) (message : Option String)
      (h : e.worker = .failing f) (hcallback : e.callback = some callback)
      (hreply : callback f = .panics message) :
      Step w e .work { e with called := e.called ++ [f], worker := .crashed (panicText message) }
  /-- The lifecycle moves on to the outcome. -/
  | settle (o : Outcome) (h : e.worker = .settling o) :
      Step w e .work { e with state := e.state.advance o.state, worker := .closing o }
  /-- The worker makes its report. -/
  | close (o : Outcome) (h : e.worker = .closing o) :
      Step w e .work
        { e with
          worker := .finished ⟨e.id, o, e.logs.toList, .ofNanos (w.clock - e.startedAt)⟩ }
  /-- The watchdog hears that the worker started, and sets its time. -/
  | arm (h : e.watchdog = .waiting) (hstarted : e.worker.isAnnounced = true) :
      Step w e .watch { e with watchdog := .armed (w.clock + e.limit.totalNanos) }
  /-- The watchdog sees the end of a worker that made its report. -/
  | join (r : Report) (hw : e.worker = .finished r)
      (h : e.watchdog = .waiting ∨ (∃ due, e.watchdog = .armed due) ∨ e.watchdog = .joining) :
      Step w e .watch { e with watchdog := .joined }
  /-- The watchdog sees the end of a worker that broke down. -/
  | bury (message : String) (hw : e.worker = .crashed message)
      (h : e.watchdog = .waiting ∨ (∃ due, e.watchdog = .armed due) ∨ e.watchdog = .joining) :
      Step w e .watch { e with state := e.state.advance .failed, watchdog := .joined }
  /-- The watchdog asks for the stop. -/
  | trip (h : e.watchdog = .tripping) :
      Step w e .watch { e with stop := true, watchdog := .joining }
  /-- The watchdog sends the report. -/
  | send (r : Report) (h : e.watchdog = .joined) (hr : e.endReport? = some r) :
      Step w e .watch { e with sent := e.sent ++ [r], watchdog := .done }
  /-- The watchdog finds its time over, and notes it. -/
  | expire (due : Nat) (h : e.watchdog = .armed due) (hdue : due ≤ w.clock) :
      Step w e .expire { e with deadlineHit := true, watchdog := .tripping }
  /-- The host cancels the execution. -/
  | cancel : Step w e .cancel { e with stop := true }
  /-- The host lets go of the handle. -/
  | release : Step w e .release { e with held := false }

theorem Step.called_eq (h : Step w e m e') (hm : m ≠ .work) : e'.called = e.called := by
  cases h <;> first | rfl | exact absurd rfl hm

/-- What a move makes of the world, as far as it matters here: the clock stands, and the calls
that an execution has made are entered under its number. -/
structure Effect (w : World) (e : Execution) (w' : World) (e' : Execution) : Prop where
  /-- Time passes between moves only. -/
  clock : w'.clock = w.clock
  /-- The calls made are entered. -/
  calls : ∃ fs, e'.called = e.called ++ fs ∧
    w'.calls.toList = w.calls.toList ++ fs.map fun f ↦ (e.id, f)

/-- Most moves make no call. -/
theorem Effect.quiet (hclock : w'.clock = w.clock) (hcalls : w'.calls = w.calls)
    (hcalled : e'.called = e.called) : Effect w e w' e' :=
  ⟨hclock, [], by rw [hcalled, List.append_nil],
    by rw [hcalls, List.map_nil, List.append_nil]⟩

theorem Effect.call (f : Failure) (hclock : w'.clock = w.clock)
    (hcalls : w'.calls = w.calls.push (e.id, f)) (hcalled : e'.called = e.called ++ [f]) :
    Effect w e w' e' :=
  ⟨hclock, [f], hcalled, by rw [hcalls, Array.toList_push, List.map_singleton]⟩

/-! ### Every possible move is one of these -/

theorem step_of_evaluate {ticket : Option Nat} {run : Run (Except Failure Slot)}
    (hw : e.worker = .evaluating run ticket) (h : evaluate w e ticket run = some (w', e')) :
    Step w e .work e' ∧ Effect w e w' e' := by
  cases run with
  | done result =>
    obtain ⟨rfl, rfl⟩ := Prod.mk.inj (Option.some.inj h)
    refine ⟨.conclude result ticket hw, ?_⟩
    rcases result with (_ | _ | _ | _) | _ <;> exact .quiet rfl rfl rfl
  | ask q go =>
    have hproceed (h : some (proceed w e q go) = some (w', e')) :
        Step w e .work e' ∧ Effect w e w' e' := by
      have hpair := Option.some.inj h
      have hworld : w' = (proceed w e q go).1 := congrArg Prod.fst hpair.symm
      have hexecution : e' = (proceed w e q go).2 := congrArg Prod.snd hpair.symm
      rw [hworld, hexecution, proceed_execution]
      exact ⟨.proceed q go ticket hw,
        .quiet (proceed_clock w e q go) (proceed_calls w e q go) rfl⟩
    cases q with
    | gate =>
      -- A script without a number takes one; with a number it passes only in its turn.
      rcases ticket with - | n
      · obtain ⟨rfl, rfl⟩ := Prod.mk.inj (Option.some.inj h)
        exact ⟨.arrive go hw, .quiet rfl rfl rfl⟩
      · simp only [evaluate] at h
        split at h
        · exact hproceed h
        · cases h
    | _ => exact hproceed h

theorem step_of_judge {result : Except Failure Slot} (hw : e.worker = .judging result)
    (h : judge w e result = (w', e')) : Step w e .work e' ∧ Effect w e w' e' := by
  rcases result with f | v
  · simp only [judge] at h
    split at h
    · next hstop =>
      obtain ⟨rfl, rfl⟩ := Prod.mk.inj h
      rw [Bool.and_eq_true] at hstop
      exact ⟨.yield f hw hstop.1 hstop.2, .quiet rfl rfl rfl⟩
    · next hstop =>
      obtain ⟨rfl, rfl⟩ := Prod.mk.inj h
      rw [Bool.and_eq_true] at hstop
      exact ⟨.blame f hw hstop, .quiet rfl rfl rfl⟩
  · obtain ⟨rfl, rfl⟩ := Prod.mk.inj h
    exact ⟨.accept v hw, .quiet rfl rfl rfl⟩

theorem step_of_fail {f : Failure} (hw : e.worker = .failing f)
    (h : fail w e f = (w', e')) : Step w e .work e' ∧ Effect w e w' e' := by
  unfold fail at h
  split at h
  · next hcallback =>
    obtain ⟨rfl, rfl⟩ := Prod.mk.inj h
    exact ⟨.pass f hw hcallback, .quiet rfl rfl rfl⟩
  · next callback hcallback =>
    split at h
    · next hreply =>
      obtain ⟨rfl, rfl⟩ := Prod.mk.inj h
      exact ⟨.report f callback hw hcallback hreply, .call f rfl rfl rfl⟩
    · next message hreply =>
      obtain ⟨rfl, rfl⟩ := Prod.mk.inj h
      exact ⟨.crash f callback message hw hcallback hreply, .call f rfl rfl rfl⟩

theorem step_of_work (h : work w e = some (w', e')) : Step w e .work e' ∧ Effect w e w' e' := by
  unfold work at h
  split at h
  case h_1 hw =>
    obtain ⟨rfl, rfl⟩ := Prod.mk.inj (Option.some.inj h)
    exact ⟨.take hw, .quiet rfl rfl rfl⟩
  case h_2 hw =>
    obtain ⟨rfl, rfl⟩ := Prod.mk.inj (Option.some.inj h)
    exact ⟨.announce hw, .quiet rfl rfl rfl⟩
  case h_3 hw =>
    obtain ⟨rfl, rfl⟩ := Prod.mk.inj (Option.some.inj h)
    exact ⟨.enter hw, .quiet rfl rfl rfl⟩
  case h_4 hw => exact step_of_evaluate hw h
  case h_5 hw => exact step_of_judge hw (Option.some.inj h)
  case h_6 hw =>
    obtain ⟨rfl, rfl⟩ := Prod.mk.inj (Option.some.inj h)
    exact ⟨.explain hw, .quiet rfl rfl rfl⟩
  case h_7 hw => exact step_of_fail hw (Option.some.inj h)
  case h_8 o hw =>
    obtain ⟨rfl, rfl⟩ := Prod.mk.inj (Option.some.inj h)
    exact ⟨.settle o hw, .quiet rfl rfl rfl⟩
  case h_9 o hw =>
    obtain ⟨rfl, rfl⟩ := Prod.mk.inj (Option.some.inj h)
    exact ⟨.close o hw, .quiet rfl rfl rfl⟩
  all_goals cases h

theorem step_of_join (h : e.join = some e')
    (hd : e.watchdog = .waiting ∨ (∃ due, e.watchdog = .armed due) ∨ e.watchdog = .joining) :
    Step w e .watch e' := by
  unfold Execution.join at h
  split at h
  · next r hw => exact Option.some.inj h ▸ .join r hw hd
  · next message hw => exact Option.some.inj h ▸ .bury message hw hd
  · cases h

theorem step_of_watch (h : watch w e = some e') : Step w e .watch e' := by
  unfold watch at h
  split at h
  case h_1 hd =>
    split at h
    · exact step_of_join h (.inl hd)
    · split at h
      · next hstarted => exact Option.some.inj h ▸ .arm hd hstarted
      · cases h
  case h_2 due hd => exact step_of_join h (.inr (.inl ⟨due, hd⟩))
  case h_3 hd => exact step_of_join h (.inr (.inr hd))
  case h_4 hd => exact Option.some.inj h ▸ .trip hd
  case h_5 hd =>
    obtain ⟨r, hr, rfl⟩ := Option.map_eq_some_iff.1 h
    exact .send r hd hr
  case h_6 => cases h

theorem step_of_expire (h : expire w e = some (w', e')) :
    Step w e .expire e' ∧ Effect w e w' e' := by
  unfold expire at h
  split at h
  · next due hd =>
    split at h
    · next hdue =>
      obtain ⟨rfl, rfl⟩ := Prod.mk.inj (Option.some.inj h)
      exact ⟨.expire due hd hdue, .quiet rfl rfl rfl⟩
    · cases h
  · cases h

/-- **What a move can do**: one of the steps of the relation, and to the world no more than its
effect. -/
theorem step_cases (h : step m w e = some (w', e')) : Step w e m e' ∧ Effect w e w' e' := by
  cases m with
  | work => exact step_of_work h
  | watch =>
    obtain ⟨e'', hwatch, heq⟩ := Option.map_eq_some_iff.1 h
    obtain ⟨rfl, rfl⟩ := Prod.mk.inj heq
    have hstep : Step w e .watch e'' := step_of_watch hwatch
    exact ⟨hstep, .quiet rfl rfl (hstep.called_eq (by decide))⟩
  | expire => exact step_of_expire h
  | cancel =>
    obtain ⟨rfl, rfl⟩ := Prod.mk.inj (Option.some.inj h)
    exact ⟨.cancel, .quiet rfl rfl rfl⟩
  | release =>
    obtain ⟨rfl, rfl⟩ := Prod.mk.inj (Option.some.inj h)
    exact ⟨.release, .quiet rfl rfl rfl⟩

/-! ### Many moves -/

/-- What an execution can become by moves of its parties, in whatever worlds they are made. -/
def Evolves : Execution → Execution → Prop :=
  Relation.ReflTransGen fun e e' ↦ ∃ w m, Step w e m e'

/-- What every step keeps stays. -/
theorem Evolves.preserves {P : Execution → Prop} (h : e.Evolves e')
    (hstep : ∀ {w m e e'}, Step w e m e' → P e → P e') (hP : P e) : P e' := by
  induction h with
  | refl => exact hP
  | tail _ hm ih =>
    obtain ⟨w, m, hm⟩ := hm
    exact hstep hm ih

/-- Every step is one of the same session, and for the same callback. -/
theorem Step.session_eq (h : Step w e m e') : e'.session = e.session := by
  cases h <;> rfl

theorem Step.id_eq (h : Step w e m e') : e'.id = e.id := by
  cases h <;> rfl

theorem Step.site_eq (h : Step w e m e') : e'.site = e.site := by
  cases h <;> rfl

/-- Only the worker itself goes on. -/
theorem Step.worker_eq (h : Step w e m e') (hm : m ≠ .work) : e'.worker = e.worker := by
  cases h <;> first | rfl | exact absurd rfl hm

theorem Step.callback_eq (h : Step w e m e') : e'.callback = e.callback := by
  cases h <;> rfl

theorem Evolves.session_eq (h : e.Evolves e') : e'.session = e.session :=
  h.preserves (P := fun x ↦ x.session = e.session) (fun hm hx ↦ hm.session_eq.trans hx) rfl

theorem Evolves.callback_eq (h : e.Evolves e') : e'.callback = e.callback :=
  h.preserves (P := fun x ↦ x.callback = e.callback) (fun hm hx ↦ hm.callback_eq.trans hx) rfl

theorem Evolves.site_eq (h : e.Evolves e') : e'.site = e.site :=
  h.preserves (P := fun x ↦ x.site = e.site) (fun hm hx ↦ hm.site_eq.trans hx) rfl

end Execution

end ScriptSandbox

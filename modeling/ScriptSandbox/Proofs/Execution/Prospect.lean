import ScriptSandbox.Proofs.Execution.Completion
import ScriptSandbox.Proofs.Execution.Verdict

/-!
# What an execution is heading for

An execution that has entered its script **heads for** a completion if evaluating what is left of
its run, in the surroundings as they are now, comes to it; and if, once there is a result, that and
the printed lines are those of the completion (`Execution.HeadsFor`). When the script begins, its
execution heads for the completion of the script by itself. From then on no step of the execution
changes what it heads for, as long as nobody stops it (`HeadsFor.step`), so that is what its report
says in the end (`HeadsFor.report`).

Stops come from two sides, the host and the watchdog, and matter only before the worker has ended
(`Execution.Unhindered`).
-/

namespace ScriptSandbox

open Script

/-- The outcome of a result where nobody has asked for a stop. -/
def Outcome.own : Except Failure Slot → Outcome
  | .ok v => .completed v
  | .error f => .failed f

theorem Outcome.eq_own_of_verdict {o : Outcome} {result : Except Failure Slot}
    (h : o.verdict = .on false result) : o = .own result := by
  cases result with
  | ok v => exact Outcome.eq_completed_of_verdict h
  | error f =>
    have hown : Verdict.on false (.error f) = .failure f :=
      Verdict.on_eq_failure fun hstop ↦ Bool.false_ne_true hstop.2
    exact Outcome.eq_failed_of_verdict (h.trans hown)

/-- Whether the worker has entered its script. -/
def Worker.hasEntered : Worker → Bool
  | queued | taken | started => false
  | _ => true

/-- Whether the script is running. -/
def Worker.isEvaluating : Worker → Bool
  | evaluating .. => true
  | _ => false

namespace Execution

variable {P : Request → Prop} {w w' : World} {e e' : Execution} {m : Move}
  {c : Completion (Except Failure Slot)}

/-- Only a script that is running asks for something. -/
theorem eq_work_of_asking? {q : Request} (h : e.asking? m = some q) :
    m = .work ∧ e.worker.isEvaluating = true := by
  cases m with
  | work =>
    simp only [asking?] at h
    split at h
    · next hw => exact ⟨rfl, by rw [hw]; rfl⟩
    · cases h
  | _ => cases h

/-! ### Stops -/

/-- Nobody has asked the worker to stop, or is about to, unless it has ended. -/
def Unhindered (e : Execution) : Prop :=
  e.worker.isDone = false → e.stop = false ∧ e.watchdog ≠ .tripping

theorem unhindered_queue (id : Nat) (session : Session) (site : Nat)
    (callback : Option Callback) : Unhindered (queue id session site callback) :=
  fun _ ↦ ⟨rfl, fun h ↦ by cases h⟩

theorem Step.isDone_mono (h : Step w e m e') (hd : e.worker.isDone = true) :
    e'.worker.isDone = true := by
  cases h with
  | arm | join | bury | trip | send | expire | cancel | release => exact hd
  | take hw | announce hw | enter hw | arrive _ hw | proceed _ _ _ hw | conclude _ _ hw
  | accept _ hw | yield _ hw | blame _ hw | explain hw | pass _ hw | report _ _ hw
  | crash _ _ _ hw | settle _ hw | close _ hw =>
    rw [hw] at hd
    cases hd

theorem Evolves.isDone_mono (h : e.Evolves e') (hd : e.worker.isDone = true) :
    e'.worker.isDone = true :=
  h.preserves (P := fun x ↦ x.worker.isDone = true) (fun hm hx ↦ hm.isDone_mono hx) hd

/-- A step that is neither a cancel nor the firing of the timer hinders nobody. -/
theorem Step.unhindered (h : Step w e m e') (hu : e.Unhindered)
    (hm : m = .cancel ∨ m = .expire → e.worker.isDone = true) : e'.Unhindered := by
  intro hd'
  have hd : e.worker.isDone = false := by
    rcases hd : e.worker.isDone with - | -
    · rfl
    · rw [h.isDone_mono hd] at hd'
      cases hd'
  obtain ⟨hstop, hwatchdog⟩ := hu hd
  cases h with
  | cancel => rw [hm (.inl rfl)] at hd; cases hd
  | expire => rw [hm (.inr rfl)] at hd; cases hd
  | trip hw => exact absurd hw hwatchdog
  | arm | join | bury | send => exact ⟨hstop, fun hn ↦ by cases hn⟩
  | _ => exact ⟨hstop, hwatchdog⟩

/-! ### Heading for a completion -/

/-- Nothing has been printed before the script is entered, and a report has all lines. -/
structure Prints (e : Execution) : Prop where
  /-- Nothing is printed before. -/
  before : e.worker.hasEntered = false → e.logs = #[]
  /-- The report has all lines. -/
  report : ∀ r, e.worker = .finished r → r.logs = e.logs.toList

theorem prints_queue (id : Nat) (session : Session) (site : Nat) (callback : Option Callback) :
    Prints (queue id session site callback) :=
  ⟨fun _ ↦ rfl, fun _ hr ↦ by cases hr⟩

theorem Step.prints (h : Step w e m e') (hp : e.Prints) : e'.Prints := by
  cases h with
  | take hw | announce hw =>
    exact ⟨fun _ ↦ hp.before (by rw [hw]; rfl), fun _ hr ↦ by cases hr⟩
  | close o hw => exact ⟨fun hn ↦ (by cases hn), fun r hr ↦ (by cases hr; rfl)⟩
  | enter | arrive | proceed | conclude | accept | yield | blame | explain | pass | report | crash
  | settle => exact ⟨fun hn ↦ (by cases hn), fun _ hr ↦ (by cases hr)⟩
  | _ => exact ⟨hp.before, hp.report⟩

/-- What is left of an execution comes to a completion. -/
def HeadsFor (P : Request → Prop) (w : World) (e : Execution)
    (c : Completion (Except Failure Slot)) : Prop :=
  match e.worker with
  | .queued | .taken | .started => False
  | .evaluating run _ =>
    run.AsksOnly P ∧ (run.complete (w.around e.site) e.logs).AgreeOn P c
  | .judging result => result = c.result ∧ e.logs = c.printed
  | _ => e.verdict? = some (.on false c.result) ∧ e.logs = c.printed

/-- An execution that enters its script heads for what that comes to by itself. -/
theorem headsFor_of_enter (h : step .work w e = some (w', e')) (hw : e.worker = .started)
    (hp : e.Prints) (hasks : e.session.evaluation.run.AsksOnly P) :
    HeadsFor P w' e' (e.session.evaluation.run.complete (w.around e.site) #[]) := by
  have hlogs : e.logs = #[] := hp.before (by rw [hw]; rfl)
  have haround : w'.around e.site = w.around e.site := by
    rw [(keeps_of_step h).around_eq]
    simp only [asking?, hw, Option.elim_none]
  obtain ⟨hstep, -⟩ := step_cases h
  cases hstep with
  | enter =>
    simp only [HeadsFor, haround, hlogs]
    exact ⟨hasks, rfl, rfl, .refl P _⟩
  | take hw' | announce hw' | arrive _ hw' | proceed _ _ _ hw' | conclude _ _ hw' | accept _ hw'
  | yield _ hw' | blame _ hw' | explain hw' | pass _ hw' | report _ _ hw' | crash _ _ _ hw'
  | settle _ hw' | close _ hw' =>
    rw [hw] at hw'
    cases hw'

/-- What others do changes nothing, as long as it does not change what the script asks for. -/
theorem HeadsFor.of_agreeOn (hc : HeadsFor P w e c)
    (hworld : e.worker.isEvaluating = true → (w'.around e.site).AgreeOn P (w.around e.site)) :
    HeadsFor P w' e c := by
  unfold HeadsFor at hc ⊢
  split at hc
  case h_4 run ticket hw =>
    simp only [hw] at hworld ⊢
    obtain ⟨hasks, hcomplete⟩ := hc
    exact ⟨hasks, (run.complete_agreeOn hasks (hworld rfl) e.logs).trans hcomplete⟩
  all_goals exact hc

/-- **No step of its own changes what an execution heads for**, as long as nobody stops it. -/
theorem HeadsFor.step (hc : HeadsFor P w e c) (h : Execution.step m w e = some (w', e'))
    (hsite : e.site < w.cells.length) (hu : e.Unhindered) : HeadsFor P w' e' c := by
  have haround := around_of_step h hsite
  obtain ⟨hstep, -⟩ := step_cases h
  cases hstep with
  | take hw | announce hw | enter hw =>
    simp only [HeadsFor, hw] at hc
  | arrive go hw =>
    simp only [HeadsFor, hw] at hc
    simp only [asking?, hw, Option.elim_some] at haround
    simp only [HeadsFor, haround]
    exact hc
  | proceed q go ticket hw =>
    -- The request is answered as it would be in an evaluation by itself.
    have hstop : e.stop = false := (hu (by rw [hw]; rfl)).1
    simp only [HeadsFor, hw] at hc
    simp only [asking?, hw, Option.elim_some] at haround
    simp only [HeadsFor, haround, serve_eq_answer hstop]
    exact ⟨hc.1.of_ask.2 _, hc.2⟩
  | conclude result ticket hw =>
    simp only [HeadsFor, hw] at hc
    exact ⟨hc.2.result, hc.2.printed⟩
  | accept v hw =>
    simp only [HeadsFor, hw] at hc
    obtain ⟨hresult, hlogs⟩ := hc
    exact ⟨by rw [← hresult]; rfl, hlogs⟩
  | yield f hw _ hstop =>
    rw [(hu (by rw [hw]; rfl)).1] at hstop
    cases hstop
  | blame f hw hown =>
    simp only [HeadsFor, hw] at hc
    obtain ⟨hresult, hlogs⟩ := hc
    have hverdict : Verdict.on false c.result = .failure f := by
      rw [← hresult]
      exact Verdict.on_eq_failure fun hstop ↦ Bool.false_ne_true hstop.2
    exact ⟨by rw [hverdict]; rfl, hlogs⟩
  | explain hw | pass _ hw _ | report _ _ hw _ _ | settle _ hw | close _ hw =>
    simp only [HeadsFor, hw, verdict?] at hc
    exact hc
  | crash f callback message hw =>
    simp only [HeadsFor, hw, verdict?] at hc
    refine ⟨?_, hc.2⟩
    simp only [verdict?, List.getLast?_concat]
    exact hc.1
  | arm | join | bury | trip | send | expire | cancel | release =>
    exact hc.of_agreeOn fun _ ↦ haround ▸ .refl P _

/-- **The report says what the execution headed for**, unless its error callback broke down. -/
theorem HeadsFor.report (hc : HeadsFor P w e c) (hp : e.Prints) {r : Report}
    (hr : e.endReport? = some r)
    (ha : e.Accounted) (hcallback : ∀ f ∈ e.called, ∀ callback message,
      e.callback = some callback → callback f ≠ .panics message) :
    r.outcome = .own c.result ∧ r.logs = c.printed.toList := by
  have hdone : e.worker.isDone = true := isDone_of_endReport? hr
  cases hw : e.worker with
  | finished r' =>
    obtain rfl : r' = r := by
      simp only [endReport?, hw] at hr
      exact Option.some.inj hr
    obtain ⟨hverdict, hlogs⟩ : e.verdict? = some (.on false c.result) ∧ e.logs = c.printed := by
      simpa only [HeadsFor, hw] using hc
    rw [verdict?, hw] at hverdict
    exact ⟨Outcome.eq_own_of_verdict (Option.some.inj hverdict), hlogs ▸ hp.report r' hw⟩
  | crashed message =>
    obtain ⟨f, callback, p, hcalled, hsome, hpanics, -⟩ := ha.crashed message hw
    exact absurd hpanics (hcallback f (hcalled ▸ List.mem_singleton_self f) callback p hsome)
  | _ => rw [hw] at hdone; cases hdone

end Execution

end ScriptSandbox

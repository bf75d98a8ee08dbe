import ScriptSandbox.Proofs.Sandbox.Run

/-!
# Letting go of handles

A host may let go of the handle of an execution at any time, which does not stop the execution. More
than that, it changes nothing else at all: `holding` forgets that handles were let go of, every
other move commutes with it (`Execution.step_holding`), and so the acts that let go can be left out
of any run (`run_holding`).
-/

namespace ScriptSandbox

/-- The execution, as if the host had not let go of its handle. -/
def Execution.holding (e : Execution) : Execution := { e with held := true }

namespace Execution

variable {w w' : World} {e e' : Execution} {m : Move}

theorem evaluate_holding (w : World) (e : Execution) (ticket : Option Nat)
    (run : Script.Run (Except Failure Script.Slot)) :
    evaluate w e.holding ticket run =
      (evaluate w e ticket run).map fun (w, e) ↦ (w, e.holding) := by
  cases run with
  | done result => rfl
  | ask q go =>
    cases q with
    | gate =>
      cases ticket with
      | none => rfl
      | some n =>
        simp only [evaluate]
        split <;> rfl
    | _ => rfl

theorem work_holding (w : World) (e : Execution) :
    work w e.holding = (work w e).map fun (w, e) ↦ (w, e.holding) := by
  have hworker : e.holding.worker = e.worker := rfl
  unfold work
  rw [hworker]
  cases e.worker with
  | evaluating run ticket => exact evaluate_holding w e ticket run
  | judging result =>
    cases result with
    | ok v => rfl
    | error f =>
      have hstop : e.holding.stop = e.stop := rfl
      simp only [judge, hstop]
      split <;> rfl
  | failing f =>
    have hcallback : e.holding.callback = e.callback := rfl
    simp only [fail, hcallback]
    cases e.callback with
    | none => rfl
    | some callback =>
      simp only
      split <;> rfl
  | _ => rfl

theorem watch_holding (w : World) (e : Execution) :
    watch w e.holding = (watch w e).map holding := by
  have hworker : e.holding.worker = e.worker := rfl
  have hjoin : e.holding.join = e.join.map holding := by
    simp only [join, hworker]
    cases e.worker <;> rfl
  have hwatchdog : e.holding.watchdog = e.watchdog := rfl
  unfold watch
  rw [hwatchdog]
  cases e.watchdog with
  | waiting =>
    simp only [hworker]
    split
    · exact hjoin
    · split <;> rfl
  | armed due | joining => exact hjoin
  | tripping | done => rfl
  | joined =>
    have hreport : e.holding.endReport? = e.endReport? := rfl
    simp only [hreport]
    cases e.endReport? <;> rfl

/-- The handle has no part in the other moves. -/
theorem step_holding (hm : m ≠ .release) (w : World) (e : Execution) :
    e.holding.step m w = (e.step m w).map fun (w, e) ↦ (w, e.holding) := by
  cases m with
  | work => exact work_holding w e
  | watch =>
    simp only [step, watch_holding]
    cases e.watch w <;> rfl
  | expire =>
    have hwatchdog : e.holding.watchdog = e.watchdog := rfl
    simp only [step, expire, hwatchdog]
    cases e.watchdog with
    | armed due =>
      simp only
      split <;> rfl
    | _ => rfl
  | cancel => rfl
  | release => exact absurd rfl hm

end Execution

namespace Sandbox

variable {s s' : Sandbox} {a : Act} {acts : List Act}

/-- The sandbox, as if the host had not let go of any handle. -/
def holding (s : Sandbox) : Sandbox :=
  { s with executions := s.executions.map Execution.holding }

/-- Whether the host lets go of a handle. -/
def Act.isRelease : Act → Bool
  | move _ .release => true
  | _ => false

theorem permits_holding (s : Sandbox) (e : Execution) (m : Move) :
    s.holding.permits e.holding m = s.permits e m := by
  have hbusy : s.holding.busy = s.busy := by
    simp only [busy, holding, List.countP_map]
    rfl
  cases m with
  | work =>
    simp only [permits, hbusy]
    rfl
  | _ => rfl

/-- An act leads to the same, handles apart, if no handle is let go of. -/
theorem perform_holding (h : s.perform a = some s') (ha : a.isRelease = false) :
    s.holding.perform a = some s'.holding := by
  cases a with
  | move j m =>
    have hm : m ≠ .release := fun hm ↦ by rw [hm] at ha; cases ha
    obtain ⟨e, w, e', he, hp, hstep, rfl⟩ := exists_of_step h
    have he' : s.holding.executions[j]? = some e.holding := by
      simp only [holding, List.getElem?_map, he, Option.map_some]
    have hstep' : e.holding.step m s.holding.world = some (w, e'.holding) := by
      rw [Execution.step_holding hm]
      exact congrArg (Option.map _) hstep
    simp only [perform, step, he', permits_holding, hp, if_true, hstep', Option.map_some]
    simp only [holding, List.map_set]
  | start site callback =>
    obtain rfl := Option.some.inj h
    simp only [perform, start, holding]
    cases s.sessions[site]? with
    | none => rfl
    | some session => simp only [nextId, List.length_map, List.map_append]; rfl
  | resolve site =>
    obtain ⟨⟨r, t⟩, hr, rfl⟩ := Option.map_eq_some_iff.1 h
    obtain ⟨session, hs, heq⟩ := Option.map_eq_some_iff.1 hr
    obtain ⟨rfl, rfl⟩ := Prod.mk.inj heq
    simp only [perform, resolve, holding, hs, Option.map_some]
  | _ =>
    obtain rfl := Option.some.inj h
    rfl

/-- Letting go of a handle changes nothing else. -/
theorem holding_of_release (h : s.perform a = some s') (ha : a.isRelease = true) :
    s'.holding = s.holding := by
  cases a with
  | move j m =>
    obtain rfl : m = .release := by cases m <;> first | rfl | cases ha
    obtain ⟨e, w, e', he, -, hstep, rfl⟩ := exists_of_step h
    obtain ⟨rfl, rfl⟩ := Prod.mk.inj (Option.some.inj hstep)
    have hsame : (s.executions.set j { e with held := false }).map Execution.holding =
        s.executions.map Execution.holding := by
      refine List.ext_getElem? fun n ↦ ?_
      rw [List.getElem?_map, List.getElem?_map, List.getElem?_set]
      split
      · next hj =>
        rw [← hj, he, if_pos (List.getElem?_eq_some_iff.1 he).1]
        rfl
      · rfl
    simp only [holding, hsame]
  | _ => cases ha

/-- **Handles can be kept.** A run in which handles are let go of leads to the same, handles apart,
as the run of the other acts. -/
theorem run_holding (h : s.run acts = some s') :
    s.holding.run (acts.filter fun a ↦ !a.isRelease) = some s'.holding := by
  induction acts generalizing s with
  | nil =>
    obtain rfl := Option.some.inj h
    rfl
  | cons a acts ih =>
    obtain ⟨t, ha, ht⟩ := Option.bind_eq_some_iff.1 h
    cases hrelease : a.isRelease with
    | true =>
      rw [List.filter_cons_of_neg (by simp [hrelease]), ← holding_of_release ha hrelease]
      exact ih ht
    | false =>
      rw [List.filter_cons_of_pos (by simp [hrelease]), run_cons, perform_holding ha hrelease]
      exact ih ht

end Sandbox

end ScriptSandbox

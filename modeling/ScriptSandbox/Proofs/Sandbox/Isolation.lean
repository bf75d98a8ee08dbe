import Mathlib.Algebra.Group.Nat.Defs
import ScriptSandbox.Capability.Surface
import ScriptSandbox.Proofs.Sandbox.Callback
import ScriptSandbox.Proofs.Sandbox.Undisturbed
import ScriptSandbox.Proofs.Script.Confinement

/-!
# Isolation

Any number of executions, of the same or of different sessions, go on at the same time; their
workers wait for threads, and their moves and those of their watchdogs come in any order. If a
session shares nothing, that is, it makes no shared binding visible and its host functions look at
nothing that others can change, and if its interpreter is confined, then none of this can be told
from the report on its execution: outcome and printed lines are those of evaluating the session by
itself (`report_eq_evaluation_alone`). What the other executions share among each other, which
interpreters they have, and whether they are stopped, does not matter.
-/

namespace ScriptSandbox

open Script

/-- A session shares nothing with anybody. -/
structure Session.IsPrivate (s : Session) : Prop where
  /-- Every visible binding is one that each execution has for itself. -/
  own : ∀ name v, (name, Binding.shared v) ∉ s.visible
  /-- The host functions that scripts can call look at nothing that others can change. -/
  host : ∀ role name types f, s.engine.engine.find? role name types = some f →
    ∀ args, (f.body args).AsksOnly Request.IsFixed

/-- The run of a session that shares nothing asks for nothing that others can change. -/
theorem Session.IsPrivate.asksOnly {s : Session} (hs : s.IsPrivate)
    (hconfined : s.interpreter.Confined) : s.evaluation.run.AsksOnly Request.IsFixed := by
  have hengine : s.engine.engine.Within Request.IsFixed :=
    ⟨trivial, fun _ ↦ trivial, fun _ _ ↦ trivial, hs.host⟩
  exact s.asksOnly_evaluation hconfined hengine fun name v hv ↦ absurd hv (hs.own name v)

namespace Sandbox

variable {sessions : List Session} {threads : Nat} {s : Sandbox} {acts : List Act} {i : Nat}
  {e : Execution}

/-- What is reported on an execution does not depend on what goes on around it. -/
structure Isolated (s : Sandbox) (i : Nat) (e : Execution) : Prop where
  /-- In whatever surroundings its session is evaluated by itself, with nobody who stops it, the
  result and the printed lines are those of the report. -/
  report : ∀ r ∈ e.sent, ∀ h : Surroundings,
    r.outcome = .own (e.session.evaluation.run.complete h #[]).result ∧
      r.logs = (e.session.evaluation.run.complete h #[]).printed.toList
  /-- So the outcome is that of the run alone. -/
  alone : ∀ r ∈ e.sent, r.outcome = .own e.session.evaluation.run.alone
  /-- The report is on this execution. -/
  id_eq : ∀ r ∈ e.sent, r.id = e.id
  /-- Its number fits into a word, and no other execution has it, as long as there are not too
  many. -/
  number : s.executions.length < 2 ^ 64 →
    e.id < 2 ^ 64 ∧ ∀ j e', s.executions[j]? = some e' → e'.id = e.id → j = i

/-- **Supervision cannot be seen, and executions do not see each other.** In every run from the
beginning, and so under every schedule, an execution of a session that shares nothing is reported to
have done what evaluating its session alone does, if nobody stops it before its worker has ended and
its error callback does not break down. Of the interpreter it is assumed that it reaches the world
through what it is given. -/
theorem report_eq_evaluation_alone (h : (ofSessions sessions threads).run acts = some s)
    (he : s.executions[i]? = some e) (hprivate : e.session.IsPrivate)
    (hconfined : e.session.interpreter.Confined)
    (hstop : Unstopped (ofSessions sessions threads) acts i)
    (hcallback : ∀ f ∈ e.called, ∀ callback message, e.callback = some callback →
      callback f ≠ .panics message) :
    Isolated s i e := by
  have hreport : ∀ r ∈ e.sent, ∀ h : Surroundings,
      r.outcome = .own (e.session.evaluation.run.complete h #[]).result ∧
        r.logs = (e.session.evaluation.run.complete h #[]).printed.toList := by
    intro r hr h₀
    have hend : e.endReport? = some r := (coherent_of_run h he).endReport?_of_mem_sent hr
    have hentered : e.worker.hasEntered = true := by
      have hdone := Execution.isDone_of_endReport? hend
      cases hw : e.worker with
      | queued | taken | started => rw [hw] at hdone; cases hdone
      | _ => rfl
    obtain ⟨before, t, x, hmoment, hstarted, hsession⟩ := exists_entered h he hentered
    have hasks : x.session.evaluation.run.AsksOnly Request.IsFixed := by
      rw [hsession]
      exact hprivate.asksOnly hconfined
    have hfree : Undisturbed Request.IsFixed (ofSessions sessions threads) acts i :=
      fun _ _ _ _ _ _ _ _ _ _ _ _ ↦ Request.IsFixed.agreeOn _ _
    obtain ⟨houtcome, hlogs⟩ :=
      report_of_moment h he hmoment hstarted hasks hstop hfree hcallback hr
    -- The surroundings at that moment may be exchanged for any others.
    have hagree := Run.complete_agreeOn hasks
      (Request.IsFixed.agreeOn (t.world.around x.site) h₀) #[]
    rw [hagree.result, hsession] at houtcome
    rw [hagree.printed, hsession] at hlogs
    exact ⟨houtcome, hlogs⟩
  refine ⟨hreport, fun r hr ↦ ?_, fun r hr ↦ ?_, fun hmany ↦ ?_⟩
  · have hasks := hprivate.asksOnly hconfined
    rw [(hreport r hr ⟨fun _ ↦ some .unit, #[]⟩).1, Run.complete_result_eq_alone hasks]
  · exact (coherent_of_run h he).id_eq r ((coherent_of_run h he).endReport?_of_mem_sent hr)
  · have hlt : i < s.executions.length := (List.getElem?_eq_some_iff.1 he).1
    have hnumber := (recorded_of_run h).number
    rw [hnumber i e he]
    refine ⟨by omega, fun j e' he' hid ↦ ?_⟩
    rw [hnumber j e' he'] at hid
    omega

/-- A session that prints, and calls a host function on a binding of its own. -/
def tripling : Session :=
  (Builder.empty.applyAll
    [.capability (Capability.Surface.math "math"), .variable "x" "i64" (.int 14)]).build
    "print(\"a\"); triple(x)"

theorem isPrivate_tripling : tripling.IsPrivate where
  own name v hv := by
    have hvisible : tripling.visible = [("x", .own (.int 14))] := rfl
    rw [hvisible] at hv
    cases List.mem_singleton.1 hv
  host role name types f hf args := by
    have hmem : f ∈ tripling.engine.engine.functions := List.mem_of_find?_eq_some hf
    obtain ⟨shout, triple, hfunctions⟩ : ∃ shout triple, tripling.engine.engine.functions =
        [Capability.Surface.pureFunction .function "shout" ["string"] shout,
          Capability.Surface.pureFunction .function "triple" ["i64"] triple] := ⟨_, _, rfl⟩
    simp only [hfunctions, List.mem_cons, List.not_mem_nil, or_false] at hmem
    rcases hmem with rfl | rfl
    · exact .done _
    · exact .done _

/-- Two executions at the same time, of which the host cancels the second. -/
def besideCancelled : List Act :=
  [.start 0 none, .start 1 none, .move 1 .work, .move 0 .work, .move 0 .work, .move 1 .work,
    .move 0 .work, .move 0 .work, .move 1 .work, .move 1 .cancel, .move 0 .work, .move 0 .work,
    .move 0 .watch, .move 1 .work, .move 0 .work, .move 0 .work, .move 0 .work, .move 0 .work,
    .move 1 .work, .move 0 .work, .move 0 .work, .move 0 .work, .move 0 .work, .move 0 .watch,
    .move 0 .watch]

/-- The first execution does what it does alone. -/
theorem report_eq_evaluation_alone_besideCancelled :
    ∃ s e r, (ofSessions [tripling, Builder.empty.build "1"] 2).run besideCancelled = some s ∧
      s.executions[0]? = some e ∧ e.sent = [r] ∧ r.logs = ["a"] ∧
      r.outcome = .own tripling.evaluation.run.alone := by
  obtain ⟨s, e, hrun, he, hp⟩ :=
    exists_run_of_any (ofSessions [tripling, Builder.empty.build "1"] 2) besideCancelled 0
      (fun e ↦ decide (e.sent.length = 1) && decide (e.site = 0) && e.callback.isNone &&
        e.sent.all fun r : Report ↦ decide (r.logs = ["a"]))
      (by decide +kernel)
  simp only [Bool.and_eq_true, decide_eq_true_eq, Option.isNone_iff_eq_none,
    List.all_eq_true] at hp
  obtain ⟨⟨⟨hlength, hsite⟩, hnone⟩, hlogs⟩ := hp
  obtain ⟨r, hsent⟩ := List.length_eq_one_iff.1 hlength
  have hr : r ∈ e.sent := hsent ▸ List.mem_singleton_self r
  have hsession : e.session = tripling := by
    have hplaced := session_of_run hrun he
    rw [hsite] at hplaced
    exact (Option.some.inj hplaced).symm
  have hconfined : e.session.interpreter.Confined := hsession ▸ Interpreter.confined_standard
  have hisolated := report_eq_evaluation_alone hrun he (hsession ▸ isPrivate_tripling) hconfined
    (unstopped_of_not_mem (by simp [besideCancelled]) (by simp [besideCancelled]))
    (fun f _ callback message hsome ↦ by rw [hnone] at hsome; cases hsome)
  exact ⟨s, e, r, hrun, he, hsent, hlogs r hr, hsession ▸ hisolated.alone r hr⟩

end Sandbox

end ScriptSandbox

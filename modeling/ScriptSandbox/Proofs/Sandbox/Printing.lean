import ScriptSandbox.Proofs.Sandbox.Agreement
import ScriptSandbox.Proofs.Sandbox.Undisturbed

/-!
# What a report has of what was printed

While a script runs its execution keeps the texts that it prints (`logs_of_run`), and a worker that
comes to its end puts them into its report, however the script ended: with a value, with a failure,
with a breakdown of a host function, or because it was stopped. There is one way to lose them. A
worker that breaks down in the error callback leaves no report behind, and the one that is made for
it has no texts (`reports_what_was_printed`).

What was printed is not read off the execution, but off the requests that the script made in the
run (`printed`).
-/

namespace ScriptSandbox

open Script

namespace Execution

variable {w : World} {e e' : Execution} {m : Move}

/-- The text that a move prints, if it prints one. -/
def printing? (e : Execution) (m : Move) : Option String :=
  match e.asking? m with
  | some (.print text) => some text
  | _ => none

/-- **A step keeps the text that it prints**, and all those before it. -/
theorem Step.logs_eq (h : Step w e m e') :
    e'.logs.toList = e.logs.toList ++ (e.printing? m).toList := by
  cases h with
  | proceed q go ticket hw =>
    simp only [printing?, asking?, hw]
    cases q with
    | print text => exact Array.toList_push
    | _ => exact (List.append_nil _).symm
  | take hw | announce hw | enter hw | arrive _ hw | conclude _ _ hw | accept _ hw | yield _ hw
  | blame _ hw | explain hw | pass _ hw | report _ _ hw | crash _ _ _ hw | settle _ hw
  | close _ hw =>
    simp only [printing?, asking?, hw, Option.toList_none, List.append_nil]
  | _ => exact (List.append_nil _).symm

/-- The error callback was called, and broke down. -/
def CallbackBrokeDown (e : Execution) : Prop :=
  ∃ f ∈ e.called, ∃ callback message, e.callback = some callback ∧ callback f = .panics message

/-- A report on a worker has all that was printed, unless its error callback broke down; then it has
nothing. -/
theorem logs_of_endReport? (hp : e.Prints) (ha : e.Accounted) {r : Report}
    (hr : e.endReport? = some r) :
    (¬ e.CallbackBrokeDown → r.logs = e.logs.toList) ∧ (e.CallbackBrokeDown → r.logs = []) := by
  unfold endReport? at hr
  split at hr
  · next r' hw =>
    obtain rfl := Option.some.inj hr
    refine ⟨fun _ ↦ hp.report r' hw, ?_⟩
    rintro ⟨f, hf, callback, message, hcallback, hpanics⟩
    -- A worker that came to an outcome had its callback return.
    have hreturns := (ha.returns_of_mem_called (by rw [hw]; rfl) hf hcallback).1
    rw [hpanics] at hreturns
    cases hreturns
  · next message hw =>
    obtain rfl := Option.some.inj hr
    obtain ⟨f, callback, p, hcalled, hcallback, hpanics, -⟩ := ha.crashed message hw
    have hmem : f ∈ e.called := hcalled ▸ List.mem_singleton_self f
    exact ⟨fun hnot ↦ absurd ⟨f, hmem, callback, p, hcallback, hpanics⟩ hnot, fun _ ↦ rfl⟩
  · cases hr

end Execution

namespace Sandbox

variable {sessions : List Session} {threads : Nat} {s s' : Sandbox} {a : Act} {acts : List Act}
  {i : Nat} {e e' : Execution}

/-- The text that the script of the execution at a position prints by an act, if it prints one. -/
def print? (i : Nat) (s : Sandbox) : Act → Option String
  | .move j m => if j = i then s.executions[i]?.bind fun e ↦ e.printing? m else none
  | _ => none

/-- The texts that the script of the execution at a position prints in a run, in their order. -/
def printed (i : Nat) (s : Sandbox) : List Act → List String
  | [] => []
  | a :: acts => (s.print? i a).toList ++ (s.perform a).elim [] fun s' ↦ s'.printed i acts

/-- The texts that the execution at a position keeps; none as long as it is not there. -/
def logs (i : Nat) (s : Sandbox) : List String := s.executions[i]?.elim [] fun e ↦ e.logs.toList

theorem print?_of_getElem?_eq_none (h : s.executions[i]? = none) (a : Act) :
    s.print? i a = none := by
  cases a with
  | move j m => simp only [print?, h, Option.bind_none, ite_self]
  | _ => rfl

theorem print?_of_ne_move (h : ∀ m, a ≠ .move i m) : s.print? i a = none := by
  cases a with
  | move j m =>
    refine if_neg fun hji ↦ h m ?_
    rw [hji]
  | _ => rfl

/-- An act adds the text that it prints. -/
theorem logs_of_perform (h : s.perform a = some s') :
    s'.logs i = s.logs i ++ (s.print? i a).toList := by
  rcases he' : s'.executions[i]? with - | e'
  · have hnone : s.executions[i]? = none := by
      rcases he : s.executions[i]? with - | e
      · rfl
      · obtain ⟨x, hx⟩ := exists_execution_of_perform h he
        rw [he'] at hx
        cases hx
    simp only [logs, he', hnone, print?_of_getElem?_eq_none hnone, Option.elim_none,
      Option.toList_none, List.append_nil]
  · cases becomes_of_perform h he' with
    | moved m e ha he hm =>
      simp only [logs, he, he', ha, print?, if_true, Option.bind_some, Option.elim_some]
      exact (Execution.step_cases hm).1.logs_eq
    | kept ha he hclock =>
      simp only [logs, he, he', print?_of_ne_move ha, Option.toList_none, List.append_nil]
    | queued site callback session ha hi hs he hworld =>
      have hnone : s.executions[i]? = none := List.getElem?_eq_none (Nat.le_of_eq hi.symm)
      simp only [logs, he', hnone, he, print?_of_getElem?_eq_none hnone]
      rfl

/-- **What an execution keeps is what its script printed**, on top of what it had at first. -/
theorem logs_of_run (h : s.run acts = some s') : s'.logs i = s.logs i ++ s.printed i acts := by
  induction acts generalizing s with
  | nil =>
    obtain rfl := Option.some.inj h
    exact (List.append_nil _).symm
  | cons a acts ih =>
    obtain ⟨t, ha, ht⟩ := Option.bind_eq_some_iff.1 h
    rw [ih ht, logs_of_perform ha, printed, ha, Option.elim_some, List.append_assoc]

/-- **Every report has what was printed, and nothing else, unless the error callback broke down.**
In every run from the beginning, and for every execution in it: the execution keeps the texts of its
script's prints, in their order; and once its watchdog is done, the report that the handle gives has
exactly these, in whatever way the script came to its end. Where the error callback was called and
broke down, the report has none of them. -/
theorem reports_what_was_printed (h : (ofSessions sessions threads).run acts = some s)
    (he : s.executions[i]? = some e) :
    let printed := (ofSessions sessions threads).printed i acts
    e.logs.toList = printed ∧
      (e.watchdog = .done → ∃ r, e.sent = [r] ∧ s.report? i = some r ∧
        (¬ e.CallbackBrokeDown → r.logs = printed) ∧ (e.CallbackBrokeDown → r.logs = [])) := by
  intro printed
  have hlogs : e.logs.toList = printed := by
    have hrun := logs_of_run (i := i) h
    rwa [logs, he] at hrun
  refine ⟨hlogs, fun hdone ↦ ?_⟩
  obtain ⟨-, r, hsent, hreport, -⟩ := exists_report_of_done h he hdone
  have hend : e.endReport? = some r :=
    (coherent_of_run h he).endReport?_of_mem_sent (hsent ▸ List.mem_singleton_self r)
  rw [← hlogs]
  exact ⟨r, hsent, hreport,
    Execution.logs_of_endReport? (prints_of_run h he) (accounted_of_run h he) hend⟩

/-- A session whose script prints a text and then throws one. -/
def complaining : Session := Builder.empty.build "print(\"kept\");\nthrow \"boom\";"

/-- The text is reported after the failure. -/
theorem reports_what_was_printed_complaining :
    ∃ s e r, (ofSessions [complaining] 1).run (soloActs 0 14) = some s ∧
      s.executions[0]? = some e ∧ e.watchdog = .done ∧ ¬ e.CallbackBrokeDown ∧
      s.report? 0 = some r ∧ r.logs = ["kept"] := by
  obtain ⟨s, e, hrun, he, hp⟩ := exists_run_of_any (ofSessions [complaining] 1) (soloActs 0 14) 0
    (fun e ↦ decide (e.watchdog = .done) && e.callback.isNone) (by decide +kernel)
  simp only [Bool.and_eq_true, decide_eq_true_eq, Option.isNone_iff_eq_none] at hp
  obtain ⟨hdone, hnone⟩ := hp
  obtain ⟨-, hreports⟩ := reports_what_was_printed hrun he
  obtain ⟨r, -, hreport, hall, -⟩ := hreports hdone
  have hreturns : ¬ e.CallbackBrokeDown := by
    rintro ⟨f, -, callback, message, hcallback, -⟩
    rw [hnone] at hcallback
    cases hcallback
  have hprinted : (ofSessions [complaining] 1).printed 0 (soloActs 0 14) = ["kept"] := by
    decide +kernel
  exact ⟨s, e, r, hrun, he, hdone, hreturns, hreport, (hall hreturns).trans hprinted⟩

/-- The script's failure goes to an error callback, which breaks down. -/
def lostPrint : List Act :=
  .start 0 (some fun _ ↦ .panics (some "again")) :: List.replicate 12 (.move 0 .work) ++
    List.replicate 2 (.move 0 .watch)

/-- The text was printed, and is missing in the report. -/
theorem not_reports_what_was_printed_lostPrint :
    (ofSessions [complaining] 1).printed 0 lostPrint = ["kept"] ∧
      ∃ s e r, (ofSessions [complaining] 1).run lostPrint = some s ∧
        s.executions[0]? = some e ∧ e.watchdog = .done ∧ s.report? 0 = some r ∧ r.logs = [] := by
  refine ⟨by decide +kernel, ?_⟩
  obtain ⟨s, e, hrun, he, hp⟩ := exists_run_of_any (ofSessions [complaining] 1) lostPrint 0
    (fun e ↦ decide (e.watchdog = .done) &&
      e.sent.head?.any fun r : Report ↦ decide (r.logs = [])) (by decide +kernel)
  simp only [Bool.and_eq_true, decide_eq_true_eq] at hp
  obtain ⟨hdone, hany⟩ := hp
  obtain ⟨r, hhead, hlogs⟩ := (Option.any_eq_true _ _).1 hany
  refine ⟨s, e, r, hrun, he, hdone, ?_, of_decide_eq_true hlogs⟩
  simp only [report?, he, hhead]

end Sandbox

end ScriptSandbox

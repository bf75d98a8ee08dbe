import Mathlib.Data.List.Chain
import ScriptSandbox.Proofs.Sandbox.Run

/-!
# What a handle shows, and what is reported

A host can look at the lifecycle of an execution at every moment of a run. `shown` lists what it
would see: one entry for each moment from the one at which the execution was asked for, so that
what a host really reads, at moments of its choice, is a sublist. The entries begin with pending
and follow each other by `Lifecycle.Next` (`isChain_shown`), whatever the other executions, the
watchdog and the host do in between.

The report is tied to this in two steps. A watchdog that is done has sent exactly one report, the
one on the worker's end, and it says what the lifecycle shows (`Execution.Coherent`); and whatever
end was shown earlier is still shown, because an end is never left. Neither step asks who wrote the
lifecycle, so a worker that broke down in its callback is no case of its own.

That a report comes at all is `exists_run_watch`: once the worker has ended, the watchdog's own
moves suffice, however far it has come.
-/

namespace ScriptSandbox

/-- How many moves a watchdog needs to be done, once its worker has ended. -/
def Watchdog.remaining : Watchdog → Nat
  | waiting | armed _ | joining => 2
  | tripping => 3
  | joined => 1
  | done => 0

namespace Execution

variable {e : Execution}

theorem join_finished {r : Report} (h : e.worker = .finished r) :
    e.join = some { e with watchdog := .joined } := by
  simp only [join, h]

theorem join_crashed {message : String} (h : e.worker = .crashed message) :
    e.join = some { e with state := e.state.advance .failed, watchdog := .joined } := by
  simp only [join, h]

end Execution

namespace Sandbox

variable {s s' : Sandbox} {a : Act} {acts : List Act} {i : Nat} {e e' : Execution}

/-- What the handle of the execution at a position shows at each moment of a run. -/
def shown (i : Nat) (s : Sandbox) : List Act → List Lifecycle
  | [] => (s.state? i).toList
  | a :: acts =>
    (s.state? i).toList ++
      match s.perform a with
      | some s' => shown i s' acts
      | none => []

/-! ### The sequence of what is shown -/

theorem state?_eq_some_iff {l : Lifecycle} :
    s.state? i = some l ↔ ∃ e, s.executions[i]? = some e ∧ e.state = l :=
  Option.map_eq_some_iff

/-- Acts keep the control points in order. -/
theorem coherent_of_perform (h : s.perform a = some s')
    (hc : ∀ e, s.executions[i]? = some e → e.Coherent) :
    ∀ e, s'.executions[i]? = some e → e.Coherent := by
  intro e' he'
  cases becomes_of_perform h he' with
  | moved m e ha he hm => exact (Execution.step_cases hm).1.coherent (hc e he)
  | kept ha he hclock => exact hc e' he
  | queued site callback session ha hi hs he hworld => exact he ▸ Execution.coherent_queue _ _ _ _

/-- What is shown before and after an act. -/
theorem next_of_perform (h : s.perform a = some s')
    (hc : ∀ e, s.executions[i]? = some e → e.Coherent) {l l' : Lifecycle}
    (hl : s.state? i = some l) (hl' : s'.state? i = some l') : l.Next l' := by
  obtain ⟨e, he, rfl⟩ := state?_eq_some_iff.1 hl
  obtain ⟨e', he', rfl⟩ := state?_eq_some_iff.1 hl'
  cases becomes_of_perform h he' with
  | moved m e₁ ha he₁ hm =>
    obtain rfl : e₁ = e := by rw [he] at he₁; exact (Option.some.inj he₁).symm
    exact (Execution.step_cases hm).1.next (hc e₁ he)
  | kept ha he₁ hclock =>
    obtain rfl : e' = e := by rw [he] at he₁; exact (Option.some.inj he₁).symm
    exact .stay _
  | queued site callback session ha hi hs he₁ hworld =>
    have := (List.getElem?_eq_some_iff.1 he).1
    omega

theorem head?_shown {l : Lifecycle} (hl : s.state? i = some l) (acts : List Act) :
    (shown i s acts).head? = some l := by
  cases acts with
  | nil => rw [shown, hl]; rfl
  | cons a acts => rw [shown, hl]; rfl

/-- **What is shown goes forward**, one place at most from each moment to the next. -/
theorem isChain_shown (hc : ∀ e, s.executions[i]? = some e → e.Coherent) :
    (shown i s acts).IsChain Lifecycle.Next := by
  induction acts generalizing s with
  | nil => cases hl : s.state? i <;> simp [shown, hl]
  | cons a acts ih =>
    rw [shown]
    cases hp : s.perform a with
    | none => cases hl : s.state? i <;> simp
    | some s' =>
      have htail := ih (coherent_of_perform hp hc)
      rcases hl : s.state? i with - | l
      · exact htail
      · -- No act takes the execution away, so the tail begins with what the act made of it.
        refine List.isChain_cons.2 ⟨fun l' hl' ↦ ?_, htail⟩
        obtain ⟨e, he, -⟩ := state?_eq_some_iff.1 hl
        obtain ⟨e', he'⟩ := exists_execution_of_perform hp he
        have hstate : s'.state? i = some e'.state := state?_eq_some_iff.2 ⟨e', he', rfl⟩
        have hfirst : l' ∈ (shown i s' acts).head? := hl'
        rw [head?_shown hstate, Option.mem_some_iff] at hfirst
        exact next_of_perform hp hc hl (hfirst ▸ hstate)

/-- An execution that is not there yet will be shown as pending first. -/
theorem head?_shown_of_none (hs : s.executions[i]? = none) :
    ∀ l ∈ (shown i s acts).head?, l = .pending := by
  induction acts generalizing s with
  | nil =>
    have hl : s.state? i = none := by rw [state?, hs]; rfl
    simp [shown, hl]
  | cons a acts ih =>
    have hl : s.state? i = none := by rw [state?, hs]; rfl
    rw [shown, hl]
    cases hp : s.perform a with
    | none => simp
    | some s' =>
      rcases he' : s'.executions[i]? with - | e'
      · exact ih he'
      · intro l hmem
        have hstate : s'.state? i = some e'.state := state?_eq_some_iff.2 ⟨e', he', rfl⟩
        simp only [Option.toList_none, List.nil_append] at hmem
        rw [head?_shown hstate, Option.mem_some_iff] at hmem
        cases becomes_of_perform hp he' with
        | moved m e ha he hm => rw [hs] at he; cases he
        | kept ha he hclock => rw [hs] at he; cases he
        | queued site callback session ha hi hsession he hworld => rw [← hmem, he]; rfl

/-- What is shown last is the lifecycle at the end of the run. -/
theorem getLast?_shown (h : s.run acts = some s') (he' : s'.executions[i]? = some e') :
    (shown i s acts).getLast? = some e'.state := by
  induction acts generalizing s with
  | nil =>
    obtain rfl := Option.some.inj h
    rw [shown, state?_eq_some_iff.2 ⟨e', he', rfl⟩]
    rfl
  | cons a acts ih =>
    obtain ⟨t, hp, ht⟩ := Option.bind_eq_some_iff.1 h
    rw [shown, hp, List.getLast?_append, ih ht]
    rfl

instance : Trans Lifecycle.Later Lifecycle.Later Lifecycle.Later := ⟨Lifecycle.Later.trans⟩

/-- Of any two moments the later one shows a later lifecycle. -/
theorem pairwise_shown (hc : ∀ e, s.executions[i]? = some e → e.Coherent) :
    (shown i s acts).Pairwise Lifecycle.Later :=
  ((isChain_shown hc).imp fun _ _ hn ↦ hn.later).pairwise

/-- An end that was shown is what the execution has come to. -/
theorem eq_state_of_mem_shown (hc : ∀ e, s.executions[i]? = some e → e.Coherent)
    (h : s.run acts = some s') (he' : s'.executions[i]? = some e') {l : Lifecycle}
    (hl : l ∈ shown i s acts) (hend : l.isTerminal = true) : l = e'.state := by
  obtain ⟨ls, hls⟩ := List.getLast?_eq_some_iff.1 (getLast?_shown h he')
  have hpair : (shown i s acts).Pairwise Lifecycle.Later := pairwise_shown hc
  rw [hls, List.pairwise_append] at hpair
  rw [hls, List.mem_append, List.mem_singleton] at hl
  rcases hl with hl | hl
  · exact ((hpair.2.2 l hl e'.state (by simp)).2 hend).symm
  · exact hl

/-! ### The report comes -/

/-- A move of the watchdog of an execution in a live sandbox. -/
theorem step_watch (hlive : s.isLive = true) (he : s.executions[i]? = some e)
    (hw : e.watch s.world = some e') :
    s.step i .watch = some { s with executions := s.executions.set i e' } := by
  have hm : e.step .watch s.world = some (s.world, e') := by
    rw [Execution.step, hw]
    rfl
  exact step_of_permits he hlive hm

/-- One move brings the watchdog of a worker that has ended one move closer to its end. -/
theorem exists_watch (hend : e.worker.isDone = true) {n : Nat}
    (hn : e.watchdog.remaining = n + 1) (w : World) :
    ∃ e', e.watch w = some e' ∧ e'.worker = e.worker ∧ e'.watchdog.remaining = n := by
  have hjoin (h : e.watchdog.remaining = 2) :
      ∃ e', e.join = some e' ∧ e'.worker = e.worker ∧ e'.watchdog.remaining = n := by
    have hn' : 1 = n := by omega
    cases hw : e.worker with
    | finished r => exact ⟨_, Execution.join_finished hw, hw, hn'⟩
    | crashed message => exact ⟨_, Execution.join_crashed hw, hw, hn'⟩
    | _ => rw [hw] at hend; cases hend
  unfold Execution.watch
  cases hd : e.watchdog with
  | waiting =>
    simp only [hend, if_true]
    exact hjoin (by rw [hd]; rfl)
  | armed due => exact hjoin (by rw [hd]; rfl)
  | joining => exact hjoin (by rw [hd]; rfl)
  | tripping =>
    rw [hd] at hn
    exact ⟨_, rfl, rfl, Nat.succ.inj hn⟩
  | joined =>
    rw [hd] at hn
    obtain ⟨r, hr⟩ := Execution.exists_endReport? hend
    simp only [hr]
    exact ⟨_, rfl, rfl, Nat.succ.inj hn⟩
  | done => rw [hd] at hn; cases hn

/-- **The report comes.** Once its worker has ended, a watchdog in a live sandbox is done after as
many moves of its own as remain. -/
theorem exists_run_watch (hlive : s.isLive = true) (he : s.executions[i]? = some e)
    (hend : e.worker.isDone = true) :
    ∃ s' e', s.run (List.replicate e.watchdog.remaining (.move i .watch)) = some s' ∧
      s'.executions[i]? = some e' ∧ e'.watchdog = .done := by
  generalize hn : e.watchdog.remaining = n
  induction n generalizing s e with
  | zero =>
    refine ⟨s, e, rfl, he, ?_⟩
    cases hd : e.watchdog with
    | done => rfl
    | _ => rw [hd] at hn; cases hn
  | succ n ih =>
    obtain ⟨e₁, hwatch, hworker, hrem⟩ := exists_watch hend hn s.world
    have hlt : i < s.executions.length := (List.getElem?_eq_some_iff.1 he).1
    have hstep := step_watch hlive he hwatch
    obtain ⟨s', e', hrun, he', hdone⟩ :=
      ih (s := { s with executions := s.executions.set i e₁ }) (e := e₁) hlive (by simp [hlt])
        (by rw [hworker]; exact hend) hrem
    refine ⟨s', e', ?_, he', hdone⟩
    rw [List.replicate_succ, run_cons, perform, hstep]
    exact hrun

/-! ### Agreement -/

section

variable {sessions : List Session} {threads : Nat}

theorem coherent_ofSessions (sessions : List Session) (threads : Nat) :
    ∀ e, (ofSessions sessions threads).executions[i]? = some e → e.Coherent :=
  fun e he ↦ by cases he

/-- An execution that is there at the end was shown as pending first. -/
theorem head?_shown_of_run (h : (ofSessions sessions threads).run acts = some s)
    (he : s.executions[i]? = some e) :
    (shown i (ofSessions sessions threads) acts).head? = some .pending := by
  obtain ⟨ls, hls⟩ := List.getLast?_eq_some_iff.1 (getLast?_shown h he)
  have hne : shown i (ofSessions sessions threads) acts ≠ [] := by
    rw [hls]
    exact List.append_ne_nil_of_right_ne_nil _ (List.cons_ne_nil _ _)
  obtain ⟨l, hl⟩ := Option.isSome_iff_exists.1 (List.isSome_head?.2 hne)
  rw [hl, head?_shown_of_none (s := ofSessions sessions threads) rfl l hl]

/-- A watchdog that is done has sent exactly one report, which is on this execution and says what
the lifecycle shows. -/
theorem exists_report_of_done (h : (ofSessions sessions threads).run acts = some s)
    (he : s.executions[i]? = some e) (hd : e.watchdog = .done) :
    e.worker.isDone = true ∧
      ∃ r, e.sent = [r] ∧ s.report? i = some r ∧ r.id = e.id ∧ r.outcome.state = e.state := by
  have hc := coherent_of_run h he
  have hj : e.watchdog.hasJoined = true := by rw [hd]; rfl
  obtain ⟨r, hr⟩ := Execution.exists_endReport? (hc.isDone hj)
  have hsent : e.sent = [r] := by
    rw [hc.sent_eq, if_pos hd, hr]
    rfl
  refine ⟨hc.isDone hj, r, hsent, ?_, hc.id_eq r hr, (hc.state_eq_of_endReport? hj hr).symm⟩
  simp only [report?, he, hsent, List.head?_cons]

end

/-- **What the handle shows and what is reported agree.** In every run from the beginning, and for
every execution in it:

* what the handle shows begins with pending, goes through running to one end at most, and stays at
  that end, whatever is done afterwards;
* nothing is sent before the watchdog is done, and then the worker has ended and exactly one report
  has been sent, which the handle gives; it carries the number of the execution, and its outcome is
  every end that was ever shown and the one shown now;
* once the worker has ended, the watchdog of a live sandbox gets there by its own moves. -/
theorem shown_and_report_agree {sessions : List Session} {threads : Nat}
    (h : (ofSessions sessions threads).run acts = some s) (he : s.executions[i]? = some e) :
    let shown := shown i (ofSessions sessions threads) acts
    (shown.head? = some .pending ∧ shown.IsChain Lifecycle.Next ∧
      shown.Pairwise Lifecycle.Later ∧ shown.getLast? = some e.state) ∧
    (e.watchdog ≠ .done → e.sent = []) ∧
    (e.watchdog = .done → e.worker.isDone = true ∧
      ∃ r, e.sent = [r] ∧ s.report? i = some r ∧ r.id = e.id ∧ r.outcome.state = e.state ∧
        ∀ l ∈ shown, l.isTerminal = true → l = r.outcome.state) ∧
    (s.isLive = true → e.worker.isDone = true →
      ∃ s' e' r, s.run (List.replicate e.watchdog.remaining (.move i .watch)) = some s' ∧
        s'.executions[i]? = some e' ∧ e'.watchdog = .done ∧ e'.sent = [r]) := by
  have hempty := coherent_ofSessions (i := i) sessions threads
  intro shown
  refine ⟨⟨head?_shown_of_run h he, isChain_shown hempty, pairwise_shown hempty,
    getLast?_shown h he⟩, ?_, ?_, ?_⟩
  · intro hd
    rw [(coherent_of_run h he).sent_eq, if_neg hd]
  · intro hd
    obtain ⟨hend, r, hr, hreport, hid, hstate⟩ := exists_report_of_done h he hd
    refine ⟨hend, r, hr, hreport, hid, hstate, fun l hl hterm ↦ ?_⟩
    rw [hstate]
    exact eq_state_of_mem_shown hempty h he hl hterm
  · intro hlive hend
    -- The run and the watchdog's own moves after it are one run from the beginning.
    obtain ⟨s', e', hrun, he', hd⟩ := exists_run_watch hlive he hend
    have hall : (ofSessions sessions threads).run
        (acts ++ List.replicate e.watchdog.remaining (.move i .watch)) = some s' := by
      rw [run_append, h]
      exact hrun
    obtain ⟨-, r, hr, -⟩ := exists_report_of_done hall he' hd
    exact ⟨s', e', r, hrun, he', hd, hr⟩

/-- A session that fails at its one directive, which nobody recognises. -/
def unknownDirective : Session :=
  { Builder.empty with config := { Config.default with strictIncludes := true } }.build "#include x"

/-- The failure's callback breaks down while the watchdog is about to stop the script for its
deadline; the host cancels when all is over. -/
def lateStops : List Act :=
  [.start 0 (some fun _ ↦ .panics (some "again")), .move 0 .work, .move 0 .work, .move 0 .watch,
    .passTo 4000000000, .move 0 .expire, .move 0 .work, .move 0 .work, .move 0 .work,
    .move 0 .work, .move 0 .watch, .move 0 .watch, .move 0 .watch, .move 0 .cancel]

/-- Neither a late deadline nor a late cancel makes the report on a worker that broke down differ
from what its handle shows. -/
theorem shown_and_report_agree_lateStops :
    ∃ s e r, (ofSessions [unknownDirective] 1).run lateStops = some s ∧
      s.executions[0]? = some e ∧ e.stop = true ∧ e.deadlineHit = true ∧ s.report? 0 = some r ∧
      r.id = 1 ∧ r.outcome.state = .failed ∧
      ∀ l ∈ shown 0 (ofSessions [unknownDirective] 1) lateStops,
        l.isTerminal = true → l = .failed := by
  obtain ⟨s, e, hrun, he, hp⟩ := exists_run_of_any (ofSessions [unknownDirective] 1) lateStops 0
    (fun e ↦ e.stop && e.deadlineHit && e.id == 1 && decide (e.state = .failed) &&
      decide (e.watchdog = .done)) (by decide +kernel)
  simp only [Bool.and_eq_true, beq_iff_eq, decide_eq_true_eq] at hp
  obtain ⟨⟨⟨⟨hstop, hhit⟩, hnumber⟩, hstate⟩, hdone⟩ := hp
  obtain ⟨-, -, hsent, -⟩ := shown_and_report_agree hrun he
  obtain ⟨-, r, -, hr, hid, hout, hall⟩ := hsent hdone
  rw [hstate] at hout
  exact ⟨s, e, r, hrun, he, hstop, hhit, hr, hid.trans hnumber, hout, hout ▸ hall⟩

end Sandbox

end ScriptSandbox

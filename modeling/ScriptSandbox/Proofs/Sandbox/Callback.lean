import ScriptSandbox.Proofs.Sandbox.Handle

/-!
# The calls of the error callback

An error callback runs outside everything that catches the breakdowns of a script, so its own
breakdown ends the worker, and the watchdog speaks for it. That the callback is called exactly once
with the failure all the same, and only for a failure, is the account that every step keeps
(`Execution.Accounted`) read at the end of a run.

An execution keeps its calls, and the world keeps all calls under the numbers of the executions,
which is what the host sees. That these agree (`recorded_of_run`) is proved for the whole sandbox at
once, since a call of one execution must not be entered under the number of another.

What a late cancel or a late deadline could change is decided by the verdict: it is given once, and
the calls follow from it. Letting go of the handle can be left out of the run.
-/

namespace ScriptSandbox

namespace Sandbox

variable {sessions : List Session} {threads : Nat} {s s' : Sandbox} {a : Act} {acts : List Act}
  {i : Nat} {e : Execution}

/-! ### The record of the calls -/

/-- The failures that were entered in the world under the number of an execution. -/
def callsOf (s : Sandbox) (id : Nat) : List Failure :=
  (s.world.calls.toList.filter fun call ↦ call.1 = id).map (·.2)

/-- What the world records of the calls is what the executions have made. -/
structure Recorded (s : Sandbox) : Prop where
  /-- The executions are numbered in the order in which they were asked for. -/
  number : ∀ i e, s.executions[i]? = some e → e.id = i + 1
  /-- Under each number the calls of that execution are entered. -/
  calls : ∀ i e, s.executions[i]? = some e → s.callsOf (i + 1) = e.called
  /-- No call is entered under a number that is not in use. -/
  unused : ∀ id, s.executions.length < id → s.callsOf id = []

theorem callsOf_of_effect {w : World} {e e' : Execution}
    (heffect : Execution.Effect s.world e w e') (executions : List Execution) :
    ∃ fs, e'.called = e.called ++ fs ∧ ∀ id,
      callsOf { s with world := w, executions := executions } id =
        s.callsOf id ++ if e.id = id then fs else [] := by
  obtain ⟨fs, hcalled, hcalls⟩ := heffect.calls
  refine ⟨fs, hcalled, fun id ↦ ?_⟩
  simp only [callsOf, hcalls, List.filter_append, List.map_append, List.filter_map]
  congr 1
  split
  · next h => simp [Function.comp_def, h]
  · next h => simp [Function.comp_def, h]

/-- An act other than a move keeps the record, if it makes no call and takes no execution away, and
every execution that it adds comes next in the order and has made no call. -/
theorem Recorded.of_world (hr : Recorded s) (hcalls : s'.world.calls = s.world.calls)
    (hlength : s.executions.length ≤ s'.executions.length)
    (hnew : ∀ i e, s'.executions[i]? = some e →
      s.executions[i]? = some e ∨ i = s.executions.length ∧ e.id = i + 1 ∧ e.called = []) :
    Recorded s' where
  number i e he := by
    rcases hnew i e he with he | ⟨-, hid, -⟩
    · exact hr.number i e he
    · exact hid
  calls i e he := by
    have hsame : s'.callsOf (i + 1) = s.callsOf (i + 1) := by simp only [callsOf, hcalls]
    rw [hsame]
    rcases hnew i e he with he | ⟨rfl, -, hcalled⟩
    · exact hr.calls i e he
    · rw [hcalled, hr.unused _ (Nat.lt_succ_self _)]
  unused id hid := by
    have hsame : s'.callsOf id = s.callsOf id := by simp only [callsOf, hcalls]
    rw [hsame]
    exact hr.unused id (Nat.lt_of_le_of_lt hlength hid)

/-- **Every act keeps the record.** -/
theorem recorded_of_perform (hr : Recorded s) (h : s.perform a = some s') : Recorded s' := by
  cases a with
  | move j m =>
    obtain ⟨e, w, e', he, -, hm, rfl⟩ := exists_of_step h
    obtain ⟨hstep, heffect⟩ := Execution.step_cases hm
    have hid : e.id = j + 1 := hr.number j e he
    obtain ⟨fs, hcalled, hcalls⟩ := callsOf_of_effect heffect (s.executions.set j e')
    -- What is entered is entered under the number of the execution that moved.
    refine ⟨fun i x hx ↦ ?_, fun i x hx ↦ ?_, fun id hlength ↦ ?_⟩
    · rcases eq_or_getElem?_of_set he hx with ⟨rfl, rfl⟩ | ⟨-, hx⟩
      · rw [hstep.id_eq, hid]
      · exact hr.number i x hx
    · rw [hcalls]
      rcases eq_or_getElem?_of_set he hx with ⟨rfl, rfl⟩ | ⟨hne, hx⟩
      · rw [if_pos hid, hr.calls i e he, hcalled]
      · rw [if_neg (by omega), List.append_nil, hr.calls i x hx]
    · have hlt : j < s.executions.length := (List.getElem?_eq_some_iff.1 he).1
      simp only [List.length_set] at hlength
      rw [hcalls, if_neg (by omega), List.append_nil, hr.unused id hlength]
  | start site callback =>
    obtain rfl := Option.some.inj h
    refine hr.of_world ?_ (onward_of_perform h).length fun i e he ↦ ?_
    · unfold start
      split <;> rfl
    · cases becomes_of_perform h he with
      | moved m e₁ ha => cases ha
      | kept ha he₁ => exact .inl he₁
      | queued site callback session ha hi hs hq =>
        exact .inr ⟨hi, by rw [hq, hi]; rfl, by rw [hq]; rfl⟩
  | resolve site =>
    obtain ⟨⟨r, t⟩, hr', rfl⟩ := Option.map_eq_some_iff.1 h
    obtain ⟨session, -, heq⟩ := Option.map_eq_some_iff.1 hr'
    obtain ⟨-, rfl⟩ := Prod.mk.inj heq
    exact hr.of_world rfl (Nat.le_refl _) fun i e he ↦ .inl he
  | _ =>
    obtain rfl := Option.some.inj h
    exact hr.of_world rfl (Nat.le_refl _) fun i e he ↦ .inl he

theorem recorded_of_run (h : (ofSessions sessions threads).run acts = some s) : Recorded s := by
  have hrun {s₀ s : Sandbox} {acts : List Act} (hr : Recorded s₀) (h : s₀.run acts = some s) :
      Recorded s := by
    induction acts generalizing s₀ with
    | nil =>
      obtain rfl := Option.some.inj h
      exact hr
    | cons a acts ih =>
      obtain ⟨t, ha, ht⟩ := Option.bind_eq_some_iff.1 h
      exact ih (recorded_of_perform hr ha) ht
  exact hrun ⟨fun _ _ he ↦ (by cases he), fun _ _ he ↦ (by cases he), fun _ _ ↦ rfl⟩ h

/-! ### The law of the callback -/

/-- What holds of the calls of an error callback in a run that leads to an execution. -/
structure CallbackLaw (s₀ : Sandbox) (acts : List Act) (i : Nat) (s : Sandbox) (e : Execution) :
    Prop where
  /-- The callback is the one with which the host asked for the execution. -/
  given : AskedFor s₀ acts i e
  /-- The calls are those that the host sees under the number of the execution. -/
  recorded : s.callsOf e.id = e.called
  /-- There is at most one. -/
  once : e.called.length ≤ 1
  /-- Nothing is called where nothing was given. -/
  absent : e.callback = none → e.called = []
  /-- It is called, and so exactly once, if the execution failed. -/
  failed : e.state = .failed → e.callback ≠ none → ∃ f, e.called = [f]
  /-- It is not called if the execution has come to another end. -/
  otherwise : e.state = .completed ∨ e.state = .forciblyTerminated → e.called = []
  /-- If it returns, what it was called with is what is reported. -/
  returned : ∀ r ∈ e.sent, ∀ f ∈ e.called, ∀ callback, e.callback = some callback →
    callback f = .returns → r.outcome = .failed f
  /-- If it breaks down, that is what is reported, and what the lifecycle shows. -/
  panicked : ∀ r ∈ e.sent, ∀ f ∈ e.called, ∀ callback message, e.callback = some callback →
    callback f = .panics message →
    r.outcome = .failed (.panicked (panicText message)) ∧ e.state = .failed
  /-- The calls follow from the result, and from what was asked for when it was judged. Nothing
  that comes later has a part in them. -/
  judged : ∀ before t x result, Moment s₀ acts i .work before t x →
    x.worker = .judging result → e.worker.isDone = true →
    e.called = (Verdict.on x.stop result).calls e.callback
  /-- Neither has letting go of the handle: the run in which that is left out leads to the same. -/
  kept : s₀.run (acts.filter fun a ↦ !a.isRelease) = some s.holding ∧
    s.holding.executions[i]? = some e.holding

/-- **An error callback is called exactly once with a failure, and never else**, in every run from
the beginning and for every execution in it. -/
theorem callback_law (h : (ofSessions sessions threads).run acts = some s)
    (he : s.executions[i]? = some e) :
    CallbackLaw (ofSessions sessions threads) acts i s e where
  given := askedFor_of_run h he
  recorded := by
    have hr := recorded_of_run h
    rw [hr.number i e he, hr.calls i e he]
  once := (accounted_of_run h he).length_called_le
  absent hnone := (accounted_of_run h he).called_eq_nil hnone
  failed hs hsome := by
    have ha := accounted_of_run h he
    rcases (coherent_of_run h he).outcome?_or_crashed (by rw [hs]; rfl) with
      ⟨o, ho, hstate⟩ | ⟨message, hw, -⟩
    · obtain ⟨f, rfl⟩ := Outcome.exists_of_state_eq_failed (hstate.trans hs)
      obtain ⟨callback, hcallback⟩ := Option.ne_none_iff_exists'.1 hsome
      exact ⟨f, by rw [ha.settled _ ho, hcallback]; rfl⟩
    · obtain ⟨f, callback, p, hcalled, -⟩ := ha.crashed message hw
      exact ⟨f, hcalled⟩
  otherwise hs := by
    have hend : e.state.isTerminal = true := by rcases hs with hs | hs <;> rw [hs] <;> rfl
    rcases (coherent_of_run h he).outcome?_or_crashed hend with
      ⟨o, ho, hstate⟩ | ⟨message, -, hstate⟩
    · rw [(accounted_of_run h he).settled o ho]
      cases o with
      | failed f => rw [← hstate] at hs; rcases hs with hs | hs <;> cases hs
      | _ => rfl
    · rw [hstate] at hs
      rcases hs with hs | hs <;> cases hs
  returned r hr f hf callback hcallback hreply := by
    have hr' := (coherent_of_run h he).endReport?_of_mem_sent hr
    rcases (accounted_of_run h he).outcome_of_mem_called hr' hf hcallback with
      ⟨-, ho⟩ | ⟨p, hpanics, -⟩
    · exact ho
    · rw [hreply] at hpanics
      cases hpanics
  panicked r hr f hf callback message hcallback hreply := by
    have hc := coherent_of_run h he
    rcases (accounted_of_run h he).outcome_of_mem_called (hc.endReport?_of_mem_sent hr) hf
      hcallback with ⟨hreturns, -⟩ | ⟨p, hpanics, ho⟩
    · rw [hreply] at hreturns
      cases hreturns
    · rw [hreply] at hpanics
      cases hpanics
      exact ⟨ho, by rw [hc.state_eq_of_mem_sent hr, ho]; rfl⟩
  judged before t x result hmoment hx hend :=
    (accounted_of_run h he).called_eq hend (verdict?_of_moment h he hmoment hx)
  kept := by
    refine ⟨run_holding h, ?_⟩
    simp only [holding, List.getElem?_map, he, Option.map_some]

/-- A source that is no script fails; the host lets go of the handle at once, and cancels when the
callback has returned. -/
def letGoAndCancel : List Act :=
  [.start 0 (some fun _ ↦ .returns), .move 0 .release, .move 0 .work, .move 0 .work, .move 0 .work,
    .move 0 .work, .move 0 .work, .move 0 .work, .move 0 .cancel, .move 0 .work, .move 0 .work,
    .move 0 .watch, .move 0 .watch]

/-- The callback is called once, and with what is reported, also if the handle is gone. -/
theorem callback_law_letGoAndCancel :
    ∃ s e f r, (ofSessions [Builder.empty.build ")"] 1).run letGoAndCancel = some s ∧
      s.executions[0]? = some e ∧ e.held = false ∧ e.stop = true ∧ e.called = [f] ∧
      e.sent = [r] ∧ r.outcome = .failed f := by
  obtain ⟨s, e, hrun, he, hp⟩ :=
    exists_run_of_any (ofSessions [Builder.empty.build ")"] 1) letGoAndCancel 0
      (fun e ↦ !e.held && e.stop && decide (e.state = .failed) && decide (e.sent.length = 1) &&
        e.callback.any fun callback : Callback ↦
          e.called.all fun f : Failure ↦ decide (callback f = .returns))
      (by decide +kernel)
  simp only [Bool.and_eq_true, Bool.not_eq_true', decide_eq_true_eq, Option.any_eq_true,
    List.all_eq_true] at hp
  obtain ⟨⟨⟨⟨hheld, hstop⟩, hstate⟩, hlength⟩, callback, hcallback, hreturns⟩ := hp
  obtain ⟨r, hsent⟩ := List.length_eq_one_iff.1 hlength
  have hlaw := callback_law hrun he
  obtain ⟨f, hcalled⟩ := hlaw.failed hstate (by rw [hcallback]; exact Option.some_ne_none _)
  have hf : f ∈ e.called := by rw [hcalled]; exact List.mem_singleton_self f
  have hr : r ∈ e.sent := by rw [hsent]; exact List.mem_singleton_self r
  exact ⟨s, e, f, r, hrun, he, hheld, hstop, hcalled, hsent,
    hlaw.returned r hr f hf callback hcallback (hreturns f hf)⟩

end Sandbox

end ScriptSandbox

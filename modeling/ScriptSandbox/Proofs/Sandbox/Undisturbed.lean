import ScriptSandbox.Proofs.Execution.Prospect
import ScriptSandbox.Proofs.Sandbox.Run

/-!
# Executions that nobody disturbs

An execution can be interfered with in two ways. Somebody can stop it (`Unstopped` says that nobody
does), and somebody can change what its script asks for while it runs (`Undisturbed` says that
nobody does). An execution without interference comes to what evaluating its script by itself comes
to, from the surroundings it found when it entered the script (`report_of_moment`). Whatever else
goes on in the sandbox, and in whatever order, has no part in it.

The proof follows the run from that moment on: what the execution heads for is kept by its own steps
as long as it is unstopped, and by everybody else's as long as it is undisturbed.
-/

namespace ScriptSandbox

open Script

namespace Sandbox

variable {P : Request → Prop} {sessions : List Session} {threads : Nat} {s s' s₀ t : Sandbox}
  {a : Act} {acts before more : List Act} {i : Nat} {e x : Execution}

/-! ### Where executions stand -/

/-- Every session has its cells, and every execution stands at its session. -/
structure Placed (s : Sandbox) : Prop where
  /-- There are cells for each session. -/
  cells : s.world.cells.length = s.sessions.length
  /-- The session of an execution is the one at its place. -/
  session : ∀ e ∈ s.executions, s.sessions[e.site]? = some e.session

theorem Placed.site_lt (hs : Placed s) (he : s.executions[i]? = some e) :
    e.site < s.world.cells.length := by
  have hlt : e.site < s.sessions.length :=
    (List.getElem?_eq_some_iff.1 (hs.session e (List.mem_of_getElem? he))).1
  rwa [hs.cells]

/-- Nothing but moves changes the cells and the outbox. -/
theorem keeps_of_perform (h : s.perform a = some s') (ha : ∀ j m, a ≠ .move j m) :
    Execution.Keeps s.world s'.world := by
  cases a with
  | move j m => exact absurd rfl (ha j m)
  | start site callback =>
    obtain rfl := Option.some.inj h
    unfold start
    split <;> exact ⟨rfl, rfl, rfl⟩
  | resolve site =>
    obtain ⟨⟨r, t⟩, hr, rfl⟩ := Option.map_eq_some_iff.1 h
    obtain ⟨session, -, heq⟩ := Option.map_eq_some_iff.1 hr
    obtain ⟨-, rfl⟩ := Prod.mk.inj heq
    exact ⟨rfl, rfl, rfl⟩
  | _ =>
    obtain rfl := Option.some.inj h
    exact ⟨rfl, rfl, rfl⟩

theorem length_cells_of_perform (h : s.perform a = some s') :
    s'.world.cells.length = s.world.cells.length := by
  cases a with
  | move j m =>
    obtain ⟨e, w, e', -, -, hm, rfl⟩ := exists_of_step h
    rw [(Execution.keeps_of_step hm).cells]
    cases e.asking? m with
    | none => rfl
    | some q => cases q <;> first | rfl | exact List.length_modify ..
  | _ => rw [(keeps_of_perform h fun _ _ ha ↦ by cases ha).cells]

theorem placed_of_perform (hs : Placed s) (h : s.perform a = some s') : Placed s' where
  cells := by rw [length_cells_of_perform h, (onward_of_perform h).sessions, hs.cells]
  session e hmem := by
    obtain ⟨i, he⟩ := List.getElem?_of_mem hmem
    rw [(onward_of_perform h).sessions]
    cases becomes_of_perform h he with
    | moved m e₁ ha he₁ hm =>
      have hstep := (Execution.step_cases hm).1
      rw [hstep.site_eq, hstep.session_eq]
      exact hs.session e₁ (List.mem_of_getElem? he₁)
    | kept ha he₁ => exact hs.session e (List.mem_of_getElem? he₁)
    | queued site callback session ha hi hsession hq =>
      rw [hq]
      exact hsession

theorem placed_of_run (h : (ofSessions sessions threads).run acts = some s) : Placed s := by
  induction acts using List.reverseRecOn generalizing s with
  | nil =>
    obtain rfl := Option.some.inj h
    exact ⟨List.length_map _, fun _ he ↦ by cases he⟩
  | append_singleton acts a ih =>
    obtain ⟨t, ht, ha⟩ := run_concat_eq_some_iff.1 h
    exact placed_of_perform (ih ht) ha

/-- In every run the session of an execution is one of those that the run began with. -/
theorem session_of_run (h : (ofSessions sessions threads).run acts = some s)
    (he : s.executions[i]? = some e) : sessions[e.site]? = some e.session := by
  have hsession := (placed_of_run h).session e (List.mem_of_getElem? he)
  rwa [(onward_of_run h).sessions] at hsession

/-! ### Interference -/

/-- Nobody stops the execution at a position before its worker has ended: the host does not cancel
it, and its timer does not fire. -/
def Unstopped (s₀ : Sandbox) (acts : List Act) (i : Nat) : Prop :=
  ∀ m before t x, m = .cancel ∨ m = .expire → Moment s₀ acts i m before t x →
    x.worker.isDone = true

/-- While the script of the execution at a position runs, nobody else changes what is asked for by
some requests. -/
def Undisturbed (P : Request → Prop) (s₀ : Sandbox) (acts : List Act) (i : Nat) : Prop :=
  ∀ before a after t t' x, acts = before ++ a :: after → s₀.run before = some t →
    t.perform a = some t' → (∀ m, a ≠ .move i m) → t.executions[i]? = some x →
    x.worker.isEvaluating = true → (t'.world.around x.site).AgreeOn P (t.world.around x.site)

theorem unstopped_of_not_mem (hcancel : .move i .cancel ∉ acts) (hexpire : .move i .expire ∉ acts) :
    Unstopped s₀ acts i := by
  rintro m before t x (rfl | rfl) hmoment
  · exact absurd hmoment.mem hcancel
  · exact absurd hmoment.mem hexpire

theorem Unstopped.of_append (h : Unstopped s₀ (acts ++ more) i) : Unstopped s₀ acts i :=
  fun m before t x hm hmoment ↦ h m before t x hm (hmoment.append more)

theorem Undisturbed.of_append (h : Undisturbed P s₀ (acts ++ more) i) :
    Undisturbed P s₀ acts i :=
  fun before a after t t' x hacts ↦
    h before a (after ++ more) t t' x (by rw [hacts, List.append_assoc, List.cons_append])

theorem unhindered_of_run (h : (ofSessions sessions threads).run acts = some s)
    (he : s.executions[i]? = some e) (hstop : Unstopped (ofSessions sessions threads) acts i) :
    e.Unhindered := by
  have hinv : RunInvariant (ofSessions sessions threads) i fun acts _ e ↦
      Unstopped (ofSessions sessions threads) acts i → e.Unhindered :=
    { base := fun e₁ he₁ ↦ by cases he₁
      queued := fun _ _ _ _ _ _ _ _ _ ↦ Execution.unhindered_queue _ _ _ _
      kept := fun _ _ _ _ _ _ _ ih hstop ↦ ih hstop.of_append
      moved := fun acts t m e₁ e₂ ht he₁ hm ih hstop ↦
        hm.unhindered (ih hstop.of_append) fun hstops ↦
          hstop m acts t e₁ hstops (moment_concat ht he₁) }
  exact hinv.holds h he hstop

theorem prints_of_run (h : (ofSessions sessions threads).run acts = some s)
    (he : s.executions[i]? = some e) : e.Prints :=
  run_establishes Execution.prints_queue (fun _ _ _ _ hm hp ↦ hm.prints hp) h he

/-! ### Without interference -/

/-- What an execution headed for when it entered its script, it still heads for. The induction is on
the acts after that moment, the last first. -/
theorem headsFor_of_run (h : (ofSessions sessions threads).run (before ++ .move i .work :: more) =
      some s) (he : s.executions[i]? = some e)
    (ht : (ofSessions sessions threads).run before = some t) (hx : t.executions[i]? = some x)
    (hstarted : x.worker = .started) (hasks : x.session.evaluation.run.AsksOnly P)
    (hstop : Unstopped (ofSessions sessions threads) (before ++ .move i .work :: more) i)
    (hfree : Undisturbed P (ofSessions sessions threads) (before ++ .move i .work :: more) i) :
    e.HeadsFor P s.world (x.session.evaluation.run.complete (t.world.around x.site) #[]) := by
  induction more using List.reverseRecOn generalizing s e with
  | nil =>
    obtain ⟨t', ht', hperform⟩ := run_concat_eq_some_iff.1 h
    obtain rfl : t' = t := by rw [ht] at ht'; exact (Option.some.inj ht').symm
    cases becomes_of_perform hperform he with
    | moved m x' hm hx' hstep =>
      cases hm
      obtain rfl : x' = x := by rw [hx] at hx'; exact (Option.some.inj hx').symm
      have hsite : e.site = x'.site := (Execution.step_cases hstep).1.site_eq
      have hheads := Execution.headsFor_of_enter hstep hstarted (prints_of_run ht hx) hasks
      exact hheads
    | kept hne => exact absurd rfl (hne .work)
    | queued _ _ _ hne => cases hne
  | append_singleton more a ih =>
    have hsplit : before ++ .move i .work :: (more ++ [a]) =
        (before ++ .move i .work :: more) ++ [a] := by
      rw [List.append_assoc, List.cons_append]
    rw [hsplit] at h hstop hfree
    obtain ⟨s₁, hs₁, hperform⟩ := run_concat_eq_some_iff.1 h
    cases becomes_of_perform hperform he with
    | moved m e₁ hm he₁ hstep =>
      have hheads := ih hs₁ he₁ hstop.of_append hfree.of_append
      exact hheads.step hstep ((placed_of_run hs₁).site_lt he₁)
        (unhindered_of_run hs₁ he₁ hstop.of_append)
    | kept hne he₁ =>
      have hheads := ih hs₁ he₁ hstop.of_append hfree.of_append
      exact hheads.of_agreeOn fun hrunning ↦
        hfree _ a [] s₁ s e rfl hs₁ hperform hne he₁ hrunning
    | queued site callback session ha hi =>
      -- The execution was there before, so it cannot be the one that is asked for now.
      have hlt : i < t.executions.length := (List.getElem?_eq_some_iff.1 hx).1
      have hle : t.executions.length ≤ s₁.executions.length :=
        (onward_of_run (run_of_append hs₁ ht)).length
      omega

/-- An execution that has entered its script did so at some moment. -/
theorem exists_entered (h : (ofSessions sessions threads).run acts = some s)
    (he : s.executions[i]? = some e) (hw : e.worker.hasEntered = true) :
    ∃ before t x, Moment (ofSessions sessions threads) acts i .work before t x ∧
      x.worker = .started ∧ x.session = e.session := by
  obtain ⟨m, before, t, x, x', hmoment, hstep, hx, hx', hev⟩ :=
    exists_origin (Q := fun e ↦ e.worker.hasEntered = true) (fun _ _ _ _ hn ↦ by cases hn) h he hw
  have hsession : x.session = e.session := by rw [hev.session_eq, hstep.session_eq]
  cases hstep with
  | enter hstarted => exact ⟨before, t, x, hmoment, hstarted, hsession⟩
  | take | announce => cases hx'
  | arm | join | bury | trip | send | expire | cancel | release => exact absurd hx' hx
  | arrive _ hw | proceed _ _ _ hw | conclude _ _ hw | accept _ hw | yield _ hw | blame _ hw
  | explain hw | pass _ hw | report _ _ hw | crash _ _ _ hw | settle _ hw | close _ hw =>
    rw [hw] at hx
    exact absurd rfl hx

/-- **An execution without interference comes to what its script comes to by itself**, from the
surroundings in which it entered it. -/
theorem report_of_moment (h : (ofSessions sessions threads).run acts = some s)
    (he : s.executions[i]? = some e)
    (hmoment : Moment (ofSessions sessions threads) acts i .work before t x)
    (hstarted : x.worker = .started) (hasks : x.session.evaluation.run.AsksOnly P)
    (hstop : Unstopped (ofSessions sessions threads) acts i)
    (hfree : Undisturbed P (ofSessions sessions threads) acts i)
    (hcallback : ∀ f ∈ e.called, ∀ callback message, e.callback = some callback →
      callback f ≠ .panics message)
    {r : Report} (hr : r ∈ e.sent) :
    r.outcome = .own (x.session.evaluation.run.complete (t.world.around x.site) #[]).result ∧
      r.logs =
        (x.session.evaluation.run.complete (t.world.around x.site) #[]).printed.toList := by
  obtain ⟨after, rfl⟩ := hmoment.split
  have hheads := headsFor_of_run h he hmoment.reached hmoment.present hstarted hasks hstop hfree
  exact hheads.report (prints_of_run h he) ((coherent_of_run h he).endReport?_of_mem_sent hr)
    (accounted_of_run h he) hcallback

/-- **And when its script has come to its end, the surroundings are those that it leaves behind by
itself.** -/
theorem around_of_moment {y : Execution} {before' : List Act} {t' : Sandbox}
    {result : Except Failure Slot} {ticket : Option Nat}
    (hend : Moment (ofSessions sessions threads) acts i .work before' t' y)
    (hresult : y.worker = .evaluating (.done result) ticket)
    (hmoment : Moment (ofSessions sessions threads) before' i .work before t x)
    (hstarted : x.worker = .started) (hasks : x.session.evaluation.run.AsksOnly P)
    (hstop : Unstopped (ofSessions sessions threads) acts i)
    (hfree : Undisturbed P (ofSessions sessions threads) acts i) :
    (t'.world.around y.site).AgreeOn P
      (x.session.evaluation.run.complete (t.world.around x.site) #[]).left := by
  obtain ⟨after, rfl⟩ := hend.split
  obtain ⟨after', rfl⟩ := hmoment.split
  have hheads := headsFor_of_run hend.reached hend.present hmoment.reached hmoment.present
    hstarted hasks hstop.of_append hfree.of_append
  simp only [Execution.HeadsFor, hresult] at hheads
  exact hheads.2.left

end Sandbox

end ScriptSandbox

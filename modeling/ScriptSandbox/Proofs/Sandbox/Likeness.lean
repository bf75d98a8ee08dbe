import Mathlib.Data.List.Forall2
import ScriptSandbox.Proofs.Execution.Likeness
import ScriptSandbox.Proofs.Sandbox.Undisturbed

/-!
# Sandboxes that cannot be told apart

Two sandboxes whose sessions are alike go through the same runs: what is possible in one is possible
in the other, and leads to sandboxes that are alike again (`Sandbox.Alike.run`). So all that a host
can see of executions, under any schedule, with cancels and deadlines or without, is the same for
sessions that are alike: their lifecycles, outcomes and printed lines, the messages sent, the calls
of error callbacks, the fragments fetched, and the shared cells that are alike.

Two executions need not be in sandboxes that go through the same run to be compared. If nobody
interferes with either, it is enough that they found the same when they entered their scripts
(`Session.Reports.congr`).
-/

namespace ScriptSandbox

open Script

open Relator

/-! ### Related options and lists -/

theorem none_or_some_of_rel {α β : Type} {R : α → β → Prop} {x : Option α} {y : Option β}
    (h : Option.Rel R x y) :
    (x = none ∧ y = none) ∨ ∃ a b, x = some a ∧ y = some b ∧ R a b := by
  cases h with
  | none => exact .inl ⟨rfl, rfl⟩
  | some hab => exact .inr ⟨_, _, rfl, rfl, hab⟩

theorem forall₂_getElem? {α β : Type} {R : α → β → Prop} {l : List α} {l' : List β}
    (h : List.Forall₂ R l l') (i : Nat) : Option.Rel R l[i]? l'[i]? := by
  induction h generalizing i with
  | nil => exact .none
  | cons hx _ ih =>
    cases i with
    | zero => exact .some hx
    | succ i => exact ih i

theorem forall₂_set {α β : Type} {R : α → β → Prop} {l : List α} {l' : List β}
    (h : List.Forall₂ R l l') (i : Nat) {x : α} {x' : β} (hx : R x x') :
    List.Forall₂ R (l.set i x) (l'.set i x') := by
  induction h generalizing i with
  | nil => exact .nil
  | cons hy hrest ih =>
    cases i with
    | zero => exact .cons hx hrest
    | succ i => exact .cons hy (ih i)

namespace Sandbox

/-! ### The same runs -/

/-- Two sandboxes are alike but for what their sessions do not show. -/
structure Alike (K : Nat → String → Prop) (s s' : Sandbox) : Prop where
  /-- Their sessions are alike. -/
  sessions : ∀ site, Option.Rel (Session.Alike (K site)) s.sessions[site]? s'.sessions[site]?
  /-- They have as many threads. -/
  threads : s.threads = s'.threads
  /-- Both have been shut down, or neither. -/
  isLive : s.isLive = s'.isLive
  /-- Their worlds are alike. -/
  world : s.world.Alike K s'.world
  /-- Their executions are the same but for the sessions. -/
  executions : List.Forall₂ (Execution.Alike K) s.executions s'.executions

namespace Alike

variable {K : Nat → String → Prop} {s s' : Sandbox}

theorem busy_eq (h : s.Alike K s') : s.busy = s'.busy := by
  have hbusy : (Execution.Alike K ⇒ Iff) (fun e ↦ e.worker.isBusy = true)
      fun e ↦ e.worker.isBusy = true := fun e e' he ↦ by rw [he.eq_reseat]; rfl
  rw [busy, busy, List.countP_eq_length_filter, List.countP_eq_length_filter]
  exact (List.rel_filter hbusy h.executions).length_eq

theorem permits_eq (h : s.Alike K s') {e e' : Execution} (he : e.Alike K e') (m : Move) :
    s.permits e m = s'.permits e' m := by
  have hworker : e'.worker = e.worker := by rw [he.eq_reseat]; rfl
  cases m with
  | work => simp only [permits, hworker, h.isLive, h.busy_eq, h.threads]
  | watch | expire => exact h.isLive
  | cancel | release => rfl

theorem step (h : s.Alike K s') (i : Nat) (m : Move) :
    Option.Rel (Alike K) (s.step i m) (s'.step i m) := by
  unfold Sandbox.step
  rcases none_or_some_of_rel (forall₂_getElem? h.executions i) with
    ⟨hx, hx'⟩ | ⟨e, e', hx, hx', he⟩
  · rw [hx, hx']
    exact .none
  · simp only [hx, hx', h.permits_eq he m]
    split
    · rcases none_or_some_of_rel (he.step h.world m) with ⟨hm, hm'⟩ | ⟨p, p', hm, hm', hmoved⟩
      · rw [hm, hm']
        exact .none
      · rw [hm, hm']
        exact .some ⟨h.sessions, h.threads, h.isLive, hmoved.1,
          forall₂_set h.executions i hmoved.2⟩
    · exact .none

theorem start (h : s.Alike K s') (site : Nat) (callback : Option Callback) :
    (s.start site callback).Alike K (s'.start site callback) := by
  unfold Sandbox.start
  rcases none_or_some_of_rel (h.sessions site) with ⟨hx, hx'⟩ | ⟨a, b, hx, hx', hsession⟩
  · rw [hx, hx']
    exact h
  · rw [hx, hx']
    refine ⟨h.sessions, h.threads, h.isLive, h.world, List.rel_append h.executions ?_⟩
    have hid : s.nextId = s'.nextId := congrArg (· + 1) h.executions.length_eq
    rw [hid]
    exact .cons ⟨rfl, hsession, fun _ _ hw ↦ by cases hw⟩ .nil

/-- **What can happen in one of two sandboxes that are alike can happen in the other.** -/
theorem perform (h : s.Alike K s') (a : Act) :
    Option.Rel (Alike K) (s.perform a) (s'.perform a) := by
  cases a with
  | move i m => exact h.step i m
  | start site callback => exact .some (h.start site callback)
  | passTo clock =>
    have hw := h.world
    refine .some ⟨h.sessions, h.threads, h.isLive, ⟨?_, hw.length, hw.load, hw.poisoned, hw.outbox,
      hw.arrivals, hw.opened, hw.fetched, hw.calls⟩, h.executions⟩
    exact congrArg (max · clock) hw.clock
  | openGate => exact .some ⟨h.sessions, h.threads, h.isLive, h.world.openGate, h.executions⟩
  | resolve site =>
    simp only [Sandbox.perform, resolve]
    rcases none_or_some_of_rel (h.sessions site) with ⟨hx, hx'⟩ | ⟨a, b, hx, hx', hsession⟩
    · rw [hx, hx']
      exact .none
    · rw [hx, hx']
      refine .some ⟨h.sessions, h.threads, h.isLive, h.world.resolved _ _ ?_, h.executions⟩
      exact congrArg (fun r ↦ r.trail.fetched) hsession.resolve
  | takeFetched =>
    have hw := h.world
    exact .some ⟨h.sessions, h.threads, h.isLive, ⟨hw.clock, hw.length, hw.load, hw.poisoned,
      hw.outbox, hw.arrivals, hw.opened, rfl, hw.calls⟩, h.executions⟩
  | shutdown => exact .some ⟨h.sessions, h.threads, rfl, h.world, h.executions⟩

/-- **Sandboxes that are alike go through the same runs.** -/
theorem run (h : s.Alike K s') (acts : List Act) :
    Option.Rel (Alike K) (s.run acts) (s'.run acts) := by
  induction acts generalizing s s' with
  | nil => exact .some h
  | cons a acts ih =>
    rw [run_cons, run_cons]
    rcases none_or_some_of_rel (h.perform a) with ⟨hx, hx'⟩ | ⟨t, t', hx, hx', hnext⟩
    · rw [hx, hx']
      exact .none
    · rw [hx, hx']
      exact ih hnext

/-- An execution of one sandbox is alike that at the same position of the other. -/
theorem exists_execution {t : Sandbox} {acts : List Act} {i : Nat} {e : Execution}
    (h : Option.Rel (Alike K) (s.run acts) (s'.run acts)) (ht : s.run acts = some t)
    (he : t.executions[i]? = some e) :
    ∃ t' e', s'.run acts = some t' ∧ t'.executions[i]? = some e' ∧ e.Alike K e' := by
  rw [ht] at h
  rcases none_or_some_of_rel h with ⟨hx, -⟩ | ⟨t₁, t', hx, ht', halike⟩
  · cases hx
  obtain rfl := Option.some.inj hx
  have hboth := forall₂_getElem? halike.executions i
  rw [he] at hboth
  rcases none_or_some_of_rel hboth with ⟨hx, -⟩ | ⟨e₁, e', hx, he', hsame⟩
  · cases hx
  obtain rfl := Option.some.inj hx
  exact ⟨t', e', ht', he', hsame⟩

/-- What was reported in one sandbox was reported in the other. -/
theorem exists_report {t : Sandbox} {acts : List Act} {i : Nat} {e : Execution} {r : Report}
    (h : Option.Rel (Alike K) (s.run acts) (s'.run acts)) (ht : s.run acts = some t)
    (he : t.executions[i]? = some e) (hr : e.sent = [r]) :
    ∃ t' e', s'.run acts = some t' ∧ t'.executions[i]? = some e' ∧ e'.sent = [r] := by
  obtain ⟨t', e', ht', he', halike⟩ := exists_execution h ht he
  refine ⟨t', e', ht', he', ?_⟩
  rw [halike.eq_reseat]
  exact hr

end Alike

/-- Where one session of a sandbox is replaced by another that is alike, the sandboxes start
alike. -/
theorem alike_replace (before after : List Session) {a b : Session} {K : String → Prop}
    (hab : a.Alike K b) (hcells : ∀ c, K c → a.cells.get? c = b.cells.get? c) (threads : Nat) :
    (ofSessions (before ++ a :: after) threads).Alike (fun site c ↦ site = before.length → K c)
      (ofSessions (before ++ b :: after) threads) := by
  -- At its own place stands the other session, and at every other place the same one.
  have hplace (site : Nat) :
      (site = before.length ∧ (before ++ a :: after)[site]? = some a ∧
          (before ++ b :: after)[site]? = some b) ∨
        (site ≠ before.length ∧ (before ++ a :: after)[site]? = (before ++ b :: after)[site]?) := by
    by_cases hsite : site = before.length
    · subst hsite
      exact .inl ⟨rfl, by simp, by simp⟩
    · refine .inr ⟨hsite, ?_⟩
      simp only [List.getElem?_append, List.getElem?_cons]
      split
      · rfl
      · rw [if_neg (by omega), if_neg (by omega)]
  refine ⟨fun site ↦ ?_, rfl, rfl,
    ⟨rfl, ?_, fun site c hc ↦ ?_, rfl, rfl, rfl, rfl, rfl, rfl⟩, .nil⟩
  · show Option.Rel _ (before ++ a :: after)[site]? (before ++ b :: after)[site]?
    rcases hplace site with ⟨rfl, ha, hb⟩ | ⟨hne, hsame⟩
    · rw [ha, hb]
      simpa only [true_implies] using .some hab
    · rw [← hsame]
      rcases (before ++ a :: after)[site]? with - | x
      · exact .none
      · refine .some ⟨rfl, rfl, rfl, .of_forall (fun q ↦ ?_) _⟩
        cases q with
        | load c => exact fun hsite ↦ absurd hsite hne
        | _ => trivial
  · simp [ofSessions, World.start]
  · simp only [ofSessions, World.start, World.load, List.getElem?_map]
    rcases hplace site with ⟨rfl, ha, hb⟩ | ⟨-, hsame⟩
    · simp only [ha, hb, Option.map_some, Option.bind_some, hcells c (hc rfl)]
    · rw [hsame]

end Sandbox

/-! ### Reports without interference -/

/-- In some sandbox an execution of a session entered its script in some surroundings, and its
script ended in others; nobody stopped it or interfered with it, its error callback did not break
down, and this is the report. -/
inductive Session.Reports (P : Request → Prop) :
    Session → Surroundings → Surroundings → Report → Prop where
  | intro {sessions : List Session} {threads : Nat} {acts : List Sandbox.Act} {s : Sandbox}
      {i : Nat} {e : Execution} {before before' : List Sandbox.Act} {t t' : Sandbox}
      {x x' : Execution} {result : Except Failure Slot} {ticket : Option Nat} {r : Report}
      (run : (Sandbox.ofSessions sessions threads).run acts = some s)
      (present : s.executions[i]? = some e)
      (ends : Sandbox.Moment (Sandbox.ofSessions sessions threads) acts i .work before' t' x')
      (ended : x'.worker = .evaluating (.done result) ticket)
      (enters : Sandbox.Moment (Sandbox.ofSessions sessions threads) before' i .work before t x)
      (entered : x.worker = .started)
      (unstopped : Sandbox.Unstopped (Sandbox.ofSessions sessions threads) acts i)
      (undisturbed : Sandbox.Undisturbed P (Sandbox.ofSessions sessions threads) acts i)
      (callback : ∀ f ∈ e.called, ∀ callback message, e.callback = some callback →
        callback f ≠ .panics message)
      (reported : r ∈ e.sent) :
      Reports P x.session (t.world.around x.site) (t'.world.around x'.site) r

namespace Session.Reports

variable {P : Request → Prop} {a b : Session} {h h' left left' : Surroundings} {r r' : Report}

/-- Such a report says what evaluating the session by itself comes to, and what is left behind is
what that leaves behind. -/
theorem eq_complete (hr : a.Reports P h left r) (hasks : a.evaluation.run.AsksOnly P) :
    r.outcome = .own (a.evaluation.run.complete h #[]).result ∧
      r.logs = (a.evaluation.run.complete h #[]).printed.toList ∧
      left.AgreeOn P (a.evaluation.run.complete h #[]).left := by
  obtain ⟨run, present, ends, ended, enters, entered, unstopped, undisturbed, callback, reported⟩ :=
    hr
  obtain ⟨houtcome, hlogs⟩ := Sandbox.report_of_moment run present (ends.trans enters) entered hasks
    unstopped undisturbed callback reported
  exact ⟨houtcome, hlogs,
    Sandbox.around_of_moment ends ended enters entered hasks unstopped undisturbed⟩

/-- **Reports do not depend on schedules.** Two executions of sessions whose scripts run in the same
way have the same outcome, print the same lines and leave the same behind, if what the script asks
for was the same. -/
theorem congr (hr : a.Reports P h left r) (hr' : b.Reports P h' left' r')
    (hrun : a.evaluation.run = b.evaluation.run) (hasks : a.evaluation.run.AsksOnly P)
    (hagree : h.AgreeOn P h') :
    r.outcome = r'.outcome ∧ r.logs = r'.logs ∧ left.AgreeOn P left' := by
  obtain ⟨houtcome, hlogs, hleft⟩ := hr.eq_complete hasks
  obtain ⟨houtcome', hlogs', hleft'⟩ := hr'.eq_complete (hrun ▸ hasks)
  have hsame := Run.complete_agreeOn hasks hagree #[]
  rw [← hrun] at houtcome' hlogs' hleft'
  refine ⟨?_, ?_, (hleft.trans hsame.left).trans hleft'.symm⟩
  · rw [houtcome, houtcome', hsame.result]
  · rw [hlogs, hlogs', hsame.printed]

end Session.Reports

end ScriptSandbox

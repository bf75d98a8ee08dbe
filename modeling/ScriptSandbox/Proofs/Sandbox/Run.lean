import Mathlib.Data.List.Induction
import ScriptSandbox.Proofs.Execution.Verdict
import ScriptSandbox.Sandbox.Basic

/-!
# Runs of a sandbox

A run is a sequence of acts: a party of some execution moves, the host asks for something, or time
passes. Nothing is assumed of the order, so a statement about all runs is one about every
interleaving of the workers and watchdogs of any number of executions with each other and with the
host.

An act does one of three things to the execution at a position (`becomes_of_perform`): it makes the
execution move, it leaves the execution alone, or it is the act by which the execution is asked
for. `RunInvariant.holds` is the one induction over runs; what an execution has come to after a run
is proved from those three cases.
-/

namespace ScriptSandbox

namespace Sandbox

/-- What can happen to a sandbox. -/
inductive Act where
  /-- A party of the execution at a position moves. -/
  | move (i : Nat) (m : Move)
  /-- The host asks for an execution. -/
  | start (site : Nat) (callback : Option Callback)
  /-- Time passes. -/
  | passTo (clock : Nat)
  /-- The host lets one more script through the gate. -/
  | openGate
  /-- The host resolves a session's source itself. -/
  | resolve (site : Nat)
  /-- The host asks which fragments were fetched. -/
  | takeFetched
  /-- The host shuts the sandbox down. -/
  | shutdown

/-- The sandbox after an act, if the act is possible. -/
def perform (s : Sandbox) : Act → Option Sandbox
  | .move i m => s.step i m
  | .start site callback => some (s.start site callback)
  | .passTo clock => some (s.passTo clock)
  | .openGate => some s.openGate
  | .resolve site => (s.resolve site).map (·.2)
  | .takeFetched => some s.takeFetched.2
  | .shutdown => some s.shutdown

/-- The sandbox after a sequence of acts, if each of them is possible in its turn. -/
def run (s : Sandbox) (acts : List Act) : Option Sandbox := acts.foldlM perform s

/-- What the handle of the execution at a position shows. -/
def state? (s : Sandbox) (i : Nat) : Option Lifecycle := s.executions[i]?.map (·.state)

variable {s s' s₀ : Sandbox} {a : Act} {acts more before : List Act} {i : Nat}
  {e e' : Execution}

@[simp] theorem run_nil (s : Sandbox) : s.run [] = some s := rfl

@[simp] theorem run_cons (s : Sandbox) (a : Act) (acts : List Act) :
    s.run (a :: acts) = (s.perform a).bind fun s' ↦ s'.run acts := rfl

theorem run_append (s : Sandbox) (acts more : List Act) :
    s.run (acts ++ more) = (s.run acts).bind fun s' ↦ s'.run more :=
  List.foldlM_append

theorem run_concat_eq_some_iff :
    s.run (acts ++ [a]) = some s' ↔ ∃ t, s.run acts = some t ∧ t.perform a = some s' := by
  rw [run_append, Option.bind_eq_some_iff]
  simp only [run_cons, run_nil, Option.bind_fun_some]

/-- A run goes on from every moment that it reaches. -/
theorem run_of_append {t : Sandbox} (h : s.run (acts ++ more) = some s')
    (ht : s.run acts = some t) : t.run more = some s' := by
  rwa [run_append, ht, Option.bind_some] at h

/-- A run whose acts are given, with what is checked of an execution at its end. -/
theorem exists_run_of_any (s : Sandbox) (acts : List Act) (i : Nat) (p : Execution → Bool)
    (h : ((s.run acts).bind fun s' ↦ s'.executions[i]?).any p = true) :
    ∃ s' e, s.run acts = some s' ∧ s'.executions[i]? = some e ∧ p e = true := by
  obtain ⟨e, he, hp⟩ := (Option.any_eq_true _ _).1 h
  obtain ⟨s', hs', he'⟩ := Option.bind_eq_some_iff.1 he
  exact ⟨s', e, hs', he', hp⟩

/-- The host asks for an execution of the first session, its worker makes some moves, and its
watchdog reports. -/
def soloActs (i moves : Nat) : List Act :=
  .start 0 none :: List.replicate moves (.move i .work) ++ List.replicate 2 (.move i .watch)

/-- Whether an execution was reported to have completed with a number. -/
def hasReported (n : Int) (e : Execution) : Bool :=
  match e.sent with
  | [⟨_, .completed (.own (.int m)), _, _⟩] => m == n
  | _ => false

theorem exists_report_of_hasReported {n : Int} (h : hasReported n e = true) :
    ∃ r, e.sent = [r] ∧ r.outcome = .completed (.own (.int n)) := by
  unfold hasReported at h
  split at h
  · next m _ _ hsent =>
    obtain rfl : m = n := by simpa using h
    exact ⟨_, hsent, rfl⟩
  · cases h

/-! ### What an act does to one execution -/

/-- What became of the execution at a position by an act. -/
inductive Becomes (s : Sandbox) (i : Nat) (a : Act) (s' : Sandbox) (e' : Execution) : Prop where
  /-- One of its parties moved. -/
  | moved (m : Move) (e : Execution) (ha : a = .move i m) (he : s.executions[i]? = some e)
      (hm : e.step m s.world = some (s'.world, e'))
  /-- It was left alone. -/
  | kept (ha : ∀ m, a ≠ .move i m) (he : s.executions[i]? = some e')
      (hclock : s.world.clock ≤ s'.world.clock)
  /-- It was asked for. -/
  | queued (site : Nat) (callback : Option Callback) (session : Session)
      (ha : a = .start site callback) (hi : i = s.executions.length)
      (hs : s.sessions[site]? = some session)
      (he : e' = .queue s.nextId session site callback) (hclock : s'.world = s.world)

theorem exists_of_step {j : Nat} {m : Move} (h : s.step j m = some s') :
    ∃ e w e', s.executions[j]? = some e ∧ s.permits e m = true ∧ e.step m s.world = some (w, e') ∧
      s' = { s with world := w, executions := s.executions.set j e' } := by
  unfold step at h
  split at h
  · cases h
  · next e he =>
    split at h
    · next hp =>
      obtain ⟨⟨w, e'⟩, hm, rfl⟩ := Option.map_eq_some_iff.1 h
      exact ⟨e, w, e', he, hp, hm, rfl⟩
    · cases h

/-- A move that a party may make, and can, is made. -/
theorem step_of_permits {m : Move} {w : World} (he : s.executions[i]? = some e)
    (hp : s.permits e m = true) (hm : e.step m s.world = some (w, e')) :
    s.step i m = some { s with world := w, executions := s.executions.set i e' } := by
  rw [step, he]
  simp only [hp, if_true, hm]
  rfl

/-- What stands where after a move of one execution. -/
theorem eq_or_getElem?_of_set {j : Nat} {x x' e'' : Execution} (hx : s.executions[j]? = some x)
    (he : (s.executions.set j x')[i]? = some e'') :
    (i = j ∧ e'' = x') ∨ (i ≠ j ∧ s.executions[i]? = some e'') := by
  have hlt : j < s.executions.length := (List.getElem?_eq_some_iff.1 hx).1
  rw [List.getElem?_set] at he
  split at he
  · next hji => exact .inl ⟨hji.symm, (Option.some.inj he).symm⟩
  · next hji => exact .inr ⟨fun hij ↦ hji hij.symm, he⟩

theorem becomes_of_perform (h : s.perform a = some s') (he' : s'.executions[i]? = some e') :
    Becomes s i a s' e' := by
  cases a with
  | move j m =>
    obtain ⟨e, w, e'', he, -, hm, rfl⟩ := exists_of_step h
    rcases eq_or_getElem?_of_set he he' with ⟨rfl, rfl⟩ | ⟨hij, he'⟩
    · exact .moved m e rfl he hm
    · refine .kept (fun m' ha ↦ ?_) he' (Nat.le_of_eq (Execution.step_cases hm).2.clock.symm)
      cases ha
      exact hij rfl
  | start site callback =>
    obtain rfl := Option.some.inj h
    unfold start at he' ⊢
    split at he'
    · exact .kept (fun m ha ↦ by cases ha) he' (Nat.le_refl _)
    · next session hs =>
      simp only [List.getElem?_append] at he'
      split at he'
      · exact .kept (fun m ha ↦ by cases ha) he' (Nat.le_refl _)
      · next hlt =>
        have hi : i = s.executions.length := by
          have := (List.getElem?_eq_some_iff.1 he').1
          simp only [List.length_singleton] at this
          omega
        subst hi
        simp only [Nat.sub_self, List.getElem?_cons_zero] at he'
        exact .queued site callback session rfl rfl hs (Option.some.inj he').symm rfl
  | passTo clock =>
    obtain rfl := Option.some.inj h
    exact .kept (fun m ha ↦ by cases ha) he' (Nat.le_max_left _ _)
  | openGate =>
    obtain rfl := Option.some.inj h
    exact .kept (fun m ha ↦ by cases ha) he' (Nat.le_refl _)
  | resolve site =>
    obtain ⟨⟨r, t⟩, hr, rfl⟩ := Option.map_eq_some_iff.1 h
    obtain ⟨session, -, heq⟩ := Option.map_eq_some_iff.1 hr
    obtain ⟨-, rfl⟩ := Prod.mk.inj heq
    exact .kept (fun m ha ↦ by cases ha) he' (Nat.le_refl _)
  | takeFetched =>
    obtain rfl := Option.some.inj h
    exact .kept (fun m ha ↦ by cases ha) he' (Nat.le_refl _)
  | shutdown =>
    obtain rfl := Option.some.inj h
    exact .kept (fun m ha ↦ by cases ha) he' (Nat.le_refl _)

/-- What never changes back in a sandbox. -/
structure Onward (s s' : Sandbox) : Prop where
  /-- The sessions are the same. -/
  sessions : s'.sessions = s.sessions
  /-- No execution is taken away. -/
  length : s.executions.length ≤ s'.executions.length
  /-- Time does not go back. -/
  clock : s.world.clock ≤ s'.world.clock

theorem Onward.refl (s : Sandbox) : Onward s s := ⟨rfl, Nat.le_refl _, Nat.le_refl _⟩

theorem Onward.trans {t : Sandbox} (h : Onward s t) (h' : Onward t s') : Onward s s' :=
  ⟨h'.sessions.trans h.sessions, Nat.le_trans h.length h'.length, Nat.le_trans h.clock h'.clock⟩

theorem onward_of_perform (h : s.perform a = some s') : Onward s s' := by
  cases a with
  | move j m =>
    obtain ⟨e, w, e', -, -, hm, rfl⟩ := exists_of_step h
    exact ⟨rfl, Nat.le_of_eq List.length_set.symm,
      Nat.le_of_eq (Execution.step_cases hm).2.clock.symm⟩
  | start site callback =>
    obtain rfl := Option.some.inj h
    unfold start
    split
    · exact .refl s
    · exact ⟨rfl, by rw [List.length_append]; exact Nat.le_add_right _ _, Nat.le_refl _⟩
  | passTo clock =>
    obtain rfl := Option.some.inj h
    exact ⟨rfl, Nat.le_refl _, Nat.le_max_left _ _⟩
  | resolve site =>
    obtain ⟨⟨r, t⟩, hr, rfl⟩ := Option.map_eq_some_iff.1 h
    obtain ⟨session, -, heq⟩ := Option.map_eq_some_iff.1 hr
    obtain ⟨-, rfl⟩ := Prod.mk.inj heq
    exact ⟨rfl, Nat.le_refl _, Nat.le_refl _⟩
  | _ =>
    obtain rfl := Option.some.inj h
    exact ⟨rfl, Nat.le_refl _, Nat.le_refl _⟩

theorem onward_of_run (h : s.run acts = some s') : Onward s s' := by
  induction acts generalizing s with
  | nil =>
    obtain rfl := Option.some.inj h
    exact .refl s
  | cons a acts ih =>
    obtain ⟨t, ha, ht⟩ := Option.bind_eq_some_iff.1 h
    exact (onward_of_perform ha).trans (ih ht)

theorem exists_execution_of_perform (h : s.perform a = some s') (he : s.executions[i]? = some e) :
    ∃ e', s'.executions[i]? = some e' := by
  have hlt := (List.getElem?_eq_some_iff.1 he).1
  exact ⟨_, List.getElem?_eq_getElem (Nat.lt_of_lt_of_le hlt (onward_of_perform h).length)⟩

theorem exists_execution_of_run (h : s.run acts = some s') (he : s.executions[i]? = some e) :
    ∃ e', s'.executions[i]? = some e' := by
  have hlt := (List.getElem?_eq_some_iff.1 he).1
  exact ⟨_, List.getElem?_eq_getElem (Nat.lt_of_lt_of_le hlt (onward_of_run h).length)⟩

/-! ### The induction over runs -/

/-- A fact about a run's acts, the clock and the execution at a position that each act keeps. -/
structure RunInvariant (s₀ : Sandbox) (i : Nat) (P : List Act → Nat → Execution → Prop) :
    Prop where
  /-- It holds of the execution that the run begins with, if there is one. -/
  base : ∀ e, s₀.executions[i]? = some e → P [] s₀.world.clock e
  /-- It holds of an execution just asked for. -/
  queued : ∀ acts s site callback session, s₀.run acts = some s → i = s.executions.length →
    s.sessions[site]? = some session →
    P (acts ++ [.start site callback]) s.world.clock (.queue s.nextId session site callback)
  /-- Acts elsewhere keep it. -/
  kept : ∀ acts a clock clock' e, (∀ m, a ≠ .move i m) → clock ≤ clock' → P acts clock e →
    P (acts ++ [a]) clock' e
  /-- Moves of the execution keep it. -/
  moved : ∀ acts s m e e', s₀.run acts = some s → s.executions[i]? = some e →
    Execution.Step s.world e m e' → P acts s.world.clock e →
    P (acts ++ [.move i m]) s.world.clock e'

/-- **The induction over runs.** -/
theorem RunInvariant.holds {P : List Act → Nat → Execution → Prop} (hP : RunInvariant s₀ i P)
    (h : s₀.run acts = some s) (he : s.executions[i]? = some e) : P acts s.world.clock e := by
  -- The induction takes the last act away, so that what is left still begins where the run began.
  induction acts using List.reverseRecOn generalizing s e with
  | nil =>
    obtain rfl := Option.some.inj h
    exact hP.base e he
  | append_singleton acts a ih =>
    obtain ⟨t, ht, ha⟩ := run_concat_eq_some_iff.1 h
    cases becomes_of_perform ha he with
    | moved m e₁ hmove he₁ hm =>
      obtain ⟨hstep, heffect⟩ := Execution.step_cases hm
      rw [hmove, heffect.clock]
      exact hP.moved acts t m e₁ e ht he₁ hstep (ih ht he₁)
    | kept hne he₁ hclock => exact hP.kept acts a _ _ e hne hclock (ih ht he₁)
    | queued site callback session hstart hi hs hq hworld =>
      rw [hstart, hq, hworld]
      exact hP.queued acts t site callback session ht hi hs

/-- Later in a run stands what the execution has become by its moves. -/
theorem evolves_of_run (h : s.run acts = some s') (he : s.executions[i]? = some e)
    (he' : s'.executions[i]? = some e') : e.Evolves e' := by
  have hlt : i < s.executions.length := (List.getElem?_eq_some_iff.1 he).1
  have hinv : RunInvariant s i fun _ _ e' ↦ e.Evolves e' :=
    { base := fun e₁ he₁ ↦ by rw [he] at he₁; exact Option.some.inj he₁ ▸ .refl
      queued := fun acts t _ _ _ ht hi _ ↦ absurd (onward_of_run ht).length (by omega)
      kept := fun _ _ _ _ _ _ _ hev ↦ hev
      moved := fun _ t m _ _ _ _ hm hev ↦ hev.tail ⟨t.world, m, hm⟩ }
  exact hinv.holds h he'

/-- What holds of every execution just asked for, and what every step keeps, holds in every run from
the beginning. -/
theorem run_establishes {P : Execution → Prop} {sessions : List Session} {threads : Nat}
    (hqueue : ∀ id session site callback, P (.queue id session site callback))
    (hstep : ∀ w m e e', Execution.Step w e m e' → P e → P e')
    (h : (ofSessions sessions threads).run acts = some s) (he : s.executions[i]? = some e) :
    P e := by
  have hinv : RunInvariant (ofSessions sessions threads) i fun _ _ e ↦ P e :=
    { base := fun e₁ he₁ ↦ by cases he₁
      queued := fun _ _ _ _ _ _ _ _ ↦ hqueue _ _ _ _
      kept := fun _ _ _ _ _ _ _ hP ↦ hP
      moved := fun _ t m e₁ e₂ _ _ hm hP ↦ hstep t.world m e₁ e₂ hm hP }
  exact hinv.holds h he

/-- In a run the host asked for the execution at a position, with its callback and session. -/
def AskedFor (s₀ : Sandbox) (acts : List Act) (i : Nat) (e : Execution) : Prop :=
  ∃ before site after t, acts = before ++ .start site e.callback :: after ∧
    s₀.run before = some t ∧ t.executions.length = i ∧ s₀.sessions[site]? = some e.session

theorem AskedFor.concat (h : AskedFor s₀ acts i e) (a : Act) (hcallback : e'.callback = e.callback)
    (hsession : e'.session = e.session) : AskedFor s₀ (acts ++ [a]) i e' := by
  obtain ⟨before, site, after, t, rfl, ht, hi, hs⟩ := h
  refine ⟨before, site, after ++ [a], t, ?_, ht, hi, hsession ▸ hs⟩
  rw [hcallback, List.append_assoc, List.cons_append]

/-- Every execution was asked for, and is still the one that was. -/
theorem askedFor_of_run {sessions : List Session} {threads : Nat}
    (h : (ofSessions sessions threads).run acts = some s) (he : s.executions[i]? = some e) :
    AskedFor (ofSessions sessions threads) acts i e := by
  have hinv : RunInvariant (ofSessions sessions threads) i fun acts _ e ↦
      AskedFor (ofSessions sessions threads) acts i e :=
    { base := fun e₁ he₁ ↦ by cases he₁
      queued := fun acts t site callback session ht hi hs ↦
        ⟨acts, site, [], t, rfl, ht, hi.symm, (onward_of_run ht).sessions ▸ hs⟩
      kept := fun _ a _ _ _ _ _ hasked ↦ hasked.concat a rfl rfl
      moved := fun _ _ m _ _ _ _ hm hasked ↦
        hasked.concat (.move i m) hm.callback_eq hm.session_eq }
  exact hinv.holds h he

/-- In every run the control points determine what is shown and sent. -/
theorem coherent_of_run {sessions : List Session} {threads : Nat}
    (h : (ofSessions sessions threads).run acts = some s) (he : s.executions[i]? = some e) :
    e.Coherent :=
  run_establishes Execution.coherent_queue (fun _ _ _ _ hm hc ↦ hm.coherent hc) h he

/-- In every run the calls made are the ones owed. -/
theorem accounted_of_run {sessions : List Session} {threads : Nat}
    (h : (ofSessions sessions threads).run acts = some s) (he : s.executions[i]? = some e) :
    e.Accounted :=
  run_establishes Execution.accounted_queue (fun _ _ _ _ hm ha ↦ hm.accounted ha) h he

/-! ### Moments of a run -/

/-- At a moment of a run a party of an execution moves: `before` are the acts before that moment,
and `s` and `e` what the sandbox and the execution are then. -/
structure Moment (s₀ : Sandbox) (acts : List Act) (i : Nat) (m : Move) (before : List Act)
    (s : Sandbox) (e : Execution) : Prop where
  /-- The move comes after those acts. -/
  split : ∃ after, acts = before ++ .move i m :: after
  /-- The acts lead to that sandbox. -/
  reached : s₀.run before = some s
  /-- The execution is there. -/
  present : s.executions[i]? = some e

variable {m : Move}

/-- A moment of a run is one of every longer run. -/
theorem Moment.append (h : Moment s₀ acts i m before s e) (more : List Act) :
    Moment s₀ (acts ++ more) i m before s e := by
  obtain ⟨after, rfl⟩ := h.split
  exact ⟨⟨after ++ more, by simp⟩, h.reached, h.present⟩

/-- A moment of the run up to another moment is one of the whole run. -/
theorem Moment.trans {m' : Move} {before' : List Act} {s' : Sandbox} {e' : Execution}
    (h : Moment s₀ acts i m before s e) (h' : Moment s₀ before i m' before' s' e') :
    Moment s₀ acts i m' before' s' e' := by
  obtain ⟨after, rfl⟩ := h.split
  exact h'.append _

/-- The last act of a run, if it is a move, is a moment of it. -/
theorem moment_concat (h : s₀.run before = some s) (he : s.executions[i]? = some e) :
    Moment s₀ (before ++ [.move i m]) i m before s e :=
  ⟨⟨[], rfl⟩, h, he⟩

theorem Moment.mem (h : Moment s₀ acts i m before s e) : .move i m ∈ acts := by
  obtain ⟨after, rfl⟩ := h.split
  simp

/-- What happened before a moment happened in the run. -/
theorem Moment.subset (h : Moment s₀ acts i m before s e) : before ⊆ acts := by
  obtain ⟨after, rfl⟩ := h.split
  exact List.subset_append_left _ _

/-- An execution that was there at a moment is there at the end. -/
theorem Moment.exists_execution (h : Moment s₀ acts i m before s e) (hrun : s₀.run acts = some s') :
    ∃ e', s'.executions[i]? = some e' := by
  obtain ⟨after, rfl⟩ := h.split
  exact exists_execution_of_run (run_of_append hrun h.reached) h.present

/-- The clock at a moment is not after the clock at the end. -/
theorem Moment.clock_le (h : Moment s₀ acts i m before s e) (hrun : s₀.run acts = some s') :
    s.world.clock ≤ s'.world.clock := by
  obtain ⟨after, rfl⟩ := h.split
  exact (onward_of_run (run_of_append hrun h.reached)).clock

/-- The move of a moment is possible then, and the run goes on with what it leads to. -/
theorem Moment.exists_step (h : Moment s₀ acts i m before s e) (hrun : s₀.run acts = some s')
    (he' : s'.executions[i]? = some e') :
    ∃ e₁, Execution.Step s.world e m e₁ ∧ e₁.Evolves e' := by
  obtain ⟨after, rfl⟩ := h.split
  obtain ⟨t, hm, hafter⟩ := Option.bind_eq_some_iff.1 (run_of_append hrun h.reached)
  obtain ⟨e₂, w, e₁, he₂, -, hstep, rfl⟩ := exists_of_step hm
  obtain rfl : e₂ = e := by rw [h.present] at he₂; exact (Option.some.inj he₂).symm
  have hlt : i < s.executions.length := (List.getElem?_eq_some_iff.1 he₂).1
  exact ⟨e₁, (Execution.step_cases hstep).1, evolves_of_run hafter (by simp [hlt]) he'⟩

/-- What an execution was at a moment has become what it is at the end. -/
theorem Moment.evolves (h : Moment s₀ acts i m before s e) (hrun : s₀.run acts = some s')
    (he' : s'.executions[i]? = some e') : e.Evolves e' := by
  obtain ⟨e₁, hstep, hev⟩ := h.exists_step hrun he'
  exact .head ⟨s.world, m, hstep⟩ hev

/-- **What holds now began at a moment.** What does not hold of an execution just asked for was
made to hold by a step at some moment of the run; that step is the place to look for its cause. -/
theorem exists_origin {Q : Execution → Prop} {sessions : List Session} {threads : Nat}
    (hqueue : ∀ id session site callback, ¬ Q (.queue id session site callback))
    (h : (ofSessions sessions threads).run acts = some s) (he : s.executions[i]? = some e)
    (hQ : Q e) :
    ∃ m before t x x', Moment (ofSessions sessions threads) acts i m before t x ∧
      Execution.Step t.world x m x' ∧ ¬ Q x ∧ Q x' ∧ x'.Evolves e := by
  have hinv : RunInvariant (ofSessions sessions threads) i fun acts _ e ↦ Q e →
      ∃ m before t x x', Moment (ofSessions sessions threads) acts i m before t x ∧
        Execution.Step t.world x m x' ∧ ¬ Q x ∧ Q x' ∧ x'.Evolves e :=
    { base := fun e₁ he₁ ↦ by cases he₁
      queued := fun _ _ _ _ _ _ _ _ hQ ↦ absurd hQ (hqueue _ _ _ _)
      kept := fun _ _ _ _ _ _ _ ih hQ ↦ by
        obtain ⟨m, before, t, x, x', hmoment, hrest⟩ := ih hQ
        exact ⟨m, before, t, x, x', hmoment.append _, hrest⟩
      moved := fun acts t m e e' ht he hm ih hQ' ↦ by
        -- Either it held before this move, and began earlier, or this move made it hold.
        by_cases hQ : Q e
        · obtain ⟨m₁, before, t₁, x, x', hmoment, hstep, hx, hx', hev⟩ := ih hQ
          exact ⟨m₁, before, t₁, x, x', hmoment.append _, hstep, hx, hx', hev.tail ⟨_, m, hm⟩⟩
        · exact ⟨m, acts, t, e, e', moment_concat ht he, hm, hQ, hQ', .refl⟩ }
  exact hinv.holds h he hQ

/-! ### Verdicts in a run -/

/-- A worker that has a verdict judged its result at some moment. -/
theorem exists_verdict {sessions : List Session} {threads : Nat}
    (h : (ofSessions sessions threads).run acts = some s) (he : s.executions[i]? = some e)
    {v : Verdict} (hv : e.verdict? = some v) :
    ∃ before t x result, Moment (ofSessions sessions threads) acts i .work before t x ∧
      x.worker = .judging result := by
  obtain ⟨m, before, t, x, x', hmoment, hstep, hx, hx', -⟩ :=
    exists_origin (Q := fun e ↦ e.verdict? = some v) (fun _ _ _ _ hn ↦ by cases hn) h he hv
  obtain ⟨rfl, result, hresult⟩ := hstep.judging_of_verdict? hx hx'
  exact ⟨before, t, x, result, hmoment, hresult⟩

/-- What became of a result is its verdict at the moment at which it was judged. -/
theorem verdict?_of_moment {sessions : List Session} {threads : Nat}
    (h : (ofSessions sessions threads).run acts = some s) (he : s.executions[i]? = some e)
    {t : Sandbox} {x : Execution}
    (hmoment : Moment (ofSessions sessions threads) acts i .work before t x)
    {result : Except Failure Script.Slot} (hx : x.worker = .judging result) :
    e.verdict? = some (.on x.stop result) := by
  obtain ⟨x', hstep, hev⟩ := hmoment.exists_step h he
  exact hev.verdict?_eq (hstep.verdict?_of_judging hx)

end Sandbox

end ScriptSandbox

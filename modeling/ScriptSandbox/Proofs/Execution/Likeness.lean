import Mathlib.Data.Option.Basic
import ScriptSandbox.Proofs.Execution.Completion

/-!
# Sessions that cannot be told apart

Two sessions may differ in ways that no execution of them shows. They are **alike** if they resolve
to the same, run the same script in the same way, and have the same time; and if the script loads
only cells that start alike. Executions of sessions that are alike, in worlds that are alike, move
in the same way and stay alike (`Execution.Alike.step`): this is the step of every comparison of two
whole runs.

Which cells are alike is a parameter. What an observer is told is not compared.
-/

namespace ScriptSandbox

open Script

/-! ### Sessions -/

/-- A request that loads no other cells. -/
def Script.Request.LoadsIn (K : String → Prop) : Request → Prop
  | .load cell => K cell
  | _ => True

/-- What executions of a session show is the same in two sessions, if some cells start alike. -/
structure Session.Alike (K : String → Prop) (a b : Session) : Prop where
  /-- Their sources are resolved in the same way. -/
  resolve : a.resolve = b.resolve
  /-- Their scripts run in the same way. -/
  run : a.evaluation.run = b.evaluation.run
  /-- Their executions may take the same time. -/
  maxRuntime : a.parts.config.maxRuntime = b.parts.config.maxRuntime
  /-- Only those cells are loaded. -/
  loads : a.evaluation.run.AsksOnly (Request.LoadsIn K)

/-- The run of a text follows from the interpreter, the engine and the visible bindings. -/
theorem Session.runText_congr {a b : Session} (hinterpreter : a.interpreter = b.interpreter)
    (hengine : a.engine.engine = b.engine.engine) (hvisible : a.visible = b.visible)
    (text : String) : a.runText text = b.runText text := by
  have hscope : a.scope = b.scope := congrArg (List.map _) hvisible
  unfold runText
  rw [hinterpreter, hengine, hscope]

theorem Session.evaluation_run (s : Session) : s.evaluation.run =
    if s.parts.config.strictIncludes && !s.resolve.unresolved.isEmpty then
      .done (.error (.unresolvedInclude s.resolve.unresolved))
    else s.runText (String.ofList s.resolve.text) := by
  unfold evaluation
  dsimp only
  rw [apply_ite Evaluation.run]

/-- The run of an execution follows from how the source is resolved, from the interpreter, the
configuration, the engine and the visible bindings. -/
theorem Session.evaluation_run_congr {a b : Session} (hresolve : a.resolve = b.resolve)
    (hinterpreter : a.interpreter = b.interpreter) (hconfig : a.parts.config = b.parts.config)
    (hengine : a.engine.engine = b.engine.engine) (hvisible : a.visible = b.visible) :
    a.evaluation.run = b.evaluation.run := by
  rw [a.evaluation_run, b.evaluation_run, hresolve, hconfig,
    runText_congr hinterpreter hengine hvisible]

theorem Session.evaluation_fetched (s : Session) :
    s.evaluation.fetched = s.resolve.trail.fetched := by
  unfold Session.evaluation
  dsimp only
  split <;> rfl

theorem Session.Alike.fetched {K : String → Prop} {a b : Session} (h : a.Alike K b) :
    a.evaluation.fetched = b.evaluation.fetched := by
  rw [a.evaluation_fetched, b.evaluation_fetched, h.resolve]

/-! ### Worlds -/

/-- Two worlds are alike but for some cells and for what observers were told. -/
structure World.Alike (K : Nat → String → Prop) (w w' : World) : Prop where
  /-- It is the same time. -/
  clock : w.clock = w'.clock
  /-- There are as many sessions with cells. -/
  length : w.cells.length = w'.cells.length
  /-- The cells have the same values. -/
  load : ∀ site cell, K site cell → w.load site cell = w'.load site cell
  /-- The same cells are poisoned. -/
  poisoned : w.poisoned = w'.poisoned
  /-- The host got the same messages. -/
  outbox : w.outbox = w'.outbox
  /-- As many scripts came to the gate. -/
  arrivals : w.arrivals = w'.arrivals
  /-- As many may pass. -/
  opened : w.opened = w'.opened
  /-- The same fragments were asked for. -/
  fetched : w.fetched = w'.fetched
  /-- The same calls of error callbacks were made. -/
  calls : w.calls = w'.calls

namespace World.Alike

variable {K : Nat → String → Prop} {w w' : World}

theorem read (h : w.Alike K w') {site : Nat} {cell : String} (hcell : K site cell) :
    w.read site cell = w'.read site cell := by
  have hpoisoned : w.isPoisoned site cell = w'.isPoisoned site cell := by
    rw [World.isPoisoned, World.isPoisoned, h.poisoned]
  rw [World.read, World.read, hpoisoned, h.load site cell hcell]

theorem observe (h : w.Alike K w') (event event' : Event) :
    (w.observe event).Alike K (w'.observe event') :=
  ⟨h.clock, h.length, h.load, h.poisoned, h.outbox, h.arrivals, h.opened, h.fetched, h.calls⟩

theorem store (h : w.Alike K w') (site : Nat) (cell : String) (v : Value) :
    (w.store site cell v).Alike K (w'.store site cell v) := by
  refine ⟨h.clock, ?_, fun site' cell' hcell ↦ ?_, h.poisoned, h.outbox, h.arrivals, h.opened,
    h.fetched, h.calls⟩
  · simp only [World.store, List.length_modify, h.length]
  · rw [load_store, load_store, h.length, h.load site' cell' hcell]

theorem poison (h : w.Alike K w') (site : Nat) (cell : String) :
    (w.poison site cell).Alike K (w'.poison site cell) :=
  ⟨h.clock, h.length, h.load, congrArg (List.cons (site, cell)) h.poisoned, h.outbox, h.arrivals,
    h.opened, h.fetched, h.calls⟩

theorem send (h : w.Alike K w') (message : String) :
    (w.send message).Alike K (w'.send message) :=
  ⟨h.clock, h.length, h.load, h.poisoned, congrArg (·.push message) h.outbox, h.arrivals,
    h.opened, h.fetched, h.calls⟩

theorem arrive (h : w.Alike K w') : w.arrive.Alike K w'.arrive :=
  ⟨h.clock, h.length, h.load, h.poisoned, h.outbox, congrArg (· + 1) h.arrivals, h.opened,
    h.fetched, h.calls⟩

theorem openGate (h : w.Alike K w') : w.openGate.Alike K w'.openGate :=
  ⟨h.clock, h.length, h.load, h.poisoned, h.outbox, h.arrivals, congrArg (· + 1) h.opened,
    h.fetched, h.calls⟩

theorem resolved (h : w.Alike K w') (events events' : List Event)
    {fetched fetched' : List (Nat × String)} (hfetched : fetched = fetched') :
    (w.resolved events fetched).Alike K (w'.resolved events' fetched') := by
  subst hfetched
  exact ⟨h.clock, h.length, h.load, h.poisoned, h.outbox, h.arrivals, h.opened,
    congrArg (fun x : Array (Nat × String) ↦ x ++ fetched) h.fetched, h.calls⟩

theorem called (h : w.Alike K w') (id : Nat) (f : Failure) :
    (w.called id f).Alike K (w'.called id f) :=
  ⟨h.clock, h.length, h.load, h.poisoned, h.outbox, h.arrivals, h.opened, h.fetched,
    congrArg (·.push (id, f)) h.calls⟩

end World.Alike

/-! ### Executions -/

namespace Execution

/-- The same execution of another session. -/
def reseat (e : Execution) (s : Session) : Execution := { e with session := s }

/-- Two executions are the same but for their sessions, which are alike. -/
structure Alike (K : Nat → String → Prop) (e e' : Execution) : Prop where
  /-- All else is the same. -/
  eq_reseat : e' = e.reseat e'.session
  /-- The sessions are alike. -/
  session : e.session.Alike (K e.site) e'.session
  /-- What is left of the run loads only cells that are alike. -/
  loads : ∀ run ticket, e.worker = .evaluating run ticket →
    run.AsksOnly (Request.LoadsIn (K e.site))

/-- What a move makes of a world and an execution is alike. -/
def MovesAlike (K : Nat → String → Prop) (p p' : World × Execution) : Prop :=
  p.1.Alike K p'.1 ∧ p.2.Alike K p'.2

variable {K : Nat → String → Prop} {w w' : World} {e : Execution} {s : Session} {m : Move}

/-- The execution goes on, and its script does not run. -/
theorem alike_reseat (h : e.session.Alike (K e.site) s)
    (hworker : ∀ run ticket, e.worker ≠ .evaluating run ticket) : e.Alike K (e.reseat s) :=
  ⟨rfl, h, fun run ticket hw ↦ absurd hw (hworker run ticket)⟩

theorem serve_alike (hw : w.Alike K w') {q : Request} (hq : q.LoadsIn (K e.site)) :
    (serve w e q).1 = (serve w' (e.reseat s) q).1 ∧
      (serve w e q).2.1.Alike K (serve w' (e.reseat s) q).2.1 := by
  cases q with
  | poll => exact ⟨rfl, hw⟩
  | print text => exact ⟨rfl, hw.observe _ _⟩
  | debug text p => exact ⟨rfl, hw.observe _ _⟩
  | load cell => exact ⟨hw.read hq, hw⟩
  | store cell v => exact ⟨rfl, hw.store e.site cell v⟩
  | poison cell => exact ⟨rfl, hw.poison e.site cell⟩
  | send message => exact ⟨rfl, hw.send message⟩
  | sent => exact ⟨congrArg Array.size hw.outbox, hw⟩
  | gate => exact ⟨rfl, hw⟩

theorem proceed_alike (hw : w.Alike K w') (hs : e.session.Alike (K e.site) s) {q : Request}
    {go : q.Answer → Run (Except Failure Slot)} (hq : q.LoadsIn (K e.site))
    (hgo : ∀ answer, (go answer).AsksOnly (Request.LoadsIn (K e.site))) :
    MovesAlike K (proceed w e q go) (proceed w' (e.reseat s) q go) := by
  obtain ⟨hanswer, hworld⟩ := serve_alike (s := s) hw hq
  have hleft := proceed_execution w e q go
  have hright := proceed_execution w' (e.reseat s) q go
  refine ⟨hworld, ?_⟩
  rw [hleft, hright, ← hanswer]
  refine ⟨rfl, hs, fun run ticket hrun ↦ ?_⟩
  cases hrun
  exact hgo _

theorem evaluate_alike (hw : w.Alike K w') (hs : e.session.Alike (K e.site) s)
    {run : Run (Except Failure Slot)} (ticket : Option Nat)
    (hrun : run.AsksOnly (Request.LoadsIn (K e.site))) :
    Option.Rel (MovesAlike K) (evaluate w e ticket run) (evaluate w' (e.reseat s) ticket run) := by
  cases run with
  | done result =>
    refine .some ⟨?_, alike_reseat hs fun _ _ h ↦ by cases h⟩
    rcases result with (_ | _ | _ | _) | _ <;> first | exact hw | exact hw.observe _ _
  | ask q go =>
    obtain ⟨hq, hgo⟩ := hrun.of_ask
    cases q with
    | gate =>
      rcases ticket with - | n
      · refine .some ⟨hw.arrive, ?_⟩
        rw [hw.arrivals]
        refine ⟨rfl, hs, fun run ticket h ↦ ?_⟩
        cases h
        exact hrun
      · simp only [evaluate, hw.opened]
        split
        · exact .some (proceed_alike hw hs hq hgo)
        · exact .none
    | _ => exact .some (proceed_alike hw hs hq hgo)

theorem judge_alike (hw : w.Alike K w') (hs : e.session.Alike (K e.site) s)
    (result : Except Failure Slot) :
    MovesAlike K (judge w e result) (judge w' (e.reseat s) result) := by
  rcases result with f | v
  · have hstop : (e.reseat s).stop = e.stop := rfl
    simp only [judge, hstop]
    split
    · exact ⟨hw, alike_reseat hs fun _ _ h ↦ by cases h⟩
    · exact ⟨hw.observe _ _, alike_reseat hs fun _ _ h ↦ by cases h⟩
  · exact ⟨hw, alike_reseat hs fun _ _ h ↦ by cases h⟩

theorem fail_alike (hw : w.Alike K w') (hs : e.session.Alike (K e.site) s) (f : Failure) :
    MovesAlike K (fail w e f) (fail w' (e.reseat s) f) := by
  have hcallback : (e.reseat s).callback = e.callback := rfl
  simp only [fail, hcallback]
  rcases e.callback with - | callback
  · exact ⟨hw, alike_reseat hs fun _ _ h ↦ by cases h⟩
  · simp only
    split
    · exact ⟨hw.called _ f, alike_reseat hs fun _ _ h ↦ by cases h⟩
    · exact ⟨hw.called _ f, alike_reseat hs fun _ _ h ↦ by cases h⟩

theorem work_alike (hw : w.Alike K w') (hs : e.session.Alike (K e.site) s)
    (hloads : ∀ run ticket, e.worker = .evaluating run ticket →
      run.AsksOnly (Request.LoadsIn (K e.site))) :
    Option.Rel (MovesAlike K) (work w e) (work w' (e.reseat s)) := by
  have hworker : (e.reseat s).worker = e.worker := rfl
  unfold work
  rw [hworker]
  cases hcase : e.worker with
  | queued =>
    refine .some ⟨hw, ?_⟩
    rw [hw.clock]
    exact alike_reseat hs fun _ _ h ↦ by cases h
  | taken => exact .some ⟨hw.observe _ _, alike_reseat hs fun _ _ h ↦ by cases h⟩
  | started =>
    -- The scripts that begin are the same one.
    have hrun : s.evaluation.run = e.session.evaluation.run := hs.run.symm
    refine .some ⟨hw.resolved _ _ hs.fetched, ?_⟩
    simp only [reseat, hrun]
    refine ⟨rfl, hs, fun run ticket h ↦ ?_⟩
    cases h
    exact hs.loads
  | evaluating run ticket => exact evaluate_alike hw hs ticket (hloads run ticket hcase)
  | judging result => exact .some (judge_alike hw hs result)
  | stopped =>
    have hreason : (e.reseat s).reason = e.reason := by
      have hlimit : (e.reseat s).limit = e.limit := hs.maxRuntime.symm
      simp only [reason, hlimit]
      rfl
    refine .some ⟨hw.observe _ _, ?_⟩
    simp only [noteStop, hreason]
    exact alike_reseat hs fun _ _ h ↦ by cases h
  | failing f => exact .some (fail_alike hw hs f)
  | settling o => exact .some ⟨hw, alike_reseat hs fun _ _ h ↦ by cases h⟩
  | closing o =>
    refine .some ⟨hw.observe _ _, ?_⟩
    simp only [close, hw.clock]
    exact alike_reseat hs fun _ _ h ↦ by cases h
  | finished r => exact .none
  | crashed message => exact .none

theorem join_reseat (e : Execution) (s : Session) :
    (e.reseat s).join = e.join.map fun e ↦ e.reseat s := by
  have hworker : (e.reseat s).worker = e.worker := rfl
  simp only [join, hworker]
  cases e.worker <;> rfl

/-- The session has a part in the moves of the watchdog only by its time. -/
theorem watch_reseat (hclock : w.clock = w'.clock)
    (hs : s.parts.config.maxRuntime = e.session.parts.config.maxRuntime) :
    watch w' (e.reseat s) = (watch w e).map fun e ↦ e.reseat s := by
  have hworker : (e.reseat s).worker = e.worker := rfl
  have hwatchdog : (e.reseat s).watchdog = e.watchdog := rfl
  have hlimit : (e.reseat s).limit = e.limit := hs
  have hreport : (e.reseat s).endReport? = e.endReport? := rfl
  unfold watch
  rw [hwatchdog]
  cases e.watchdog with
  | waiting =>
    simp only [hworker, hlimit, hclock]
    split
    · exact join_reseat e s
    · split <;> rfl
  | armed | joining => exact join_reseat e s
  | tripping | done => rfl
  | joined =>
    simp only [hreport]
    cases e.endReport? <;> rfl

/-- **Executions of sessions that are alike make the same moves.** -/
theorem Alike.step {e' : Execution} (he : e.Alike K e') (hw : w.Alike K w') (m : Move) :
    Option.Rel (MovesAlike K) (e.step m w) (e'.step m w') := by
  obtain ⟨heq, hs, hloads⟩ := he
  rw [heq]
  generalize e'.session = s at hs
  cases m with
  | work => exact work_alike hw hs hloads
  | watch =>
    simp only [Execution.step, watch_reseat hw.clock hs.maxRuntime.symm]
    cases hwatch : e.watch w with
    | none => exact .none
    | some e₁ =>
      have hstep : Step w e .watch e₁ := step_of_watch hwatch
      refine .some ⟨hw, rfl, ?_, fun run ticket hrun ↦ ?_⟩
      · rw [hstep.session_eq, hstep.site_eq]
        exact hs
      · rw [hstep.site_eq]
        exact hloads run ticket (hstep.worker_eq (by decide) ▸ hrun)
  | expire =>
    have hwatchdog : (e.reseat s).watchdog = e.watchdog := rfl
    simp only [Execution.step, expire, hwatchdog, hw.clock]
    cases e.watchdog with
    | armed due =>
      simp only
      split
      · exact .some ⟨hw.observe _ _, rfl, hs, hloads⟩
      · exact .none
    | _ => exact .none
  | cancel => exact .some ⟨hw, rfl, hs, hloads⟩
  | release => exact .some ⟨hw, rfl, hs, hloads⟩

end Execution

end ScriptSandbox

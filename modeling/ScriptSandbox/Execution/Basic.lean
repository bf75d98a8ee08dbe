import ScriptSandbox.Execution.Summary
import ScriptSandbox.Execution.World

/-!
# Executions

An execution is worked on by three parties. Its worker resolves, evaluates and judges the result;
its watchdog waits for the worker, stops it when its deadline has come, and sends the report; the
host may cancel it and may let go of its handle. The parties share three things: the lifecycle, the
request to stop, and the note that the deadline was met. Each move of a party is one step, so all
their interleavings are sequences of moves.

The request to stop and the note of the deadline are written one after the other, the note first,
and are read in the opposite order. So a worker that sees a request which its watchdog made also
sees the note.
-/

namespace ScriptSandbox

open Script

/-- What an error callback does. -/
inductive CallbackReply where
  | returns
  /-- It breaks down; its message, if it leaves one. -/
  | panics (message : Option String)
  deriving DecidableEq, Repr

/-- What the host wants called with the failure of an execution. -/
abbrev Callback := Failure → CallbackReply

/-- How far a worker has come. -/
inductive Worker where
  /-- No thread has taken it. -/
  | queued
  /-- A thread has taken it. -/
  | taken
  /-- Its watchdog knows that it started. -/
  | started
  /-- The script runs; at the gate, with its number in the order of arrival. -/
  | evaluating (run : Run (Except Failure Slot)) (ticket : Option Nat)
  /-- The evaluation has a result. -/
  | judging (result : Except Failure Slot)
  /-- The script was stopped, on request. -/
  | stopped
  /-- The script failed. -/
  | failing (f : Failure)
  /-- The outcome is known. -/
  | settling (o : Outcome)
  /-- The lifecycle shows the outcome, and the report is being made. -/
  | closing (o : Outcome)
  /-- The worker ended. -/
  | finished (r : Report)
  /-- The worker broke down. -/
  | crashed (message : String)

namespace Worker

/-- Whether the worker has ended in one way or the other. -/
def isDone : Worker → Bool
  | finished _ | crashed _ => true
  | _ => false

/-- Whether the watchdog knows that the worker started. -/
def isAnnounced : Worker → Bool
  | queued | taken => false
  | _ => true

/-- Whether the worker holds a thread. -/
def isBusy : Worker → Bool
  | queued | finished _ | crashed _ => false
  | _ => true

/-- Whether no thread has taken the worker. -/
def isQueued : Worker → Bool
  | queued => true
  | _ => false

end Worker

/-- How far a watchdog has come. -/
inductive Watchdog where
  /-- It waits for the worker to start. -/
  | waiting
  /-- It waits for the worker to end, until a time. -/
  | armed (due : Nat)
  /-- It has noted that the deadline was met, and is about to ask for the stop. -/
  | tripping
  /-- It has asked for the stop, and waits for the worker to end. -/
  | joining
  /-- It has seen the end of the worker, and is about to send the report. -/
  | joined
  /-- It has sent the report. -/
  | done
  deriving DecidableEq, Repr

/-- One execution of a session. -/
structure Execution where
  /-- Its number. -/
  id : Nat
  /-- What it executes. -/
  session : Session
  /-- Where the session's cells are in the world. -/
  site : Nat
  /-- What the host wants called if it fails. -/
  callback : Option Callback
  /-- How far it has come. -/
  state : Lifecycle
  /-- Whether it has been asked to stop. -/
  stop : Bool
  /-- Whether its deadline was met. -/
  deadlineHit : Bool
  /-- What the script printed. -/
  logs : Array String
  /-- When a thread took it. -/
  startedAt : Nat
  /-- Its worker. -/
  worker : Worker
  /-- Its watchdog. -/
  watchdog : Watchdog
  /-- The failures its callback was called with. -/
  called : List Failure
  /-- The reports sent. -/
  sent : List Report
  /-- Whether the host still holds its handle. -/
  held : Bool

/-- A move of one of the parties. -/
inductive Move where
  /-- The worker goes on. -/
  | work
  /-- The watchdog goes on. -/
  | watch
  /-- The watchdog's time is over. -/
  | expire
  /-- The host cancels the execution. -/
  | cancel
  /-- The host lets go of the handle. -/
  | release
  deriving DecidableEq, Repr

/-- The script prints. -/
def Event.printed (text : String) : Event := ⟨.info, text, true, []⟩

/-- The script shows something for diagnostics. -/
def Event.shown (text : String) (p : Position) : Event :=
  ⟨.debug, text, true, [("source", "None"), ("pos", p.short)]⟩

namespace Execution

/-- An execution that waits for a thread. -/
def queue (id : Nat) (session : Session) (site : Nat) (callback : Option Callback) : Execution where
  id := id
  session := session
  site := site
  callback := callback
  state := .pending
  stop := false
  deadlineHit := false
  logs := #[]
  startedAt := 0
  worker := .queued
  watchdog := .waiting
  called := []
  sent := []
  held := true

/-- The time it may take. -/
def limit (e : Execution) : Span := e.session.parts.config.maxRuntime

/-- Whether it has come to an end. -/
def isFinished (e : Execution) : Bool := e.state.isTerminal

/-- Answers a request of the script. The gate is passed when it is answered. -/
def serve (w : World) (e : Execution) : (q : Request) → q.Answer × World × Execution
  | .poll => (e.stop, w, e)
  | .print text => ((), w.observe (.printed text), { e with logs := e.logs.push text })
  | .debug text p => ((), w.observe (.shown text p), e)
  | .load cell => (w.read e.site cell, w, e)
  | .store cell value => ((), w.store e.site cell value, e)
  | .poison cell => ((), w.poison e.site cell, e)
  | .send message => ((), w.send message, e)
  | .sent => (w.outbox.size, w, e)
  | .gate => ((), w, e)

/-- The script's next request is answered, and it goes on. -/
def proceed (w : World) (e : Execution) (q : Request)
    (go : q.Answer → Run (Except Failure Slot)) : World × Execution :=
  let (a, w, e) := serve w e q
  (w, { e with worker := .evaluating (go a) none })

/-- The worker goes on while the script runs. A script at the gate takes a number first, and waits
until that number may pass. -/
def evaluate (w : World) (e : Execution) (ticket : Option Nat) :
    Run (Except Failure Slot) → Option (World × Execution)
  | .done result =>
    let w := match result with
      | .error (.panicked message) => w.observe (.note .error message [])
      | _ => w
    some (w, { e with worker := .judging result })
  | r@(.ask .gate go) =>
    match ticket with
    | none => some (w.arrive, { e with worker := .evaluating r (some w.arrivals) })
    | some n => if n < w.opened then some (proceed w e .gate go) else none
  | .ask q go => some (proceed w e q go)

/-- What is made of a result. A stop counts only where it was asked for; any other failure is the
script's own. -/
def judge (w : World) (e : Execution) : Except Failure Slot → World × Execution
  | .ok v => (w, { e with worker := .settling (.completed v) })
  | .error f =>
    if f.isTermination && e.stop then (w, { e with worker := .stopped })
    else
      (w.observe (.note .info "script failed" [("error", f.message)]),
        { e with worker := .failing f })

/-- Why the execution was stopped. -/
def reason (e : Execution) : Termination :=
  if e.deadlineHit then .deadline e.limit else .cancelled

/-- The worker goes on after a stop. -/
def noteStop (w : World) (e : Execution) : World × Execution :=
  (w.observe (.note .warn "script forcibly terminated" [("reason", e.reason.diagnostic)]),
    { e with worker := .settling (.terminated e.reason) })

/-- The worker calls the callback, if there is one. -/
def fail (w : World) (e : Execution) (f : Failure) : World × Execution :=
  match e.callback with
  | none => (w, { e with worker := .settling (.failed f) })
  | some callback =>
    let e := { e with called := e.called ++ [f] }
    match callback f with
    | .returns => (w.called e.id f, { e with worker := .settling (.failed f) })
    | .panics message => (w.called e.id f, { e with worker := .crashed (panicText message) })

/-- The lifecycle moves on to the outcome. -/
def settle (w : World) (e : Execution) (o : Outcome) : World × Execution :=
  (w, { e with state := e.state.advance o.state, worker := .closing o })

/-- The worker makes its report, and ends. -/
def close (w : World) (e : Execution) (o : Outcome) : World × Execution :=
  let elapsed := Span.ofNanos (w.clock - e.startedAt)
  (w.observe (.note .info "script finished" [("state", o.state.diagnostic)]),
    { e with worker := .finished ⟨e.id, o, e.logs.toList, elapsed⟩ })

/-- The worker goes on. -/
def work (w : World) (e : Execution) : Option (World × Execution) :=
  match e.worker with
  | .queued =>
    some (w, { e with
      state := e.state.advance .running
      startedAt := w.clock
      worker := .taken })
  | .taken =>
    some (w.observe (.note .info "script started" []), { e with worker := .started })
  | .started =>
    let evaluation := e.session.evaluation
    some (w.resolved evaluation.events evaluation.fetched,
      { e with worker := .evaluating evaluation.run none })
  | .evaluating run ticket => evaluate w e ticket run
  | .judging result => some (judge w e result)
  | .stopped => some (noteStop w e)
  | .failing f => some (fail w e f)
  | .settling o => some (settle w e o)
  | .closing o => some (close w e o)
  | .finished _ | .crashed _ => none

/-- The watchdog sees the end of the worker. An execution whose worker broke down has failed. -/
def join (e : Execution) : Option Execution :=
  match e.worker with
  | .finished _ => some { e with watchdog := .joined }
  | .crashed _ => some { e with state := e.state.advance .failed, watchdog := .joined }
  | _ => none

/-- The report on an execution whose worker has ended: the worker's own, or one made for a worker
that broke down. -/
def endReport? (e : Execution) : Option Report :=
  match e.worker with
  | .finished r => some r
  | .crashed message => some (.panicked e.id message)
  | _ => none

/-- The watchdog goes on. The end of the worker comes before everything else. -/
def watch (w : World) (e : Execution) : Option Execution :=
  match e.watchdog with
  | .waiting =>
    if e.worker.isDone then e.join
    else if e.worker.isAnnounced then
      some { e with watchdog := .armed (w.clock + e.limit.totalNanos) }
    else none
  | .armed _ | .joining => e.join
  | .tripping => some { e with stop := true, watchdog := .joining }
  | .joined => e.endReport?.map fun r ↦ { e with sent := e.sent ++ [r], watchdog := .done }
  | .done => none

/-- An armed watchdog finds that its time is over. It looked at the worker before it looked at the
time, so the worker may have ended in between. -/
def expire (w : World) (e : Execution) : Option (World × Execution) :=
  match e.watchdog with
  | .armed due =>
    if due ≤ w.clock then
      some
        (w.observe (.note .warn "deadline reached; terminating script"
          [("limit_ms", toString e.limit.millis)]),
          { e with deadlineHit := true, watchdog := .tripping })
    else none
  | _ => none

/-- The effect of a move, if it is possible. -/
def step (m : Move) (w : World) (e : Execution) : Option (World × Execution) :=
  match m with
  | .work => work w e
  | .watch => (watch w e).map (w, ·)
  | .expire => expire w e
  | .cancel => some (w, { e with stop := true })
  | .release => some (w, { e with held := false })

/-- When the watchdog's time will be over. -/
def due? (e : Execution) : Option Nat :=
  match e.watchdog with
  | .armed due => if e.worker.isDone then none else some due
  | _ => none

end Execution

end ScriptSandbox

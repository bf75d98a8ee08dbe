import ScriptSandbox.Execution.Basic

/-!
# Sandboxes

The sessions of a host, their executions, and the threads that work on these. A step is a move of
one party of one execution; it changes that execution and the shared world, and no other execution.
Once a sandbox is shut down its watchdogs are gone and no thread takes a worker that waits, but
workers that hold a thread go on.
-/

namespace ScriptSandbox

/-- Sessions and their executions. -/
structure Sandbox where
  /-- The sessions. -/
  sessions : List Session
  /-- How many workers can hold a thread at one time. -/
  threads : Nat
  /-- Whether it has not been shut down. -/
  isLive : Bool
  /-- What the executions share. -/
  world : World
  /-- The executions, in the order in which they were asked for. -/
  executions : List Execution

namespace Sandbox

/-- A sandbox in which nothing has been executed. -/
def ofSessions (sessions : List Session) (threads : Nat) : Sandbox :=
  ⟨sessions, threads, true, .start sessions, []⟩

/-- How many workers hold a thread. -/
def busy (s : Sandbox) : Nat := s.executions.countP fun e ↦ e.worker.isBusy

/-- Whether a party of an execution may move at all. -/
def permits (s : Sandbox) (e : Execution) : Move → Bool
  | .work => !e.worker.isQueued || (s.isLive && s.busy < s.threads)
  | .watch | .expire => s.isLive
  | .cancel | .release => true

/-- A party of the execution at a position moves. -/
def step (s : Sandbox) (i : Nat) (m : Move) : Option Sandbox :=
  match s.executions[i]? with
  | none => none
  | some e =>
    if s.permits e m then
      (e.step m s.world).map fun (w, e) ↦
        { s with world := w, executions := s.executions.set i e }
    else none

/-- The number of the next execution. -/
def nextId (s : Sandbox) : Nat := s.executions.length + 1

/-- Asks for an execution of the session at a position. -/
def start (s : Sandbox) (site : Nat) (callback : Option Callback) : Sandbox :=
  match s.sessions[site]? with
  | none => s
  | some session =>
    { s with executions := s.executions ++ [.queue s.nextId session site callback] }

/-- Shuts the sandbox down. -/
def shutdown (s : Sandbox) : Sandbox := { s with isLive := false }

/-- Time passes, but never backwards. -/
def passTo (s : Sandbox) (clock : Nat) : Sandbox :=
  { s with world := { s.world with clock := max s.world.clock clock } }

/-- One more script may pass the gate. -/
def openGate (s : Sandbox) : Sandbox := { s with world := s.world.openGate }

/-- The host resolves a session's source itself. -/
def resolve (s : Sandbox) (site : Nat) : Option (Include.Resolution Unit × Sandbox) :=
  s.sessions[site]?.map fun session ↦
    let r := session.resolve
    (r, { s with world := s.world.resolved r.trail.events r.trail.fetched })

/-- The fragments asked for since this was last asked. -/
def takeFetched (s : Sandbox) : List (Nat × String) × Sandbox :=
  (s.world.fetched.toList, { s with world := { s.world with fetched := #[] } })

/-- The report on the execution at a position, if its handle has one: the one its watchdog sent, or,
once the sandbox is shut down, one that says so. -/
def report? (s : Sandbox) (i : Nat) : Option Report :=
  match s.executions[i]? with
  | none => none
  | some e =>
    match e.sent.head? with
    | some r => some r
    | none =>
      if s.isLive then none
      else some (.panicked e.id "supervisor stopped before reporting")

/-- Whether the execution at a position has come to an end. -/
def isFinished (s : Sandbox) (i : Nat) : Bool :=
  match s.executions[i]? with
  | some e => e.isFinished
  | none => false

end Sandbox

end ScriptSandbox

import ScriptSandbox.Sandbox.Basic

/-!
# A schedule

One of the many orders in which the parties can move, so that a sandbox can be driven without
threads. In each round every execution, the oldest first, gets a slice of moves for its worker, and
its watchdog does what it can. A round takes time in proportion to the slice. When nobody can
move, time jumps to the next deadline, and when there is none the sandbox rests.
-/

namespace ScriptSandbox.Sandbox

/-- How many moves a worker makes in one round. -/
def slice : Nat := 1000

/-- The nanoseconds that a round takes in which somebody moves. -/
def roundNanos : Nat := slice * 250

/-- How many moves a watchdog can make in a row. -/
def watchMoves : Nat := 3

/-- A party moves up to a number of times; gives also how many moves it made. -/
def repeatStep (i : Nat) (m : Move) : Nat → Sandbox → Sandbox × Nat
  | 0, s => (s, 0)
  | n + 1, s =>
    match s.step i m with
    | none => (s, 0)
    | some s =>
      let (s, moves) := repeatStep i m n s
      (s, moves + 1)

/-- The worker and the watchdog of the execution at a position move. -/
def turn (i : Nat) (s : Sandbox) : Sandbox × Nat :=
  let (s, worked) := repeatStep i .work slice s
  let (s, watched) := repeatStep i .watch watchMoves s
  (s, worked + watched)

/-- The positions of the executions. -/
def positions (s : Sandbox) : List Nat := List.range s.executions.length

/-- Every execution gets its turn; gives also how many moves were made. -/
def turns (s : Sandbox) : Sandbox × Nat :=
  s.positions.foldl
    (fun (s, moves) i ↦
      let (s, more) := turn i s
      (s, moves + more))
    (s, 0)

/-- The watchdog at a position stops its execution if its time is over. -/
def expireAt (s : Sandbox) (i : Nat) : Sandbox :=
  match s.executions[i]?.bind Execution.due? with
  | some due =>
    if due ≤ s.world.clock then
      let s := (s.step i .expire).getD s
      (repeatStep i .watch watchMoves s).1
    else s
  | none => s

/-- All watchdogs whose time is over stop their executions. -/
def expireDue (s : Sandbox) : Sandbox := s.positions.foldl expireAt s

/-- The time of the next deadline. -/
def nextDue (s : Sandbox) : Option Nat :=
  if s.isLive then (s.executions.filterMap Execution.due?).min? else none

/-- Time passes, and watchdogs act on it. -/
def elapse (clock : Nat) (s : Sandbox) : Sandbox := (s.passTo clock).expireDue

/-- The time at which the round after this one begins, given the moves made in this one; none if
nothing will happen any more. -/
def nextRound (s : Sandbox) (moves : Nat) : Option Nat :=
  if moves = 0 then s.nextDue else some (s.world.clock + roundNanos)

/-- A bound on the rounds of one drive. -/
def maxRounds : Nat := 1000000000

/-- Rounds are made until a goal is reached or nothing will happen any more. -/
def driveFor (goal : Sandbox → Bool) : Nat → Sandbox → Sandbox
  | 0, s => s
  | rounds + 1, s =>
    if goal s then s
    else
      let (s, moves) := s.turns
      match s.nextRound moves with
      | some clock => driveFor goal rounds (s.elapse clock)
      | none => s

/-- Drives the sandbox to a goal. -/
def drive (goal : Sandbox → Bool) (s : Sandbox) : Sandbox := s.driveFor goal maxRounds

/-- Rounds are made until a time comes. -/
def sleepFor (wake : Nat) : Nat → Sandbox → Sandbox
  | 0, s => s
  | rounds + 1, s =>
    let (s, moves) := s.turns
    match s.nextRound moves with
    | some clock => if clock ≤ wake then sleepFor wake rounds (s.elapse clock) else s
    | none => s

/-- The sandbox some milliseconds later. -/
def sleep (millis : Nat) (s : Sandbox) : Sandbox :=
  let wake := s.world.clock + millis * 1000000
  (s.sleepFor wake maxRounds).elapse wake

/-- Waits for the report on the execution at a position. -/
def awaitReport (i : Nat) (s : Sandbox) : Sandbox := s.drive fun s ↦ (s.report? i).isSome

/-- Waits until the execution at a position has come to an end. -/
def awaitFinished (i : Nat) (s : Sandbox) : Sandbox := s.drive fun s ↦ s.isFinished i

/-- Waits until more scripts have come to the gate than may pass it. -/
def awaitGate (s : Sandbox) : Sandbox := s.drive fun s ↦ s.world.opened < s.world.arrivals

/-- Waits until the host has so many messages. -/
def awaitOutbox (n : Nat) (s : Sandbox) : Sandbox := s.drive fun s ↦ n ≤ s.world.outbox.size

end ScriptSandbox.Sandbox

import ScriptSandbox.Session.Basic

/-!
# The world of executions

All that executions share: the time, the cells of shared variables, the host's outbox, the gate, and
the record of what was observed. The gate lets scripts through in the order in which they came; it
counts those that came and those that may pass.
-/

namespace ScriptSandbox

open Text Script

/-- What executions share with each other and with the host. -/
structure World where
  /-- The time, in nanoseconds. -/
  clock : Nat
  /-- The shared variables of each session. -/
  cells : List (NameMap Value)
  /-- The cells that are poisoned: the position of the session, and the name. -/
  poisoned : List (Nat × String)
  /-- The messages that the host got. -/
  outbox : Array String
  /-- How many scripts have come to the gate. -/
  arrivals : Nat
  /-- How many of them may pass. -/
  opened : Nat
  /-- What an observer was told. -/
  events : Array Event
  /-- The fragments asked for. -/
  fetched : Array (Nat × String)
  /-- The calls of error callbacks: the number of the execution, and the failure. -/
  calls : Array (Nat × Failure)

namespace World

/-- The world before anything runs. -/
def start (sessions : List Session) : World where
  clock := 0
  cells := sessions.map Session.cells
  poisoned := []
  outbox := #[]
  arrivals := 0
  opened := 0
  events := #[]
  fetched := #[]
  calls := #[]

/-- An observer is told something. -/
def observe (w : World) (e : Event) : World := { w with events := w.events.push e }

/-- The value in a cell of a session. -/
def load (w : World) (site : Nat) (cell : String) : Value :=
  (w.cells[site]?.bind (·.get? cell)).getD .unit

/-- Whether a cell of a session is poisoned. -/
def isPoisoned (w : World) (site : Nat) (cell : String) : Bool := w.poisoned.contains (site, cell)

/-- What reading a cell of a session gives: its value, unless the cell is poisoned. -/
def read (w : World) (site : Nat) (cell : String) : Option Value :=
  if w.isPoisoned site cell then none else some (w.load site cell)

/-- A cell of a session gets a value. -/
def store (w : World) (site : Nat) (cell : String) (value : Value) : World :=
  { w with cells := w.cells.modify site (·.insert cell value) }

/-- Nobody can read a cell of a session any more. -/
def poison (w : World) (site : Nat) (cell : String) : World :=
  { w with poisoned := (site, cell) :: w.poisoned }

/-- The host gets a message. -/
def send (w : World) (message : String) : World := { w with outbox := w.outbox.push message }

/-- A script comes to the gate. -/
def arrive (w : World) : World := { w with arrivals := w.arrivals + 1 }

/-- One more script may pass the gate. -/
def openGate (w : World) : World := { w with opened := w.opened + 1 }

/-- A resolution has been made. -/
def resolved (w : World) (events : List Event) (fetched : List (Nat × String)) : World :=
  { w with events := w.events ++ events, fetched := w.fetched ++ fetched }

/-- An error callback is called. -/
def called (w : World) (id : Nat) (f : Failure) : World := { w with calls := w.calls.push (id, f) }

end World

end ScriptSandbox

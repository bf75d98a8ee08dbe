import ScriptSandbox.Script.Error

/-!
# Runs of scripts

A run is a tree: it ends, or it makes a request to the world around it and goes on with the answer.
All that a script does to the world, and all that the world does to a script, passes through these
requests; between two of them a run is a pure computation. At every operation a run asks whether it
has to stop, which is the only place where it can be stopped.

A shared variable is a lock around a value, held while the variable is changed. When a host function
breaks down meanwhile the lock is poisoned: what was changed until then stays in the cell, but
nobody can read it any more.
-/

namespace ScriptSandbox.Script

/-- What a run asks of the world. -/
inductive Request where
  /-- Whether to stop; asked at every operation. -/
  | poll
  /-- The script prints a text. -/
  | print (text : String)
  /-- The script shows a text for diagnostics, from a position. -/
  | debug (text : String) (position : Position)
  /-- The value of a variable shared between executions. -/
  | load (cell : String)
  /-- A new value for a shared variable. -/
  | store (cell : String) (value : Value)
  /-- A host function broke down while a shared variable was changed. -/
  | poison (cell : String)
  /-- A message to the host. -/
  | send (message : String)
  /-- How many messages the host has. -/
  | sent
  /-- Wait until the host lets the script through. -/
  | gate

/-- What the world answers to a request. There is no value to load from a poisoned cell. -/
def Request.Answer : Request → Type
  | poll => Bool
  | load _ => Option Value
  | sent => Nat
  | _ => Unit

/-- The answer of a world in which nobody else is. -/
def Request.quietAnswer : (q : Request) → q.Answer
  | poll => false
  | load _ => some Value.unit
  | sent => (0 : Nat)
  | print _ | debug _ _ | store _ _ | poison _ | send _ | gate => ()

/-- A run that ends with an `α`. -/
inductive Run (α : Type) where
  | done (a : α)
  | ask (q : Request) (go : q.Answer → Run α)

namespace Run

variable {α β : Type}

/-- A run that goes on with what another ends with. -/
def bind (r : Run α) (f : α → Run β) : Run β :=
  match r with
  | done a => f a
  | ask q go => ask q fun answer ↦ (go answer).bind f

instance : Monad Run where
  pure := done
  bind := bind

/-- The run that makes one request. -/
def request (q : Request) : Run q.Answer := ask q done

/-- What a run ends with that nobody stops, listens to or shares anything with. -/
def alone : Run α → α
  | done a => a
  | ask q go => (go q.quietAnswer).alone

end Run

/-- How the run of a script ends that gives back an `α`. -/
inductive Ending (α : Type) where
  | value (v : α)
  | failed (e : EvalError)
  /-- The host's code broke down; its message, if it left one. -/
  | panicked (message : Option String)

/-- The value in a slot, unless it is in a cell that is poisoned. -/
def Slot.read : Slot → Run (Option Value)
  | own v => .done (some v)
  | shared cell => Run.request (.load cell)

/-- The message of a breakdown at a poisoned cell. -/
def poisonedText : String := "called `Option::unwrap()` on a `None` value"

/-- An ending with the value itself where a shared variable was given back. -/
def Ending.flatten : Ending Slot → Run (Ending Value)
  | value slot => slot.read.bind fun v? ↦
    .done (v?.elim (.panicked (some poisonedText)) .value)
  | failed e => .done (.failed e)
  | panicked message => .done (.panicked message)

/-- What a host function gives back, with the new value of its first argument if it changed that
before it came to its end. -/
inductive Reply where
  | returned (result : Value) (receiver : Option Value)
  | failed (cause : Cause) (receiver : Option Value)
  | panicked (message : Option String) (receiver : Option Value)
  deriving Inhabited

end ScriptSandbox.Script

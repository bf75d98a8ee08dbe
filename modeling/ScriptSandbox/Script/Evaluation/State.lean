import ScriptSandbox.Script.Library
import ScriptSandbox.Script.Ast

/-!
# The state of a running script

What a part of a script acts on and how it ends. A part is written in continuation style: it is
told the state and what comes after it, so what a script does next is always the rest of its run,
whether the part has a value, raises an error or leaves a loop. The parts refer to each other
through an evaluation of tasks that each is given.
-/

namespace ScriptSandbox.Script

/-- A variable of a running script. -/
structure Variable where
  /-- Its name. -/
  name : String
  /-- Where its value is. -/
  slot : Slot
  /-- What a constant was declared with, none of which can be changed. -/
  frozen : Option Value
  deriving Inhabited

/-- What a function is called on, or a step is made from. -/
structure Subject where
  /-- The value. -/
  value : Value
  /-- The part of it that cannot be changed. -/
  frozen : Option Value

/-- Whether a subject is, or is a part of, what a constant was declared with. -/
def Subject.isFrozen (s : Subject) : Bool := s.frozen.isSome

/-- The state of a running script. -/
structure State where
  /-- The variables in scope, the latest last. -/
  scope : Array Variable
  /-- How many of them are from outside the current block. -/
  base : Nat
  /-- The operations so far. -/
  operations : Nat
  /-- How many calls are nested. -/
  level : Nat
  /-- What the current function is called on. -/
  this : Option Subject
  /-- The new value of what the last method was called on, if it changed that. -/
  receiver : Option Value

/-- What keeps a part of a script from having a value. -/
inductive Signal where
  | error (e : EvalError)
  /-- The host's code broke down, which no script can catch. -/
  | panic (message : Option String)
  | breakLoop (value : Value)
  | continueLoop
  | returned (value : Value)

/-- A part of a run: it is told the state and what comes after it. -/
def EvalM (α : Type) : Type :=
  State → (Except Signal α → State → Run (Ending Slot)) → Run (Ending Slot)

namespace EvalM

variable {α β : Type}

instance : Monad EvalM where
  pure a := fun s k ↦ k (.ok a) s
  bind m f := fun s k ↦ m s fun r s ↦
    match r with
    | .ok a => f a s k
    | .error e => k (.error e) s

/-- Ends a part without a value. -/
def signal (e : Signal) : EvalM α := fun s k ↦ k (.error e) s

/-- Raises an error at a position. -/
def raise (cause : Cause) (p : Position) : EvalM α := signal (.error (.raised cause p))

/-- The outcome of a part, whatever it is. -/
def attempt (m : EvalM α) : EvalM (Except Signal α) := fun s k ↦ m s fun r s ↦ k (.ok r) s

/-- An outcome as a part. -/
def resume (r : Except Signal α) : EvalM α := fun s k ↦ k r s

/-- The state. -/
def state : EvalM State := fun s k ↦ k (.ok s) s

/-- Changes the state. -/
def update (f : State → State) : EvalM Unit := fun s k ↦ k (.ok ()) (f s)

/-- Makes a request. -/
def ask (q : Request) : EvalM q.Answer := fun s k ↦ .ask q fun a ↦ k (.ok a) s

/-- Breaks down. -/
def panic (message : Option String) : EvalM α := signal (.panic message)

/-- A run inside this one. -/
def lift (r : Run α) : EvalM α := fun s k ↦ r.bind fun a ↦ k (.ok a) s

end EvalM

open EvalM

/-- What does not change during a run. -/
structure Env where
  /-- The engine. -/
  engine : Engine
  /-- The functions of the script. -/
  functions : List Function

/-- What is still to be evaluated. -/
inductive Task where
  | expr (e : Expr)
  | stmt (s : Stmt)
  /-- Statements in a scope of their own. -/
  | block (body : List Stmt)
  | whileLoop (condition : Option Expr) (body : List Stmt) (bodyAt : Position)
  | doLoop (body : List Stmt) (condition : Expr) (whenTrue : Bool)
  /-- The turns of a loop over integers that are left. -/
  | countLoop (item : Nat) (counter : Option Nat) (turn : Nat) (next last : Int)
      (body : List Stmt) (bodyAt : Position)
  /-- The turns of a loop over items that are left. -/
  | itemLoop (item : Nat) (counter : Option Nat) (turn : Nat) (items : List Value)
      (body : List Stmt) (bodyAt : Position)

/-- What evaluates tasks. -/
abbrev Eval := Task → EvalM Value

/-! ### Operations and sizes -/

/-- Counts an operation at a position, and stops the run if it is told to. -/
def tick (env : Env) (p : Position) : EvalM Unit := do
  update fun s ↦ { s with operations := s.operations + 1 }
  let s ← state
  let limit := env.engine.limits.operations
  if limit ≠ 0 ∧ limit < s.operations then raise .tooManyOperations p
  else
    let stop : Bool ← ask .poll
    if stop then raise .terminated p else return

/-- What is over a limit in some sizes. -/
def Limits.exceeded? (l : Limits) (s : Value.Sizes) : Option String :=
  if l.stringSize ≠ 0 ∧ l.stringSize < s.bytes then some "Length of string"
  else if l.arraySize ≠ 0 ∧ l.arraySize < s.items then some "Size of array/BLOB"
  else if l.mapSize ≠ 0 ∧ l.mapSize < s.entries then some "Size of object map"
  else none

/-- Refuses a value over a limit. -/
def checkSize (env : Env) (v : Value) (p : Position) : EvalM Unit :=
  match env.engine.limits.exceeded? v.sizes with
  | some what => raise (.tooLarge what) p
  | none => return

/-- The value of an outcome whose errors are at a position. -/
def valueAt {α : Type} (r : Except Cause α) (p : Position) : EvalM α :=
  match r with
  | .ok a => return a
  | .error cause => raise cause p

/-- A value that has to be a truth value. -/
def truth (env : Env) (v : Value) (p : Position) : EvalM Bool :=
  match v with
  | .bool b => return b
  | v => raise (.mismatch (env.engine.typeName v.typeId) "bool") p

/-! ### Variables -/

/-- The place of the latest variable of a name. -/
def findVariable? (scope : Array Variable) (name : String) : Option Nat :=
  go scope.size
where
  /-- Looks among the first `n` variables. -/
  go : Nat → Option Nat
    | 0 => none
    | n + 1 => if (scope[n]?.map (·.name)) = some name then some n else go n

/-- The value in a slot; reading a poisoned cell breaks down. -/
def readSlot (slot : Slot) : EvalM Value := do
  match ← lift slot.read with
  | some v => return v
  | none => panic (some poisonedText)

/-- The place and the slot of a variable. The name of a function of the script stands for the
function, which has no place. -/
def findSlot (env : Env) (name : String) (p : Position) : EvalM (Option Nat × Slot) := do
  let s ← state
  match findVariable? s.scope name with
  | some i => return (some i, (s.scope.getD i default).slot)
  | none =>
    if env.functions.any (·.name = name) then return (none, .own (.function name))
    else raise (.variableNotFound name) p

/-- The place and the value of a variable. -/
def readVariable (env : Env) (name : String) (p : Position) : EvalM (Option Nat × Value) := do
  let (i?, slot) ← findSlot env name p
  return (i?, ← readSlot slot)

/-- What the variable at a place was declared with, if it is a constant. -/
def frozenVariable (i : Nat) : EvalM (Option Value) := do
  return ((← state).scope.getD i default).frozen

/-- Gives a variable a value. -/
def writeVariable (i : Nat) (v : Value) : EvalM Unit := do
  let s ← state
  match (s.scope.getD i default).slot with
  | .own _ =>
    update fun s ↦ { s with scope := s.scope.modify i fun x ↦ { x with slot := .own v } }
  | .shared cell => ask (.store cell v)

/-- Takes the value of a variable away, so that it can be changed in place. -/
def takeVariable (i : Nat) : EvalM Unit :=
  update fun s ↦ { s with
    scope := s.scope.modify i fun x ↦
      match x.slot with
      | .own _ => { x with slot := .own .unit }
      | .shared _ => x }

/-- Changes the variable at a place. What breaks down meanwhile poisons the cell of a shared
variable. -/
def changing {α : Type} (i : Nat) (change : EvalM α) : EvalM α := do
  let r ← attempt change
  match r, ((← state).scope.getD i default).slot with
  | .error (.panic _), .shared cell => ask (.poison cell)
  | _, _ => pure ()
  resume r

/-- Puts a variable into scope that can be assigned to. -/
def pushVariable (name : String) (v : Value) : EvalM Unit :=
  update fun s ↦ { s with scope := s.scope.push ⟨name, .own v, none⟩ }

/-- Evaluates in a scope of its own. -/
def inBlock {α : Type} (body : EvalM α) : EvalM α := do
  let before ← state
  let size := before.scope.size
  let base := before.base
  update fun s ↦ { s with base := size }
  let r ← attempt body
  update fun s ↦ { s with scope := s.scope.take size, base := base }
  resume r

end ScriptSandbox.Script

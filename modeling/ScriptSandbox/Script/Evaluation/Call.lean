import ScriptSandbox.Script.Evaluation.State
import ScriptSandbox.Script.Operator

/-!
# Calls

A function of the script comes before one of the host, and that before one of the standard library.
A call makes a scope of its own, and an error that leaves it is wrapped with the name of the
function, unless it is one that passes calls. Every call counts as an operation; operators that
every engine has are no calls.
-/

namespace ScriptSandbox.Script

open EvalM

/-- Calls a function of the script at a position. -/
def callScript (env : Env) (eval : Eval) (f : Function) (args : List Value)
    (this : Option Subject) (p : Position) : EvalM Value := do
  if f.body.isEmpty then return .unit
  tick env p
  let before ← state
  if env.engine.limits.callLevels < before.level + 1 then raise .stackOverflow p
  if env.engine.limits.scopeSize < f.params.length then raise .tooManyVariables p
  let scope := (f.params.zip args).map fun (name, v) ↦ (⟨name, .own v, none⟩ : Variable)
  update fun s ↦
    { s with scope := scope.toArray, base := 0, level := s.level + 1, this := this }
  let r ← attempt (eval (.block f.body))
  update fun s ↦
    { s with
      scope := before.scope, base := before.base, level := before.level, this := before.this
      receiver := s.this.map (·.value) }
  match r with
  | .ok v | .error (.returned v) => return v
  | .error (.error e) =>
    let passes := match e with
      | .raised cause _ => cause.passesCalls
      | .inCall .. => false
    if passes then signal (.error (e.withPosition p))
    else signal (.error (.inCall f.name "" e p))
  | .error e => signal e

/-- Calls a function of the host at a position; gives its outcome and the new value of its first
argument, if it changed that. -/
def callHost (f : HostFunction) (args : List Value) (p : Position) :
    EvalM (Except Signal Value × Option Value) := do
  match ← lift (f.body args) with
  | .returned v receiver => return (.ok v, receiver)
  | .failed cause receiver => return (.error (.error (.raised cause p)), receiver)
  | .panicked message receiver => return (.error (.panic message), receiver)

/-- What an operator that every engine has, or a function of the standard library, comes to with
these arguments, if there is one for them. -/
def nativeResult? (e : Engine) (name : String) (args : List Value) : Option FunctionResult :=
  let operator? : Result := match args with
    | [a, b] =>
      (builtinOperator name a b).orElse fun _ ↦
        if e.standard then e.standardOperator name a b else none
    | _ => none
  match operator?, e.standard with
  | some r, _ => some (r.map fun v ↦ (v, none))
  | none, true => e.standardFunction name args
  | none, false => none

/-- What a call comes to. -/
structure Reaction where
  /-- The result. -/
  outcome : Except Signal Value
  /-- The new value of what was given to be changed, if it may have changed. -/
  receiver : Option Value
  /-- Whether a host value that it was read from is told of the change. -/
  tells : Bool

/-- What a call comes to whose result is a value, which has to be within the limits, and so has what
the function was given itself. -/
def settle (env : Env) (given : Option Value) (v : Value) (receiver : Option Value)
    (p : Position) : EvalM Reaction := do
  let outcome ← attempt do
    checkSize env v p
    match given with
    | some target => checkSize env (receiver.getD target) p
    | none => pure ()
    return v
  return ⟨outcome, receiver, receiver.isSome⟩

/-- What the call of a function that is not the script's comes to, given what the function does. One
that is called `print` or `debug`, whoever made it, has to give a text, which is told to the
host. -/
def announce (name : String) (r : Reaction) (p : Position) : EvalM Reaction := do
  match name, r.outcome with
  | "print", .ok (.string text) =>
    ask (.print text)
    return ⟨.ok .unit, r.receiver, false⟩
  | "debug", .ok (.string text) =>
    ask (.debug text p)
    return ⟨.ok .unit, r.receiver, false⟩
  | "print", .ok v | "debug", .ok v =>
    let e : EvalError := .raised (.outputMismatch v.typeId "string") p
    return ⟨.error (.error e), r.receiver, false⟩
  | _, _ => return r

/-- Calls a function that is not the script's at a position. On a constant, a function that may
change its first argument is refused; `itself` says that it is given the first argument, not a
copy. -/
def callNative (env : Env) (constant itself : Bool) (name : String) (args : List Value)
    (p : Position) : EvalM Reaction := do
  tick env p
  let e := env.engine
  let given := args.head?.filter fun target ↦ itself && takesItself name target
  match e.find? .function name (args.map Value.typeId) with
  | some f =>
    if constant && f.mutates then raise (.constantReceiver name) p
    let (outcome, receiver) ← callHost f args p
    match outcome with
    | .ok v => announce name (← settle env given v receiver p) p
    | .error s => return ⟨.error s, receiver, false⟩
  | none =>
    match nativeResult? e name args with
    | some r => do
      if constant && mutatingFunctions.contains name then raise (.constantReceiver name) p
      let (v, receiver) ← valueAt r p
      announce name (← settle env given v receiver p) p
    | none => raise (e.noFunction name args) p

/-- The function of the script that a call means. A method for values of one type comes before one
for any value. -/
def Env.function? (env : Env) (target : Option Value) (name : String) (arity : Nat) :
    Option Function :=
  let find (receiver : Option String) : Option Function :=
    env.functions.find? fun f ↦
      f.name = name && f.params.length = arity && f.receiver = receiver
  let typed := target.bind fun v ↦ find (some (env.engine.typeName v.typeId))
  typed.orElse fun _ ↦ find none

/-- Calls a function by name at a position; `itself` says that it is given the first argument, not
a copy. -/
def callFunction (env : Env) (eval : Eval) (constant itself : Bool) (name : String)
    (args : List Value) (p : Position) : EvalM Reaction := do
  match env.function? none name args.length with
  | some f => return ⟨.ok (← callScript env eval f args none p), none, false⟩
  | none =>
    match name, args with
    | "type_of", [v] => return ⟨.ok (.string (env.engine.typeName v.typeId)), none, false⟩
    | name, args => callNative env constant itself name args p

/-- Calls a method of a value at a position. What a function of the script changes stays changed
when it ends with an error. -/
def callMethod (env : Env) (eval : Eval) (target : Subject) (name : String) (args : List Value)
    (p : Position) : EvalM Reaction := do
  match env.function? (some target.value) name args.length with
  | some f =>
    update fun s ↦ { s with receiver := none }
    let outcome ← attempt (callScript env eval f args (some target) p)
    return ⟨outcome, (← state).receiver, false⟩
  | none =>
    match name, args with
    | "type_of", [] =>
      return ⟨.ok (.string (env.engine.typeName target.value.typeId)), none, false⟩
    | name, args => callNative env target.isFrozen true name (target.value :: args) p

/-- Applies an operator at a position. -/
def callOperator (env : Env) (op : String) (args : List Value) (p : Position) : EvalM Value := do
  let result := match args with
    | [a] => builtinUnary op a
    | [a, b] => builtinOperator op a b
    | _ => none
  match result with
  | some r =>
    let v ← valueAt r p
    checkSize env v p
    return v
  | none => resume (← callNative env false false op args p).outcome

end ScriptSandbox.Script

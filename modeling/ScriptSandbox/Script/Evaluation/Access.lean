import ScriptSandbox.Script.Evaluation.Call
import ScriptSandbox.Script.Purity

/-!
# Access paths

A path leads from a root by properties, indices and method calls. Its parts are evaluated from left
to right before it is followed; it is followed down to its end, and what has changed is written back
on the way up, last of all into the variable it starts from. What has changed before an error or a
breakdown stays changed.
-/

namespace ScriptSandbox.Script

open EvalM

/-- A step of an access path whose parts have been evaluated. -/
inductive Link where
  /-- A property, with the mark of its step. -/
  | property (name : String) (mark p : Position)
  /-- An index, with the mark of its step. -/
  | index (i : Value) (mark p : Position)
  | method (name : String) (args : List Value) (p : Position)

/-- What is assigned at the end of a path. -/
structure Assignment where
  /-- The operator. -/
  op : AssignOp
  /-- The value on the right. -/
  value : Value
  /-- The position of the assignment. -/
  p : Position

/-- The variable that a path starts from. -/
structure Origin where
  /-- Its name. -/
  name : String
  /-- Where it stands. -/
  p : Position

/-- What a path leads to, or how following it ended early after something may have changed. -/
structure Found where
  /-- The value at its end. -/
  outcome : Except Signal Value
  /-- The root, as the path leaves it. -/
  target : Value
  /-- Whether the root may have changed. -/
  changed : Bool
  /-- Whether a host value that the root was read from is told of the change. -/
  tells : Bool

/-- A path that changes nothing. -/
def Found.unchanged (result target : Value) : Found := ⟨.ok result, target, false, false⟩

/-- A path that ends in an assignment, whose target has a new value; then comes what ends it. -/
def Found.assigned (target : Value) (ending : EvalM Unit) : EvalM Found := do
  match ← attempt ending with
  | .ok _ => return ⟨.ok .unit, target, true, true⟩
  | .error e => return ⟨.error e, target, true, true⟩

/-- What a path leads to from what holds its root, which stays as it is if the root does. -/
def Found.heldBy (found : Found) (holder : Value) (put : Value → Value) : Found :=
  { found with target := if found.changed then put found.target else holder }

/-- The new value of what is assigned to. -/
def assigned (env : Env) (a : Assignment) (old : Value) : EvalM Value := do
  match a.op with
  | none => return a.value
  | some op =>
    match builtinAssignOperator op old a.value with
    | some (.free, r) => valueAt r a.p
    | some (.ofOld, r) =>
      checkSize env old a.p
      valueAt r a.p
    | some (.ofNew, r) =>
      let v ← valueAt r a.p
      checkSize env v a.p
      return v
    | none =>
      -- looking for an operator of assignment is a call of its own
      if !(env.engine.standard && hasAssignOperator op old a.value) then tick env a.p
      resume (← callNative env false false op [old, a.value] a.p).outcome

/-- The value of a property of a value that is no map; what has no such property is asked for an
index of its name, with the mark of the step. -/
def readProperty (env : Env) (target : Value) (name : String) (mark p : Position) :
    EvalM Value := do
  tick env p
  match env.engine.find? .getter name [target.typeId] with
  | some f => resume (← callHost f [target] p).1
  | none =>
    match if env.engine.standard then standardProperty name target else none with
    | some v => resume (← settle env (some target |>.filter (takesItself name)) v none p).outcome
    | none =>
      tick env mark
      raise (.getterNotFound name (env.engine.typeName target.typeId)) p

/-- Gives a property of a value that is no map another value, and comes to a result; `required` says
that it is an error if the property cannot be set. -/
def writeProperty (env : Env) (target : Subject) (name : String) (v : Value) (required : Bool)
    (result : Value) (mark p : Position) : EvalM Found := do
  tick env p
  match env.engine.find? .setter name [target.value.typeId, v.typeId] with
  | some f =>
    if target.isFrozen then raise (.constantProperty name) p
    match ← callHost f [target.value, v] p with
    | (.ok _, receiver) => return ⟨.ok result, receiver.getD target.value, true, true⟩
    | (.error s, some changed) => return ⟨.error s, changed, true, true⟩
    | (.error s, none) => signal s
  | none =>
    tick env mark
    if required then
      raise (.setterNotFound name (env.engine.typeName target.value.typeId)
        (env.engine.typeName v.typeId)) p
    else return ⟨.ok result, target.value, true, true⟩

/-- The place that an index means, if it is one; negative indices count from the end. -/
def indexPlace? (size : Nat) (i : Int) : Option Nat :=
  if 0 ≤ i ∧ i < size then some i.toNat
  else if i < 0 ∧ -i ≤ size then some (size - i.natAbs)
  else none

/-- The entry of a map, if it has one of that name. -/
def readEntry (env : Env) (entries : List (String × Value)) (name : String) (p : Position) :
    EvalM Value :=
  match entries.lookup name with
  | some v => return v
  | none =>
    if env.engine.strictProperties then raise (.propertyNotFound name) p else return .unit

/-- The signature of an index that a value does not have. -/
def indexShape (env : Env) (target i : Value) : String :=
  env.engine.typeName target.typeId ++ " [" ++ env.engine.typeName i.typeId ++ "]"

/-- Refuses an index of a wrong type. -/
def wrongIndex {α : Type} (env : Env) (i : Value) (expected : String) (p : Position) : EvalM α :=
  raise (.mismatch (env.engine.typeName i.typeId) expected) p

/-- The value at an index. -/
def readIndex (env : Env) (target i : Value) (mark p : Position) : EvalM Value := do
  tick env .none
  match target, i with
  | .array items, .int n =>
    match indexPlace? items.size n with
    | some k => return items.getD k .unit
    | none => raise (.arrayBounds items.size n) p
  | .string s, .int n =>
    match indexPlace? s.length n with
    | some k => return .char (s.toList.getD k ' ')
    | none => raise (.stringBounds s.length n) p
  | .map entries, .string k => readEntry env entries k p
  | .int a, .int n =>
    match indexPlace? 64 n with
    | some k => return .bool (shiftRight a k % 2 == 1)
    | none => raise (.bitBounds n) p
  | .array _, i | .string _, i | .int _, i => wrongIndex env i "i64" p
  | .map _, i => wrongIndex env i "string" p
  | target, i => do
    tick env mark
    raise (.indexerNotFound (indexShape env target i)) mark

/-- The part of what a constant was declared with that is at an index. -/
def frozenAt? (frozen : Option Value) (i : Value) : Option Value :=
  match frozen, i with
  | some (.array items), .int n => (indexPlace? items.size n).bind fun k ↦ items[k]?
  | some (.map entries), .string k => entries.lookup k
  | _, _ => none

/-- A map with another value of an entry, if it has that. -/
def putEntry (entries : List (String × Value)) (name : String) (v : Value) : Value :=
  .map (if (entries.lookup name).isSome then Text.NameMap.insertEntry name v entries else entries)

/-- A value with another value at an index, if it has that. -/
def putIndex (target i v : Value) : Value :=
  match target, i with
  | .array items, .int n =>
    match indexPlace? items.size n with
    | some k => .array (items.modify k fun _ ↦ v)
    | none => target
  | .map entries, .string k => putEntry entries k v
  | target, _ => target

/-- A word with one bit set or not. -/
def putBit (n : Int) (k : Nat) (b : Bool) : Int :=
  let bit : Int := Int.bmod (Int.pow 2 k) (Nat.pow 2 64)
  if b then bitwise (· || ·) n bit else bitwise (fun x y ↦ x && !y) n bit

/-- Assigns to an entry of a map; `ending` is what comes after, given the new value and the new map.
An entry that the map does not have is made first, and stays if there is no new value. -/
def assignEntry (env : Env) (origin : Origin) (a : Assignment) (frozen : Option Value)
    (entries : List (String × Value)) (name : String) (ending : Value → Value → EvalM Unit) :
    EvalM Found := do
  tick env .none
  if (frozenAt? frozen (.string name)).isSome then raise (.constantAssigned origin.name) origin.p
  let old? := entries.lookup name
  let put (v : Value) : Value := .map (Text.NameMap.insertEntry name v entries)
  match ← attempt (assigned env a (old?.getD .unit)) with
  | .ok v => Found.assigned (put v) (ending v (put v))
  | .error e =>
    if old?.isSome then signal e else return ⟨.error e, put .unit, true, true⟩

/-- Assigns at an index. A character of a text is replaced at the distance of its index from zero,
and so is a bit of a word, by its place. -/
def assignIndex (env : Env) (origin : Origin) (a : Assignment) (target : Subject) (i : Value)
    (mark p : Position) : EvalM Found := do
  match target.value, i with
  | .array items, .int _ =>
    let old ← readIndex env target.value i mark p
    if (frozenAt? target.frozen i).isSome then raise (.constantAssigned origin.name) origin.p
    let v ← assigned env a old
    Found.assigned (putIndex (.array items) i v) (checkSize env v a.p)
  | .map entries, .string k =>
    assignEntry env origin a target.frozen entries k fun v _ ↦ checkSize env v a.p
  | .string s, .int n =>
    let old ← readIndex env target.value i mark p
    match ← assigned env a old with
    | .char c => Found.assigned (.string (String.ofList (s.toList.set n.natAbs c))) (return)
    | v => raise (.mismatch v.typeId "char") a.p
  | .int word, .int n =>
    let old ← readIndex env target.value i mark p
    match ← assigned env a old with
    | .bool b => Found.assigned (.int (putBit word ((indexPlace? 64 n).getD 0) b)) (return)
    | v => raise (.mismatch v.typeId "bool") a.p
  | .array _, i | .string _, i | .int _, i => do
    tick env .none
    wrongIndex env i "i64" p
  | .map _, i => do
    tick env .none
    wrongIndex env i "string" p
  | other, i =>
    tick env .none
    if a.op.isSome then tick env mark
    tick env mark
    let shape := indexShape env other i ++ " = " ++ env.engine.typeName a.value.typeId
    raise (.indexerNotFound shape) mark

/-- Assigns at the last step of a path. -/
def assignLink (env : Env) (origin : Origin) (a : Assignment) (target : Subject) (link : Link) :
    EvalM Found := do
  match link with
  | .property name mark p =>
    match target.value with
    | .map entries =>
      assignEntry env origin a target.frozen entries name fun _ changed ↦ checkSize env changed a.p
    | value =>
      let v ← if a.op.isSome then do assigned env a (← readProperty env value name mark p)
        else pure a.value
      writeProperty env target name v true .unit mark p
  | .index i mark p => assignIndex env origin a target i mark p
  | .method .. => return .unchanged .unit target.value

/-- Follows a path from a value, and assigns at its end on demand. -/
def follow (env : Env) (eval : Eval) (origin : Origin) (final : Option Assignment) :
    Subject → List Link → EvalM Found
  | target, [] => return .unchanged target.value target.value
  | target, link :: rest => do
    match final, rest with
    | some a, [] => assignLink env origin a target link
    | _, _ =>
      match link with
      | .property name mark p =>
        match target.value with
        | .map entries =>
          tick env .none
          let child ← readEntry env entries name p
          let frozen := frozenAt? target.frozen (.string name)
          let found ← follow env eval origin final ⟨child, frozen⟩ rest
          return found.heldBy target.value (putEntry entries name)
        | value =>
          let child ← readProperty env value name mark p
          let found ← follow env eval origin final ⟨child, none⟩ rest
          let result ← resume found.outcome
          if found.tells then writeProperty env target name found.target false result mark p
          else return .unchanged result value
      | .index i mark p =>
        let child ← readIndex env target.value i mark p
        match target.value with
        | .array _ | .map _ =>
          let found ← follow env eval origin final ⟨child, frozenAt? target.frozen i⟩ rest
          return found.heldBy target.value (putIndex target.value i)
        | value =>
          let found ← follow env eval origin final ⟨child, none⟩ rest
          return { found with target := value }
      | .method name args p =>
        let r ← callMethod env eval target name args p
        let outcome ← attempt do
          let result ← resume r.outcome
          resume (← follow env eval origin final ⟨result, none⟩ rest).outcome
        return ⟨outcome, r.receiver.getD target.value, r.receiver.isSome, r.tells⟩

/-- Evaluates expressions from left to right. -/
def evalAll (eval : Eval) : List Expr → EvalM (List Value)
  | [] => return []
  | e :: rest => do
    let v ← eval (.expr e)
    let vs ← evalAll eval rest
    return v :: vs

/-- Evaluates the parts of a step. -/
def evalStep (eval : Eval) : Access → EvalM Link
  | .property name mark p => return .property name mark p
  | .index i mark => return .index (← eval (.expr i)) mark i.startPosition
  | .method name args _ p => return .method name (← evalAll eval args) p

/-- The step itself, if its parts are literals. -/
def literalStep? : Access → Option Link
  | .property name mark p => some (.property name mark p)
  | .index i mark => i.literal?.map fun v ↦ .index v mark i.startPosition
  | .method name args _ p => (allLiterals? args).map fun vs ↦ .method name vs p

/-- Evaluates the parts of several steps from left to right. Each step counts as an operation: the
last one at its own position, any other at the mark of the one after it. -/
def evalSteps (env : Env) (eval : Eval) : List Access → EvalM (List Link)
  | [] => return []
  | [last] => do
    tick env last.position
    return [← evalStep eval last]
  | a :: next :: rest => do
    tick env next.mark
    let link ← evalStep eval a
    let links ← evalSteps env eval (next :: rest)
    return link :: links

/-- Evaluates the parts of a path's steps. A single step of literals takes no operation. -/
def evalLinks (env : Env) (eval : Eval) (steps : List Access) : EvalM (List Link) :=
  match steps with
  | [a] =>
    match literalStep? a with
    | some link => return [link]
    | none => evalSteps env eval [a]
  | steps => evalSteps env eval steps

/-- Follows a path from a variable. Its value is taken away meanwhile and put back in the end,
changed or not, and however the path ends. -/
def followVariable (env : Env) (eval : Eval) (origin : Origin) (final : Option Assignment)
    (i : Nat) (v : Value) (links : List Link) : EvalM Value := changing i do
  let frozen ← frozenVariable i
  takeVariable i
  let found ← attempt (follow env eval origin final ⟨v, frozen⟩ links)
  let (target, changed) := match found with
    | .ok found => (found.target, found.changed)
    | .error _ => (v, false)
  match ((← state).scope.getD i default).slot with
  | .own _ => writeVariable i target
  | .shared _ => if changed then writeVariable i target
  resume (← resume found).outcome

/-- Follows the path of an expression, and assigns at its end on demand. -/
def evalPath (env : Env) (eval : Eval) (root : Expr) (steps : List Access)
    (final : Option Assignment) : EvalM Value := do
  let links ← evalLinks env eval steps
  match root with
  | .variable name p =>
    tick env p
    let origin : Origin := ⟨name, p⟩
    match ← readVariable env name p with
    | (some i, v) => followVariable env eval origin final i v links
    | (none, v) => resume (← follow env eval origin final ⟨v, none⟩ links).outcome
  | .this p =>
    tick env p
    match (← state).this with
    | none => raise (.unboundThis) p
    | some subject =>
      tick env p
      let found ← follow env eval ⟨"this", p⟩ final subject links
      if found.changed then
        update fun s ↦ { s with this := some { subject with value := found.target } }
      resume found.outcome
  | root =>
    let v ← eval (.expr root)
    resume (← follow env eval ⟨"", root.startPosition⟩ final ⟨v, none⟩ links).outcome

end ScriptSandbox.Script

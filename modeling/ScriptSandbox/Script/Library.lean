import ScriptSandbox.Script.Operator

/-!
# Standard functions

The functions on plain values that a sandbox gives every script. What `print` and `debug` result in
is the text that the call of a function of that name tells the host.
-/

namespace ScriptSandbox.Script

/-- The outcome of a standard function: an error, or a result and the new value of the first
argument if the function changed it. -/
abbrev FunctionResult := Except Cause (Value × Option Value)

/-- A result that changes nothing. -/
def plainResult (v : Value) : Option FunctionResult := some (.ok (v, none))

/-- Whether an array has an item equal to a value. -/
def Engine.hasItem (e : Engine) (v : Value) : List Value → Except Cause Bool
  | [] => return false
  | item :: rest => do if ← e.equal item v then return true else e.hasItem v rest

/-- What a standard function does with its arguments, if there is one for them. -/
def Engine.standardFunction (e : Engine) (name : String) (args : List Value) :
    Option FunctionResult :=
  match name, args with
  | "len", [.array items] => plainResult (.int items.size)
  | "len", [.string s] => plainResult (.int s.length)
  | "len", [.map entries] => plainResult (.int entries.length)
  | "is_empty", [.array items] => plainResult (.bool items.isEmpty)
  | "is_empty", [.string s] => plainResult (.bool s.isEmpty)
  | "is_empty", [.map entries] => plainResult (.bool entries.isEmpty)
  | "push", [.array items, v] => some (.ok (.unit, some (.array (items.push v))))
  | "pop", [.array items] =>
    some (.ok (items.back?.getD .unit, some (.array items.pop)))
  | "shift", [.array items] =>
    some (.ok (items[0]?.getD .unit, some (.array (items.extract 1 items.size))))
  | "clear", [.array _] => some (.ok (.unit, some (.array #[])))
  | "clear", [.map _] => some (.ok (.unit, some (.map [])))
  | "clear", [.string _] => some (.ok (.unit, some (.string "")))
  | "reverse", [.array items] => some (.ok (.unit, some (.array items.reverse)))
  | "contains", [.array items, v] =>
    some ((e.hasItem v items.toList).map fun found ↦ (.bool found, none))
  | "contains", [.map entries, .string k] => plainResult (.bool (entries.any (·.1 = k)))
  | "contains", [.string s, .string t] =>
    plainResult (.bool (t.isEmpty || (s.splitOn t).length > 1))
  | "contains", [.string s, .char c] => plainResult (.bool (s.toList.contains c))
  | "keys", [.map entries] => plainResult (.array (entries.map fun (k, _) ↦ .string k).toArray)
  | "values", [.map entries] => plainResult (.array (entries.map (·.2)).toArray)
  | "print", [] | "debug", [] => plainResult (.string "")
  | "print", [v] | "to_string", [v] => plainResult (.string (v.display e.style))
  | "debug", [v] | "to_debug", [v] => plainResult (.string (v.diagnostic e.style))
  | "to_float", [.int n] => plainResult (.float (Float.ofInt n))
  | "to_float", [.float f] => plainResult (.float f)
  | "to_int", [.int n] => plainResult (.int n)
  | "abs", [.int n] =>
    some ((fitting ("Negation overflow: -" ++ toString n) n.natAbs).map fun v ↦ (v, none))
  | "abs", [.float f] => plainResult (.float f.abs)
  | "+", [.int n] => plainResult (.int n)
  | "+", [.float f] => plainResult (.float f)
  | _, _ => none

/-- The standard functions that change what they are called on. -/
def mutatingFunctions : List String := ["push", "pop", "shift", "clear", "reverse"]

/-- Whether a standard function is given what it is called on itself rather than a copy: all that
is done with arrays and maps is, of what is done with strings only what changes them. -/
def takesItself (name : String) (target : Value) : Bool :=
  match target with
  | .array _ | .map _ => true
  | .string _ => mutatingFunctions.contains name
  | _ => false

/-- What a standard property of a value is, if there is one. -/
def standardProperty (name : String) (target : Value) : Option Value :=
  match name, target with
  | "len", .array items => some (.int items.size)
  | "len", .string s => some (.int s.length)
  | "is_empty", .array items => some (.bool items.isEmpty)
  | "is_empty", .string s => some (.bool s.isEmpty)
  | _, _ => none

end ScriptSandbox.Script

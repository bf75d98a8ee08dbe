import ScriptSandbox.Capability.Table
import ScriptSandbox.Script.Engine

/-!
# Surfaces of a host

Capabilities that a host can offer: value types of its own with their functions, its outbox, data,
arithmetic, functions that fail in every way there is, and a gate at which scripts wait. The full
names of types are the host's to choose; installing a type also gives it its short name.
-/

namespace ScriptSandbox.Capability.Surface

open Script

/-- A function that cannot fail and changes nothing. -/
def pureFunction (role : Role) (name : String) (params : List String)
    (result : List Value → Value) : HostFunction where
  name := name
  role := role
  params := params
  mutates := false
  body args := .done (.returned (result args) none)

/-- A surface of functions. -/
def functions (id : String) (fs : List HostFunction) : Capability Engine where
  id := id
  install e := fs.foldl Engine.addFunction e

/-- A surface of a host type and its functions. -/
def type (typeId : String) (fs : List HostFunction) : Capability Engine where
  id := typeId
  install e := fs.foldl Engine.addFunction (e.nameType typeId (shortName typeId))

/-- What a host value holds. -/
def held : Value → Value
  | .host _ payload => payload
  | v => v

/-- An integer brought into 64 bits by dropping higher ones. -/
def wrap (n : Int) : Int := Int.bmod n (Nat.pow 2 64)

/-- The integer that a value is or holds. -/
def number (v : Value) : Int :=
  match held v with
  | .int n => n
  | _ => 0

/-- The text that a value is. -/
def text : Value → String
  | .string s => s
  | _ => ""

/-- The first of some arguments. -/
def first (args : List Value) : Value := args.headD .unit

/-- The second of some arguments. -/
def second (args : List Value) : Value := (args.drop 1).headD .unit

/-- A counter with a number. -/
def counterValue (typeId : String) (n : Int) : Value := .host typeId (.int n)

/-- Counters: made from a number, which can be read, written and counted up. -/
def counter (typeId : String) : Capability Engine :=
  type typeId
    [pureFunction .function "new_counter" ["i64"] fun args ↦
       counterValue typeId (number (first args)),
     pureFunction .getter "value" [typeId] fun args ↦ .int (number (first args)),
     { name := "value", role := .setter, params := [typeId, "i64"], mutates := true,
       body := fun args ↦
         .done (.returned .unit (some (counterValue typeId (number (second args))))) },
     { name := "bump", role := .function, params := [typeId], mutates := true,
       body := fun args ↦
         .done (.returned .unit
           (some (counterValue typeId (wrap (number (first args) + 1))))) }]

/-- The host's outbox, to which scripts send messages. -/
def outbox (typeId : String) : Capability Engine :=
  type typeId
    [{ name := "send", role := .function, params := [typeId, "string"], mutates := false,
       body := fun args ↦
         .ask (.send (text (second args))) fun _ ↦ .done (.returned .unit none) },
     { name := "count", role := .function, params := [typeId], mutates := false,
       body := fun _ ↦ .ask .sent fun (n : Nat) ↦ .done (.returned (.int n) none) }]

/-- Boxes around a value of one type, made by a function. -/
def boxed (typeId contentId make : String) : Capability Engine :=
  type typeId
    [pureFunction .function make [contentId] fun args ↦ .host typeId (first args),
     pureFunction .getter "inner" [typeId] fun args ↦ held (first args)]

/-- A function that gives data. -/
def data (id name : String) (value : Json) : Capability Engine :=
  functions id [pureFunction .function name [] fun _ ↦ .ofJson value]

/-- Some arithmetic, and shouting. -/
def math (id : String) : Capability Engine :=
  functions id
    [pureFunction .function "triple" ["i64"] fun args ↦ .int (wrap (3 * number (first args))),
     pureFunction .function "shout" ["string"] fun args ↦ .string (text (first args) ++ "!")]

/-- A function that breaks down, with or without a message. -/
def breakdown (name : String) (params : List String) (message : List Value → Option String) :
    HostFunction :=
  ⟨name, .function, params, false, fun args ↦ .done (.panicked (message args) none)⟩

/-- A function that raises an error. -/
def raising (name : String) (params : List String) (cause : List Value → Cause) : HostFunction :=
  ⟨name, .function, params, false, fun args ↦ .done (.failed (cause args) none)⟩

/-- Functions that fail. -/
def explosives (id : String) : Capability Engine :=
  functions id
    [breakdown "explode" [] fun _ ↦ some "host failure",
     breakdown "explode_with" ["string"] fun args ↦
       some ("host failure: " ++ text (first args)),
     breakdown "explode_any" [] fun _ ↦ none,
     raising "fail_with" ["string"] fun args ↦ .thrown (first args),
     raising "terminate" [] fun _ ↦ .terminated]

/-- A function that waits at the gate and then gives a reply. -/
def gated (name : String) (reply : Reply) : HostFunction :=
  ⟨name, .function, [], false, fun _ ↦ .ask .gate fun _ ↦ .done reply⟩

/-- The gate. -/
def gate (id : String) : Capability Engine :=
  functions id
    [gated "gate" (.returned .unit none),
     gated "gate_fail" (.failed (.thrown (.string "gate failed")) none),
     gated "gate_panic" (.panicked (some "gate panicked") none)]

end ScriptSandbox.Capability.Surface

import ScriptSandbox.Script.Run

/-!
# Engines

What a script is compiled and run with: its limits, the functions it can call besides its own, and
the names by which host types are shown. A function is found by its name and the types of the
arguments; of two with the same name and types the one added later is called.
-/

namespace ScriptSandbox.Script

/-- The bounds on what a script may use. For operations, depths and sizes zero means no bound. -/
structure Limits where
  /-- Operations in one run. -/
  operations : Nat
  /-- Nested calls of script functions. -/
  callLevels : Nat
  /-- Nesting of expressions outside functions. -/
  exprDepth : Nat
  /-- Nesting of expressions in functions. -/
  functionExprDepth : Nat
  /-- Bytes of a string. -/
  stringSize : Nat
  /-- Items of an array. -/
  arraySize : Nat
  /-- Entries of a map. -/
  mapSize : Nat
  /-- Variables at one time. -/
  scopeSize : Nat
  /-- Functions of a script. -/
  functions : Nat
  /-- Modules that are loaded. -/
  modules : Nat
  deriving DecidableEq, Repr

/-- The limits of an engine that none were set for. -/
def Limits.default : Limits :=
  { operations := 0, callLevels := 64, exprDepth := 64, functionExprDepth := 32, stringSize := 0,
    arraySize := 0, mapSize := 0, scopeSize := 1000000, functions := 1000000, modules := 1000000 }

/-- What a function is called as. -/
inductive Role where
  | function
  | getter
  | setter
  deriving DecidableEq, Repr

/-- A function of the host. -/
structure HostFunction where
  /-- Its name, or that of the property. -/
  name : String
  /-- What it is called as. -/
  role : Role
  /-- The types of its parameters, by their full names. -/
  params : List String
  /-- Whether it may change its first argument. -/
  mutates : Bool
  /-- What it does with its arguments. -/
  body : List Value → Run Reply

/-- An engine. -/
structure Engine where
  /-- The limits. -/
  limits : Limits
  /-- Whether variables have to be known when a script is compiled. -/
  strictVariables : Bool
  /-- Whether reading a property that a map does not have is an error. -/
  strictProperties : Bool
  /-- Whether the standard functions are there. -/
  standard : Bool
  /-- The names of host types, the latest first. -/
  typeNames : List (String × String)
  /-- The functions of the host, the latest first. -/
  functions : List HostFunction

/-- The name a type is shown by when the engine gives it no other: ranges have short ones. -/
def standardTypeName : String → String
  | "core::ops::range::Range<i64>" => "range"
  | "core::ops::range::RangeInclusive<i64>" => "range="
  | typeId => typeId

namespace Engine

/-- An engine with nothing but operators. -/
def bare : Engine := ⟨.default, false, false, false, [], []⟩

/-- The engine of a sandbox: standard functions, strict, and with limits. -/
def standardWith (limits : Limits) : Engine := ⟨limits, true, true, true, [], []⟩

/-- The name a type is shown by. -/
def typeName (e : Engine) (typeId : String) : String :=
  (e.typeNames.lookup typeId).getD (standardTypeName typeId)

/-- How a script of the engine shows values. -/
def style (e : Engine) : Value.Style := .bare e.typeName

/-- An engine in which a type has a name. -/
def nameType (e : Engine) (typeId name : String) : Engine :=
  { e with typeNames := (typeId, name) :: e.typeNames }

/-- An engine with one more function. -/
def addFunction (e : Engine) (f : HostFunction) : Engine :=
  { e with functions := f :: e.functions }

/-- The function of the host that a call means. -/
def find? (e : Engine) (role : Role) (name : String) (types : List String) :
    Option HostFunction :=
  e.functions.find? fun f ↦ f.role = role && f.name = name && f.params = types

/-- The name a type is shown by in the signature of a call. -/
def signatureName (e : Engine) (v : Value) : String :=
  match v with
  | .string _ => "&str | ImmutableString | String"
  | v => e.typeName v.typeId

/-- The signature of a call. -/
def signature (e : Engine) (name : String) (args : List Value) : String :=
  name ++ " " ++ Text.bracketed "(" ")" (args.map e.signatureName)

end Engine

end ScriptSandbox.Script

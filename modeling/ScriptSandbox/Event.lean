import ScriptSandbox.Json.Basic

/-!
# Events

What a sandbox tells an observer while it works: a level, a message and named fields. What a
script prints is an event too, and is marked as the script's own.
-/

namespace ScriptSandbox

/-- How much an event matters. -/
inductive Level where
  | debug
  | info
  | warn
  | error
  deriving DecidableEq, Repr

/-- The name of a level. -/
def Level.name : Level → String
  | debug => "DEBUG"
  | info => "INFO"
  | warn => "WARN"
  | error => "ERROR"

/-- Something an observer is told. -/
structure Event where
  /-- How much it matters. -/
  level : Level
  /-- What happened. -/
  message : String
  /-- Whether the script itself says it. -/
  byScript : Bool
  /-- The details, by name. -/
  fields : List (String × String)
  deriving DecidableEq, Repr

namespace Event

/-- An event of the sandbox. -/
def note (level : Level) (message : String) (fields : List (String × String)) : Event :=
  ⟨level, message, false, fields⟩

/-- An event as a record. -/
def toJson (e : Event) : Json :=
  .ofMembers [("level", .string e.level.name), ("message", .string e.message),
    ("script", .bool e.byScript),
    ("fields", .ofMembers (e.fields.map fun (name, value) ↦ (name, .string value)))]

end Event

end ScriptSandbox

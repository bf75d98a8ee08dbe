import ScriptSandbox.Text.Quoted

/-!
# Host errors

What goes wrong for the host while a session is set up or a fragment is fetched. No script sees
these errors; the ones a script ends with are `Failure`s.
-/

namespace ScriptSandbox

/-- An error of a host-side operation. -/
inductive HostError where
  /-- A provider's pattern cannot be read. -/
  | invalidPattern (pattern reason : String)
  /-- A provider has no fragment for a token it matched. -/
  | sourceNotFound (token : String)
  /-- A provider could not produce a fragment. -/
  | provider (token reason : String)
  /-- A bound value is no script value. -/
  | invalidBinding (name reason : String)
  /-- There is nothing to run executions on. -/
  | noRuntime
  deriving DecidableEq, Repr, Inhabited

namespace HostError

/-- The text of an error. -/
def message : HostError → String
  | invalidPattern pattern reason =>
    "Invalid include pattern '" ++ pattern ++ "': " ++ reason
  | sourceNotFound token => "No source for include token: " ++ token
  | provider token reason => "Provider failed for '" ++ token ++ "': " ++ reason
  | invalidBinding name reason => "Invalid binding '" ++ name ++ "': " ++ reason
  | noRuntime => "No Tokio runtime available to supervise script execution"

/-- The word for the kind of an error. -/
def kind : HostError → String
  | invalidPattern .. => "InvalidPattern"
  | sourceNotFound .. => "SourceNotFound"
  | provider .. => "Provider"
  | invalidBinding .. => "InvalidBinding"
  | noRuntime => "NoRuntime"

/-- An error with its fields, for diagnostics. -/
def diagnostic (e : HostError) : String :=
  let fields := match e with
    | invalidPattern pattern reason => [("pattern", pattern), ("message", reason)]
    | sourceNotFound token => [("token", token)]
    | provider token reason => [("token", token), ("message", reason)]
    | invalidBinding name reason => [("name", name), ("message", reason)]
    | noRuntime => []
  if fields.isEmpty then e.kind
  else Text.record e.kind (fields.map fun (name, value) ↦ (name, Text.quote value))

end HostError

end ScriptSandbox

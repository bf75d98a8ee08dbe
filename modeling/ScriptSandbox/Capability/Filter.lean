import ScriptSandbox.Text.NameSet
import ScriptSandbox.Text.Quoted

/-!
# Capability filters

A capability is named by an identifier, which for a host type is the type's full name. A filter
is the set of identifiers that are allowed: it starts empty, so nothing is allowed by default, and
it can only grow.
-/

namespace ScriptSandbox.Capability

open ScriptSandbox.Text

/-- An identifier of a capability, in diagnostics. -/
def diagnosticId (id : String) : String := "CapabilityId(" ++ quote id ++ ")"

/-- The short name of a type: its full name without parameters and path. -/
def shortName (typeId : String) : String :=
  ((typeId.splitOn "<").headD "" |>.splitOn "::").getLastD ""

/-- The identifiers that are allowed. -/
structure Filter where
  /-- The identifiers. -/
  allowed : NameSet
  deriving DecidableEq, Repr, Inhabited

namespace Filter

/-- Nothing is allowed. -/
def empty : Filter := ⟨.empty⟩

/-- Whether an identifier is allowed. -/
def allows (f : Filter) (id : String) : Bool := f.allowed.contains id

/-- The filter that allows one more identifier. -/
def register (f : Filter) (id : String) : Filter := ⟨f.allowed.insert id⟩

/-- The number of identifiers. -/
def size (f : Filter) : Nat := f.allowed.size

/-- Whether nothing is allowed. -/
def isEmpty (f : Filter) : Bool := f.allowed.isEmpty

/-- The identifiers in ascending order. -/
def toList (f : Filter) : List String := f.allowed.toList

/-- A filter in diagnostics. -/
def diagnostic (f : Filter) : String :=
  record "CapabilityFilter"
    [("allowed", bracketed "\x7b" "\x7d" (f.toList.map diagnosticId))]

@[simp] theorem allows_register (f : Filter) (id other : String) :
    (f.register id).allows other = (other == id || f.allows other) :=
  NameSet.contains_insert ..

end Filter

end ScriptSandbox.Capability

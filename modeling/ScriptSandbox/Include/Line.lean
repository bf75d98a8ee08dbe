import ScriptSandbox.Text.Blank

/-!
# Directive lines

A line that starts with the directive, blank included, asks for a fragment; what follows on the line
is its reference. Carriage returns at the end of the line belong to the line ending.
-/

namespace ScriptSandbox.Include

open ScriptSandbox.Text

/-- What a directive line starts with. -/
def directive : String := "#include "

/-- The reference of a line, if the line is a directive. -/
def reference? (line : List Char) : Option String :=
  (dropLead? directive.toList line).map fun rest ↦
    String.ofList (dropEndWhile (· = '\r') rest)

/-- A line is ordinary exactly if it does not start with the directive. -/
theorem reference?_eq_none_iff {line : List Char} :
    reference? line = none ↔ ∀ rest, line ≠ directive.toList ++ rest := by
  rw [reference?, Option.map_eq_none_iff, Option.eq_none_iff_forall_ne_some]
  simp only [ne_eq, dropLead?_eq_some_iff]

end ScriptSandbox.Include

import ScriptSandbox.Text.CharSet

/-!
# Tables of the Unicode standard

A property value of the standard is written as the names it is looked up by and the runs of its
code points. Names are in their loose form: lower case, without blanks, hyphens and underscores.
-/

namespace ScriptSandbox.Unicode

open ScriptSandbox.Text

/-- One property value of the standard. -/
structure Entry where
  /-- The loose names of the value. -/
  names : List String
  /-- Its code points: lengths of gaps and runs, alternating. -/
  runs : List String

/-- The characters of a property value. -/
def Entry.chars (e : Entry) : CharSet := CharSet.ofRuns e.runs

/-- The entry of a table that has the given loose name. -/
def find? (table : List Entry) (name : String) : Option Entry :=
  table.find? fun e ↦ e.names.contains name

/-- The characters of the entry of a table that has the given loose name, if there is one. -/
def chars? (table : List Entry) (name : String) : Option CharSet := (find? table name).map (·.chars)

/-- The characters of the entries of a table that have one of the given loose names. -/
def charsOf (table : List Entry) (names : List String) : CharSet :=
  CharSet.ofRanges (names.flatMap fun name ↦ ((chars? table name).getD .empty).ranges.toList)

end ScriptSandbox.Unicode

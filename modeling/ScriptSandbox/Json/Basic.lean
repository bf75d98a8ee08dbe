import ScriptSandbox.Text.NameSet

/-!
# JSON values

The data that hosts exchange with scripts and that reports are written as. Whole numbers and
floats are kept apart, and the members of an object are kept sorted by name, one per name.
-/

namespace ScriptSandbox

/-- A JSON value. -/
inductive Json where
  | null
  | bool (b : Bool)
  /-- A number written without fraction and exponent. -/
  | int (n : Int)
  | float (f : Float)
  | string (s : String)
  | array (items : List Json)
  /-- Members in ascending order of their names. -/
  | object (members : List (String × Json))
  deriving Inhabited, Repr

namespace Json

/-- The object with the given members; of two members of one name the later stays. -/
def ofMembers (members : List (String × Json)) : Json :=
  .object (members.foldl (fun acc (name, value) ↦ Text.NameMap.insertEntry name value acc) [])

/-- The value of a member of an object. -/
def member? (name : String) : Json → Option Json
  | .object members => members.lookup name
  | _ => none

/-- An absent value is null. -/
def ofOption {α : Type} (encode : α → Json) : Option α → Json
  | none => .null
  | some a => encode a

/-- A list of texts. -/
def strings (items : List String) : Json := .array (items.map .string)

end Json

end ScriptSandbox

import ScriptSandbox.Decimal.Notation
import ScriptSandbox.Json.Basic
import ScriptSandbox.Text.Quoted

/-!
# Reading records

What a JSON value has to look like to be a record, and what is wrong with one that does not. The
members of an object are looked at in the order of their names, and the first that does not fit is
reported; only then are members reported that are missing. A record may also be written as the
array of its fields.
-/

namespace ScriptSandbox.Json

open Text

/-- What is wrong with a value that is no record. -/
inductive DecodeFault where
  /-- A value of another kind. -/
  | kind (found expected : String)
  /-- A value of the right kind that is not allowed. -/
  | value (found expected : String)
  /-- An array with too few or too many items. -/
  | length (found : Nat) (expected : String)
  /-- A choice that there is not. -/
  | variant (found : String) (known : List String)
  /-- A member that there is not. -/
  | field (found : String) (known : List String)
  /-- A member is missing. -/
  | missing (name : String)
  /-- A span is too long. -/
  | spanOverflow
  deriving DecidableEq, Repr

/-- A name between backticks. -/
def ticked (name : String) : String := "\x60" ++ name ++ "\x60"

/-- The names that would have been right. -/
def oneOf : List String → String
  | [] => "there are none"
  | [a] => "expected " ++ ticked a
  | [a, b] => "expected " ++ ticked a ++ " or " ++ ticked b
  | names => "expected one of " ++ ", ".intercalate (names.map ticked)

namespace DecodeFault

/-- The text of a fault. -/
def message : DecodeFault → String
  | kind found expected => "invalid type: " ++ found ++ ", expected " ++ expected
  | value found expected => "invalid value: " ++ found ++ ", expected " ++ expected
  | length found expected => "invalid length " ++ toString found ++ ", expected " ++ expected
  | variant found known => "unknown variant " ++ ticked found ++ ", " ++ oneOf known
  | field found known => "unknown field " ++ ticked found ++ ", " ++ oneOf known
  | missing name => "missing field " ++ ticked name
  | spanOverflow => "overflow deserializing Duration"

end DecodeFault

/-- What kind of value this is, in words. -/
def phrase : Json → String
  | .null => "null"
  | .bool b => "boolean " ++ ticked (toString b)
  | .int n => "integer " ++ ticked (toString n)
  | .float f => "floating point " ++ ticked (Decimal.reported.text f)
  | .string s => "string " ++ quote s
  | .array _ => "sequence"
  | .object _ => "map"

/-- What reads an `α`. -/
abbrev Decoder (α : Type) := Json → Except DecodeFault α

namespace Decoder

variable {α : Type}

/-- A text. -/
def text : Decoder String
  | .string s => .ok s
  | j => .error (.kind j.phrase "a string")

/-- A number below a bound, which has a name. -/
def below (bound : Nat) (name : String) : Decoder Nat
  | j@(.int n) => if 0 ≤ n ∧ n < bound then .ok n.toNat else .error (.value j.phrase name)
  | j => .error (.kind j.phrase name)

/-- A number of 64 bits. -/
def word64 : Decoder Nat := below (Nat.pow 2 64) "u64"

/-- A number of 32 bits. -/
def word32 : Decoder Nat := below (Nat.pow 2 32) "u32"

/-- Items that are all read in the same way. -/
def list (item : Decoder α) : Decoder (List α)
  | .array items => items.mapM item
  | j => .error (.kind j.phrase "a sequence")

/-- Null, or a value. -/
def option (item : Decoder α) : Decoder (Option α)
  | .null => .ok none
  | j => (item j).map some

/-- Any value. -/
def any : Decoder Json := .ok

/-- Nothing but null. -/
def null : Decoder Unit
  | .null => .ok ()
  | j => .error (.kind j.phrase "unit")

/-- A choice: its name and what comes with it. -/
def choice : Decoder (String × Option Json)
  | .string name => .ok (name, none)
  | .object [(name, content)] => .ok (name, some content)
  | .object _ => .error (.value "map" "map with a single key")
  | j => .error (.kind j.phrase "string or map")

/-- A choice with which nothing comes. -/
def alone (content : Option Json) : Except DecodeFault Unit :=
  match content with
  | none => .ok ()
  | some j => null j

end Decoder

/-- The fields of a record, and how each is checked. -/
structure Shape where
  /-- What records of this shape are called. -/
  name : String
  /-- What is said of an array that is too short; for some shapes it counts the fields. -/
  whole : String
  /-- The fields in their own order. -/
  fields : List (String × Decoder Unit)
  /-- Whether an object may have other members. -/
  isOpen : Bool

namespace Shape

/-- A shape that allows other members. -/
def ofFields (name : String) (fields : List (String × Decoder Unit)) : Shape where
  name := "struct " ++ name
  whole := "struct " ++ name ++ " with " ++ toString fields.length ++ " elements"
  fields := fields
  isOpen := true

/-- A shape that allows no other members. -/
def closed (name : String) (fields : List (String × Decoder Unit)) : Shape :=
  ⟨"struct " ++ name, "struct " ++ name, fields, false⟩

/-- The names of the fields. -/
def names (s : Shape) : List String := s.fields.map (·.1)

/-- Checks one member of an object. -/
def checkMember (s : Shape) (member : String × Json) : Except DecodeFault Unit :=
  match s.fields.lookup member.1 with
  | some check => check member.2
  | none => if s.isOpen then .ok () else .error (.field member.1 s.names)

/-- Pairs fields with the items of an array, and checks each; `index` counts them. -/
def checkItems (s : Shape) (index : Nat) :
    List (String × Decoder Unit) → List Json →
      Except DecodeFault (List (String × Json) × List Json)
  | [], items => .ok ([], items)
  | _ :: _, [] => .error (.length index s.whole)
  | (name, check) :: fields, item :: items => do
    check item
    let (members, rest) ← checkItems s (index + 1) fields items
    return ((name, item) :: members, rest)

/-- The members of an object that has this shape. -/
def members (s : Shape) : Decoder (List (String × Json))
  | .object members => do
    members.forM s.checkMember
    return members
  | j => .error (.kind j.phrase s.name)

/-- Reads a record of this shape, written as an object or as an array, with what reads its
members. -/
def record {α : Type} (s : Shape) (ofMembers : List (String × Json) → Except DecodeFault α) :
    Decoder α
  | .array items => do
    let (members, rest) ← s.checkItems 0 s.fields items
    let a ← ofMembers members
    if rest.isEmpty then return a
    else throw (.length items.length "fewer elements in array")
  | j => do ofMembers (← s.members j)

end Shape

/-- A member that has to be there. -/
def required {α : Type} (name : String) (item : Decoder α) (members : List (String × Json)) :
    Except DecodeFault α :=
  match members.lookup name with
  | some j => item j
  | none => .error (.missing name)

/-- A member that may be missing or null. -/
def optional {α : Type} (name : String) (item : Decoder α) (members : List (String × Json)) :
    Except DecodeFault (Option α) :=
  match members.lookup name with
  | some j => item.option j
  | none => .ok none

/-- The check of a field that something reads. -/
def checked {α : Type} (item : Decoder α) : Decoder Unit := fun j ↦ (item j).map fun _ ↦ ()

end ScriptSandbox.Json

import ScriptSandbox.Decimal.Notation
import ScriptSandbox.Json.Basic
import ScriptSandbox.Text.Quoted

/-!
# Values of scripts

What expressions evaluate to. Values are plain data: assigning one copies it. A host value is
opaque to a script; it carries the name of its type and what the host keeps in it. Variables keep
their values in slots, and a slot may be a cell that executions share.
-/

namespace ScriptSandbox.Script

/-- A value. -/
inductive Value where
  | unit
  | bool (b : Bool)
  /-- An integer of 64 bits with a sign. -/
  | int (n : Int)
  | float (f : Float)
  | char (c : Char)
  | string (s : String)
  | array (items : Array Value)
  /-- Entries in ascending order of their names. -/
  | map (entries : List (String × Value))
  /-- The integers from one to another, the last one included or not. -/
  | range (first last : Int) (inclusive : Bool)
  /-- A function of the script, by its name. -/
  | function (name : String)
  /-- A value of a host type, by the type's full name. -/
  | host (typeId : String) (payload : Value)
  deriving Inhabited

/-- The least integer. -/
def minInt : Int := -9223372036854775808

/-- The greatest integer. -/
def maxInt : Int := 9223372036854775807

/-- An integer that fits into 64 bits. -/
def checkedInt (n : Int) : Option Int := if minInt ≤ n ∧ n ≤ maxInt then some n else none

/-- How floats are written by scripts: zero without a sign, very great and very small numbers with
an exponent, all others positionally and never without a fraction. -/
def floatText (f : Float) : String :=
  let a := f.abs
  if a == 0 then "0.0"
  else if a > 9999999827968.0 || a < 1.0000000116860974e-7 then
    Decimal.scientific.text f
  else
    match Decimal.Parts.ofFloat f with
    | .finite .. => ({ Decimal.plain with whole := ".0" } : Decimal.Format).text f
    | _ => Decimal.plain.text f

namespace Value

/-- The full name of a value's type. -/
def typeId : Value → String
  | unit => "()"
  | bool _ => "bool"
  | int _ => "i64"
  | float _ => "f64"
  | char _ => "char"
  | string _ => "string"
  | array _ => "array"
  | map _ => "map"
  | range _ _ false => "core::ops::range::Range<i64>"
  | range _ _ true => "core::ops::range::RangeInclusive<i64>"
  | function _ => "Fn"
  | host typeId _ => typeId

/-- How values are shown. -/
structure Style where
  /-- The name a type is shown by, given its full name. -/
  typeName : String → String
  /-- How a character is shown inside another value and in diagnostics. -/
  charText : Char → String

/-- How a script shows values: a character stands for itself. -/
def Style.bare (typeName : String → String) : Style := ⟨typeName, Char.toString⟩

/-- How values are shown to the host: host types by their full names, characters between quotes. -/
def Style.full : Style := ⟨id, Text.quoteChar⟩

mutual

/-- A value in diagnostics. -/
def diagnostic (style : Style) : Value → String
  | .unit => "()"
  | .bool b => toString b
  | .int n => toString n
  | .float f => Decimal.diagnostic.text f
  | .char c => style.charText c
  | .string s => Text.quote s
  | .array ⟨items⟩ => Text.bracketed "[" "]" (diagnosticAll style items)
  | .map entries => Text.bracketed "#\x7b" "\x7d" (diagnosticEntries style entries)
  | .range first last inclusive =>
    toString first ++ (if inclusive then "..=" else "..") ++ toString last
  | .function name => "Fn(" ++ name ++ ")"
  | .host id _ => style.typeName id

/-- Values in diagnostics. -/
def diagnosticAll (style : Style) : List Value → List String
  | [] => []
  | v :: rest => diagnostic style v :: diagnosticAll style rest

/-- Entries in diagnostics. -/
def diagnosticEntries (style : Style) : List (String × Value) → List String
  | [] => []
  | (name, v) :: rest =>
    (Text.quote name ++ ": " ++ diagnostic style v) :: diagnosticEntries style rest

end

/-- A value as text: what `print` shows and what joins a string. -/
def display (style : Style) : Value → String
  | unit => ""
  | float f => floatText f
  | char c => c.toString
  | string s => s
  | v => v.diagnostic style

mutual

/-- JSON data as a value. Whole numbers beyond 64 bits with a sign become floats. -/
def ofJson : Json → Value
  | .null => .unit
  | .bool b => .bool b
  | .int n => match checkedInt n with
    | some n => .int n
    | none => .float (Float.ofInt n)
  | .float f => .float f
  | .string s => .string s
  | .array items => .array (ofJsonAll items).toArray
  | .object members => .map (ofJsonMembers members)

/-- JSON items as values. -/
def ofJsonAll : List Json → List Value
  | [] => []
  | item :: rest => ofJson item :: ofJsonAll rest

/-- JSON members as entries. -/
def ofJsonMembers : List (String × Json) → List (String × Value)
  | [] => []
  | (name, item) :: rest => (name, ofJson item) :: ofJsonMembers rest

end

mutual

/-- A value as JSON data; there is none for ranges, functions, host values and what
holds one. -/
def toJson? : Value → Option Json
  | .unit => some .null
  | .bool b => some (.bool b)
  | .int n => some (.int n)
  | .float f => some (if f.isFinite then .float f else .null)
  | .char c => some (.string c.toString)
  | .string s => some (.string s)
  | .array ⟨items⟩ => (toJsonAll? items).map .array
  | .map entries => (toJsonEntries? entries).map .object
  | .range .. => none
  | .function _ => none
  | .host .. => none

/-- Values as JSON items. -/
def toJsonAll? : List Value → Option (List Json)
  | [] => some []
  | v :: rest => do
    let item ← toJson? v
    let items ← toJsonAll? rest
    return item :: items

/-- Entries as JSON members. -/
def toJsonEntries? : List (String × Value) → Option (List (String × Json))
  | [] => some []
  | (name, v) :: rest => do
    let item ← toJson? v
    let items ← toJsonEntries? rest
    return (name, item) :: items

end

/-- A value in a record: null where there is no JSON for it. -/
def toJson (v : Value) : Json := v.toJson?.getD .null

/-- The sizes that limits are set on: items of arrays, entries of maps, bytes of strings, each with
all that is nested. -/
structure Sizes where
  /-- Items of arrays. -/
  items : Nat
  /-- Entries of maps. -/
  entries : Nat
  /-- Bytes of strings. -/
  bytes : Nat
  deriving DecidableEq, Repr

/-- The sum of sizes. -/
def Sizes.add (a b : Sizes) : Sizes := ⟨a.items + b.items, a.entries + b.entries, a.bytes + b.bytes⟩

mutual

/-- The sizes of a value. -/
def sizes : Value → Sizes
  | .string s => ⟨0, 0, s.utf8ByteSize⟩
  | .array ⟨items⟩ => sizesAll items
  | .map entries => sizesEntries entries
  | _ => ⟨0, 0, 0⟩

/-- The sizes of an array's items. -/
def sizesAll : List Value → Sizes
  | [] => ⟨0, 0, 0⟩
  | v :: rest => ((sizes v).add (sizesAll rest)).add ⟨1, 0, 0⟩

/-- The sizes of a map's entries. -/
def sizesEntries : List (String × Value) → Sizes
  | [] => ⟨0, 0, 0⟩
  | (_, v) :: rest => ((sizes v).add (sizesEntries rest)).add ⟨0, 1, 0⟩

end

end Value

/-- Where a value is kept. -/
inductive Slot where
  /-- In this run alone. -/
  | own (value : Value)
  /-- In a cell that executions share. -/
  | shared (cell : String)
  deriving Inhabited

namespace Slot

/-- The value, if it is not kept in a cell. -/
def value? : Slot → Option Value
  | own v => some v
  | shared _ => none

/-- JSON data in a slot. -/
def ofJson (j : Json) : Slot := .own (.ofJson j)

end Slot

end ScriptSandbox.Script

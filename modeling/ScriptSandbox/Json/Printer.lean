import ScriptSandbox.Json.Basic
import ScriptSandbox.Decimal.Notation
import ScriptSandbox.Text.Quoted

/-!
# Printing JSON

One line without blanks. Only what JSON forbids in a string is escaped; floats have the fewest
digits that read back, and what is no number of JSON is null.
-/

namespace ScriptSandbox.Json

/-- A character inside a JSON string. -/
def escape (c : Char) : String :=
  match c with
  | '\x22' => "\\\x22"
  | '\\' => "\\\\"
  | '\x08' => "\\b"
  | '\x0c' => "\\f"
  | '\n' => "\\n"
  | '\r' => "\\r"
  | '\t' => "\\t"
  | c => if c.toNat < 32 then "\\u" ++ Text.hexPadded 4 c.toNat else c.toString

/-- A JSON string. -/
def quoted (s : String) : String :=
  s.foldl (fun acc c ↦ acc ++ escape c) "\x22" ++ "\x22"

/-- A float as a JSON number. -/
def floatText (f : Float) : String :=
  match Decimal.Parts.ofFloat f with
  | .nan | .infinite _ => "null"
  | _ => Decimal.recorded.text f

mutual

/-- A value as one line of text, after the text `acc`. -/
def renderOnto (acc : String) : Json → String
  | .null => acc ++ "null"
  | .bool b => acc ++ (if b then "true" else "false")
  | .int n => acc ++ toString n
  | .float f => acc ++ floatText f
  | .string s => acc ++ quoted s
  | .array items => renderItems (acc ++ "[") true items ++ "]"
  | .object members => renderMembers (acc ++ "\x7b") true members ++ "\x7d"

/-- The items of an array, separated by commas. -/
def renderItems (acc : String) (first : Bool) : List Json → String
  | [] => acc
  | item :: rest => renderItems (renderOnto (if first then acc else acc ++ ",") item) false rest

/-- The members of an object, separated by commas. -/
def renderMembers (acc : String) (first : Bool) : List (String × Json) → String
  | [] => acc
  | (name, value) :: rest =>
    let acc := (if first then acc else acc ++ ",") ++ quoted name ++ ":"
    renderMembers (renderOnto acc value) false rest

end

/-- A value as one line of text. -/
def render (value : Json) : String := renderOnto "" value

end ScriptSandbox.Json

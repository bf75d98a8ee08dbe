import ScriptSandbox.Unicode.Printable

/-!
# Quoted text

The form of a text in diagnostics: between double quotes, with quotes, backslashes and line
controls escaped by a letter, and every character that cannot stand for itself by its number.
-/

namespace ScriptSandbox.Text

/-- The digits of a number to base 16, lower case. -/
def hex (n : Nat) : String := String.ofList (Nat.toDigits 16 n)

/-- The digits of a number to base 16, lower case, filled up with zeros to `width`. -/
def hexPadded (width n : Nat) : String :=
  let digits := Nat.toDigits 16 n
  String.ofList (List.replicate (width - digits.length) '0' ++ digits)

/-- A decimal number filled up with zeros to `width` digits. -/
def decimalPadded (width n : Nat) : String :=
  let digits := Nat.toDigits 10 n
  String.ofList (List.replicate (width - digits.length) '0' ++ digits)

/-- One character as it stands between double quotes. -/
def escapeQuoted (c : Char) : String :=
  match c with
  | '\x00' => "\\0"
  | '\t' => "\\t"
  | '\r' => "\\r"
  | '\n' => "\\n"
  | '\\' => "\\\\"
  | '\x22' => "\\\x22"
  | c => if Unicode.isPrintable c then c.toString else "\\u\x7b" ++ hex c.toNat ++ "\x7d"

/-- A text between double quotes. -/
def quote (s : String) : String :=
  "\x22" ++ String.join (s.toList.map escapeQuoted) ++ "\x22"

/-- A character between single quotes; there the single quote is escaped and the double is not. -/
def quoteChar (c : Char) : String :=
  let inner := match c with
    | '\x27' => "\\\x27"
    | '\x22' => "\x22"
    | c => escapeQuoted c
  "\x27" ++ inner ++ "\x27"

/-- Items between two brackets, separated by commas. -/
def bracketed (opening closing : String) (items : List String) : String :=
  opening ++ ", ".intercalate items ++ closing

/-- Named fields between braces after a name. -/
def record (name : String) (fields : List (String × String)) : String :=
  name ++ " \x7b " ++ ", ".intercalate (fields.map fun (field, value) ↦ field ++ ": " ++ value)
    ++ " \x7d"

example : quote "a\x22b\n" = "\x22a\\\x22b\\n\x22" := by decide +kernel

end ScriptSandbox.Text

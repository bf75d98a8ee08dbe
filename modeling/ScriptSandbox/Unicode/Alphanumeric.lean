import ScriptSandbox.Unicode.Category
import ScriptSandbox.Unicode.Property

/-!
# Letters and numerals

The characters that names are made of. Names follow a newer edition of the standard than the
classes of characters do, so the letters and numerals it has added are listed here.
-/

namespace ScriptSandbox.Unicode

open ScriptSandbox.Text

/-- Letters and other alphabetic characters that only names know. -/
def newLetters : CharSet := CharSet.ofRuns [
  "2191 1 972 1 127 1 39665 2 2 1 1 1 28 1 24910 26 1387 3 50 2 3172 8 584 44 20676 25 2 25",
  "286 5 6145 8 1289 22 97 115 22733 31 1 22 8 2 53306 6 5986 12 21762 4298"]

/-- Numerals that only names know. -/
def newNumerals : CharSet := CharSet.ofRuns [
  "73184 10 21002 3"]

/-- The characters that count as letters in a name. -/
def letters : CharSet := (charsOf properties ["alphabetic"]).union newLetters

/-- The characters that count as numerals in a name. -/
def numerals : CharSet := (charsOf categories ["nd", "nl", "no"]).union newNumerals

end ScriptSandbox.Unicode

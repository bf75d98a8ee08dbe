import ScriptSandbox.Pattern.Ast
import ScriptSandbox.Unicode.Age
import ScriptSandbox.Unicode.Name
import ScriptSandbox.Unicode.ScriptExtension
import ScriptSandbox.Unicode.Segmentation
import ScriptSandbox.Unicode.Word

/-!
# Named classes of characters

The characters that the named classes of patterns stand for: the shorthands, the ASCII classes, and
the classes of characters with a property of the Unicode standard, which are found by their loose
names.
-/

namespace ScriptSandbox.Pattern

open ScriptSandbox.Text ScriptSandbox.Unicode

/-- The loose form of a name: lower case letters without blanks, hyphens, underscores, a leading
`is` and what is not ASCII. -/
def looseName (name : String) : String :=
  let cs := name.toList.map Char.toLower
  let (lead, body) := match cs with
    | 'i' :: 's' :: rest => (true, rest)
    | rest => (false, rest)
  let kept := body.filter fun c ↦ c ≠ ' ' && c ≠ '_' && c ≠ '-' && c.toNat < 128
  -- the category of other characters is not looked up through a leading `is`
  if lead && kept = ['c'] then "isc" else String.ofList kept

/-- The categories written by one letter, each with the categories it comprises. -/
def categoryGroups : List (List String × List String) := [
  (["lc", "casedletter"], ["lu", "ll", "lt"]),
  (["l", "letter"], ["lu", "ll", "lt", "lm", "lo"]),
  (["m", "mark", "combiningmark"], ["mn", "mc", "me"]),
  (["n", "number"], ["nd", "nl", "no"]),
  (["p", "punctuation", "punct"], ["pc", "pd", "ps", "pe", "pi", "pf", "po"]),
  (["s", "symbol"], ["sm", "sc", "sk", "so"]),
  (["z", "separator"], ["zs", "zl", "zp"])]

/-- All characters that have a category. -/
def assigned : CharSet :=
  (CharSet.range 0xD800 0xDFFF).union (unionOf (categories.map (·.chars)))

/-- The characters of a general category, by its loose name. -/
def category? (name : String) : Option CharSet :=
  match name with
  | "any" => some .full
  | "assigned" => some assigned
  | "ascii" => some (.range 0 127)
  | "cn" | "unassigned" => some assigned.complement
  | "c" | "other" => some ((charsOf categories ["cc", "cf", "co"]).union assigned.complement)
  | name =>
    match categoryGroups.find? fun g ↦ g.1.contains name with
    | some (_, members) => some (charsOf categories members)
    | none => chars? categories name

/-- The characters used in a script, by its loose name. -/
def scriptExtension? (name : String) : Option CharSet :=
  (chars? scriptExtensions name).orElse fun _ ↦ chars? scripts name

/-- Why a class of characters with a property is not known. -/
inductive QueryFault where
  | property
  | value
  deriving DecidableEq, Repr

/-- The characters with a binary property or in a category or script of a name. Three short names
are both a category's and a property's, and mean the category. -/
def named (name : String) : Except QueryFault CharSet :=
  let name := looseName name
  let ambiguous := name = "cf" || name = "sc" || name = "lc"
  let binary := if ambiguous then none else chars? properties name
  match binary.orElse fun _ ↦ (category? name).orElse fun _ ↦ chars? scripts name with
  | some s => .ok s
  | none => .error (if valuesWithoutChars.contains name then .value else .property)

/-- The characters for which a property has a value, by their loose names. -/
def valued? (property value : String) : Option CharSet :=
  match property with
  | "gc" | "generalcategory" => category? value
  | "sc" | "script" => chars? scripts value
  | "scx" | "scriptextensions" => scriptExtension? value
  | "age" => age? value
  | "gcb" | "graphemeclusterbreak" => graphemeBreak? value
  | "wb" | "wordbreak" => wordBreak? value
  | "sb" | "sentencebreak" => sentenceBreak? value
  | _ => none

/-- The characters that a query asks for. -/
def PropertyQuery.chars : PropertyQuery → Except QueryFault CharSet
  | letter c => Pattern.named c.toString
  | named name => Pattern.named name
  | valued property value =>
    let property := looseName property
    match valued? property (looseName value) with
    | some s => .ok s
    | none => .error (if isPropertyName property then .value else .property)

/-- The characters of an ASCII class. -/
def asciiChars (name : String) : CharSet :=
  let r (lo hi : Char) : Nat × Nat := (lo.toNat, hi.toNat)
  CharSet.ofRanges <| match name with
    | "alnum" => [r '0' '9', r 'A' 'Z', r 'a' 'z']
    | "alpha" => [r 'A' 'Z', r 'a' 'z']
    | "ascii" => [(0, 127)]
    | "blank" => [(9, 9), (32, 32)]
    | "cntrl" => [(0, 31), (127, 127)]
    | "digit" => [r '0' '9']
    | "graph" => [r '!' '~']
    | "lower" => [r 'a' 'z']
    | "print" => [r ' ' '~']
    | "punct" => [r '!' '/', r ':' '@', r '[' '\x60', r '\x7b' '~']
    | "space" => [(9, 13), (32, 32)]
    | "upper" => [r 'A' 'Z']
    | "word" => [r '0' '9', r 'A' 'Z', r '_' '_', r 'a' 'z']
    | "xdigit" => [r '0' '9', r 'A' 'F', r 'a' 'f']
    | _ => []

/-- The characters with the property `White_Space`. -/
def blanks : CharSet := charsOf properties ["whitespace"]

/-- The decimal digits of the Unicode standard. -/
def decimalDigits : CharSet := charsOf categories ["nd"]

/-- The characters of a shorthand, of the whole standard or of ASCII alone. -/
def Shorthand.chars (unicode : Bool) : Shorthand → CharSet
  | digit => if unicode then decimalDigits else asciiChars "digit"
  | space => if unicode then blanks else asciiChars "space"
  | word => if unicode then wordChars else asciiChars "word"

/-- All letters of ASCII that agree with a member in everything but case. -/
def closeUnderAsciiCase (s : CharSet) : CharSet :=
  let letters := (List.range 26).flatMap fun i ↦
    let upper := 65 + i
    let lower := 97 + i
    if s.contains (Char.ofNat upper) || s.contains (Char.ofNat lower) then
      [(upper, upper), (lower, lower)]
    else []
  CharSet.ofRanges (s.ranges.toList ++ letters)

end ScriptSandbox.Pattern

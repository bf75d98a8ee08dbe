/-!
# Positions in a script

A place in the text of a script, or none. Lines count from 1; a token stands at its column, also
counted from 1, and column 0 is the place before a line's first character. Both numbers stay within
sixteen bits and stop at the greatest.
-/

namespace ScriptSandbox.Script

/-- A place in a script, if there is one. -/
inductive Position where
  | none
  | place (line column : Nat)
  deriving DecidableEq, Repr, Inhabited

namespace Position

/-- The greatest line and column that can be told apart. -/
def limit : Nat := 65535

/-- Whether there is no place. -/
def isNone : Position → Bool
  | none => true
  | place _ _ => false

/-- The line, if there is a place. -/
def line? : Position → Option Nat
  | none => Option.none
  | place line _ => some line

/-- A place in words. -/
def text : Position → String
  | none => "none"
  | place line column => "line " ++ toString line ++ ", position " ++ toString column

/-- A place after a message, in parentheses; nothing if there is none. -/
def suffix (p : Position) : String :=
  if p.isNone then "" else " (" ++ p.text ++ ")"

/-- A place in short, for diagnostics. -/
def short : Position → String
  | none => "none"
  | place line column =>
    if column = 0 then toString line else toString line ++ ":" ++ toString column

end Position

end ScriptSandbox.Script

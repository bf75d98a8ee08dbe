import ScriptSandbox.Script.Position

/-!
# Faults of scripts

Why a text is no script: a character or a word that cannot stand where it stands, something that is
missing, a name that is not known, or a literal over a limit.
-/

namespace ScriptSandbox.Script

/-- The ways a text can fail to be a script. -/
inductive FaultKind where
  | unexpected (text : String)
  | malformedEscape (text : String)
  | malformedNumber (text : String)
  | malformedChar (text : String)
  | malformedName (text : String)
  | unterminatedString
  | stringTooLong (limit : Nat)
  /-- A symbol that another language has, with advice. -/
  | improper (advice : String)
  | incomplete
  | unknownOperator (text : String)
  /-- A token is missing, with what it would do. -/
  | missing (token purpose : String)
  | missingSymbol (advice : String)
  | malformedIndex (advice : String)
  | duplicateProperty (name : String)
  | duplicateVariable (name : String)
  | propertyExpected
  | variableExpected
  | reserved (text : String)
  | mismatch (expected actual : String)
  | expressionExpected (what : String)
  | functionMisplaced
  | functionNameMissing
  | functionParamsMissing (name : String)
  | duplicateParam (function param : String)
  | functionBodyMissing (name : String)
  | duplicateFunction (name : String) (params : Nat)
  | constantAssigned (name : String)
  | notAssignable
  | literalTooLarge (what : String) (limit : Nat)
  | tooManyFunctions
  | undefinedVariable (name : String)
  | strayBreak
  | tooDeep
  deriving DecidableEq, Repr, Inhabited

/-- Whether a text has the form of a name. -/
def isName (text : String) : Bool :=
  match text.toList.dropWhile (· = '_') with
  | [] => false
  | c :: rest => c.isAlpha && rest.all fun c ↦ c.isAlphanum || c = '_'

/-- The words for a fault. -/
def FaultKind.message : FaultKind → String
  | unexpected text => "Unexpected '" ++ text ++ "'"
  | malformedEscape text => "Invalid escape sequence: '" ++ text ++ "'"
  | malformedNumber text => "Invalid number: '" ++ text ++ "'"
  | malformedChar text => "Invalid character: '" ++ text ++ "'"
  | malformedName text => "Variable name is not proper: '" ++ text ++ "'"
  | unterminatedString => "Open string is not terminated"
  | stringTooLong limit =>
    "Length of string exceeds the maximum limit (" ++ toString limit ++ ")"
  | improper advice => advice
  | incomplete => "Script is incomplete"
  | unknownOperator text => "Unknown operator: '" ++ text ++ "'"
  | missing token purpose => "Expecting '" ++ token ++ "' " ++ purpose
  | missingSymbol advice => advice
  | malformedIndex advice => advice
  | duplicateProperty name => "Duplicated property for object map literal: " ++ name
  | duplicateVariable name => "Duplicated variable name: " ++ name
  | propertyExpected => "Expecting name of a property"
  | variableExpected => "Expecting name of a variable"
  | reserved text =>
    "'" ++ text ++ "' is a reserved " ++ (if isName text then "keyword" else "symbol")
  | mismatch expected actual => "Expecting " ++ expected ++ ", not " ++ actual
  | expressionExpected what => "Expecting " ++ what ++ " expression"
  | functionMisplaced =>
    "Function definitions must be at global level and cannot be inside a block or another function"
  | functionNameMissing => "Expecting function name in function declaration"
  | functionParamsMissing name => "Expecting parameters for function " ++ name
  | duplicateParam function param =>
    "Duplicated parameter " ++ param ++ " for function " ++ function
  | functionBodyMissing name => "Expecting body statement block for function " ++ name
  | duplicateFunction name params =>
    let count := match params with
      | 0 => "no parameters"
      | 1 => "1 parameter"
      | n => toString n ++ " parameters"
    "Function " ++ name ++ " with " ++ count ++ " already exists"
  | constantAssigned name =>
    if name.isEmpty then "Cannot assign to a constant value"
    else "Cannot assign to constant " ++ name
  | notAssignable => "Expression cannot be assigned to"
  | literalTooLarge what limit =>
    what ++ " exceeds the maximum limit (" ++ toString limit ++ ")"
  | tooManyFunctions => "Number of functions defined exceeds maximum limit"
  | undefinedVariable name => "Undefined variable: " ++ name
  | strayBreak => "Break statement should only be used inside a loop"
  | tooDeep => "Expression exceeds maximum complexity"

/-- A fault and where it is. -/
structure ParseError where
  /-- What is wrong. -/
  kind : FaultKind
  /-- Where. -/
  position : Position
  deriving DecidableEq, Repr, Inhabited

/-- The text of a fault. -/
def ParseError.message (e : ParseError) : String := e.kind.message ++ e.position.suffix

end ScriptSandbox.Script

import ScriptSandbox.Script.Position
import ScriptSandbox.Script.Value

/-!
# Errors of running scripts

Why the run of a script ends without a value. An error is raised at a place; each script function
it passes on its way out wraps it with the function's name and the place of the call. Errors that
the sandbox raises to stop a script pass through unwrapped and cannot be caught.
-/

namespace ScriptSandbox.Script

/-- What an error is about. -/
inductive Cause where
  /-- The script threw a value. -/
  | thrown (value : Value)
  | variableNotFound (name : String)
  /-- A function was not called on a value. -/
  | unboundThis
  /-- No function has this name and takes arguments of these types. -/
  | functionNotFound (signature : String)
  | moduleNotFound (path : String)
  | propertyNotFound (name : String)
  | getterNotFound (property typeName : String)
  | setterNotFound (property typeName valueType : String)
  /-- Values of this shape have no index. -/
  | indexerNotFound (shape : String)
  | arrayBounds (size : Nat) (index : Int)
  | stringBounds (size : Nat) (index : Int)
  | bitBounds (index : Int)
  /-- A value of one type stands where another is needed. -/
  | mismatch (actual expected : String)
  /-- A function gave a value of one type back where another is needed. -/
  | outputMismatch (actual expected : String)
  | notIterable
  | constantAssigned (name : String)
  /-- A method that changes what it is called on was called on a constant. -/
  | constantReceiver (method : String)
  /-- A property of a constant host value was assigned to. -/
  | constantProperty (name : String)
  /-- An operation on numbers has no result. -/
  | arithmetic (message : String)
  | tooManyOperations
  | tooManyVariables
  | tooManyModules
  | stackOverflow
  /-- A value grew over a limit. -/
  | tooLarge (what : String)
  /-- The run was stopped from outside. -/
  | terminated
  deriving Inhabited

/-- An error with the function calls it passed, the innermost last. -/
inductive EvalError where
  | raised (cause : Cause) (position : Position)
  /-- It left a function, called at a position; `source` names the text the function is from. -/
  | inCall (function source : String) (inner : EvalError) (position : Position)
  deriving Inhabited

/-- How many elements there are, in words. -/
def countPhrase (what element : String) (size : Nat) : String :=
  if size = 0 then what ++ " is empty"
  else if size = 1 then "only 1 " ++ element ++ " in " ++ what
  else "only " ++ toString size ++ " " ++ element ++ "s in " ++ what

namespace Cause

/-- The words for a cause. Host values in a thrown value show the full names of their types. -/
def message : Cause → String
  | thrown value =>
    let text := value.display .full
    if text.isEmpty then "Runtime error" else "Runtime error: " ++ text
  | variableNotFound name => "Variable not found: " ++ name
  | unboundThis => "'this' not bound"
  | functionNotFound signature => "Function not found: " ++ signature
  | moduleNotFound path => "Module not found: " ++ path
  | propertyNotFound name => "Property not found: " ++ name
  | getterNotFound property typeName =>
    "Unknown property '" ++ property ++ "' - a getter is not registered for type '" ++ typeName
      ++ "'"
  | setterNotFound property typeName valueType =>
    "No writable property '" ++ property ++ "' - a setter is not registered for type '" ++ typeName
      ++ "' to handle '" ++ valueType ++ "'"
  | indexerNotFound shape => "Indexer unavailable: " ++ shape
  | arrayBounds size index =>
    "Array index " ++ toString index ++ " out of bounds: " ++ countPhrase "array" "element" size
  | stringBounds size index =>
    "String index " ++ toString index ++ " out of bounds: "
      ++ countPhrase "string" "character" size
  | bitBounds index =>
    "Bit-field index " ++ toString index ++ " out of bounds: only 64 bits in bit-field"
  | mismatch actual expected =>
    "Data type incorrect: " ++ actual ++ " (expecting " ++ expected ++ ")"
  | outputMismatch actual expected =>
    "Output type incorrect: " ++ actual ++ " (expecting " ++ expected ++ ")"
  | notIterable => "For loop expects iterable type"
  | constantAssigned name => "Cannot modify constant " ++ name
  | constantReceiver method =>
    "Non-pure method '" ++ method ++ "' cannot be called on constant"
  | constantProperty name => "Cannot modify property '" ++ name ++ "' of constant"
  | arithmetic text => text
  | tooManyOperations => "Too many operations"
  | tooManyVariables => "Too many variables defined"
  | tooManyModules => "Too many modules imported"
  | stackOverflow => "Stack overflow"
  | tooLarge what => what ++ " too large"
  | terminated => "Script terminated"

/-- What a script that catches an error of this cause is told besides its words. -/
def details : Cause → List (String × Value)
  | variableNotFound name | propertyNotFound name | constantAssigned name =>
    [("variable", .string name)]
  | functionNotFound name | constantReceiver name => [("function", .string name)]
  | constantProperty name => [("function", .string ("set$" ++ name))]
  | moduleNotFound path => [("module", .string path)]
  | c@(getterNotFound ..) | c@(setterNotFound ..) => [("property", .string c.message)]
  | indexerNotFound shape => [("type", .string shape)]
  | arrayBounds size index | stringBounds size index =>
    [("length", .int size), ("index", .int index)]
  | bitBounds index => [("length", .int 64), ("index", .int index)]
  | mismatch actual expected | outputMismatch actual expected =>
    [("requested", .string expected), ("actual", .string actual)]
  | tooLarge what => [("type", .string what)]
  | _ => []

/-- The name of the kind of a cause, which a script sees when it catches the error. -/
def kind : Cause → String
  | thrown _ => "ErrorRuntime"
  | variableNotFound _ => "ErrorVariableNotFound"
  | unboundThis => "ErrorUnboundThis"
  | functionNotFound _ => "ErrorFunctionNotFound"
  | moduleNotFound _ => "ErrorModuleNotFound"
  | propertyNotFound _ => "ErrorPropertyNotFound"
  | getterNotFound .. | setterNotFound .. => "ErrorDotExpr"
  | indexerNotFound _ => "ErrorIndexingType"
  | arrayBounds .. => "ErrorArrayBounds"
  | stringBounds .. => "ErrorStringBounds"
  | bitBounds _ => "ErrorBitFieldBounds"
  | mismatch .. => "ErrorMismatchDataType"
  | outputMismatch .. => "ErrorMismatchOutputType"
  | notIterable => "ErrorFor"
  | constantAssigned _ => "ErrorAssignmentToConstant"
  | constantReceiver _ | constantProperty _ => "ErrorNonPureMethodCallOnConstant"
  | arithmetic _ => "ErrorArithmetic"
  | tooManyOperations => "ErrorTooManyOperations"
  | tooManyVariables => "ErrorTooManyVariables"
  | tooManyModules => "ErrorTooManyModules"
  | stackOverflow => "ErrorStackOverflow"
  | tooLarge _ => "ErrorDataTooLarge"
  | terminated => "ErrorTerminated"

/-- Whether an error of this cause passes function calls unwrapped. -/
def passesCalls : Cause → Bool
  | tooManyOperations | tooManyVariables | tooManyModules | stackOverflow | tooLarge _
  | terminated => true
  | _ => false

/-- Whether a script can catch an error of this cause. -/
def catchable : Cause → Bool
  | tooManyOperations | tooManyVariables | tooManyModules | stackOverflow | tooLarge _
  | terminated => false
  | _ => true

end Cause

namespace EvalError

/-- The outermost position. -/
def position : EvalError → Position
  | raised _ p => p
  | inCall _ _ _ p => p

/-- The cause at the bottom of the calls. -/
def cause : EvalError → Cause
  | raised c _ => c
  | inCall _ _ inner _ => inner.cause

/-- Whether a script can catch the error. -/
def isCatchable : EvalError → Bool
  | raised c _ => c.catchable
  | inCall .. => true

/-- The name of the kind of an error, which a script sees when it catches it. -/
def kind : EvalError → String
  | raised c _ => c.kind
  | inCall .. => "ErrorInFunctionCall"

/-- What a script that catches the error is told besides its words. -/
def details : EvalError → List (String × Value)
  | raised c _ => c.details
  | inCall function source _ _ => [("function", .string function), ("source", .string source)]

/-- The error with another outermost position. -/
def withPosition (p : Position) : EvalError → EvalError
  | raised c _ => raised c p
  | inCall f s inner _ => inCall f s inner p

/-- Whether the run was stopped from outside. -/
def isTermination : EvalError → Bool
  | raised .terminated _ => true
  | raised _ _ => false
  | inCall _ _ inner _ => inner.isTermination

/-- The words for a call that an error left. -/
def callPhrase (function : String) : String :=
  if "anon$".toList.isPrefixOf function.toList then "in closure call"
  else "in call to function '" ++ function ++ "'"

/-- The text of an error without its outermost position. -/
def body : EvalError → String
  | raised c _ => c.message
  | inCall function source inner _ =>
    inner.body
      ++ (if source.isEmpty then "" else " @ '" ++ source ++ "'")
      ++ inner.position.suffix ++ "\n" ++ callPhrase function
      ++ (if source.isEmpty then "" else " (from '" ++ source ++ "')")

/-- The text of an error. -/
def message (e : EvalError) : String := e.body ++ e.position.suffix

end EvalError

end ScriptSandbox.Script

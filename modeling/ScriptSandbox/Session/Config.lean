import ScriptSandbox.Include.Expansion
import ScriptSandbox.Script.Engine
import ScriptSandbox.Span

/-!
# Configuration of a session

The limits of each execution: the time it may take, what its script may use, how deep directives may
nest, and whether a dropped directive fails it.
-/

namespace ScriptSandbox

/-- The limits of each execution of a session. -/
structure Config where
  /-- The time an execution may take. -/
  maxRuntime : Span
  /-- What its script may use. -/
  limits : Script.Limits
  /-- How deep directives may nest. -/
  maxIncludeDepth : Nat
  /-- Whether an execution fails if a directive was dropped. -/
  strictIncludes : Bool
  deriving DecidableEq, Repr

namespace Config

/-- The time an execution may take where none is set. -/
def defaultMaxRuntime : Span := .ofSeconds 3

/-- The configuration where nothing is set. -/
def default : Config where
  maxRuntime := defaultMaxRuntime
  limits :=
    { operations := 0, callLevels := 64, exprDepth := 64, functionExprDepth := 32,
      stringSize := 1000000, arraySize := 100000, mapSize := 100000, scopeSize := 10000,
      functions := 1000, modules := 10 }
  maxIncludeDepth := 64
  strictIncludes := false

instance : Inhabited Config := ⟨default⟩

/-- The names and texts of all limits, in the order they are shown. -/
def fields (c : Config) : List (String × String) :=
  [("max_runtime", c.maxRuntime.text),
   ("max_operations", toString c.limits.operations),
   ("max_call_levels", toString c.limits.callLevels),
   ("max_expr_depth", toString c.limits.exprDepth),
   ("max_function_expr_depth", toString c.limits.functionExprDepth),
   ("max_string_size", toString c.limits.stringSize),
   ("max_array_size", toString c.limits.arraySize),
   ("max_map_size", toString c.limits.mapSize),
   ("max_variables", toString c.limits.scopeSize),
   ("max_functions", toString c.limits.functions),
   ("max_modules", toString c.limits.modules),
   ("max_include_depth", toString c.maxIncludeDepth),
   ("strict_includes", toString c.strictIncludes)]

/-- A configuration in diagnostics. -/
def diagnostic (c : Config) : String := Text.record "ScriptConfig" c.fields

/-- A configuration as a record. -/
def toJson (c : Config) : Json :=
  .ofMembers
    [("max_runtime", c.maxRuntime.toJson),
     ("max_operations", .int c.limits.operations),
     ("max_call_levels", .int c.limits.callLevels),
     ("max_expr_depth", .int c.limits.exprDepth),
     ("max_function_expr_depth", .int c.limits.functionExprDepth),
     ("max_string_size", .int c.limits.stringSize),
     ("max_array_size", .int c.limits.arraySize),
     ("max_map_size", .int c.limits.mapSize),
     ("max_variables", .int c.limits.scopeSize),
     ("max_functions", .int c.limits.functions),
     ("max_modules", .int c.limits.modules),
     ("max_include_depth", .int c.maxIncludeDepth),
     ("strict_includes", .bool c.strictIncludes)]

end Config

end ScriptSandbox

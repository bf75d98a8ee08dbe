import ScriptSandbox.Failure
import ScriptSandbox.Script.Interpreter
import ScriptSandbox.Session.Builder

/-!
# Sessions

A session is a source with everything that controls how it runs. Evaluating it resolves its
directives, installs what is allowed in a fresh engine, puts the visible bindings into scope, and
lets the interpreter compile and run the text; the result is a run whose requests the world answers.
-/

namespace ScriptSandbox

open Text Script

/-- A source with all that controls its executions. -/
structure Session where
  /-- The source, with its directives. -/
  source : String
  /-- All that calls set. -/
  parts : Builder
  /-- What interprets its scripts. -/
  interpreter : Interpreter

/-- The session that a builder makes of a source. -/
def Builder.build (b : Builder) (source : String) (interpreter : Interpreter := .standard) :
    Session :=
  ⟨source, b, interpreter⟩

/-- All that an execution does before its script runs, and the run. -/
structure Evaluation where
  /-- What an observer is told. -/
  events : List Event
  /-- The tokens fetched, each with the position of its provider. -/
  fetched : List (Nat × String)
  /-- The run of the script. -/
  run : Run (Except Failure Slot)

/-- A hidden binding was left out. -/
def hiddenSkipped (name : String) : Event :=
  .note .debug "hidden binding skipped" [("binding", name)]

/-- The result of a run's ending. -/
def Script.Ending.result {α : Type} : Ending α → Except Failure α
  | .value v => .ok v
  | .failed e => .error (.runtime e)
  | .panicked message => .error (.panicked (panicText message))

namespace Session

/-- The bindings that scripts see, ascending by name. -/
def visible (s : Session) : List (String × Binding) :=
  s.parts.bindings.toList.filter fun (name, _) ↦ !s.parts.hidden.contains name

/-- The names that scripts see, ascending. -/
def visibleNames (s : Session) : List String := s.visible.map (·.1)

/-- Expands the directives of the source. -/
def resolve (s : Session) : Include.Resolution Unit :=
  Include.Resolver.resolve ⟨s.parts.providers, s.parts.config.maxIncludeDepth⟩ ()
    s.source.toList

/-- The fresh engine of an execution. -/
def engine (s : Session) : Capability.Table.Installation Engine :=
  s.parts.capabilities.installAllowed s.parts.filter (.standardWith s.parts.config.limits)

/-- A binding as a variable of a script. -/
def variableOf (name : String) (b : Binding) : Variable :=
  match b with
  | .own v => ⟨name, .own v, none⟩
  | .shared _ => ⟨name, .shared name, none⟩

/-- The variables an execution starts with. -/
def scope (s : Session) : List Variable := s.visible.map fun (name, b) ↦ variableOf name b

/-- What an observer is told about hidden bindings. -/
def scopeEvents (s : Session) : List Event :=
  (s.parts.bindings.names.filter s.parts.hidden.contains).map hiddenSkipped

/-- The cells that executions share, as they start. -/
def cells (s : Session) : NameMap Value :=
  s.parts.bindings.toList.foldl
    (fun m (name, b) ↦
      match b with
      | .own _ => m
      | .shared v => m.insert name v)
    .empty

/-- The run of a script's text in the engine and scope of the session. Of a shared variable that is
given back the result is its value at that time, not the variable. -/
def runText (s : Session) (text : String) : Run (Except Failure Slot) :=
  match s.interpreter.interpret s.engine.engine s.scope text with
  | .error e => .done (.error (.parse e))
  | .ok run => (run.bind Ending.flatten).bind fun ending ↦ .done (ending.result.map .own)

/-- One execution of the session. -/
def evaluation (s : Session) : Evaluation :=
  let r := s.resolve
  if s.parts.config.strictIncludes && !r.unresolved.isEmpty then
    ⟨r.trail.events, r.trail.fetched, .done (.error (.unresolvedInclude r.unresolved))⟩
  else
    ⟨r.trail.events ++ s.engine.events ++ s.scopeEvents, r.trail.fetched,
      s.runText (String.ofList r.text)⟩

/-- A session in diagnostics. -/
def diagnostic (s : Session) : String :=
  let b := s.parts
  record "Session"
    [("source", quote s.source), ("filter", b.filter.diagnostic),
     ("capabilities", b.capabilities.diagnostic),
     ("bindings", bracketed "[" "]" (b.bindings.names.map quote)),
     ("hidden", bracketed "\x7b" "\x7d" (b.hidden.toList.map quote)),
     ("providers", toString b.providers.length), ("config", b.config.diagnostic)]

end Session

end ScriptSandbox

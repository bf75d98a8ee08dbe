import ScriptSandbox.Proofs.Script.Requests
import ScriptSandbox.Session.Basic

/-!
# The confinement of scripts

Whatever its text is, a script reaches the world through what it was given and through nothing else:
its run makes no requests but those of the evaluator itself, those to the shared cells of the
variables it started with, and those of the host functions that a call can find in its engine
(`Program.confined_interpret`). The lemmas before that follow the evaluator, one for each of its
functions; the evaluation of tasks counts down a budget, and that is the induction.

This is all that is ever assumed of an interpreter (`Interpreter.Confined`), and the evaluator shows
that it can be met. An execution of a session runs its script in the session's engine and scope, or
not at all, so the same holds of it (`Session.asksOnly_evaluation`).
-/

namespace ScriptSandbox

namespace Script

open EvalM

variable {P : Request → Prop} {env : Env} {eval : Eval}

/-! ### Access paths -/

section Access

theorem confined_foundAssigned (target : Value) {ending : EvalM Unit} (h : Confined P ending) :
    Confined P (Found.assigned target ending) := by
  refine .bind (.attempt h) fun r ↦ ?_
  cases r with
  | ok _ => exact .pure _
  | error e => exact .pure _

theorem confined_readEntry (entries : List (String × Value)) (name : String) (p : Position) :
    Confined P (readEntry env entries name p) := by
  unfold readEntry
  split
  · exact .pure _
  · exact .ite (.raise _ _) (.pure _)

variable (h : env.engine.Within P)
include h

theorem confined_assigned (a : Assignment) (old : Value) : Confined P (assigned env a old) := by
  unfold assigned
  split
  · exact .pure _
  · split
    · exact confined_valueAt ..
    · exact .bind (confined_checkSize ..) fun _ ↦ confined_valueAt ..
    · exact .bind (confined_valueAt ..) fun _ ↦ .bind (confined_checkSize ..) fun _ ↦ .pure _
    · refine .ite (.bind (confined_tick h _) fun _ ↦ ?_) ?_
      all_goals exact .bind (confined_callNative h ..) fun _ ↦ .resume _

theorem confined_readProperty (target : Value) (name : String) (mark p : Position) :
    Confined P (readProperty env target name mark p) := by
  refine .bind (confined_tick h p) fun _ ↦ ?_
  split
  · next f hf => exact .bind (confined_callHost h hf ..) fun _ ↦ .resume _
  · split
    · exact .bind (confined_settle ..) fun _ ↦ .resume _
    · exact .bind (confined_tick h mark) fun _ ↦ .raise _ _

theorem confined_writeProperty (target : Subject) (name : String) (v : Value) (required : Bool)
    (result : Value) (mark p : Position) :
    Confined P (writeProperty env target name v required result mark p) := by
  refine .bind (confined_tick h p) fun _ ↦ ?_
  split
  · next f hf =>
    refine .guard (.bind (confined_callHost h hf ..) fun _ ↦ ?_)
    split
    · exact .pure _
    · exact .pure _
    · exact .signal _
  · exact .bind (confined_tick h mark) fun _ ↦ .ite (.raise _ _) (.pure _)

theorem confined_readIndex (target i : Value) (mark p : Position) :
    Confined P (readIndex env target i mark p) := by
  refine .bind (confined_tick h .none) fun _ ↦ ?_
  split
  case h_3 => exact confined_readEntry ..
  case h_9 => exact .bind (confined_tick h mark) fun _ ↦ .raise _ _
  case h_1 | h_2 | h_4 =>
    split
    · exact .pure _
    · exact .raise _ _
  all_goals exact .raise _ _

theorem confined_assignEntry (origin : Origin) (a : Assignment) (frozen : Option Value)
    (entries : List (String × Value)) (name : String) {ending : Value → Value → EvalM Unit}
    (hending : ∀ v changed, Confined P (ending v changed)) :
    Confined P (assignEntry env origin a frozen entries name ending) := by
  refine .bind (confined_tick h .none) fun _ ↦
    .guard (.bind (.attempt (confined_assigned h a _)) fun r ↦ ?_)
  split
  · exact confined_foundAssigned _ (hending ..)
  · exact .ite (.signal _) (.pure _)

theorem confined_assignIndex (origin : Origin) (a : Assignment) (target : Subject) (i : Value)
    (mark p : Position) : Confined P (assignIndex env origin a target i mark p) := by
  unfold assignIndex
  split
  case h_1 =>
    exact .bind (confined_readIndex h ..) fun _ ↦ .guard (.bind (confined_assigned h ..) fun _ ↦
      confined_foundAssigned _ (confined_checkSize ..))
  case h_2 => exact confined_assignEntry h _ _ _ _ _ fun _ _ ↦ confined_checkSize ..
  case h_3 | h_4 =>
    refine .bind (confined_readIndex h ..) fun _ ↦ .bind (confined_assigned h ..) fun v ↦ ?_
    split
    · exact confined_foundAssigned _ (.pure _)
    · exact .raise _ _
  case h_9 =>
    refine .bind (confined_tick h .none) fun _ ↦ .ite (.bind (confined_tick h mark) fun _ ↦ ?_) ?_
    all_goals exact .bind (confined_tick h mark) fun _ ↦ .raise _ _
  all_goals exact .bind (confined_tick h .none) fun _ ↦ .raise _ _

theorem confined_assignLink (origin : Origin) (a : Assignment) (target : Subject) (link : Link) :
    Confined P (assignLink env origin a target link) := by
  unfold assignLink
  split
  · split
    · exact confined_assignEntry h _ _ _ _ _ fun _ _ ↦ confined_checkSize ..
    · refine .ite (.bind (confined_readProperty h ..) fun _ ↦
        .bind (confined_assigned h ..) fun _ ↦ ?_) (.bind (.pure _) fun _ ↦ ?_)
      all_goals exact confined_writeProperty h ..
  · exact confined_assignIndex h ..
  · exact .pure _

variable (heval : ∀ task, Confined P (eval task))
include heval

/-- The induction is on the steps that are left. -/
theorem confined_follow (origin : Origin) (final : Option Assignment) (target : Subject)
    (links : List Link) : Confined P (follow env eval origin final target links) := by
  induction links generalizing target with
  | nil => exact .pure _
  | cons link rest ih =>
    unfold follow
    split
    · exact confined_assignLink h ..
    · split
      · split
        · exact .bind (confined_tick h .none) fun _ ↦ .bind (confined_readEntry ..) fun _ ↦
            .bind (ih _) fun _ ↦ .pure _
        · exact .bind (confined_readProperty h ..) fun _ ↦ .bind (ih _) fun _ ↦
            .bind (.resume _) fun _ ↦ .ite (confined_writeProperty h ..) (.pure _)
      · refine .bind (confined_readIndex h ..) fun _ ↦ ?_
        split
        all_goals exact .bind (ih _) fun _ ↦ .pure _
      · exact .bind (confined_callMethod h heval ..) fun _ ↦
          .bind (.attempt (.bind (.resume _) fun _ ↦ .bind (ih _) fun _ ↦ .resume _)) fun _ ↦
            .pure _

omit h in
theorem confined_evalAll (es : List Expr) : Confined P (evalAll eval es) := by
  induction es with
  | nil => exact .pure _
  | cons e rest ih => exact .bind (heval _) fun _ ↦ .bind ih fun _ ↦ .pure _

omit h in
theorem confined_evalStep (a : Access) : Confined P (evalStep eval a) := by
  cases a with
  | property name mark p => exact .pure _
  | index i mark => exact .bind (heval _) fun _ ↦ .pure _
  | method name args mark p => exact .bind (confined_evalAll heval args) fun _ ↦ .pure _

theorem confined_evalSteps (steps : List Access) : Confined P (evalSteps env eval steps) := by
  induction steps with
  | nil => exact .pure _
  | cons a rest ih =>
    cases rest with
    | nil =>
      exact .bind (confined_tick h _) fun _ ↦ .bind (confined_evalStep heval a) fun _ ↦ .pure _
    | cons next rest =>
      exact .bind (confined_tick h _) fun _ ↦ .bind (confined_evalStep heval a) fun _ ↦
        .bind ih fun _ ↦ .pure _

theorem confined_evalLinks (steps : List Access) : Confined P (evalLinks env eval steps) := by
  unfold evalLinks
  split
  · split
    · exact .pure _
    · exact confined_evalSteps h heval _
  · exact confined_evalSteps h heval _

theorem confined_followVariable (origin : Origin) (final : Option Assignment) (i : Nat)
    (v : Value) (links : List Link) :
    Confined P (followVariable env eval origin final i v links) := by
  refine confined_changing i (.bind (confined_frozenVariable i) fun frozen ↦
    .bind (confined_takeVariable i) fun _ ↦ .bind (.attempt (confined_follow h heval ..))
      fun found ↦ .state_bind fun s hs ↦ ?_)
  have hending : Confined P (EvalM.resume found >>= fun found ↦ EvalM.resume found.outcome) :=
    .bind (.resume _) fun _ ↦ .resume _
  dsimp only
  split
  · exact .bind (confined_writeVariable ..) fun _ ↦ hending
  · exact .ite (.bind (confined_writeVariable ..) fun _ ↦ hending) hending

theorem confined_evalPath (root : Expr) (steps : List Access) (final : Option Assignment) :
    Confined P (evalPath env eval root steps final) := by
  refine .bind (confined_evalLinks h heval _) fun links ↦ ?_
  split
  · refine .bind (confined_tick h _) fun _ ↦ .bind (confined_readVariable ..) fun x ↦ ?_
    split
    · exact confined_followVariable h heval ..
    · exact .bind (confined_follow h heval ..) fun _ ↦ .resume _
  · refine .bind (confined_tick h _) fun _ ↦ .state_bind fun s _ ↦ ?_
    split
    · exact .raise _ _
    · exact .bind (confined_tick h _) fun _ ↦ .bind (confined_follow h heval ..) fun _ ↦
        .ite (.bind (.update fun _ hs ↦ hs) fun _ ↦ .resume _) (.resume _)
  · exact .bind (heval _) fun _ ↦ .bind (confined_follow h heval ..) fun _ ↦ .resume _

end Access

/-! ### Expressions -/

section Expression

variable (heval : ∀ task, Confined P (eval task))
include heval

theorem confined_evalItems (es : List Expr) (acc : Array Value) (sizes : Value.Sizes) :
    Confined P (evalItems env eval es acc sizes) := by
  induction es generalizing acc sizes with
  | nil => exact .pure _
  | cons e rest ih =>
    refine .bind (heval _) fun v ↦ ?_
    dsimp only
    split
    · exact .raise _ _
    · exact ih _ _

theorem confined_evalEntries (es : List (String × Expr)) (acc : List (String × Value))
    (sizes : Value.Sizes) : Confined P (evalEntries env eval es acc sizes) := by
  induction es generalizing acc sizes with
  | nil => exact .pure _
  | cons e rest ih =>
    obtain ⟨name, e⟩ := e
    refine .bind (heval _) fun v ↦ ?_
    dsimp only
    split
    · exact .raise _ _
    · exact ih _ _

theorem confined_evalAllEqual (b : Bool) (es : List Expr) :
    Confined P (evalAllEqual env eval b es) := by
  induction es with
  | nil => exact .pure _
  | cons e rest ih =>
    exact .bind (heval _) fun _ ↦ .bind (confined_truth ..) fun _ ↦ .ite ih (.pure _)

variable (h : env.engine.Within P)
include h

theorem confined_evalCall (name : String) (args : List Expr) (p : Position) :
    Confined P (evalCall env eval name args p) := by
  unfold evalCall
  split
  · refine .bind (confined_tick h _) fun _ ↦ .bind (confined_evalAll heval _) fun vs ↦
      .bind (confined_readVariable ..) fun _ ↦ .state_bind fun s _ ↦
        .bind (confined_callFunction h heval ..) fun r ↦ ?_
    split
    · exact .bind (confined_writeVariable ..) fun _ ↦ .resume _
    · exact .bind (.pure ()) fun _ ↦ .resume _
  · refine .bind (confined_tick h _) fun _ ↦ .bind (confined_evalAll heval _) fun vs ↦
      .state_bind fun s _ ↦ ?_
    split
    · exact .raise _ _
    · refine .bind (confined_callFunction h heval ..) fun r ↦ ?_
      split
      · exact .bind (.update fun _ hs ↦ hs) fun _ ↦ .resume _
      · exact .bind (.pure ()) fun _ ↦ .resume _
  · exact .bind (confined_evalAll heval _) fun _ ↦
      .bind (confined_callFunction h heval ..) fun _ ↦ .resume _

theorem confined_evalApply (name : String) (isOperator : Bool) (args : List Expr)
    (p : Position) : Confined P (evalApply env eval name isOperator args p) :=
  .ite (.bind (confined_evalAll heval _) fun _ ↦ confined_callOperator h ..)
    (confined_evalCall heval h ..)

theorem confined_evalExpr (e : Expr) : Confined P (evalExpr env eval e) := by
  refine .bind (confined_tick h _) fun _ ↦ ?_
  split
  case h_8 => exact confined_evalItems heval ..
  case h_9 => exact confined_evalEntries heval ..
  case h_10 => exact .bind (confined_readVariable ..) fun _ ↦ .pure _
  case h_11 =>
    refine .state_bind fun s _ ↦ ?_
    split
    · exact .pure _
    · exact .raise _ _
  case h_12 => exact confined_evalApply heval h ..
  case h_13 | h_14 => exact .bind (confined_evalAllEqual heval ..) fun _ ↦ .pure _
  case h_15 => exact confined_evalPath h heval ..
  case h_16 => exact .ite (.pure _) (heval _)
  all_goals exact .pure _

end Expression

/-! ### Statements -/

section Statement

theorem confined_setTurn (item : Nat) (counter : Option Nat) (n : Nat) (v : Value) :
    Confined P (setTurn item counter n v) := by
  refine .bind (confined_writeVariable ..) fun _ ↦ ?_
  split
  · exact confined_writeVariable ..
  · exact .pure _

variable (heval : ∀ task, Confined P (eval task))
include heval

theorem confined_evalStmts (body : List Stmt) (v : Value) :
    Confined P (evalStmts eval body v) := by
  induction body generalizing v with
  | nil => exact .pure _
  | cons s rest ih => exact .bind (heval _) fun v ↦ ih v

theorem confined_evalBlock (body : List Stmt) : Confined P (evalBlock eval body) :=
  .ite (.pure _) (heval _)

theorem confined_turn (body : List Stmt) : Confined P (turn eval body) := by
  refine .bind (.attempt (heval _)) fun r ↦ ?_
  split
  case h_4 => exact .signal _
  all_goals exact .pure _

theorem confined_evalDeclare (name : String) (constant : Bool) (value : Expr) (p : Position) :
    Confined P (evalDeclare env eval name constant value p) := by
  refine .state_bind fun s hs ↦ .guard (.bind (heval _) fun v ↦ ?_)
  dsimp only
  split
  · exact .bind (.update fun _ hs ↦ hs.modify _ fun _ _ ↦ trivial) fun _ ↦ .pure _
  · exact .bind (.update fun _ hs ↦ hs.push trivial) fun _ ↦ .pure _

/-- A loop over a value is confined, once its variables are there. -/
theorem confined_startFor (name : String) (v : Value) (items : Expr) (body : List Stmt)
    (bodyAt : Position) (counterAt : Option Nat) :
    Confined P (do
      let item := (← state).scope.size
      pushVariable name .unit
      match v, env.engine.standard with
      | .range a b inclusive, true =>
        eval (.countLoop item counterAt 0 a (if inclusive then b + 1 else b) body bodyAt)
      | .array xs, true => eval (.itemLoop item counterAt 0 xs.toList body bodyAt)
      | .string s, true =>
        eval (.itemLoop item counterAt 0 (s.toList.map .char) body bodyAt)
      | _, _ => raise .notIterable items.startPosition) := by
  refine .state_bind fun s _ ↦ .bind (confined_pushVariable ..) fun _ ↦ ?_
  split
  case h_4 => exact .raise _ _
  all_goals exact heval _

theorem confined_evalFor (name : String) (nameAt : Position) (counter : Option String)
    (items : Expr) (body : List Stmt) (bodyAt : Position) :
    Confined P (evalFor env eval name nameAt counter items body bodyAt) := by
  refine .state_bind fun s _ ↦ .guard (.bind (heval _) fun v ↦
    confined_inBlock (.state_bind fun s _ ↦ ?_))
  cases counter with
  | some c =>
    exact .bind (confined_pushVariable ..) fun _ ↦
      .bind (.pure _) (confined_startFor heval name v items body bodyAt)
  | none => exact .bind (.pure _) (confined_startFor heval name v items body bodyAt)

theorem confined_evalTry (body : List Stmt) (name : Option (String × Position))
    (handler : List Stmt) : Confined P (evalTry env eval body name handler) := by
  refine .bind (.attempt (confined_evalBlock heval _)) fun r ↦ ?_
  split
  · exact .pure _
  · refine .ite (.signal _) (.bind (.attempt (confined_inBlock ?_)) fun r ↦ ?_)
    · split
      · exact .state_bind fun s _ ↦ .guard (.bind (confined_pushVariable ..) fun _ ↦
          confined_evalBlock heval _)
      · exact .bind (.pure ()) fun _ ↦ confined_evalBlock heval _
    · split
      · exact .pure _
      · exact .signal _
      · exact .signal _
  · exact .signal _

theorem confined_next (goOn : Task) (ended : TurnEnd) : Confined P (ended.next eval goOn) := by
  cases ended with
  | left v => exact .pure _
  | _ => exact heval _

variable (h : env.engine.Within P)
include h

theorem confined_evalAssign (op : AssignOp) (target value : Expr) (p : Position) :
    Confined P (evalAssign env eval op target value p) := by
  unfold evalAssign
  split
  · refine .bind (heval _) fun v ↦ .bind (confined_tick h _) fun _ ↦
      .bind (confined_readVariable ..) fun x ↦ ?_
    split
    · exact .raise _ _
    · exact .bind (confined_frozenVariable _) fun _ ↦
        .guard (.bind (confined_changing _ (confined_assigned h ..)) fun _ ↦
          .bind (confined_writeVariable ..) fun _ ↦ .pure _)
  · refine .state_bind fun s _ ↦ .guard (.bind (heval _) fun v ↦ .bind (confined_tick h _)
      fun _ ↦ .state_bind fun s _ ↦ ?_)
    split
    · exact .raise _ _
    · exact .guard (.bind (confined_assigned h ..) fun _ ↦
        .bind (.update fun _ hs ↦ hs) fun _ ↦ .pure _)
  · exact .bind (heval _) fun _ ↦ confined_evalPath h heval ..
  · exact .bind (heval _) fun _ ↦ .panic _

theorem confined_evalStmt (s : Stmt) : Confined P (evalStmt env eval s) := by
  refine .bind (confined_tick h _) fun _ ↦ ?_
  split
  case h_1 => exact .pure _
  case h_3 => exact confined_evalApply heval h ..
  case h_4 => exact confined_evalDeclare heval ..
  case h_5 => exact confined_evalAssign heval h ..
  case h_6 => exact confined_evalBlock heval ..
  case h_7 =>
    exact .bind (heval _) fun _ ↦ .bind (confined_truth ..) fun _ ↦ confined_evalBlock heval ..
  case h_10 => exact confined_evalFor heval ..
  case h_11 | h_13 =>
    split
    · exact .bind (heval _) fun _ ↦ .signal _
    · exact .signal _
  case h_12 => exact .signal _
  case h_14 =>
    split
    · exact .bind (heval _) fun _ ↦ .raise _ _
    · exact .raise _ _
  case h_15 => exact confined_evalTry heval ..
  case h_16 =>
    refine .guard (.bind (heval _) fun v ↦ ?_)
    split
    · exact .raise _ _
    · exact .raise _ _
  all_goals exact heval _

theorem confined_turnOrTick (body : List Stmt) (bodyAt : Position) :
    Confined P (turnOrTick env eval body bodyAt) :=
  .ite (.bind (confined_tick h _) fun _ ↦ .pure _) (confined_turn heval _)

/-! ### Tasks -/

theorem confined_whileLoop (condition : Option Expr) (body : List Stmt) (bodyAt : Position) :
    Confined P (step env eval (.whileLoop condition body bodyAt)) := by
  have hrest (goOn : Bool) : Confined P (do
      if !goOn then return .unit
      let ended ←
        if condition.isSome && body.isEmpty then pure .finished
        else turnOrTick env eval body bodyAt
      ended.next eval (.whileLoop condition body bodyAt)) :=
    .ite (.pure _) (.ite (.bind (.pure _) fun _ ↦ confined_next heval ..)
      (.bind (confined_turnOrTick heval h ..) fun _ ↦ confined_next heval ..))
  cases condition with
  | some e => exact .bind (heval _) fun _ ↦ .bind (confined_truth ..) hrest
  | none => exact .bind (.pure _) hrest

omit h in
theorem confined_doLoop (body : List Stmt) (condition : Expr) (whenTrue : Bool) :
    Confined P (step env eval (.doLoop body condition whenTrue)) := by
  refine .ite (.bind (.pure _) fun ended ↦ ?_) (.bind (confined_turn heval _) fun ended ↦ ?_)
  all_goals
    cases ended with
    | left v => exact .pure v
    | skipped => exact heval _
    | finished =>
      exact .bind (heval _) fun _ ↦ .bind (confined_truth ..) fun _ ↦ .ite (heval _) (.pure _)

/-- **A task is confined if the tasks it consists of are.** -/
theorem confined_step (task : Task) : Confined P (step env eval task) := by
  cases task with
  | expr e => exact confined_evalExpr heval h e
  | stmt s => exact confined_evalStmt heval h s
  | block body => exact confined_inBlock (confined_evalStmts heval ..)
  | whileLoop condition body bodyAt => exact confined_whileLoop heval h ..
  | doLoop body condition whenTrue => exact confined_doLoop heval ..
  | countLoop item counter n next last body bodyAt =>
    exact .ite (.pure _) (.bind (confined_setTurn ..) fun _ ↦
      .bind (confined_turnOrTick heval h ..) fun _ ↦ confined_next heval ..)
  | itemLoop item counter n items body bodyAt =>
    cases items with
    | nil => exact .pure _
    | cons v rest =>
      exact .bind (confined_setTurn ..) fun _ ↦
        .bind (confined_turnOrTick heval h ..) fun _ ↦ confined_next heval ..

end Statement

theorem confined_evalWithin (h : env.engine.Within P) (n : Nat) (task : Task) :
    Confined P (evalWithin env n task) := by
  induction n generalizing task with
  | zero => exact .raise _ _
  | succ n ih => exact confined_step ih h task

theorem confinedTo_evalScript (h : env.engine.Within P) (heval : ∀ task, Confined P (eval task))
    (body : List Stmt) (v : Value) :
    ConfinedTo P (fun slot ↦ slot.Within P) (evalScript env eval body v) := by
  fun_induction evalScript env eval body v with
  | case1 v => exact .pure trivial
  | case2 name p =>
    exact .bind (confined_tick h p) fun _ _ ↦ .bind (confined_tick h p) fun _ _ ↦
      .bind (confinedTo_findSlot name p) fun _ hslot ↦ .pure hslot
  | case3 s rest _ _ ih => exact .bind (heval _) fun v _ ↦ ih v

/-- **A script is confined to its engine and its scope.** -/
theorem Program.confined_interpret (program : Program) {engine : Engine} {scope : List Variable}
    (h : engine.Within P) (hscope : ∀ x ∈ scope, x.slot.Within P) :
    (program.interpret engine scope).Confined P := by
  let env : Env := ⟨engine, program.functions⟩
  have hbody : ConfinedTo P (fun slot ↦ slot.Within P)
      (evalScript env (evalWithin env budget) program.body .unit) :=
    confinedTo_evalScript h (confined_evalWithin h budget) program.body .unit
  refine hbody.run _ _ (fun x hx ↦ hscope x (List.mem_toArray.1 hx)) fun r _ _ hr ↦ ?_
  split
  · next slot => exact (hr slot rfl).asksOnly_read.bind fun _ ↦ .done _
  all_goals exact .done _

/-- An interpreter reaches the world through what it is given and through nothing else: its runs
make no requests but those that the evaluation itself takes, those to the shared variables in scope,
and those of the functions that a call can find in the engine. -/
def Interpreter.Confined (i : Interpreter) : Prop :=
  ∀ ⦃P : Request → Prop⦄ ⦃engine : Engine⦄ ⦃scope : List Variable⦄ ⦃text : String⦄
    ⦃run : Run (Ending Slot)⦄, engine.Within P → (∀ x ∈ scope, x.slot.Within P) →
      i.interpret engine scope text = .ok run → run.Confined P

theorem Interpreter.confined_standard : Interpreter.standard.Confined := by
  intro P engine scope text run h hscope hrun
  simp only [Interpreter.standard] at hrun
  rcases hprogram : Program.ofString engine (scope.map (·.name)) text with e | program
  · rw [hprogram] at hrun
    cases hrun
  · rw [hprogram] at hrun
    obtain rfl := Except.ok.inj hrun
    exact program.confined_interpret h hscope

end Script

/-! ### Executions of a session -/

namespace Session

open Script

variable {P : Request → Prop}

/-- **An execution is confined to the session's engine and to the cells of its visible shared
bindings**, if its interpreter is confined. -/
theorem asksOnly_evaluation (s : Session) (hconfined : s.interpreter.Confined)
    (h : s.engine.engine.Within P)
    (hcells : ∀ name v, (name, Binding.shared v) ∈ s.visible → (Slot.shared name).Within P) :
    s.evaluation.run.AsksOnly P := by
  have hscope : ∀ x ∈ s.scope, x.slot.Within P := by
    intro x hx
    obtain ⟨⟨name, b⟩, hb, rfl⟩ := List.mem_map.1 hx
    cases b with
    | own v => exact trivial
    | shared v => exact hcells name v hb
  unfold evaluation
  dsimp only
  split
  · exact .done _
  · unfold runText
    split
    · exact .done _
    · next run hrun =>
      have hrun' : (run.bind Ending.flatten).AsksOnly P := hconfined h hscope hrun
      exact hrun'.bind fun _ ↦ .done _

end Session

end ScriptSandbox

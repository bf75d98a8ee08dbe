import ScriptSandbox.Script.Evaluation.Call

/-!
# The requests of a script

A run touches the world by its requests only, so what a script cannot do is said by the requests
that it never makes (`Run.AsksOnly`). Parts of a script are written in continuation style; a part is
**confined** to some requests if, whatever comes after it, it makes no others itself, and leaves no
variable behind that would lead to others (`EvalM.Confined`).

There is one lemma for each way in which parts are put together, and from these one for each
function of the evaluator. Here are those for variables and calls. Only five of them have an idea of
their own: the five functions that make a request.
-/

namespace ScriptSandbox.Script

variable {α β : Type} {P : Request → Prop}

/-! ### Runs and states -/

/-- All requests of a run, whatever the answers are, are among some. -/
inductive Run.AsksOnly (P : Request → Prop) : Run α → Prop where
  | done (a : α) : AsksOnly P (.done a)
  | ask (q : Request) (go : q.Answer → Run α) (hq : P q) (hgo : ∀ answer, AsksOnly P (go answer)) :
      AsksOnly P (.ask q go)

namespace Run.AsksOnly

theorem bind {r : Run α} {f : α → Run β} (h : r.AsksOnly P) (hf : ∀ a, (f a).AsksOnly P) :
    (r.bind f).AsksOnly P := by
  induction h with
  | done a => exact hf a
  | ask q go hq _ ih => exact .ask q _ hq ih

theorem of_forall (hP : ∀ q, P q) (r : Run α) : r.AsksOnly P := by
  induction r with
  | done a => exact .done a
  | ask q go ih => exact .ask q go (hP q) ih

/-- What a run asks next is among them, and so is what it asks after that. -/
theorem of_ask {q : Request} {go : q.Answer → Run α} (h : (Run.ask q go).AsksOnly P) :
    P q ∧ ∀ answer, (go answer).AsksOnly P := by
  cases h with
  | ask _ _ hq hgo => exact ⟨hq, hgo⟩

end Run.AsksOnly

/-- Reading a slot and changing what is in it takes no other requests. -/
def Slot.Within (P : Request → Prop) : Slot → Prop
  | .own _ => True
  | .shared cell => P (.load cell) ∧ (∀ v, P (.store cell v)) ∧ P (.poison cell)

theorem Slot.Within.asksOnly_read {slot : Slot} (h : slot.Within P) : slot.read.AsksOnly P := by
  cases slot with
  | own v => exact .done _
  | shared cell => exact .ask _ _ h.1 fun _ ↦ .done _

/-- No variable in scope leads to other requests. -/
def State.Within (P : Request → Prop) (s : State) : Prop := ∀ x ∈ s.scope, x.slot.Within P

namespace State.Within

variable {s : State}

theorem slot (hs : s.Within P) (i : Nat) : (s.scope.getD i default).slot.Within P := by
  rw [Array.getD_eq_getD_getElem?]
  rcases hi : s.scope[i]? with - | x
  · exact trivial
  · exact hs x (Array.mem_of_getElem? hi)

theorem push (hs : s.Within P) {x : Variable} (hx : x.slot.Within P) :
    State.Within P { s with scope := s.scope.push x } := by
  intro y hy
  rcases Array.mem_push.1 hy with hy | rfl
  · exact hs y hy
  · exact hx

theorem modify (hs : s.Within P) (i : Nat) {f : Variable → Variable}
    (hf : ∀ x : Variable, x.slot.Within P → (f x).slot.Within P) :
    State.Within P { s with scope := s.scope.modify i f } := by
  intro y hy
  obtain ⟨j, hj, rfl⟩ := Array.mem_iff_getElem.1 hy
  have hlt : j < s.scope.size := by simpa only [Array.size_modify] using hj
  have hold : s.scope[j].slot.Within P := hs _ (Array.getElem_mem hlt)
  rw [Array.getElem_modify]
  split
  · exact hf _ hold
  · exact hold

theorem take (hs : s.Within P) (n : Nat) {base : Nat} :
    State.Within P { s with scope := s.scope.take n, base := base } := by
  intro x hx
  obtain ⟨k, hk, rfl⟩ := Array.mem_extract_iff_getElem.1 (Array.take_eq_extract ▸ hx)
  exact hs _ (Array.getElem_mem _)

end State.Within

/-- A run makes no other requests, and gives back no variable that leads to others: reading what it
gives back takes no others, either. -/
def Run.Confined (P : Request → Prop) (r : Run (Ending Slot)) : Prop :=
  (r.bind Ending.flatten).AsksOnly P

namespace Run.Confined

theorem ask {q : Request} {go : q.Answer → Run (Ending Slot)} (hq : P q)
    (hgo : ∀ answer, (go answer).Confined P) : (Run.ask q go).Confined P :=
  Run.AsksOnly.ask q _ hq hgo

theorem bind {r : Run α} {f : α → Run (Ending Slot)} (hr : r.AsksOnly P)
    (hf : ∀ a, (f a).Confined P) : (r.bind f).Confined P := by
  induction hr with
  | done a => exact hf a
  | ask q go hq _ ih => exact .ask hq ih

end Run.Confined

/-- A part of a script makes no other requests, leaves no variable that leads to others, and what it
gives has a property. -/
structure EvalM.ConfinedTo (P : Request → Prop) (Q : α → Prop) (m : EvalM α) : Prop where
  /-- If what comes after the part is confined, so is the part with what comes after it. -/
  run : ∀ s k, s.Within P →
    (∀ r s', s'.Within P → (∀ a, r = .ok a → Q a) → (k r s').Confined P) → (m s k).Confined P

/-- A part of a script makes no other requests, and leaves no variable that leads to others. -/
abbrev EvalM.Confined (P : Request → Prop) (m : EvalM α) : Prop := ConfinedTo P (fun _ ↦ True) m

/-! ### Ways of putting parts together -/

namespace EvalM.ConfinedTo

variable {Q : α → Prop} {R : β → Prop}

theorem pure {a : α} (ha : Q a) : ConfinedTo P Q (Pure.pure a : EvalM α) :=
  ⟨fun _ _ hs hk ↦ hk _ _ hs fun _ h ↦ Except.ok.inj h ▸ ha⟩

theorem bind {m : EvalM α} {f : α → EvalM β} (hm : ConfinedTo P Q m)
    (hf : ∀ a, Q a → ConfinedTo P R (f a)) : ConfinedTo P R (m >>= f) := by
  refine ⟨fun s k hs hk ↦ hm.run s _ hs fun r s' hs' hr ↦ ?_⟩
  cases r with
  | ok a => exact (hf a (hr a rfl)).run s' k hs' hk
  | error e => exact hk _ _ hs' fun _ h ↦ by cases h

theorem signal (e : Signal) : ConfinedTo P Q (EvalM.signal e : EvalM α) :=
  ⟨fun _ _ hs hk ↦ hk _ _ hs fun _ h ↦ by cases h⟩

/-- What looks at the state may rely on its variables. -/
theorem state_bind {f : State → EvalM β} (hf : ∀ s, s.Within P → ConfinedTo P R (f s)) :
    ConfinedTo P R (EvalM.state >>= f) :=
  ⟨fun s k hs hk ↦ (hf s hs).run s k hs hk⟩

end EvalM.ConfinedTo

namespace EvalM.Confined

variable {cause : Cause} {p : Position}

theorem pure (a : α) : Confined P (Pure.pure a : EvalM α) := ConfinedTo.pure trivial

theorem bind {m : EvalM α} {f : α → EvalM β} (hm : Confined P m) (hf : ∀ a, Confined P (f a)) :
    Confined P (m >>= f) :=
  ConfinedTo.bind hm fun a _ ↦ hf a

theorem signal (e : Signal) : Confined P (EvalM.signal e : EvalM α) := ConfinedTo.signal e

theorem raise (cause : Cause) (p : Position) : Confined P (EvalM.raise cause p : EvalM α) :=
  signal _

theorem panic (message : Option String) : Confined P (EvalM.panic message : EvalM α) := signal _

theorem attempt {m : EvalM α} (hm : Confined P m) : Confined P (EvalM.attempt m) :=
  ⟨fun s _ hs hk ↦ hm.run s _ hs fun _ s' hs' _ ↦ hk _ s' hs' fun _ _ ↦ trivial⟩

theorem resume (r : Except Signal α) : Confined P (EvalM.resume r) :=
  ⟨fun _ _ hs hk ↦ hk _ _ hs fun _ _ ↦ trivial⟩

theorem ask {q : Request} (hq : P q) : Confined P (EvalM.ask q) :=
  ⟨fun _ _ hs hk ↦ .ask hq fun _ ↦ hk _ _ hs fun _ _ ↦ trivial⟩

theorem update {f : State → State} (hf : ∀ s, s.Within P → (f s).Within P) :
    Confined P (EvalM.update f) :=
  ⟨fun s _ hs hk ↦ hk _ _ (hf s hs) fun _ _ ↦ trivial⟩

theorem lift {r : Run α} (hr : r.AsksOnly P) : Confined P (EvalM.lift r) :=
  ⟨fun s _ hs hk ↦ .bind hr fun _ ↦ hk _ s hs fun _ _ ↦ trivial⟩

/-- What looks at the state may rely on its variables. -/
theorem state_bind {f : State → EvalM β} (hf : ∀ s, s.Within P → Confined P (f s)) :
    Confined P (EvalM.state >>= f) :=
  ConfinedTo.state_bind hf

theorem ite {c : Prop} [Decidable c] {m m' : EvalM α} (hm : Confined P m) (hm' : Confined P m') :
    Confined P (if c then m else m') := by
  split
  · exact hm
  · exact hm'

/-- A check that raises an error goes before something else. -/
theorem guard {c : Prop} [Decidable c] {f : PUnit → EvalM β} (hf : Confined P (f ⟨⟩)) :
    Confined P (if c then EvalM.raise cause p >>= f else f ⟨⟩) :=
  .ite (.bind (.raise _ _) fun _ ↦ hf) hf

end EvalM.Confined

open EvalM

/-! ### Operations, sizes and variables -/

/-- What evaluates a script in an engine may ask: whether to stop, printing and showing, and what
the functions ask that calls find in the engine. -/
structure Engine.Within (P : Request → Prop) (e : Engine) : Prop where
  /-- Every operation asks whether to stop. -/
  poll : P .poll
  /-- Printing is a standard function. -/
  print : ∀ text, P (.print text)
  /-- So is showing something for diagnostics. -/
  debug : ∀ text p, P (.debug text p)
  /-- What a call finds makes its own requests. -/
  calls : ∀ role name types f, e.find? role name types = some f → ∀ args, (f.body args).AsksOnly P

variable {env : Env} {eval : Eval}

theorem confined_tick (h : env.engine.Within P) (p : Position) : Confined P (tick env p) :=
  .bind (.update fun _ hs ↦ hs) fun _ ↦ .state_bind fun _ _ ↦
    .ite (.raise _ _) (.bind (.ask h.poll) fun _ ↦ .ite (.raise _ _) (.pure _))

theorem confined_checkSize (v : Value) (p : Position) : Confined P (checkSize env v p) := by
  unfold checkSize
  split
  · exact .raise _ _
  · exact .pure _

theorem confined_valueAt (r : Except Cause α) (p : Position) : Confined P (valueAt r p) := by
  cases r with
  | ok a => exact .pure a
  | error cause => exact .raise cause p

theorem confined_truth (v : Value) (p : Position) : Confined P (truth env v p) := by
  cases v with
  | bool b => exact .pure b
  | _ => exact .raise _ p

theorem confined_readSlot {slot : Slot} (h : slot.Within P) : Confined P (readSlot slot) := by
  refine .bind (.lift h.asksOnly_read) fun v? ↦ ?_
  cases v? with
  | some v => exact .pure v
  | none => exact .panic _

theorem confinedTo_findSlot (name : String) (p : Position) :
    ConfinedTo P (fun x ↦ x.2.Within P) (findSlot env name p) := by
  refine .state_bind fun s hs ↦ ?_
  split
  · exact .pure (hs.slot _)
  · split
    · exact .pure trivial
    · exact .signal _

theorem confined_readVariable (name : String) (p : Position) :
    Confined P (readVariable env name p) :=
  (confinedTo_findSlot name p).bind fun _ hslot ↦
    Confined.bind (confined_readSlot hslot) fun _ ↦ .pure _

theorem confined_frozenVariable (i : Nat) : Confined P (frozenVariable i) :=
  .state_bind fun _ _ ↦ .pure _

theorem confined_writeVariable (i : Nat) (v : Value) : Confined P (writeVariable i v) := by
  refine .state_bind fun s hs ↦ ?_
  have hslot : (s.scope.getD i default).slot.Within P := hs.slot i
  split
  · exact .update fun _ hs ↦ hs.modify i fun _ _ ↦ trivial
  · next cell hcell =>
    rw [hcell] at hslot
    exact .ask (hslot.2.1 v)

theorem confined_takeVariable (i : Nat) : Confined P (takeVariable i) := by
  refine .update fun s hs ↦ hs.modify i fun x hx ↦ ?_
  split
  · exact trivial
  · exact hx

theorem confined_changing (i : Nat) {change : EvalM α} (h : Confined P change) :
    Confined P (changing i change) := by
  refine .bind (.attempt h) fun r ↦ .state_bind fun s hs ↦ ?_
  have hslot : (s.scope.getD i default).slot.Within P := hs.slot i
  split
  · next cell _ hcell =>
    rw [hcell] at hslot
    exact .bind (.ask hslot.2.2) fun _ ↦ .resume _
  · exact .bind (.pure ()) fun _ ↦ .resume _

theorem confined_pushVariable (name : String) (v : Value) : Confined P (pushVariable name v) :=
  .update fun _ hs ↦ hs.push trivial

theorem confined_inBlock {body : EvalM α} (h : Confined P body) : Confined P (inBlock body) :=
  .state_bind fun _ _ ↦ .bind (.update fun _ hs ↦ hs) fun _ ↦ .bind (.attempt h) fun r ↦
    .bind (.update fun _ hs ↦ hs.take _) fun _ ↦ .resume r

/-! ### Calls -/

section Calls

variable (h : env.engine.Within P)
include h

theorem confined_callHost {role : Role} {key : String} {types : List String} {f : HostFunction}
    (hf : env.engine.find? role key types = some f) (args : List Value) (p : Position) :
    Confined P (callHost f args p) := by
  refine .bind (.lift (h.calls role key types f hf args)) fun reply ↦ ?_
  cases reply <;> exact .pure _

omit h in
theorem confined_settle (given : Option Value) (v : Value) (receiver : Option Value)
    (p : Position) : Confined P (settle env given v receiver p) := by
  refine .bind (.attempt (.bind (confined_checkSize v p) fun _ ↦ ?_)) fun _ ↦ .pure _
  cases given with
  | some target => exact .bind (confined_checkSize _ p) fun _ ↦ .pure v
  | none => exact .bind (.pure ()) fun _ ↦ .pure v

theorem confined_announce (name : String) (r : Reaction) (p : Position) :
    Confined P (announce name r p) := by
  unfold announce
  split
  · exact .bind (.ask (h.print _)) fun _ ↦ .pure _
  · exact .bind (.ask (h.debug _ p)) fun _ ↦ .pure _
  all_goals exact .pure _

theorem confined_callNative (constant itself : Bool) (name : String) (args : List Value)
    (p : Position) : Confined P (callNative env constant itself name args p) := by
  refine .bind (confined_tick h p) fun _ ↦ ?_
  dsimp only
  split
  · next f hf =>
    refine .guard (.bind (confined_callHost h hf args p) fun x ↦ ?_)
    split
    · exact .bind (confined_settle ..) fun _ ↦ confined_announce h ..
    · exact .pure _
  · split
    · exact .guard (.bind (confined_valueAt ..) fun _ ↦
        .bind (confined_settle ..) fun _ ↦ confined_announce h ..)
    · exact .raise _ _

theorem confined_callOperator (op : String) (args : List Value) (p : Position) :
    Confined P (callOperator env op args p) := by
  unfold callOperator
  dsimp only
  split
  · exact .bind (confined_valueAt ..) fun _ ↦ .bind (confined_checkSize ..) fun _ ↦ .pure _
  · exact .bind (confined_callNative h ..) fun _ ↦ .resume _

variable (heval : ∀ task, Confined P (eval task))
include heval

/-- A function of the script starts with its arguments only, and leaves the scope of its caller
behind. -/
theorem confined_callScript (f : Function) (args : List Value) (this : Option Subject)
    (p : Position) : Confined P (callScript env eval f args this p) := by
  have hparams (s : State) : State.Within P
      { s with
        scope := ((f.params.zip args).map fun param ↦
          (⟨param.1, .own param.2, none⟩ : Variable)).toArray
        base := 0
        level := s.level + 1
        this := this } := by
    intro x hx
    obtain ⟨param, -, rfl⟩ := List.mem_map.1 (List.mem_toArray.1 hx)
    exact trivial
  refine .ite (.pure _) (.bind (confined_tick h p) fun _ ↦ .state_bind fun before hbefore ↦
    .guard (.guard (.bind (.update fun s _ ↦ hparams s) fun _ ↦
      .bind (.attempt (heval _)) fun r ↦ .bind (.update fun _ _ ↦ hbefore) fun _ ↦ ?_)))
  split
  · exact .pure _
  · exact .pure _
  · exact .ite (.signal _) (.signal _)
  · exact .signal _

theorem confined_callFunction (constant itself : Bool) (name : String) (args : List Value)
    (p : Position) : Confined P (callFunction env eval constant itself name args p) := by
  unfold callFunction
  split
  · exact .bind (confined_callScript h heval ..) fun _ ↦ .pure _
  · split
    · exact .pure _
    · exact confined_callNative h ..

theorem confined_callMethod (target : Subject) (name : String) (args : List Value)
    (p : Position) : Confined P (callMethod env eval target name args p) := by
  unfold callMethod
  split
  · exact .bind (.update fun _ hs ↦ hs) fun _ ↦
      .bind (.attempt (confined_callScript h heval ..)) fun _ ↦ .state_bind fun _ _ ↦ .pure _
  · split
    · exact .pure _
    · exact confined_callNative h ..

end Calls

end ScriptSandbox.Script

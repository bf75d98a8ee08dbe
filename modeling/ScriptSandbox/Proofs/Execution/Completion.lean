import Mathlib.Logic.Function.Basic
import ScriptSandbox.Proofs.Execution.Step
import ScriptSandbox.Proofs.Script.Requests

/-!
# Evaluating a script by itself

What the requests of a script are answered from, besides the request to stop, are the shared cells
of its session and the host's outbox: its **surroundings**. `Run.complete` answers all requests of a
run, one after the other, in surroundings that nobody else changes, and never tells it to stop. This
is evaluation without workers, watchdogs, schedules and other executions, and what executions are
compared with.

What a completion depends on is what the run asks for: in surroundings that agree on that it comes
to the same (`Run.complete_agreeOn`). In particular a run that asks neither for cells nor for the
outbox comes to the same everywhere. The last section connects the two worlds: while a worker
evaluates, its moves change the surroundings as a completion does (`Execution.around_of_step`).
-/

namespace ScriptSandbox

open Script

/-- What the requests of a script are answered from, besides the request to stop. -/
structure Surroundings where
  /-- What reading the shared cells of its session gives. -/
  cell : String → Option Value
  /-- The messages that the host got. -/
  outbox : Array String

namespace Surroundings

/-- The answer to a request of a script that is not to stop. -/
def answer (h : Surroundings) : (q : Request) → q.Answer
  | .load cell => h.cell cell
  | .sent => h.outbox.size
  | q => q.quietAnswer

/-- The surroundings after a request. -/
def after (h : Surroundings) : Request → Surroundings
  | .store cell v => { h with cell := Function.update h.cell cell ((h.cell cell).map fun _ ↦ v) }
  | .poison cell => { h with cell := Function.update h.cell cell none }
  | .send message => { h with outbox := h.outbox.push message }
  | _ => h

/-- Some requests are answered in the same way, now and after any others. -/
structure AgreeOn (P : Request → Prop) (h h' : Surroundings) : Prop where
  /-- Reading the cells that are asked for gives the same. -/
  cell : ∀ c, P (.load c) → h.cell c = h'.cell c
  /-- The host got the same messages, if their number is asked for. -/
  outbox : P .sent → h.outbox = h'.outbox

variable {P : Request → Prop} {h h' h'' : Surroundings}

theorem AgreeOn.refl (P : Request → Prop) (h : Surroundings) : AgreeOn P h h :=
  ⟨fun _ _ ↦ rfl, fun _ ↦ rfl⟩

theorem AgreeOn.symm (hh : AgreeOn P h h') : AgreeOn P h' h :=
  ⟨fun c hc ↦ (hh.cell c hc).symm, fun hs ↦ (hh.outbox hs).symm⟩

theorem AgreeOn.trans (hh : AgreeOn P h h') (hh' : AgreeOn P h' h'') : AgreeOn P h h'' :=
  ⟨fun c hc ↦ (hh.cell c hc).trans (hh'.cell c hc),
    fun hs ↦ (hh.outbox hs).trans (hh'.outbox hs)⟩

theorem AgreeOn.answer_eq (hh : AgreeOn P h h') {q : Request} (hq : P q) :
    h.answer q = h'.answer q := by
  cases q with
  | load c => exact hh.cell c hq
  | sent => exact congrArg Array.size (hh.outbox hq)
  | _ => rfl

theorem AgreeOn.after (hh : AgreeOn P h h') (q : Request) : AgreeOn P (h.after q) (h'.after q) := by
  cases q with
  | store cell v =>
    refine ⟨fun c hc ↦ ?_, hh.outbox⟩
    show Function.update h.cell cell _ c = Function.update h'.cell cell _ c
    rw [Function.update_apply, Function.update_apply, hh.cell c hc]
    split
    · next heq => rw [← heq, hh.cell c hc]
    · rfl
  | poison cell =>
    refine ⟨fun c hc ↦ ?_, hh.outbox⟩
    show Function.update h.cell cell none c = Function.update h'.cell cell none c
    rw [Function.update_apply, Function.update_apply, hh.cell c hc]
  | send message => exact ⟨hh.cell, fun hs ↦ congrArg (·.push message) (hh.outbox hs)⟩
  | _ => exact hh

end Surroundings

/-- What evaluating a script by itself comes to. -/
structure Completion (α : Type) where
  /-- What the run ends with. -/
  result : α
  /-- The lines it printed. -/
  printed : Array String
  /-- The surroundings as it leaves them. -/
  left : Surroundings

/-- Two completions come to the same, but for surroundings that are not asked for. -/
structure Completion.AgreeOn {α : Type} (P : Request → Prop) (c c' : Completion α) : Prop where
  /-- They have the same result. -/
  result : c.result = c'.result
  /-- They print the same lines. -/
  printed : c.printed = c'.printed
  /-- They leave the same behind. -/
  left : c.left.AgreeOn P c'.left

namespace Completion

variable {α : Type} {P : Request → Prop} {c c' c'' : Completion α}

theorem AgreeOn.trans (h : c.AgreeOn P c') (h' : c'.AgreeOn P c'') : c.AgreeOn P c'' :=
  ⟨h.result.trans h'.result, h.printed.trans h'.printed, h.left.trans h'.left⟩

end Completion

namespace Script

/-- Evaluates a run to its end in some surroundings, after some lines have been printed. -/
def Run.complete {α : Type} : Run α → Surroundings → Array String → Completion α
  | .done a, h, printed => ⟨a, printed, h⟩
  | .ask q go, h, printed =>
    (go (h.answer q)).complete (h.after q) (Execution.logged printed q)

/-- **What a run comes to depends on nothing that it does not ask for.** -/
theorem Run.complete_agreeOn {α : Type} {P : Request → Prop} {run : Run α} (hrun : run.AsksOnly P)
    {h h' : Surroundings} (hh : h.AgreeOn P h') (printed : Array String) :
    (run.complete h printed).AgreeOn P (run.complete h' printed) := by
  induction hrun generalizing h h' printed with
  | done a => exact ⟨rfl, rfl, hh⟩
  | ask q go hq _ ih =>
    have hanswer : h.answer q = h'.answer q := hh.answer_eq hq
    simp only [complete, hanswer]
    exact ih _ (hh.after q) _

/-- Whether the answer to a request is the same in all surroundings. -/
def Request.IsFixed : Request → Prop
  | .load _ | .sent => False
  | _ => True

theorem Request.IsFixed.agreeOn (h h' : Surroundings) : h.AgreeOn IsFixed h' :=
  ⟨fun _ hc ↦ hc.elim, fun hs ↦ hs.elim⟩

/-- What a run ends with that asks nothing about its surroundings is what it ends with alone. -/
theorem Run.complete_result_eq_alone {α : Type} {run : Run α}
    (hrun : run.AsksOnly Request.IsFixed) (h : Surroundings) (printed : Array String) :
    (run.complete h printed).result = run.alone := by
  induction hrun generalizing h printed with
  | done a => rfl
  | ask q go hq _ ih =>
    have hanswer : h.answer q = q.quietAnswer := by
      cases q with
      | load | sent => exact hq.elim
      | _ => rfl
    simp only [complete, hanswer]
    exact ih _ _ _

end Script

/-! ### The surroundings of an execution -/

namespace World

/-- The surroundings of the scripts of a session. -/
def around (w : World) (site : Nat) : Surroundings := ⟨w.read site, w.outbox⟩

/-- What is stored in a cell is what is loaded from it, and from no other. -/
theorem load_store (w : World) (site : Nat) (cell : String) (v : Value) (site' : Nat)
    (cell' : String) : (w.store site cell v).load site' cell' =
      if site' = site ∧ cell' = cell ∧ site < w.cells.length then v else w.load site' cell' := by
  by_cases hsite : site' = site
  · subst hsite
    simp only [load, store, List.getElem?_modify_eq, true_and]
    rcases hcells : w.cells[site']? with - | cells
    · have hge : ¬ site' < w.cells.length := by
        rw [List.getElem?_eq_none_iff] at hcells
        omega
      rw [if_neg fun h ↦ hge h.2]
      rfl
    · have hlt : site' < w.cells.length := (List.getElem?_eq_some_iff.1 hcells).1
      simp only [Option.map_eq_map, Option.map_some, Option.bind_some, Text.NameMap.get?_insert,
        hlt, and_true]
      split <;> rfl
  · rw [if_neg fun h ↦ hsite h.1]
    simp only [load, store, List.getElem?_modify_ne _ _ (Ne.symm hsite)]

theorem isPoisoned_poison (w : World) (site : Nat) (cell : String) (site' : Nat)
    (cell' : String) : (w.poison site cell).isPoisoned site' cell' =
      (decide (site' = site ∧ cell' = cell) || w.isPoisoned site' cell') := by
  simp only [isPoisoned, poison, List.contains_cons, beq_eq_decide, Prod.mk.injEq]

/-- A poisoned cell cannot be read whatever is stored in it. -/
theorem read_store {w : World} {site : Nat} (hsite : site < w.cells.length) (cell : String)
    (v : Value) : (w.store site cell v).read site =
      Function.update (w.read site) cell ((w.read site cell).map fun _ ↦ v) := by
  funext c
  have hpoisoned : (w.store site cell v).isPoisoned site c = w.isPoisoned site c := rfl
  rw [Function.update_apply]
  simp only [read, hpoisoned, load_store, hsite, and_true, true_and]
  by_cases hc : c = cell
  · subst hc
    cases w.isPoisoned site c <;> simp
  · simp only [hc, if_false]

theorem read_poison (w : World) (site : Nat) (cell : String) :
    (w.poison site cell).read site = Function.update (w.read site) cell none := by
  funext c
  have hload : (w.poison site cell).load site c = w.load site c := rfl
  rw [Function.update_apply]
  by_cases hc : c = cell
  · simp [read, isPoisoned_poison, hc]
  · simp [read, isPoisoned_poison, hload, hc]

/-- What a request makes of the cells and the outbox. -/
def answering (w : World) (site : Nat) : Request → World
  | .store cell v => w.store site cell v
  | .poison cell => w.poison site cell
  | .send message => w.send message
  | _ => w

theorem around_answering {w : World} {site : Nat} (hsite : site < w.cells.length) (q : Request) :
    (w.answering site q).around site = (w.around site).after q := by
  cases q with
  | store cell v =>
    show (⟨(w.store site cell v).read site, w.outbox⟩ : Surroundings) = _
    rw [read_store hsite]
    rfl
  | poison cell =>
    show (⟨(w.poison site cell).read site, w.outbox⟩ : Surroundings) = _
    rw [read_poison]
    rfl
  | _ => rfl

end World

namespace Execution

variable {w w' : World} {e e' : Execution} {m : Move}

/-- The request that a move is about, if it is about one. -/
def asking? (e : Execution) : Move → Option Request
  | .work =>
    match e.worker with
    | .evaluating (.ask q _) _ => some q
    | _ => none
  | _ => none

/-- As long as no stop was asked for, requests are answered from the surroundings. -/
theorem serve_eq_answer (hstop : e.stop = false) (w : World) (q : Request) :
    (serve w e q).1 = (w.around e.site).answer q := by
  cases q with
  | poll => exact hstop
  | _ => rfl

/-- The cells and the outbox are the same in two worlds. -/
structure Keeps (w w' : World) : Prop where
  /-- The cells are the same. -/
  cells : w'.cells = w.cells
  /-- The same of them are poisoned. -/
  poisoned : w'.poisoned = w.poisoned
  /-- The outbox is the same. -/
  outbox : w'.outbox = w.outbox

theorem Keeps.load_eq (h : Keeps w w') (site : Nat) : w'.load site = w.load site := by
  funext c
  simp only [World.load, h.cells]

theorem Keeps.isPoisoned_eq (h : Keeps w w') (site : Nat) :
    w'.isPoisoned site = w.isPoisoned site := by
  funext c
  simp only [World.isPoisoned, h.poisoned]

theorem Keeps.read_eq (h : Keeps w w') (site : Nat) : w'.read site = w.read site := by
  funext c
  simp only [World.read, h.load_eq, h.isPoisoned_eq]

theorem Keeps.around_eq (h : Keeps w w') (site : Nat) : w'.around site = w.around site := by
  simp only [World.around, h.read_eq, h.outbox]

/-- What a move is known to lead to. -/
theorem Keeps.of_some {w₀ w₁ : World} {e₁ : Execution} (h : some (w₁, e₁) = some (w', e'))
    (hkeeps : Keeps w₀ w₁) : Keeps w₀ w' := by
  obtain ⟨rfl, -⟩ := Prod.mk.inj (Option.some.inj h)
  exact hkeeps

theorem keeps_proceed (w : World) (e : Execution) (q : Request)
    (go : q.Answer → Run (Except Failure Slot)) :
    Keeps (w.answering e.site q) (proceed w e q go).1 := by
  cases q <;> exact ⟨rfl, rfl, rfl⟩

theorem keeps_of_evaluate {ticket : Option Nat} {run : Run (Except Failure Slot)}
    (hw : e.worker = .evaluating run ticket) (h : evaluate w e ticket run = some (w', e')) :
    Keeps ((e.asking? .work).elim w (w.answering e.site)) w' := by
  simp only [asking?, hw]
  cases run with
  | done result =>
    refine .of_some h ?_
    rcases result with (_ | _ | _ | _) | _ <;> exact ⟨rfl, rfl, rfl⟩
  | ask q go =>
    cases q with
    | gate =>
      rcases ticket with - | n
      · exact .of_some h ⟨rfl, rfl, rfl⟩
      · simp only [evaluate] at h
        split at h
        · exact .of_some h (keeps_proceed w e .gate go)
        · cases h
    | _ => exact .of_some h (keeps_proceed w e _ go)

theorem keeps_of_work (h : work w e = some (w', e')) :
    Keeps ((e.asking? .work).elim w (w.answering e.site)) w' := by
  unfold work at h
  split at h
  case h_4 hw => exact keeps_of_evaluate hw h
  all_goals simp only [asking?, *]
  case h_5 result hw =>
    rcases result with f | v
    · simp only [judge] at h
      split at h <;> exact .of_some h ⟨rfl, rfl, rfl⟩
    · exact .of_some h ⟨rfl, rfl, rfl⟩
  case h_7 f hw =>
    simp only [fail] at h
    split at h
    · exact .of_some h ⟨rfl, rfl, rfl⟩
    · split at h <;> exact .of_some h ⟨rfl, rfl, rfl⟩
  case h_10 | h_11 => cases h
  all_goals exact .of_some h ⟨rfl, rfl, rfl⟩

/-- **A move changes the cells and the outbox only by the request that it is about.** -/
theorem keeps_of_step (h : step m w e = some (w', e')) :
    Keeps ((e.asking? m).elim w (w.answering e.site)) w' := by
  cases m with
  | work => exact keeps_of_work h
  | watch =>
    obtain ⟨x, -, heq⟩ := Option.map_eq_some_iff.1 h
    obtain ⟨rfl, -⟩ := Prod.mk.inj heq
    exact ⟨rfl, rfl, rfl⟩
  | expire =>
    simp only [step, expire] at h
    split at h
    · split at h
      · exact .of_some h ⟨rfl, rfl, rfl⟩
      · cases h
    · cases h
  | cancel | release => exact .of_some h ⟨rfl, rfl, rfl⟩

/-- A move changes the surroundings of its execution as evaluation by itself would. -/
theorem around_of_step (h : step m w e = some (w', e')) (hsite : e.site < w.cells.length) :
    w'.around e.site = (e.asking? m).elim (w.around e.site) (w.around e.site).after := by
  rw [(keeps_of_step h).around_eq]
  cases e.asking? m with
  | none => rfl
  | some q => exact World.around_answering hsite q

end Execution

end ScriptSandbox

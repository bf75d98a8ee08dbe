import ScriptSandbox.Capability.Surface
import ScriptSandbox.Proofs.Execution.Delivery
import ScriptSandbox.Proofs.Sandbox.Undisturbed
import ScriptSandbox.Proofs.Session.Bindings

/-!
# Snapshots and shared cells

Two kinds of bindings are put into one scope. Of the own ones every execution gets the values that
were built, whatever the executions before it did to theirs; the shared ones refer to cells, and
hold what the executions before it left there, however these ended
(`executions_start_from_snapshot`). This is stated for executions of one session that come one after
another; those of other sessions may go on at any time.

What was left in a cell is the value of the last write to it, and the cell is poisoned if a host
function broke down while it was written to. So the writes of a run are listed first (`writes`),
each with the execution that it comes from, and what has become of a cell is read off that list
(`leaves_of_run`).

Reports are not touched by later writes, either. A value in a report could refer to a cell, and
would then be another value after the next write; it does not, because a shared variable that a
script gives back is read before it is reported (`own_of_mem_sent`).
-/

namespace ScriptSandbox

open Script

namespace Sandbox

variable {sessions : List Session} {threads : Nat} {s s' s₀ t : Sandbox} {a : Act}
  {acts before after : List Act} {i n site : Nat} {cell : String} {e x : Execution}

/-! ### Writes -/

/-- A script's write to a shared cell. -/
structure Write where
  /-- The position of the execution whose script it is. -/
  author : Nat
  /-- The position of the session that has the cell. -/
  site : Nat
  /-- The cell. -/
  cell : String
  /-- The value that it gets, unless it is poisoned. -/
  value? : Option Value

/-- The write that a request is, if it is one. -/
def Write.ofRequest? (author site : Nat) : Request → Option Write
  | .store cell value => some ⟨author, site, cell, some value⟩
  | .poison cell => some ⟨author, site, cell, none⟩
  | _ => none

/-- The write that an act is, if it is one. -/
def write? (s : Sandbox) : Act → Option Write
  | .move i m => s.executions[i]?.bind fun e ↦ (e.asking? m).bind (Write.ofRequest? i e.site)
  | _ => none

/-- The writes of a run, in their order. -/
def writes (s : Sandbox) : List Act → List Write
  | [] => []
  | a :: acts => (s.write? a).toList ++ (s.perform a).elim [] fun s' ↦ s'.writes acts

/-- The value that the last of some writes to a cell gives it. -/
def lastWrite (site : Nat) (cell : String) (ws : List Write) : Option Value :=
  ws.reverse.findSome? fun w ↦ if w.site = site ∧ w.cell = cell then w.value? else none

/-- Whether one of some writes poisons a cell. -/
def poisons (site : Nat) (cell : String) (ws : List Write) : Bool :=
  ws.any fun w ↦ w.site = site ∧ w.cell = cell ∧ w.value?.isNone

/-- What some writes make of a cell. -/
structure Leaves (site : Nat) (cell : String) (w : World) (ws : List Write) (w' : World) :
    Prop where
  /-- It holds what was written last, or what it held at first. -/
  load : w'.load site cell = (lastWrite site cell ws).getD (w.load site cell)
  /-- It is poisoned if one of them poisons it, or if it was. -/
  isPoisoned : w'.isPoisoned site cell = (poisons site cell ws || w.isPoisoned site cell)

theorem Leaves.append {w w' w'' : World} {ws ws' : List Write} (h : Leaves site cell w ws w')
    (h' : Leaves site cell w' ws' w'') : Leaves site cell w (ws ++ ws') w'' where
  load := by
    rw [h'.load, h.load, lastWrite, lastWrite, lastWrite, List.reverse_append,
      List.findSome?_append]
    cases ws'.reverse.findSome? _ <;> rfl
  isPoisoned := by
    rw [h'.isPoisoned, h.isPoisoned, poisons, poisons, poisons, List.any_append, ← Bool.or_assoc,
      Bool.or_comm (ws'.any _)]

theorem Leaves.of_keeps {w w' w'' : World} {ws : List Write} (h : Leaves site cell w ws w')
    (hkeeps : Execution.Keeps w' w'') : Leaves site cell w ws w'' :=
  ⟨(congrFun (hkeeps.load_eq site) cell).trans h.load,
    (congrFun (hkeeps.isPoisoned_eq site) cell).trans h.isPoisoned⟩

theorem Leaves.refl (site : Nat) (cell : String) (w : World) : Leaves site cell w [] w := ⟨rfl, rfl⟩

/-- What answering a request makes of a cell. -/
theorem leaves_answering {w : World} {place : Nat} (hplace : place < w.cells.length)
    (author : Nat) (q : Request) (site : Nat) (cell : String) :
    Leaves site cell w (Write.ofRequest? author place q).toList (w.answering place q) := by
  cases q with
  | store c v =>
    refine ⟨?_, ?_⟩
    · show (w.store place c v).load site cell = _
      rw [World.load_store]
      simp only [hplace, and_true, lastWrite, Write.ofRequest?, Option.toList_some,
        List.reverse_singleton, List.findSome?_singleton, eq_comm]
      split <;> rfl
    · show w.isPoisoned site cell = _
      simp [poisons, Write.ofRequest?]
  | poison c =>
    refine ⟨?_, ?_⟩
    · show w.load site cell = _
      simp [lastWrite, Write.ofRequest?]
    · show (w.poison place c).isPoisoned site cell = _
      rw [World.isPoisoned_poison]
      simp [poisons, Write.ofRequest?, eq_comm (a := site), eq_comm (a := cell)]
  | _ => exact ⟨rfl, rfl⟩

theorem leaves_of_perform (hs : Placed s) (h : s.perform a = some s') (site : Nat)
    (cell : String) : Leaves site cell s.world (s.write? a).toList s'.world := by
  cases a with
  | move j m =>
    obtain ⟨e, w, e', he, -, hm, rfl⟩ := exists_of_step h
    have hkeeps := Execution.keeps_of_step hm
    simp only [write?, he, Option.bind_some]
    cases hq : e.asking? m with
    | none =>
      rw [hq] at hkeeps
      exact (Leaves.refl site cell s.world).of_keeps hkeeps
    | some q =>
      rw [hq] at hkeeps
      exact (leaves_answering (hs.site_lt he) j q site cell).of_keeps hkeeps
  | _ =>
    exact (Leaves.refl site cell s.world).of_keeps (keeps_of_perform h fun _ _ ha ↦ by cases ha)

/-- **What has become of a cell is read off the writes.** -/
theorem leaves_of_run (hs : Placed s) (h : s.run acts = some s') (site : Nat) (cell : String) :
    Leaves site cell s.world (s.writes acts) s'.world := by
  induction acts generalizing s with
  | nil =>
    obtain rfl := Option.some.inj h
    exact ⟨rfl, rfl⟩
  | cons a acts ih =>
    obtain ⟨t, ha, ht⟩ := Option.bind_eq_some_iff.1 h
    rw [writes, ha, Option.elim_some]
    exact (leaves_of_perform hs ha site cell).append (ih (placed_of_perform hs ha) ht)

/-- A write is made by a script that asks for it. -/
theorem exists_of_write?_eq_some {w : Write} (h : s.write? a = some w) :
    a = .move w.author .work ∧ ∃ x q, s.executions[w.author]? = some x ∧ x.site = w.site ∧
      x.asking? .work = some q := by
  cases a with
  | move i m =>
    obtain ⟨x, hx, h⟩ := Option.bind_eq_some_iff.1 h
    obtain ⟨q, hasking, h⟩ := Option.bind_eq_some_iff.1 h
    obtain ⟨rfl, -⟩ := Execution.eq_work_of_asking? hasking
    obtain ⟨rfl, hsite⟩ : i = w.author ∧ x.site = w.site := by
      cases q <;> cases h <;> exact ⟨rfl, rfl⟩
    exact ⟨rfl, x, q, hx, hsite, hasking⟩
  | _ => cases h

/-- Each of the writes of a run was made at a moment of it. -/
theorem exists_moment_of_mem_writes (h : s.run acts = some s') {w : Write}
    (hw : w ∈ s.writes acts) :
    ∃ before t x q, Moment s acts w.author .work before t x ∧ x.site = w.site ∧
      x.asking? .work = some q := by
  induction acts generalizing s with
  | nil => cases hw
  | cons a acts ih =>
    obtain ⟨t, ha, ht⟩ := Option.bind_eq_some_iff.1 h
    rw [writes, ha, Option.elim_some, List.mem_append] at hw
    rcases hw with hw | hw
    · obtain ⟨rfl, x, q, hx, hrest⟩ := exists_of_write?_eq_some (Option.mem_toList.1 hw)
      exact ⟨[], s, x, q, ⟨⟨acts, rfl⟩, rfl, hx⟩, hrest⟩
    · obtain ⟨before, t', x, q, ⟨⟨after, hsplit⟩, hreached, hpresent⟩, hrest⟩ := ih ht hw
      refine ⟨a :: before, t', x, q, ⟨⟨after, ?_⟩, ?_, hpresent⟩, hrest⟩
      · rw [hsplit, List.cons_append]
      · rw [run_cons, ha]
        exact hreached

/-! ### One after another -/

end Sandbox

end ScriptSandbox

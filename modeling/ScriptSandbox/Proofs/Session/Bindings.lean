import ScriptSandbox.Proofs.Text.Table
import ScriptSandbox.Session.Basic

/-!
# Bindings

What a sequence of builder calls comes to. A name has the value that the last of the calls gives it
(`lastBound`), and it is hidden if one of them says so, whether before or after a value is given.
The visible bindings are exactly the bound ones that are not hidden, ascending by name
(`mem_visible_buildWith`), so calls that hide the same names and give the others the same values
show scripts the same bindings (`visible_buildWith_congr`). A shared cell starts with the last
value, too (`get?_cells_buildWith`). What that means for the scope of a script is put together in
`ShowsLastBound`.
-/

namespace ScriptSandbox

open Text Script

/-! ### What calls bind and hide -/

/-- What a call binds to a name, if it binds something to it. -/
def BuilderCall.bound? (name : String) : BuilderCall → Option Binding
  | .variable other _ v => if name = other then some (.own v) else none
  | .sharedVariable other _ v => if name = other then some (.shared v) else none
  | .jsonVariable other data => if name = other then some (.own (.ofJson data)) else none
  | _ => none

/-- What the last of some calls that binds a name binds to it. -/
def lastBound (calls : List BuilderCall) (name : String) : Option Binding :=
  calls.reverse.findSome? (·.bound? name)

theorem lastBound_cons (c : BuilderCall) (calls : List BuilderCall) (name : String) :
    lastBound (c :: calls) name = (lastBound calls name).or (c.bound? name) := by
  simp [lastBound]

/-- The value that shared bindings start with. -/
def Binding.shared? : Binding → Option Value
  | .own _ => none
  | .shared v => some v

namespace Builder

variable (b : Builder) (c : BuilderCall) (calls : List BuilderCall) (name : String)

theorem get?_bindings_apply :
    (b.apply c).bindings.get? name = (c.bound? name).or (b.bindings.get? name) := by
  cases c with
  | «variable» other _ _ | sharedVariable other _ _ | jsonVariable other _ =>
    simp only [apply, bind, BuilderCall.bound?, NameMap.get?_insert]
    split <;> rfl
  | _ => rfl

theorem get?_bindings_applyAll :
    (b.applyAll calls).bindings.get? name = (lastBound calls name).or (b.bindings.get? name) := by
  induction calls generalizing b with
  | nil => rfl
  | cons c calls ih =>
    rw [lastBound_cons, Option.or_assoc, ← get?_bindings_apply]
    exact ih (b.apply c)

theorem contains_hidden_apply :
    (b.apply c).hidden.contains name = true ↔
      .hide name = c ∨ b.hidden.contains name = true := by
  cases c with
  | hide other => simp [apply]
  | _ => simp [apply, bind]

theorem contains_hidden_applyAll :
    (b.applyAll calls).hidden.contains name = true ↔
      .hide name ∈ calls ∨ b.hidden.contains name = true := by
  induction calls generalizing b with
  | nil => simp [applyAll]
  | cons c calls ih =>
    have hrest := ih (b.apply c)
    rw [contains_hidden_apply] at hrest
    rw [List.mem_cons, or_assoc, or_left_comm]
    exact hrest

theorem ascending_bindings_apply {b : Builder} (h : b.bindings.Ascending) (c : BuilderCall) :
    (b.apply c).bindings.Ascending := by
  cases c with
  | «variable» | sharedVariable | jsonVariable => exact h.insert _ _
  | _ => exact h

theorem ascending_bindings_applyAll {b : Builder} (h : b.bindings.Ascending)
    (calls : List BuilderCall) : (b.applyAll calls).bindings.Ascending := by
  induction calls generalizing b with
  | nil => exact h
  | cons c calls ih => exact ih (ascending_bindings_apply h c)

theorem ascending_bindings_empty_applyAll (calls : List BuilderCall) :
    (empty.applyAll calls).bindings.Ascending :=
  ascending_bindings_applyAll (b := .empty) List.Pairwise.nil calls

end Builder

/-! ### What sessions show -/

/-- The session that a sequence of calls makes of a source. -/
def buildWith (calls : List BuilderCall) (source : String)
    (interpreter : Interpreter := .standard) : Session :=
  (Builder.empty.applyAll calls).build source interpreter

variable (calls : List BuilderCall) (source : String) {interpreter : Interpreter} {name : String}
  {binding : Binding}

theorem get?_bindings_buildWith (name : String) :
    (buildWith calls source interpreter).parts.bindings.get? name = lastBound calls name :=
  (Builder.get?_bindings_applyAll .empty calls name).trans Option.or_none

theorem ascending_bindings_buildWith :
    (buildWith calls source interpreter).parts.bindings.Ascending :=
  Builder.ascending_bindings_empty_applyAll calls

/-- **What is visible is what was bound last, unless it is hidden.** -/
theorem mem_visible_buildWith :
    (name, binding) ∈ (buildWith calls source interpreter).visible ↔
      lastBound calls name = some binding ∧ .hide name ∉ calls := by
  have hhidden : (buildWith calls source interpreter).parts.hidden.contains name = true ↔
      .hide name ∈ calls :=
    (Builder.contains_hidden_applyAll .empty calls name).trans (or_iff_left Bool.false_ne_true)
  rw [Session.visible, List.mem_filter, (ascending_bindings_buildWith calls source).mem_toList_iff,
    get?_bindings_buildWith, ← hhidden]
  simp

theorem pairwise_visible_buildWith :
    (buildWith calls source interpreter).visible.Pairwise fun x y ↦ x.1 < y.1 :=
  (ascending_bindings_buildWith calls source).filter _

/-- Calls that hide the same names and bind the others to the same values show the same. -/
theorem visible_buildWith_congr {calls calls' : List BuilderCall}
    (hhide : ∀ name, .hide name ∈ calls ↔ .hide name ∈ calls')
    (hbound : ∀ name, .hide name ∉ calls → lastBound calls name = lastBound calls' name)
    (source : String) : (buildWith calls source interpreter).visible =
      (buildWith calls' source interpreter).visible := by
  refine NameMap.eq_of_pairwise_of_mem_iff (pairwise_visible_buildWith calls source)
    (pairwise_visible_buildWith calls' source) fun ⟨name, binding⟩ ↦ ?_
  rw [mem_visible_buildWith, mem_visible_buildWith, ← hhide]
  exact and_congr_left fun hnot ↦ by rw [hbound name hnot]

/-- The cells with that of one more binding, if it is shared. -/
def addCell (m : NameMap Value) (x : String × Binding) : NameMap Value :=
  x.2.shared?.elim m (m.insert x.1)

theorem Session.cells_eq_foldl (s : Session) :
    s.cells = s.parts.bindings.toList.foldl addCell .empty := by
  refine congrArg (fun f : NameMap Value → String × Binding → NameMap Value ↦
    s.parts.bindings.toList.foldl f .empty) ?_
  funext m x
  obtain ⟨name, b⟩ := x
  cases b <;> rfl

theorem get?_foldl_addCell {entries : List (String × Binding)}
    (h : entries.Pairwise fun x y ↦ x.1 < y.1) (m : NameMap Value) (name : String) :
    (entries.foldl addCell m).get? name =
      ((entries.lookup name).bind Binding.shared?).or (m.get? name) := by
  induction entries generalizing m with
  | nil => rfl
  | cons head rest ih =>
    obtain ⟨key, b⟩ := head
    obtain ⟨hhead, hrest⟩ := List.pairwise_cons.1 h
    rw [List.foldl_cons, ih hrest]
    by_cases hkey : name = key
    · subst hkey
      rw [NameMap.lookup_of_forall_lt hhead, List.lookup_cons_self]
      cases b with
      | own v => rfl
      | shared v => simp [addCell, Binding.shared?]
    · have hb : (name == key) = false := by simpa using hkey
      have hget : (addCell m (key, b)).get? name = m.get? name := by
        cases b with
        | own v => rfl
        | shared v => simp [addCell, Binding.shared?, hkey]
      rw [hget, List.lookup_cons, hb]

/-- A shared cell starts with the value that was bound last. -/
theorem get?_cells_buildWith (name : String) :
    (buildWith calls source interpreter).cells.get? name =
      (lastBound calls name).bind Binding.shared? := by
  rw [Session.cells_eq_foldl, get?_foldl_addCell (ascending_bindings_buildWith calls source),
    NameMap.get?_empty, Option.or_none, ← get?_bindings_buildWith calls source]
  rfl

/-- Scripts see what was bound last, unless it is hidden. -/
structure ShowsLastBound (calls : List BuilderCall) (s : Session) : Prop where
  /-- A variable is in scope if its name is bound and not hidden, and is what was bound last. -/
  scope : ∀ x, x ∈ s.scope ↔
    ∃ b, lastBound calls x.name = some b ∧ .hide x.name ∉ calls ∧ x = Session.variableOf x.name b
  /-- The names in scope are those that are listed, in the same order. -/
  names : s.scope.map Variable.name = s.visibleNames
  /-- They are ascending, and so each stands once. -/
  ascending : s.visibleNames.Pairwise (· < ·)
  /-- A shared variable stands for a cell that starts with the value bound last. -/
  cell : ∀ name v, lastBound calls name = some (.shared v) → s.cells.get? name = some v

theorem showsLastBound_buildWith (calls : List BuilderCall) (source : String)
    (interpreter : Interpreter) : ShowsLastBound calls (buildWith calls source interpreter) where
  scope x := by
    rw [Session.scope, List.mem_map]
    constructor
    · rintro ⟨⟨name, b⟩, hmem, rfl⟩
      have hname : (Session.variableOf name b).name = name := by cases b <;> rfl
      obtain ⟨hbound, hshown⟩ := (mem_visible_buildWith calls source).1 hmem
      rw [hname]
      exact ⟨b, hbound, hshown, rfl⟩
    · rintro ⟨b, hbound, hshown, hx⟩
      exact ⟨(x.name, b), (mem_visible_buildWith calls source).2 ⟨hbound, hshown⟩, hx.symm⟩
  names := by
    rw [Session.scope, Session.visibleNames, List.map_map]
    refine List.map_congr_left fun ⟨name, b⟩ _ ↦ ?_
    cases b <;> rfl
  ascending := List.pairwise_map.2 (pairwise_visible_buildWith calls source)
  cell name v hbound := by rw [get?_cells_buildWith, hbound]; rfl

end ScriptSandbox

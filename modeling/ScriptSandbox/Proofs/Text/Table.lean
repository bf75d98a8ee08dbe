import Mathlib.Data.List.Sort
import ScriptSandbox.Text.NameSet

/-!
# Sets and tables by name

Entries are put into a table one after another, each at its place. The names stay ascending, so that
what stands in a table is what is looked up in it (`Ascending.mem_toList_iff`). Of entries with
different names none is lost, and nothing else gets in (`lookup_foldl_insertEntry`,
`mem_of_mem_foldl_insertEntry`).

As the order is that of the names, sets with the same members are equal, and so are tables in which
the same is looked up (`NameSet.eq_of_contains_iff`, `NameMap.Ascending.eq_of_get?_eq`).
-/

namespace ScriptSandbox.Text

/-- Sets with the same members are equal. -/
theorem NameSet.eq_of_contains_iff {s s' : NameSet}
    (h : ∀ name, s.contains name = true ↔ s'.contains name = true) : s = s' := by
  obtain ⟨names, hascending⟩ := s
  obtain ⟨names', hascending'⟩ := s'
  have hnames : names = names' := hascending.eq_of_mem_iff hascending' fun name ↦ by
    simpa only [contains, List.contains_iff_mem] using h name
  subst hnames
  rfl

namespace NameMap

variable {α : Type} {m : NameMap α} {name : String} {v : α}

/-- Every name stands once, at its place. -/
def Ascending (m : NameMap α) : Prop := m.toList.Pairwise fun x y ↦ x.1 < y.1

theorem eq_or_mem_of_mem_insertEntry {x : String × α} {entries : List (String × α)}
    (h : x ∈ insertEntry name v entries) : x = (name, v) ∨ x ∈ entries := by
  induction entries with
  | nil => exact .inl (List.mem_singleton.1 h)
  | cons head rest ih =>
    simp only [insertEntry] at h
    split at h
    · exact List.mem_cons.1 h
    · split at h
      · exact (List.mem_cons.1 h).imp_right (List.mem_cons_of_mem head)
      · rcases List.mem_cons.1 h with rfl | h
        · exact .inr List.mem_cons_self
        · exact (ih h).imp_right (List.mem_cons_of_mem head)

theorem pairwise_insertEntry {entries : List (String × α)}
    (h : entries.Pairwise fun x y ↦ x.1 < y.1) :
    (insertEntry name v entries).Pairwise fun x y ↦ x.1 < y.1 := by
  induction entries with
  | nil => exact List.pairwise_singleton _ _
  | cons head rest ih =>
    obtain ⟨hhead, hrest⟩ := List.pairwise_cons.1 h
    simp only [insertEntry]
    split
    · next hlt =>
      refine List.pairwise_cons.2 ⟨fun x hx ↦ ?_, h⟩
      rcases List.mem_cons.1 hx with rfl | hx
      · exact hlt
      · exact String.lt_trans hlt (hhead x hx)
    · next hnlt =>
      split
      · next heq =>
        subst heq
        exact List.pairwise_cons.2 ⟨hhead, hrest⟩
      · next hne =>
        have hlt : head.1 < name := by
          rcases Std.lt_trichotomy head.1 name with hlt | heq | hlt
          · exact hlt
          · exact absurd heq.symm hne
          · exact absurd hlt hnlt
        refine List.pairwise_cons.2 ⟨fun x hx ↦ ?_, ih hrest⟩
        rcases eq_or_mem_of_mem_insertEntry hx with rfl | hx
        · exact hlt
        · exact hhead x hx

theorem Ascending.insert (h : m.Ascending) (name : String) (v : α) :
    (m.insert name v).Ascending :=
  pairwise_insertEntry h

theorem lookup_of_forall_lt {entries : List (String × α)} (h : ∀ x ∈ entries, name < x.1) :
    entries.lookup name = none := by
  rw [List.lookup_eq_none_iff]
  intro x hx
  simpa using (fun heq : name = x.1 ↦ String.lt_irrefl _ (heq ▸ h x hx))

/-- What stands in a table is what is looked up in it. -/
theorem Ascending.mem_toList_iff (h : m.Ascending) :
    (name, v) ∈ m.toList ↔ m.get? name = some v := by
  obtain ⟨entries⟩ := m
  show (name, v) ∈ entries ↔ entries.lookup name = some v
  induction entries with
  | nil => simp
  | cons head rest ih =>
    obtain ⟨key, w⟩ := head
    obtain ⟨hhead, hrest⟩ := List.pairwise_cons.1 h
    by_cases hkey : name = key
    · subst hkey
      have hnot : (name, v) ∉ rest := fun hv ↦ String.lt_irrefl name (hhead (name, v) hv)
      simp [hnot, eq_comm]
    · have hb : (name == key) = false := by simpa using hkey
      simp [List.lookup_cons, hb, hkey, ih hrest]

/-- Ascending entries are known by what stands among them. -/
theorem eq_of_pairwise_of_mem_iff {entries entries' : List (String × α)}
    (h : entries.Pairwise fun x y ↦ x.1 < y.1) (h' : entries'.Pairwise fun x y ↦ x.1 < y.1)
    (hmem : ∀ x, x ∈ entries ↔ x ∈ entries') : entries = entries' := by
  have : Std.Irrefl fun x y : String × α ↦ x.1 < y.1 := ⟨fun x ↦ String.lt_irrefl x.1⟩
  have : Std.Antisymm fun x y : String × α ↦ x.1 < y.1 :=
    ⟨fun x y hxy hyx ↦ absurd (String.lt_trans hxy hyx) (String.lt_irrefl x.1)⟩
  exact h.eq_of_mem_iff h' hmem

/-- Tables in which the same is looked up are equal. -/
theorem Ascending.eq_of_get?_eq {m' : NameMap α} (h : m.Ascending) (h' : m'.Ascending)
    (hget : ∀ name, m.get? name = m'.get? name) : m = m' := by
  have hentries : m.toList = m'.toList := eq_of_pairwise_of_mem_iff h h' fun ⟨name, v⟩ ↦ by
    rw [h.mem_toList_iff, h'.mem_toList_iff, hget]
  exact congrArg NameMap.mk hentries

/-! ### Entries put in one after another -/

theorem mem_of_mem_foldl_insertEntry {x : String × α} {entries acc : List (String × α)}
    (h : x ∈ entries.foldl (fun acc y ↦ insertEntry y.1 y.2 acc) acc) :
    x ∈ entries ∨ x ∈ acc := by
  induction entries generalizing acc with
  | nil => exact .inr h
  | cons head rest ih =>
    rcases ih h with hx | hx
    · exact .inl (List.mem_cons_of_mem head hx)
    · rcases eq_or_mem_of_mem_insertEntry hx with rfl | hx
      · exact .inl List.mem_cons_self
      · exact .inr hx

/-- Entries with different names are all found, and hide what was there before them. -/
theorem lookup_foldl_insertEntry {entries : List (String × α)}
    (h : (entries.map Prod.fst).Nodup) (acc : List (String × α)) (name : String) :
    (entries.foldl (fun acc y ↦ insertEntry y.1 y.2 acc) acc).lookup name =
      (entries.lookup name).or (acc.lookup name) := by
  induction entries generalizing acc with
  | nil => rfl
  | cons head rest ih =>
    obtain ⟨hnot, hnodup⟩ := List.nodup_cons.1 h
    rw [List.foldl_cons, ih hnodup, lookup_insertEntry]
    by_cases hname : name = head.1
    · -- None of the entries that follow has this name.
      have hnone : rest.lookup head.1 = none := by
        rw [List.lookup_eq_none_iff]
        intro x hx
        simpa using fun heq : head.1 = x.1 ↦ hnot (heq ▸ List.mem_map_of_mem hx)
      rw [hname, hnone, if_pos rfl, List.lookup_cons_self]
      rfl
    · have hb : (name == head.1) = false := by simpa using hname
      rw [if_neg hname, List.lookup_cons, hb]

end NameMap

end ScriptSandbox.Text

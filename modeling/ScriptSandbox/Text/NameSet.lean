/-!
# Sets and tables of names

Names kept in ascending order, each once: a set of them, and a table that gives each a value. The
order is that of the characters' code points. A set's order is part of its type, so two sets with
the same members are equal.
-/

namespace ScriptSandbox.Text

/-- Puts a name into an ascending list at its place; a name that is there already stays alone. -/
def insertName (name : String) : List String → List String
  | [] => [name]
  | other :: rest =>
    if name < other then name :: other :: rest
    else if name = other then other :: rest
    else other :: insertName name rest

theorem mem_insertName {name other : String} {names : List String} :
    other ∈ insertName name names ↔ other = name ∨ other ∈ names := by
  induction names with
  | nil => simp [insertName]
  | cons head rest ih =>
    simp only [insertName]
    split
    · simp
    · split
      · next h => subst h; simp
      · simp only [List.mem_cons, ih]
        constructor
        · rintro (h | h | h) <;> simp [h]
        · rintro (h | h | h) <;> simp [h]

theorem pairwise_insertName {name : String} {names : List String}
    (h : names.Pairwise (· < ·)) : (insertName name names).Pairwise (· < ·) := by
  induction names with
  | nil => simp [insertName]
  | cons head rest ih =>
    obtain ⟨hhead, hrest⟩ := List.pairwise_cons.1 h
    simp only [insertName]
    split
    · next hlt =>
      refine List.pairwise_cons.2 ⟨fun other hmem ↦ ?_, h⟩
      rcases List.mem_cons.1 hmem with rfl | hmem
      · exact hlt
      · exact String.lt_trans hlt (hhead _ hmem)
    · next hlt =>
      split
      · exact h
      · next hne =>
        refine List.pairwise_cons.2 ⟨fun other hmem ↦ ?_, ih hrest⟩
        rcases mem_insertName.1 hmem with rfl | hmem
        · rcases Std.lt_trichotomy head other with h | h | h
          · exact h
          · exact absurd h.symm hne
          · exact absurd h hlt
        · exact hhead _ hmem

/-- A set of names. -/
structure NameSet where
  /-- The members, ascending. -/
  toList : List String
  /-- Each member stands once, at its place. -/
  ascending : toList.Pairwise (· < ·)
  deriving DecidableEq, Repr

namespace NameSet

/-- The set without a member. -/
def empty : NameSet := ⟨[], .nil⟩

instance : Inhabited NameSet := ⟨empty⟩

/-- Whether a name is a member. -/
def contains (s : NameSet) (name : String) : Bool := s.toList.contains name

/-- The set with one more member. -/
def insert (s : NameSet) (name : String) : NameSet :=
  ⟨insertName name s.toList, pairwise_insertName s.ascending⟩

/-- The number of members. -/
def size (s : NameSet) : Nat := s.toList.length

/-- Whether there is no member. -/
def isEmpty (s : NameSet) : Bool := s.toList.isEmpty

@[simp] theorem contains_insert (s : NameSet) (name other : String) :
    (s.insert name).contains other = (other == name || s.contains other) := by
  rw [Bool.eq_iff_iff]
  simp [contains, insert, mem_insertName]

end NameSet

/-- A table of values by name. -/
structure NameMap (α : Type) where
  /-- The names with their values, ascending by name. -/
  toList : List (String × α)
  deriving Repr

namespace NameMap

variable {α : Type}

/-- The table without a name. -/
def empty : NameMap α := ⟨[]⟩

instance : Inhabited (NameMap α) := ⟨empty⟩

/-- Gives a name of an ascending list a value, in place of its old one. -/
def insertEntry (name : String) (value : α) : List (String × α) → List (String × α)
  | [] => [(name, value)]
  | (other, old) :: rest =>
    if name < other then (name, value) :: (other, old) :: rest
    else if name = other then (name, value) :: rest
    else (other, old) :: insertEntry name value rest

/-- The table in which a name has a value. -/
def insert (m : NameMap α) (name : String) (value : α) : NameMap α :=
  ⟨insertEntry name value m.toList⟩

/-- The value of a name. -/
def get? (m : NameMap α) (name : String) : Option α := m.toList.lookup name

/-- The names, ascending. -/
def names (m : NameMap α) : List String := m.toList.map (·.1)

@[simp] theorem get?_empty (name : String) : (empty : NameMap α).get? name = none := rfl

theorem lookup_insertEntry (entries : List (String × α)) (name : String) (value : α)
    (other : String) :
    (insertEntry name value entries).lookup other
      = if other = name then some value else entries.lookup other := by
  induction entries with
  | nil =>
    by_cases h : other = name
    · subst h; simp [insertEntry]
    · have hb : (other == name) = false := by simpa using h
      simp [insertEntry, List.lookup_cons, h, hb]
  | cons head rest ih =>
    obtain ⟨key, old⟩ := head
    simp only [insertEntry]
    split
    · by_cases h : other = name
      · subst h; simp
      · have hb : (other == name) = false := by simpa using h
        simp [List.lookup_cons, h, hb]
    · split
      · next hkey =>
        subst hkey
        by_cases h : other = name
        · subst h; simp
        · have hb : (other == name) = false := by simpa using h
          simp [List.lookup_cons, h, hb]
      · next hkey =>
        by_cases h : other = key
        · subst h
          have hne : other ≠ name := fun e ↦ hkey e.symm
          simp [hne]
        · have hb : (other == key) = false := by simpa using h
          simp [List.lookup_cons, hb, ih]

@[simp] theorem get?_insert (m : NameMap α) (name : String) (value : α) (other : String) :
    (m.insert name value).get? other = if other = name then some value else m.get? other :=
  lookup_insertEntry m.toList name value other

end NameMap

end ScriptSandbox.Text

import Mathlib.Data.List.DropRight
import Mathlib.Data.List.TakeWhile
import ScriptSandbox.Text.Blank

/-!
# What a trim leaves

A text is *tight* if it neither begins nor ends with a blank. A trim cuts a text into a blank lead,
a tight core and a blank tail, and leaves the core (`exists_eq_append_trim`, `tight_trim`). There is
only one such cut (`trim_eq_of_tight`), so what is left of a text put together from others is found
by naming a tight core in it.
-/

namespace ScriptSandbox.Text

/-- A text that has only blanks. -/
def Blank (text : List Char) : Prop := ∀ c ∈ text, isBlank c = true

/-- A text that neither begins nor ends with a blank. -/
structure Tight (text : List Char) : Prop where
  /-- It does not begin with a blank. -/
  head : ∀ c ∈ text.head?, isBlank c = false
  /-- It does not end with a blank. -/
  last : ∀ c ∈ text.getLast?, isBlank c = false

variable {text lead core tail text' : List Char}

theorem blank_singleton {c : Char} (hc : isBlank c = true) : Blank [c] :=
  List.forall_mem_singleton.2 hc

theorem blank_append_iff : Blank (text ++ text') ↔ Blank text ∧ Blank text' :=
  List.forall_mem_append

/-- Tight texts with anything between them are a tight text. -/
theorem Tight.append (h : Tight text) (hne : text ≠ []) (h' : Tight text') (hne' : text' ≠ [])
    (gap : List Char) : Tight (text ++ gap ++ text') where
  head c hc := by
    rw [List.append_assoc, List.head?_append_of_ne_nil _ hne] at hc
    exact h.head c hc
  last c hc := by
    rw [List.getLast?_append_of_ne_nil _ hne'] at hc
    exact h'.last c hc

/-! ### The cut of a trim -/

theorem trimEnd_eq (text : List Char) : trimEnd text = text.rdropWhile isBlank := rfl

theorem blank_takeWhile (text : List Char) : Blank (text.takeWhile isBlank) :=
  fun _ hc ↦ List.mem_takeWhile_imp hc

theorem blank_rtakeWhile (text : List Char) : Blank (text.rtakeWhile isBlank) := by
  intro c hc
  rw [List.rtakeWhile, List.mem_reverse] at hc
  exact List.mem_takeWhile_imp hc

/-- **A trim takes away a blank lead and a blank tail.** -/
theorem exists_eq_append_trim (text : List Char) :
    ∃ lead tail, Blank lead ∧ Blank tail ∧ text = lead ++ trim text ++ tail := by
  refine ⟨text.takeWhile isBlank, (trimStart text).rtakeWhile isBlank, blank_takeWhile text,
    blank_rtakeWhile _, ?_⟩
  rw [trim, trimEnd_eq, List.append_assoc, List.rdropWhile_append_rtakeWhile, trimStart,
    List.takeWhile_append_dropWhile]

theorem head?_trimStart (text : List Char) : ∀ c ∈ (trimStart text).head?, isBlank c = false := by
  intro c hc
  have hhead := List.head?_dropWhile_not isBlank text
  rw [trimStart] at hc
  rw [Option.mem_def.1 hc] at hhead
  simpa using hhead

/-- **What a trim leaves is tight.** -/
theorem tight_trim (text : List Char) : Tight (trim text) where
  head c hc := by
    -- What is left begins as before the trim at the end.
    obtain ⟨tail, htail⟩ := List.rdropWhile_prefix isBlank (trimStart text)
    refine head?_trimStart text c ?_
    rw [trim, trimEnd_eq] at hc
    rw [← htail, List.head?_append, Option.mem_def.1 hc]
    rfl
  last c hc := by
    rw [trim, trimEnd_eq] at hc
    obtain ⟨hne, rfl⟩ := List.mem_getLast?_eq_getLast hc
    exact Bool.eq_false_iff.2 (List.rdropWhile_last_not isBlank _ hne)

theorem trimStart_append (hlead : Blank lead) (text : List Char) :
    trimStart (lead ++ text) = trimStart text :=
  List.dropWhile_append_of_pos hlead

theorem trimEnd_append (text : List Char) (htail : Blank tail) :
    trimEnd (text ++ tail) = trimEnd text := by
  rw [trimEnd, dropEndWhile, List.reverse_append,
    List.dropWhile_append_of_pos fun c hc ↦ htail c (List.mem_reverse.1 hc)]
  rfl

theorem trimEnd_of_tight (h : Tight core) : trimEnd core = core := by
  rw [trimEnd_eq, List.rdropWhile_eq_self_iff]
  intro hne
  rw [h.last _ (List.getLast?_eq_getLast_of_ne_nil hne)]
  exact Bool.false_ne_true

theorem trim_of_blank (h : Blank text) : trim text = [] := by
  have hstart : trimStart text = [] := List.dropWhile_eq_nil_iff.2 h
  rw [trim, hstart]
  rfl

/-- **The cut is the only one**: a tight core between blanks is what a trim leaves. -/
theorem trim_eq_of_tight (hlead : Blank lead) (hcore : Tight core) (htail : Blank tail) :
    trim (lead ++ core ++ tail) = core := by
  by_cases hempty : core = []
  · rw [hempty, List.append_nil]
    exact trim_of_blank (blank_append_iff.2 ⟨hlead, htail⟩)
  · have hstart : trimStart (core ++ tail) = core ++ tail := by
      obtain ⟨c, rest, rfl⟩ := List.exists_cons_of_ne_nil hempty
      exact List.dropWhile_cons_of_neg (by rw [hcore.head c rfl]; exact Bool.false_ne_true)
    rw [trim, List.append_assoc, trimStart_append hlead, hstart, trimEnd_append core htail,
      trimEnd_of_tight hcore]

theorem trim_trim (text : List Char) : trim (trim text) = trim text := by
  have hnone : Blank [] := List.forall_mem_nil _
  simpa using trim_eq_of_tight hnone (tight_trim text) hnone

/-! ### Texts put together -/

theorem blank_of_trim_eq_nil (h : trim text = []) : Blank text := by
  obtain ⟨lead, tail, hlead, htail, heq⟩ := exists_eq_append_trim text
  rw [heq, h, List.append_nil]
  exact blank_append_iff.2 ⟨hlead, htail⟩

theorem trim_append_of_blank_left (h : Blank lead) (text : List Char) :
    trim (lead ++ text) = trim text := by
  rw [trim, trimStart_append h]
  rfl

theorem trim_append_of_blank_right (text : List Char) (h : Blank tail) :
    trim (text ++ tail) = trim text := by
  obtain ⟨lead, tail', hlead, htail', heq⟩ := exists_eq_append_trim text
  conv_lhs => rw [heq, List.append_assoc]
  exact trim_eq_of_tight hlead (tight_trim text) (blank_append_iff.2 ⟨htail', h⟩)

/-- **What is left of two texts put together**: what is left of each, with the blanks between. -/
theorem exists_trim_append (h : trim text ≠ []) (h' : trim text' ≠ []) :
    ∃ lead tail lead', Blank tail ∧ Blank lead' ∧ text = lead ++ trim text ++ tail ∧
      trim (text ++ text') = trim text ++ (tail ++ lead') ++ trim text' := by
  obtain ⟨lead, tail, hlead, htail, heq⟩ := exists_eq_append_trim text
  obtain ⟨lead', tail', hlead', htail', heq'⟩ := exists_eq_append_trim text'
  refine ⟨lead, tail, lead', htail, hlead', heq, ?_⟩
  have hcut : text ++ text' =
      lead ++ (trim text ++ (tail ++ lead') ++ trim text') ++ tail' := by
    conv_lhs => rw [heq, heq']
    simp only [List.append_assoc]
  rw [hcut]
  exact trim_eq_of_tight hlead ((tight_trim text).append h (tight_trim text') h' _) htail'

/-- A blank at the end of a text belongs to the tail. -/
theorem mem_tail_of_concat {c : Char} (hc : isBlank c = true) (hcore : Tight core)
    (hne : core ≠ []) (h : text ++ [c] = lead ++ core ++ tail) : c ∈ tail := by
  rcases List.eq_nil_or_concat tail with rfl | ⟨tail, d, rfl⟩
  · -- The last character of the core is no blank.
    have hlast : core.getLast? = some c := by
      rw [← List.getLast?_append_of_ne_nil lead hne, ← List.append_nil (lead ++ core), ← h,
        List.getLast?_concat]
    rw [hcore.last c hlast] at hc
    cases hc
  · rw [List.concat_eq_append, ← List.append_assoc] at h
    obtain rfl := List.singleton_inj.1 (List.append_inj_right' h rfl)
    rw [List.concat_eq_append]
    exact List.mem_append_right _ (List.mem_singleton_self c)

end ScriptSandbox.Text

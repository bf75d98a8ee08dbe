import Mathlib.Data.List.Forall2
import Mathlib.Logic.Relation
import ScriptSandbox.Proofs.Text.Lines

/-!
# Carriage returns at the ends of lines

Two texts that differ in their line endings: the second has carriage returns after some lines of the
first (`WithReturns`). Without the returns at their ends the lines are the same (`bareLines`).

A carriage return is a blank, so a trim can take away those at the end of a text, while it leaves
those inside. The returns are therefore put in one by one (`AddsReturn`): where a trim cuts a text,
a single return falls into the lead or the tail, and is gone, or into the core, and stays
(`AddsReturn.trim`).
-/

namespace ScriptSandbox.Text

variable {text text' line line' more more' : List Char}

/-- The second line is the first with carriage returns after it. -/
def Ended (line line' : List Char) : Prop := ∃ n, line' = line ++ List.replicate n '\r'

/-- The second text is the first with carriage returns after some of its lines. -/
def WithReturns (text text' : List Char) : Prop := List.Forall₂ Ended (lines text) (lines text')

/-- The lines of a text without the carriage returns at their ends. -/
def bareLines (text : List Char) : List (List Char) := (lines text).map (dropEndWhile (· = '\r'))

theorem ended_iff :
    Ended line line' ↔ line' = line ++ List.replicate (line'.length - line.length) '\r' := by
  refine ⟨?_, fun h ↦ ⟨_, h⟩⟩
  rintro ⟨n, rfl⟩
  rw [List.length_append, List.length_replicate, Nat.add_sub_cancel_left]

instance : DecidableRel Ended := fun _ _ ↦ decidable_of_iff _ ended_iff.symm

instance : DecidableRel WithReturns :=
  fun text text' ↦ inferInstanceAs (Decidable (List.Forall₂ Ended (lines text) (lines text')))

theorem dropEndWhile_concat_return (line : List Char) :
    dropEndWhile (· = '\r') (line ++ ['\r']) = dropEndWhile (· = '\r') line := by
  rw [dropEndWhile, List.reverse_concat, List.dropWhile_cons_of_pos (by decide)]
  rfl

/-! ### One carriage return -/

/-- The second text is the first with one carriage return, at the end of a line. -/
inductive AddsReturn : List Char → List Char → Prop
  | intro (before : List Char) {after : List Char} (hend : ∀ c ∈ after.head?, c = '\n') :
      AddsReturn (before ++ after) (before ++ '\r' :: after)

theorem Blank.insert_return {before after : List Char} (h : Blank (before ++ after)) :
    Blank (before ++ '\r' :: after) := by
  obtain ⟨hbefore, hafter⟩ := blank_append_iff.1 h
  exact blank_append_iff.2 ⟨hbefore, List.forall_mem_cons.2 ⟨rfl, hafter⟩⟩

/-- A return before a newline in a tight text is neither at its beginning nor at its end. -/
theorem Tight.insert_return {before after : List Char} (h : Tight (before ++ after))
    (hend : ∀ c ∈ after.head?, c = '\n') (hne : after ≠ []) :
    Tight (before ++ '\r' :: after) := by
  obtain ⟨c, rest, rfl⟩ := List.exists_cons_of_ne_nil hne
  obtain rfl := hend c rfl
  have hbefore : before ≠ [] := by
    rintro rfl
    exact absurd (h.head '\n' rfl) (by decide)
  refine ⟨fun d hd ↦ h.head d ?_, fun d hd ↦ h.last d ?_⟩
  · rwa [List.head?_append_of_ne_nil _ hbefore] at hd ⊢
  · rw [List.getLast?_append_of_ne_nil _ (List.cons_ne_nil _ _)] at hd ⊢
    rwa [List.getLast?_cons_cons] at hd

namespace AddsReturn

theorem concat (text : List Char) : AddsReturn text (text ++ ['\r']) := by
  have hnone : ∀ c ∈ ([] : List Char).head?, c = '\n' := fun c hc ↦ by cases hc
  simpa using AddsReturn.intro text hnone

theorem append_left (h : AddsReturn text text') (lead : List Char) :
    AddsReturn (lead ++ text) (lead ++ text') := by
  obtain ⟨before, hend⟩ := h
  rw [← List.append_assoc, ← List.append_assoc]
  exact .intro _ hend

theorem append_newline (h : AddsReturn text text') (more : List Char) :
    AddsReturn (text ++ '\n' :: more) (text' ++ '\n' :: more) := by
  obtain ⟨before, hend⟩ := h
  rw [List.append_assoc, List.append_assoc]
  refine .intro before fun c hc ↦ ?_
  rw [List.head?_append, Option.mem_def, Option.or_eq_some_iff] at hc
  rcases hc with hc | ⟨-, hc⟩
  · exact hend c hc
  · exact (Option.some.inj hc).symm

/-- **A trim takes the carriage return away, or leaves it.** -/
theorem trim (h : AddsReturn text text') :
    trim text' = trim text ∨ AddsReturn (trim text) (trim text') := by
  obtain @⟨before, after, hend⟩ := h
  obtain ⟨lead, tail, hlead, htail, hcut⟩ := exists_eq_append_trim (before ++ after)
  have htight := tight_trim (before ++ after)
  generalize Text.trim (before ++ after) = core at hcut htight ⊢
  rw [List.append_assoc, List.append_eq_append_iff] at hcut
  rcases hcut with ⟨mid, rfl, rfl⟩ | ⟨mid, rfl, hcut⟩
  · -- The return stands among the blanks of the lead.
    left
    simpa using trim_eq_of_tight hlead.insert_return htight htail
  rcases List.append_eq_append_iff.1 hcut with ⟨mid', rfl, rfl⟩ | ⟨mid', rfl, rfl⟩
  · -- The return stands among the blanks of the tail.
    left
    simpa using trim_eq_of_tight hlead htight htail.insert_return
  cases mid' with
  | nil =>
    -- The return stands right behind the core.
    have htail' : Blank ([] ++ '\r' :: tail) := Blank.insert_return htail
    left
    simpa using trim_eq_of_tight hlead htight htail'
  | cons c rest =>
    -- The return stands inside the core, which begins and ends as before.
    have hend' : ∀ d ∈ (c :: rest).head?, d = '\n' := hend
    have htight' := htight.insert_return hend' (List.cons_ne_nil c rest)
    have htrim : Text.trim (lead ++ mid ++ '\r' :: (c :: rest ++ tail)) =
        mid ++ '\r' :: c :: rest := by
      simpa using trim_eq_of_tight hlead htight' htail
    right
    rw [htrim]
    exact .intro mid hend'

end AddsReturn

/-! ### Any number of carriage returns -/

/-- The second text is the first with carriage returns, each at the end of a line. -/
abbrev AddsReturns : List Char → List Char → Prop := Relation.ReflTransGen AddsReturn

namespace AddsReturns

/-- **Texts that differ in carriage returns still do when they are trimmed.** -/
theorem trim (h : AddsReturns text text') : AddsReturns (trim text) (trim text') := by
  induction h with
  | refl => exact .refl
  | tail _ hstep ih =>
    rcases hstep.trim with heq | hstep
    · rwa [heq]
    · exact ih.tail hstep

theorem append_newline (h : AddsReturns text text') (h' : AddsReturns more more') :
    AddsReturns (text ++ '\n' :: more) (text' ++ '\n' :: more') := by
  have hleft : AddsReturns (text ++ '\n' :: more) (text' ++ '\n' :: more) :=
    h.lift (· ++ '\n' :: more) fun _ _ hstep ↦ hstep.append_newline more
  have hright : AddsReturns (text' ++ '\n' :: more) (text' ++ '\n' :: more') := by
    refine h'.lift (text' ++ '\n' :: ·) fun _ _ hstep ↦ ?_
    exact (hstep.append_left ['\n']).append_left text'
  exact hleft.trans hright

end AddsReturns

theorem Ended.addsReturns (h : Ended line line') : AddsReturns line line' := by
  obtain ⟨n, rfl⟩ := h
  induction n with
  | zero =>
    rw [List.replicate_zero, List.append_nil]
  | succ n ih =>
    rw [List.replicate_succ', ← List.append_assoc]
    exact ih.tail (.concat _)

/-! ### Lines without carriage returns -/

theorem bareLines_append_newline (text text' : List Char) :
    bareLines (text ++ '\n' :: text') = bareLines text ++ bareLines text' := by
  rw [bareLines, lines_append_newline, List.map_append]
  rfl

theorem bareLines_concat_return (text : List Char) :
    bareLines (text ++ ['\r']) = bareLines text := by
  obtain ⟨before, last, first, after, h, hline, htogether⟩ := exists_lines_append text ['\r']
  obtain ⟨rfl, rfl⟩ := List.cons.inj hline
  rw [bareLines, bareLines, h, htogether, List.map_append, List.map_append, List.map_cons,
    List.map_cons, dropEndWhile_concat_return]

theorem AddsReturn.bareLines_eq (h : AddsReturn text text') : bareLines text' = bareLines text := by
  obtain @⟨before, after, hend⟩ := h
  cases after with
  | nil => rw [bareLines_concat_return, List.append_nil]
  | cons c after =>
    obtain rfl := hend c rfl
    rw [← List.singleton_append, ← List.append_assoc, bareLines_append_newline,
      bareLines_append_newline, bareLines_concat_return]

/-- **Carriage returns make no difference to the lines without them.** -/
theorem AddsReturns.bareLines_eq (h : AddsReturns text text') :
    bareLines text' = bareLines text := by
  induction h with
  | refl => rfl
  | tail _ hstep ih => exact hstep.bareLines_eq.trans ih

end ScriptSandbox.Text

import ScriptSandbox.Proofs.Text.Trim

/-!
# The lines of texts put together

Where two texts are put together, the last line of the first and the first line of the second
become one line, and every other line stays as it is (`exists_lines_append`); if there is a newline
between them, every line stays (`lines_append_newline`). As a trim takes away a lead and a tail, the
lines it leaves are pieces of lines that were there, with blanks alone before them
(`exists_mem_lines_of_mem_lines_trim`).

A text is its lines, each with its newline, less the last newline (`flatMap_lines`).
-/

namespace ScriptSandbox.Text

variable {text text' line : List Char}

theorem lines_newline (text : List Char) : lines ('\n' :: text) = [] :: lines text := rfl

/-- A character at the beginning of a text belongs to its first line. -/
theorem lines_cons {c : Char} (hc : c ≠ '\n') {more : List (List Char)}
    (h : lines text = line :: more) : lines (c :: text) = (c :: line) :: more := by
  rw [lines, if_neg hc, h]

theorem exists_lines_eq_cons (text : List Char) : ∃ line more, lines text = line :: more :=
  List.exists_cons_of_ne_nil (lines_ne_nil text)

/-- Texts that meet at a newline keep their lines. -/
theorem lines_append_newline (text text' : List Char) :
    lines (text ++ '\n' :: text') = lines text ++ lines text' := by
  induction text with
  | nil => rfl
  | cons c text ih =>
    by_cases hc : c = '\n'
    · rw [hc, List.cons_append, lines_newline, ih, lines_newline, List.cons_append]
    · obtain ⟨line, more, h⟩ := exists_lines_eq_cons text
      rw [h, List.cons_append] at ih
      rw [List.cons_append, lines_cons hc ih, lines_cons hc h, List.cons_append]

/-- **Texts put together have one line in common**, in which the last line of the first is followed
by the first line of the second. -/
theorem exists_lines_append (text text' : List Char) :
    ∃ before last first after, lines text = before ++ [last] ∧ lines text' = first :: after ∧
      lines (text ++ text') = before ++ (last ++ first) :: after := by
  obtain ⟨first, after, h'⟩ := exists_lines_eq_cons text'
  induction text with
  | nil => exact ⟨[], [], first, after, rfl, h', h'⟩
  | cons c text ih =>
    obtain ⟨before, last, first, after, h, h', htogether⟩ := ih
    by_cases hc : c = '\n'
    · refine ⟨[] :: before, last, first, after, ?_, h', ?_⟩
      · rw [hc, lines_newline, h, List.cons_append]
      · rw [hc, List.cons_append, lines_newline, htogether, List.cons_append]
    · cases before with
      | nil => exact ⟨[], c :: last, first, after, lines_cons hc h, h', lines_cons hc htogether⟩
      | cons head before =>
        exact ⟨(c :: head) :: before, last, first, after, lines_cons hc h, h',
          lines_cons hc htogether⟩

/-- A text without a newline is one line. -/
theorem lines_of_not_mem (h : '\n' ∉ text) : lines text = [text] := by
  induction text with
  | nil => rfl
  | cons c text ih =>
    rw [List.mem_cons, not_or] at h
    exact lines_cons (Ne.symm h.1) (ih h.2)

/-- No line holds a newline. -/
theorem not_mem_of_mem_lines (h : line ∈ lines text) : '\n' ∉ line := by
  induction text generalizing line with
  | nil =>
    rw [List.mem_singleton.1 h]
    exact List.not_mem_nil
  | cons c text ih =>
    by_cases hc : c = '\n'
    · rw [hc, lines_newline, List.mem_cons] at h
      rcases h with rfl | h
      · exact List.not_mem_nil
      · exact ih h
    · obtain ⟨first, more, hlines⟩ := exists_lines_eq_cons text
      rw [lines_cons hc hlines, List.mem_cons] at h
      rcases h with rfl | h
      · rw [List.mem_cons, not_or]
        exact ⟨Ne.symm hc, ih (hlines ▸ List.mem_cons_self)⟩
      · exact ih (hlines ▸ List.mem_cons_of_mem first h)

/-- **A text is its lines**, each with its newline, but for the newline after the last. -/
theorem flatMap_lines (text : List Char) :
    ((lines text).flatMap fun line ↦ line ++ ['\n']) = text ++ ['\n'] := by
  induction text with
  | nil => rfl
  | cons c text ih =>
    by_cases hc : c = '\n'
    · rw [hc, lines_newline, List.flatMap_cons, ih]
      rfl
    · obtain ⟨line, more, h⟩ := exists_lines_eq_cons text
      rw [h, List.flatMap_cons] at ih
      rw [lines_cons hc h, List.flatMap_cons, List.cons_append, List.cons_append, ih,
        List.cons_append]

theorem subset_of_mem_lines (h : line ∈ lines text) : line ⊆ text := by
  intro c hc
  have hmem : c ∈ (lines text).flatMap fun line ↦ line ++ ['\n'] :=
    List.mem_flatMap.2 ⟨line, h, List.mem_append_left _ hc⟩
  rw [flatMap_lines, List.mem_append, List.mem_singleton] at hmem
  refine hmem.resolve_right ?_
  rintro rfl
  exact not_mem_of_mem_lines h hc

/-! ### Pieces of lines -/

/-- A line of the first of two texts begins a line of both. -/
theorem exists_append_mem_lines (h : line ∈ lines text) (text' : List Char) :
    ∃ tail, line ++ tail ∈ lines (text ++ text') := by
  obtain ⟨before, last, first, after, hlines, -, htogether⟩ := exists_lines_append text text'
  rw [hlines, List.mem_append, List.mem_singleton] at h
  rw [htogether]
  rcases h with h | rfl
  · exact ⟨[], List.mem_append_left _ (by rwa [List.append_nil])⟩
  · exact ⟨first, List.mem_append_right _ List.mem_cons_self⟩

/-- A line of the second of two texts ends a line of both, and what is before it is from the first
text. -/
theorem exists_mem_lines_append (text : List Char) (h : line ∈ lines text') :
    ∃ lead, lead ⊆ text ∧ lead ++ line ∈ lines (text ++ text') := by
  obtain ⟨before, last, first, after, hlines, hlines', htogether⟩ := exists_lines_append text text'
  rw [hlines', List.mem_cons] at h
  rw [htogether]
  rcases h with rfl | h
  · have hlast : last ∈ lines text := by
      rw [hlines]
      exact List.mem_append_right _ (List.mem_singleton_self last)
    exact ⟨last, subset_of_mem_lines hlast, List.mem_append_right _ List.mem_cons_self⟩
  · exact ⟨[], List.nil_subset _, List.mem_append_right _ (List.mem_cons_of_mem _ h)⟩

/-- **What a trim leaves of a line** stood in a line behind blanks alone. -/
theorem exists_mem_lines_of_mem_lines_trim (h : line ∈ lines (trim text)) :
    ∃ lead tail, Blank lead ∧ lead ++ line ++ tail ∈ lines text := by
  obtain ⟨start, stop, hstart, -, heq⟩ := exists_eq_append_trim text
  obtain ⟨lead, hsubset, hmem⟩ := exists_mem_lines_append start h
  obtain ⟨tail, hline⟩ := exists_append_mem_lines hmem stop
  rw [← heq] at hline
  exact ⟨lead, tail, fun c hc ↦ hstart c (hsubset hc), hline⟩

end ScriptSandbox.Text

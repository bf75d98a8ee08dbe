import ScriptSandbox.Include.Expansion
import ScriptSandbox.Proofs.Text.Lines

/-!
# What a text contains

Blanks at the ends of lines, and lines that are blank throughout, come and go while fragments are
trimmed and put together. What stays is the contents of a text: its lines without the blanks at
their ends, less the empty ones (`contents`). Contents are put together where texts are put together
at a newline (`contents_append_newline`), and no trim touches them (`contents_trim`). The second
holds because a trim takes away one blank after another, and each of them is at an end of a line or
a newline beside an empty line.
-/

namespace ScriptSandbox.Include

open ScriptSandbox.Text

/-- Lines without the blanks at their ends, and without the blank ones. -/
def stripped (ls : List (List Char)) : List (List Char) :=
  (ls.map trim).filter fun line ↦ !line.isEmpty

/-- The lines of a text that are not blank, without the blanks at their ends. -/
def contents (text : List Char) : List (List Char) := stripped (lines text)

/-- What some lines contain besides directives. -/
def ordinaryOf (ls : List (List Char)) : List (List Char) :=
  stripped (ls.filter fun line ↦ (reference? line).isNone)

/-- What a text contains besides directives. -/
def ordinary (text : List Char) : List (List Char) := ordinaryOf (lines text)

theorem stripped_cons (line : List Char) (ls : List (List Char)) :
    stripped (line :: ls) = stripped [line] ++ stripped ls := by
  rw [stripped, stripped, stripped, ← List.filter_append, ← List.map_append]
  rfl

theorem stripped_append (ls ms : List (List Char)) :
    stripped (ls ++ ms) = stripped ls ++ stripped ms := by
  rw [stripped, List.map_append, List.filter_append]
  rfl

theorem stripped_singleton_nil : stripped [[]] = [] := rfl

/-- Only what a line is without its blanks counts. -/
theorem stripped_singleton_congr {line line' : List Char} (h : trim line = trim line') :
    stripped [line] = stripped [line'] := by
  simp only [stripped, List.map_cons, h]

theorem ordinaryOf_cons_of_eq_none {line : List Char} (h : reference? line = none)
    (ls : List (List Char)) : ordinaryOf (line :: ls) = stripped [line] ++ ordinaryOf ls := by
  rw [ordinaryOf, List.filter_cons_of_pos (by rw [h]; rfl), stripped_cons]
  rfl

theorem ordinaryOf_cons_of_ne_none {line : List Char} (h : reference? line ≠ none)
    (ls : List (List Char)) : ordinaryOf (line :: ls) = ordinaryOf ls := by
  rw [ordinaryOf, List.filter_cons_of_neg (by simpa using h)]
  rfl

/-! ### Contents -/

theorem contents_append_newline (text text' : List Char) :
    contents (text ++ '\n' :: text') = contents text ++ contents text' := by
  rw [contents, lines_append_newline, stripped_append]
  rfl

theorem contents_cons {c : Char} (hc : isBlank c = true) (text : List Char) :
    contents (c :: text) = contents text := by
  by_cases hnewline : c = '\n'
  · rw [hnewline, contents, lines_newline, stripped_cons, stripped_singleton_nil]
    rfl
  · obtain ⟨line, more, h⟩ := exists_lines_eq_cons text
    have htrim : trim (c :: line) = trim line :=
      trim_append_of_blank_left (blank_singleton hc) line
    rw [contents, contents, lines_cons hnewline h, h, stripped_cons, stripped_cons line,
      stripped_singleton_congr htrim]

theorem contents_concat {c : Char} (hc : isBlank c = true) (text : List Char) :
    contents (text ++ [c]) = contents text := by
  by_cases hnewline : c = '\n'
  · rw [hnewline, contents_append_newline]
    exact List.append_nil _
  · obtain ⟨before, last, first, after, h, hline, htogether⟩ := exists_lines_append text [c]
    have hsingle : [c] = first ∧ [] = after :=
      List.cons.inj ((lines_cons hnewline rfl).symm.trans hline)
    obtain ⟨rfl, rfl⟩ := hsingle
    have htrim : trim (last ++ [c]) = trim last :=
      trim_append_of_blank_right last (blank_singleton hc)
    rw [contents, contents, h, htogether, stripped_append, stripped_append,
      stripped_singleton_congr htrim]

theorem contents_append_of_blank_left {lead : List Char} (h : Blank lead) (text : List Char) :
    contents (lead ++ text) = contents text := by
  induction lead with
  | nil => rfl
  | cons c lead ih =>
    obtain ⟨hc, hlead⟩ := List.forall_mem_cons.1 h
    rw [List.cons_append, contents_cons hc, ih hlead]

theorem contents_append_of_blank_right (text : List Char) {tail : List Char} (h : Blank tail) :
    contents (text ++ tail) = contents text := by
  induction tail generalizing text with
  | nil => rw [List.append_nil]
  | cons c tail ih =>
    obtain ⟨hc, htail⟩ := List.forall_mem_cons.1 h
    rw [← List.singleton_append, ← List.append_assoc, ih _ htail, contents_concat hc]

/-- **A trim takes away no contents.** -/
theorem contents_trim (text : List Char) : contents (trim text) = contents text := by
  obtain ⟨lead, tail, hlead, htail, heq⟩ := exists_eq_append_trim text
  conv_rhs => rw [heq, contents_append_of_blank_right _ htail, contents_append_of_blank_left hlead]

/-- A line put before a text is put before its contents. -/
theorem contents_line_append {line : List Char} (h : '\n' ∉ line) (text : List Char) :
    contents (line ++ '\n' :: text) = stripped [line] ++ contents text := by
  rw [contents_append_newline, contents, lines_of_not_mem h]

end ScriptSandbox.Include

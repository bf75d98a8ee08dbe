import ScriptSandbox.Proofs.Include.Provenance

/-!
# Resolved text is a fixed point

A text without directives is not touched but for a trim (`Resolver.resolveWith_of_ordinary`). So
what has been resolved can be resolved again, with whatever providers, as long as no directive comes
up in it. None is copied, as only ordinary lines are; but a trim can make one, by taking away the
blanks before it.

A line is *plain* if it does not start with a directive, and would not without some blanks before
it. Every line that is kept is plain if no line is indented, and lines that are plain stay plain
when a trim makes pieces of them (`PlainText.trim`), at every level of nesting. What is put between
the fragments is a newline, so no line is made of two (`PlainText.append_newline`).
-/

namespace ScriptSandbox.Include

open ScriptSandbox.Text

variable {σ : Type}

/-! ### Directives and indented directives -/

/-- A line that starts with the directive. -/
def IsDirective (line : List Char) : Prop := directive.toList <+: line

/-- A line that starts with blanks, at least one, and goes on with the directive. -/
def IsIndented (line : List Char) : Prop :=
  ∃ lead, lead ≠ [] ∧ Blank lead ∧ lead ++ directive.toList <+: line

/-- A line that does not start with the directive, whatever blanks are left out before it. -/
def Plain (line : List Char) : Prop := ∀ lead, Blank lead → ¬ lead ++ directive.toList <+: line

variable {line lead tail text text' : List Char}

theorem reference?_eq_none_iff_not_isDirective : reference? line = none ↔ ¬ IsDirective line := by
  rw [reference?_eq_none_iff, IsDirective, List.IsPrefix, not_exists]
  simp only [ne_eq, eq_comm]

theorem plain_iff : Plain line ↔ ¬ IsDirective line ∧ ¬ IsIndented line := by
  constructor
  · intro h
    refine ⟨h [] (List.forall_mem_nil _), ?_⟩
    rintro ⟨lead, -, hlead, hstarts⟩
    exact h lead hlead hstarts
  · rintro ⟨hdirective, hindented⟩ lead hlead hstarts
    by_cases hempty : lead = []
    · rw [hempty] at hstarts
      exact hdirective hstarts
    · exact hindented ⟨lead, hempty, hlead, hstarts⟩

instance (line : List Char) : Decidable (IsDirective line) :=
  inferInstanceAs (Decidable (directive.toList <+: line))

/-- The blanks before an indented directive are all the blanks that the line starts with. -/
theorem isIndented_iff :
    IsIndented line ↔ line.takeWhile isBlank ≠ [] ∧ IsDirective (trimStart line) := by
  constructor
  · rintro ⟨lead, hne, hlead, rest, rfl⟩
    have hstart : trimStart (directive.toList ++ rest) = directive.toList ++ rest := rfl
    rw [List.append_assoc, trimStart_append hlead, hstart, List.takeWhile_append_of_pos hlead]
    exact ⟨List.append_ne_nil_of_left_ne_nil hne _, List.prefix_append _ _⟩
  · rintro ⟨hne, rest, hrest⟩
    refine ⟨line.takeWhile isBlank, hne, blank_takeWhile line, rest, ?_⟩
    rw [List.append_assoc, hrest, trimStart, List.takeWhile_append_dropWhile]

instance (line : List Char) : Decidable (IsIndented line) :=
  decidable_of_iff _ isIndented_iff.symm

theorem plain_nil : Plain [] := by
  intro lead _ hstarts
  exact List.append_ne_nil_of_right_ne_nil lead (by decide) (List.prefix_nil.1 hstarts)

/-- A piece of a plain line that has blanks alone before it is plain. -/
theorem Plain.of_append (h : Plain (lead ++ line ++ tail)) (hlead : Blank lead) : Plain line := by
  intro blanks hblanks hstarts
  refine h (lead ++ blanks) (blank_append_iff.2 ⟨hlead, hblanks⟩) ?_
  rw [List.append_assoc, List.append_assoc]
  exact (List.prefix_append_right_inj lead).2 (hstarts.trans (List.prefix_append line tail))

/-! ### Plain texts -/

/-- A text of plain lines. -/
def PlainText (text : List Char) : Prop := ∀ line ∈ lines text, Plain line

namespace PlainText

theorem append_newline (h : PlainText text) (h' : PlainText text') :
    PlainText (text ++ '\n' :: text') := by
  rw [PlainText, lines_append_newline]
  exact List.forall_mem_append.2 ⟨h, h'⟩

/-- **No directive comes up in a plain text when it is trimmed.** -/
theorem trim (h : PlainText text) : PlainText (trim text) := by
  intro line hline
  obtain ⟨lead, tail, hlead, hmem⟩ := exists_mem_lines_of_mem_lines_trim hline
  exact (h _ hmem).of_append hlead

theorem of_plain (h : Plain line) (hnewline : '\n' ∉ line) : PlainText line := by
  rw [PlainText, lines_of_not_mem hnewline]
  exact List.forall_mem_singleton.2 h

theorem not_isDirective (h : PlainText text) : ∀ line ∈ lines text, ¬ IsDirective line :=
  fun line hline ↦ (plain_iff.1 (h line hline)).1

end PlainText

variable {providers : List (Provider σ)} {limit levels number : Nat} {origin : Origin}
  {ls : List (List Char)} {t t' : Trail σ} {entries : List Entry}

/-- **What lines contribute is plain**, if no directive is indented in them or in a fragment that is
expanded on the way. -/
theorem Unfolds.plainText (h : Unfolds providers limit levels origin number ls t entries text t')
    (hnewline : ∀ line ∈ ls, '\n' ∉ line) (hls : ∀ line ∈ ls, ¬ IsIndented line)
    (hopened : ∀ opened ∈ entries.filterMap Entry.opened?,
      ∀ line ∈ lines opened.2, ¬ IsIndented line) : PlainText text := by
  induction h with
  | nil => exact .of_plain plain_nil List.not_mem_nil
  | passed hsettles hpassed hrest ih =>
    obtain ⟨hline, hrestline⟩ := List.forall_mem_cons.1 hnewline
    obtain ⟨hindented, hls⟩ := List.forall_mem_cons.1 hls
    rw [filterMap_cons_toList, Entry.opened?, hpassed] at hopened
    have hmore := ih hrestline hls hopened
    cases hsettles with
    | kept hordinary =>
      have hplain := plain_iff.2 ⟨reference?_eq_none_iff_not_isDirective.1 hordinary, hindented⟩
      rw [Fate.contribution, List.append_assoc]
      exact (PlainText.of_plain hplain hline).append_newline hmore
    | unmatched | skipped | tooDeep | failed => exact hmore
    | expanded => cases hpassed
  | expanded hsettles hinner hrest ihinner ihrest =>
    rw [filterMap_cons_toList, List.filterMap_append] at hopened
    obtain ⟨hfragment, hopened⟩ := List.forall_mem_append.1 hopened
    obtain ⟨hopenedinner, hopenedrest⟩ := List.forall_mem_append.1 hopened
    have htext := ihinner (fun _ ↦ not_mem_of_mem_lines)
      (hfragment _ (List.mem_singleton_self _)) hopenedinner
    exact htext.trim.append_newline
      (ihrest (List.forall_mem_cons.1 hnewline).2 (List.forall_mem_cons.1 hls).2 hopenedrest)

/-! ### Texts without directives -/

/-- Ordinary lines are copied, and nothing happens on the way. -/
theorem expandLines_of_ordinary (inner : Option (Expander σ))
    (h : ∀ line ∈ ls, ¬ IsDirective line) (t : Trail σ) :
    expandLines providers limit inner ls t = (ls.flatMap fun line ↦ line ++ ['\n'], t) := by
  induction ls with
  | nil => rfl
  | cons line rest ih =>
    obtain ⟨hline, hrest⟩ := List.forall_mem_cons.1 h
    have hordinary := reference?_eq_none_iff_not_isDirective.2 hline
    simp only [expandLines, expandLine, hordinary, ih hrest, List.flatMap_cons]

/-- **A text without directives is not touched**, but for a trim, and no provider is asked. -/
theorem Resolver.resolveWith_of_ordinary (r : Resolver σ) (host : σ) (visited : Visited)
    (h : ∀ line ∈ lines text, ¬ IsDirective line) :
    r.resolveWith host visited text = ⟨trim text, .start host visited⟩ := by
  have hexpand : expand r.providers r.maxDepth r.maxDepth text (.start host visited) =
      (trim text, .start host visited) := by
    have hcopy : trim (text ++ ['\n']) = trim text :=
      trim_append_of_blank_right text (blank_singleton rfl)
    generalize r.maxDepth = limit
    cases limit <;> simp only [expand, expandLines_of_ordinary _ h, flatMap_lines, hcopy]
  rw [resolveWith, hexpand]

/-- **Resolved text is a fixed point**, for all providers, whatever state they have, all tokens
visited before, all nesting limits and all sources. A source without directives is left as it is,
but for the blanks at its two ends. And where no directive is indented, in the source or in a
fragment that is expanded, there is none in the text, and whoever resolves the text gets it back. -/
theorem Resolver.resolved_is_fixed (r : Resolver σ) (host : σ) (visited : Visited)
    (source : List Char) :
    let resolution := r.resolveWith host visited source
    ((∀ line ∈ lines source, ¬ IsDirective line) →
        resolution.trail = .start host visited ∧
          ∃ lead tail, Blank lead ∧ Blank tail ∧ Tight resolution.text ∧
            source = lead ++ resolution.text ++ tail) ∧
      ((∀ origin text, TextOf source (r.course host visited source) origin text →
          ∀ line ∈ lines text, ¬ IsIndented line) →
        (∀ line ∈ lines resolution.text, ¬ IsDirective line) ∧
          ∀ {τ : Type} (r' : Resolver τ) (host' : τ) (visited' : Visited),
            r'.resolveWith host' visited' resolution.text =
              ⟨resolution.text, .start host' visited'⟩) := by
  intro resolution
  refine ⟨fun hordinary ↦ ?_, fun hindented ↦ ?_⟩
  · have hresolution := r.resolveWith_of_ordinary host visited hordinary
    obtain ⟨lead, tail, hlead, htail, hcut⟩ := exists_eq_append_trim source
    refine ⟨congrArg Resolution.trail hresolution, lead, tail, hlead, htail, ?_⟩
    rw [show resolution.text = trim source from congrArg Resolution.text hresolution]
    exact ⟨tight_trim source, hcut⟩
  · obtain ⟨text, hunfolds, htext⟩ := r.exists_unfolds host visited source
    have hplain : PlainText text := hunfolds.plainText (fun _ ↦ not_mem_of_mem_lines)
      (hindented .source source .source)
      fun opened hopened ↦ hindented (.fragment opened.1) opened.2 (.fragment hopened)
    have hnone : ∀ line ∈ lines resolution.text, ¬ IsDirective line := by
      rw [show resolution.text = trim text from htext]
      exact hplain.trim.not_isDirective
    refine ⟨hnone, fun r' host' visited' ↦ ?_⟩
    rw [r'.resolveWith_of_ordinary host' visited' hnone]
    rw [show resolution.text = trim text from htext, trim_trim]

/-- Two fragments with blanks around their lines, of which `a` includes `b`. -/
def padded : Resolver Unit where
  providers := [.ofFunctions (fun reference ↦ some reference) fun token ↦
    .ok (if token = "a" then " \n  let a = 1;\n#include b\n\n" else "\tlet b = 2;\r\n").toList]

/-- A source that is only trimmed, and one that is resolved through both fragments. -/
theorem Resolver.resolved_is_fixed_padded :
    let ordinary := "\n let  x = 1;\n// #include a\n".toList
    let source := "#include a\n  x".toList
    let text := "let a = 1;\nlet b = 2;\n  x".toList
    (∀ line ∈ lines ordinary, ¬ IsDirective line) ∧
      (padded.resolve () ordinary).trail = .start () .empty ∧
      (∀ origin text, TextOf source (padded.course () .empty source) origin text →
        ∀ line ∈ lines text, ¬ IsIndented line) ∧
      (padded.resolve () source).text = text ∧
      ∀ {τ : Type} (r : Resolver τ) (host : τ) (visited : Visited),
        r.resolveWith host visited text = ⟨text, .start host visited⟩ := by
  intro ordinary source text
  have hordinary : ∀ line ∈ lines ordinary, ¬ IsDirective line := by decide +kernel
  have hopened : (padded.course () .empty source).filterMap Entry.opened? =
      [("a", " \n  let a = 1;\n#include b\n\n".toList), ("b", "\tlet b = 2;\r\n".toList)] := by
    decide +kernel
  have hindented : ∀ origin text, TextOf source (padded.course () .empty source) origin text →
      ∀ line ∈ lines text, ¬ IsIndented line := by
    intro origin text htext
    cases htext with
    | source => decide +kernel
    | fragment h =>
      rw [hopened, List.mem_cons, List.mem_singleton, Prod.mk.injEq, Prod.mk.injEq] at h
      rcases h with ⟨-, rfl⟩ | ⟨-, rfl⟩ <;> decide +kernel
  have htext : (padded.resolve () source).text = text := by decide +kernel
  obtain ⟨htrail, -⟩ := (padded.resolved_is_fixed () .empty ordinary).1 hordinary
  obtain ⟨-, hfixed⟩ := (padded.resolved_is_fixed () .empty source).2 hindented
  refine ⟨hordinary, htrail, hindented, htext, fun r host visited ↦ ?_⟩
  rw [← htext]
  exact hfixed r host visited

/-- An indented directive is no directive, until a trim has made it one. -/
example : (padded.resolve () "  #include a".toList).text = "#include a".toList := by decide +kernel

end ScriptSandbox.Include

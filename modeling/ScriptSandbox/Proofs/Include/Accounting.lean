import Mathlib.Data.List.Perm.Basic
import ScriptSandbox.Proofs.Include.Provenance

/-!
# No line is lost, doubled or made up

The text of a resolution holds the ordinary lines of the source and those of each fragment that was
expanded, each once, and the lines of one text in their order. Only blanks come and go.

The lines that a course kept are, in its order, the contents of the text (`Unfolds.contents_eq`):
every level splits, copies and trims, but contents are put together at newlines and survive a trim.
Counted by the lines that were expanded, they are those of the source and of the fragments
(`Unfolds.perm_output`); read text by text, they are the contents of that text
(`Covers.map_output_eq`).
-/

namespace ScriptSandbox.Include

open ScriptSandbox.Text

variable {σ : Type} {providers : List (Provider σ)} {limit : Nat}

/-- A line without the blanks at its ends. -/
def Entry.stripped (e : Entry) : List Char := trim e.line

/-- What an entry of an ordinary line puts out. -/
theorem filter_isOutput_cons {e : Entry} (h : e.fate = .kept) (entries : List Entry) :
    ((e :: entries).filter Entry.isOutput).map Entry.stripped =
      Include.stripped [e.line] ++ (entries.filter Entry.isOutput).map Entry.stripped := by
  cases hblank : (trim e.line).isEmpty with
  | true => simp [Entry.isOutput, Include.stripped, h, hblank]
  | false => simp [Entry.isOutput, Include.stripped, Entry.stripped, h, hblank]

theorem filter_isOutput_cons_of_ne {e : Entry} (h : e.fate ≠ .kept) (entries : List Entry) :
    (e :: entries).filter Entry.isOutput = entries.filter Entry.isOutput :=
  List.filter_cons_of_neg (by simp [Entry.isOutput, h])

namespace Unfolds

variable {levels number : Nat} {origin : Origin} {ls : List (List Char)} {t t' : Trail σ}
  {entries : List Entry} {text : List Char}

/-- **The text contains what the course kept**, in the order of the course. -/
theorem contents_eq (h : Unfolds providers limit levels origin number ls t entries text t')
    (hls : ∀ line ∈ ls, '\n' ∉ line) :
    contents text = (entries.filter Entry.isOutput).map Entry.stripped := by
  induction h with
  | nil => rfl
  | @passed _ origin number line _ _ _ _ fate _ text hsettles hopened hrest ih =>
    obtain ⟨hline, hrest⟩ := List.forall_mem_cons.1 hls
    by_cases hkept : fate = .kept
    · rw [filter_isOutput_cons hkept, ← ih hrest, hkept, Fate.contribution, List.append_assoc]
      exact contents_line_append hline text
    · have hnothing : fate.contribution line = [] := by
        cases fate with
        | kept => exact absurd rfl hkept
        | _ => rfl
      rw [filter_isOutput_cons_of_ne hkept, hnothing]
      exact ih hrest
  | expanded hsettles hinner hrest ihinner ihrest =>
    rw [filter_isOutput_cons_of_ne (fun h ↦ by cases h), contents_append_newline, contents_trim,
      ihinner fun _ hline ↦ not_mem_of_mem_lines hline, ihrest (List.forall_mem_cons.1 hls).2,
      List.filter_append, List.map_append]

/-- **What is kept is what there is**: the ordinary lines of the text that is expanded, and those of
the fragments. -/
theorem perm_output (h : Unfolds providers limit levels origin number ls t entries text t') :
    ((entries.filter Entry.isOutput).map Entry.stripped).Perm
      (ordinaryOf ls ++
        (entries.filterMap Entry.opened?).flatMap fun opened ↦ ordinary opened.2) := by
  induction h with
  | nil => exact .refl _
  | @passed _ _ _ line rest _ _ _ fate entries _ hsettles hpassed hrest ih =>
    have hopened {e : Entry} (he : e.fate = fate) : (e :: entries).filterMap Entry.opened? =
        entries.filterMap Entry.opened? := by
      rw [filterMap_cons_toList, Entry.opened?, he, hpassed]
      rfl
    rw [hopened rfl]
    by_cases hkept : fate = .kept
    · rw [filter_isOutput_cons hkept, ordinaryOf_cons_of_eq_none (hsettles.eq_kept_iff.1 hkept),
        List.append_assoc]
      exact ih.append_left _
    · rw [filter_isOutput_cons_of_ne hkept,
        ordinaryOf_cons_of_ne_none (mt hsettles.eq_kept_iff.2 hkept)]
      exact ih
  | @expanded _ _ _ line rest _ _ _ _ token fragment inner entries _ _ hsettles hinner hrest ihinner
      ihrest =>
    have hdirective : reference? line ≠ none :=
      mt hsettles.eq_kept_iff.2 (fun h : Fate.expanded token fragment = .kept ↦ by cases h)
    rw [filter_isOutput_cons_of_ne (fun h ↦ by cases h), ordinaryOf_cons_of_ne_none hdirective,
      filterMap_cons_toList, List.filter_append, List.map_append, List.filterMap_append,
      List.flatMap_append, List.flatMap_append]
    -- The lines of the fragment come first in the course, and last in the count.
    refine (ihinner.append ihrest).trans ?_
    rw [← List.append_assoc]
    refine (List.perm_append_comm.append_right _).trans ?_
    simp only [List.append_assoc, ordinary, Entry.opened?, Fate.opened?, Option.toList_some,
      List.flatMap_singleton]
    exact .refl _

end Unfolds

/-! ### Text by text -/

/-- Entries that kept exactly their ordinary lines put out what these lines contain. -/
theorem map_filter_isOutput {entries : List Entry}
    (h : ∀ e ∈ entries, e.fate = .kept ↔ reference? e.line = none) :
    (entries.filter Entry.isOutput).map Entry.stripped = ordinaryOf (entries.map Entry.line) := by
  induction entries with
  | nil => rfl
  | cons e entries ih =>
    obtain ⟨he, hentries⟩ := List.forall_mem_cons.1 h
    rw [List.map_cons]
    by_cases hkept : e.fate = .kept
    · rw [filter_isOutput_cons hkept, ih hentries, ordinaryOf_cons_of_eq_none (he.1 hkept)]
    · rw [filter_isOutput_cons_of_ne hkept, ih hentries,
        ordinaryOf_cons_of_ne_none (mt he.2 hkept)]

/-- **What a text puts out is what it contains**, in its order. -/
theorem Covers.map_output_eq {source : List Char} {entries : List Entry}
    (h : Covers providers limit source entries) {origin : Origin} {text : List Char}
    (htext : TextOf source entries origin text) :
    ((entries.filter Entry.isOutput).filter (Entry.isFrom origin)).map Entry.stripped =
      ordinary text := by
  have hlines : (entries.filter (Entry.isFrom origin)).map Entry.line = Text.lines text := by
    have hzip := congrArg (List.map Prod.fst) (h.lines origin text htext)
    rwa [List.map_map, List.zipIdx_map_fst] at hzip
  rw [List.filter_comm, map_filter_isOutput, hlines, ordinary]
  intro e he
  exact h.eq_kept_iff (List.mem_of_mem_filter he)

/-! ### The account of a resolution's lines -/

/-- What the text of a resolution holds, where `recorded` is the same resolution with providers that
keep a record of what they are asked for. -/
structure HoldsEachLine (r : Resolver σ) (source : List Char) (course : List Entry)
    (resolution : Resolution σ) (recorded : Resolution (σ × List String)) : Prop where
  /-- The course has the lines of the source and of the fragments expanded, each once. -/
  covers : Covers r.providers r.maxDepth source course
  /-- Each token asked for was asked for by an entry, in the order of the course. -/
  asked : recorded.trail.host.2 = course.filterMap Entry.fetched?
  /-- A provider answered, and the fragment was expanded if it gave one. -/
  answered : ∀ e ∈ course, ∀ token, e.fetched? = some token →
    ∃ p ∈ r.providers, ∃ host host' answer, p.fetch token host = (answer, host') ∧
      e.fate = .ofAnswer token answer
  /-- No token has two fragments. -/
  nodup : ((course.filterMap Entry.opened?).map Prod.fst).Nodup
  /-- The lines of the text are those the course put out, and in its order. -/
  contents : contents resolution.text = (course.filter Entry.isOutput).map Entry.stripped
  /-- Counted, they are the ordinary lines of the source and those of each fragment. -/
  total : (Include.contents resolution.text).Perm
    (ordinary source ++
      (course.filterMap Entry.opened?).flatMap fun opened ↦ ordinary opened.2)
  /-- The lines from one text are its ordinary lines, and in its order. -/
  order : ∀ origin text, TextOf source course origin text →
    ((course.filter Entry.isOutput).filter (Entry.isFrom origin)).map Entry.stripped =
      ordinary text

/-- **No line is lost, doubled or made up**, for all providers, whatever state they have and whether
or not they fail, all tokens visited before, all nesting limits and all sources. -/
theorem Resolver.holds_each_line (r : Resolver σ) (host : σ) (visited : Visited)
    (source : List Char) :
    HoldsEachLine r source (r.course host visited source) (r.resolveWith host visited source)
      (r.recording.resolveWith (host, []) visited source) := by
  obtain ⟨text, hunfolds, htext⟩ := r.exists_unfolds host visited source
  have hcovers := r.covers_course host visited source
  have hcontents : contents (r.resolveWith host visited source).text =
      ((r.course host visited source).filter Entry.isOutput).map Entry.stripped := by
    rw [htext, contents_trim]
    exact hunfolds.contents_eq fun _ hline ↦ not_mem_of_mem_lines hline
  refine ⟨hcovers, ?_, fun e he token hfetched ↦ ?_,
    (opened_sublist_fetched _).nodup hunfolds.visits.nodup, hcontents, ?_,
    fun _ _ ↦ hcovers.map_output_eq⟩
  · rw [r.resolveWith_recording]
    exact hunfolds.visits.fetched
  · obtain ⟨deeper, s, s', hsettles⟩ := hcovers.settled e he
    exact hsettles.exists_answer hfetched
  · rw [hcontents]
    exact hunfolds.perm_output

end ScriptSandbox.Include

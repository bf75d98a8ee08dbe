import ScriptSandbox.Proofs.Include.Catalogue
import ScriptSandbox.Proofs.Text.Trim

/-!
# Resolving a program in pieces

A program can be cut at a newline and resolved piece by piece, each piece with the tokens that the
pieces before it have visited: what is visited, dropped and fetched is what resolving the whole
gives, and so is the text, but for the blanks between the pieces.

Two facts make this true. What an expansion does never depends on what has been recorded before it
(`Unfolds.followedBy`), only on the tokens visited and on the state of the providers; so the second
piece does the same with a new record as after the first piece. And the course of lines that are put
together is put together from theirs (`Unfolds.exists_append`). As there is only one course, the
pieces' courses make up that of the whole. For the text it matters that every contribution of a line
ends with a newline (`Unfolds.eq_nil_or_concat`), so that a trimmed piece has one behind it that the
trim of the whole leaves alone.
-/

namespace ScriptSandbox.Include

open ScriptSandbox.Text

variable {σ : Type}

/-! ### Records that follow each other -/

namespace Trail

/-- A trail with the records of an earlier one before its own. -/
def followedBy (earlier t : Trail σ) : Trail σ where
  host := t.host
  visited := t.visited
  unresolved := earlier.unresolved ++ t.unresolved
  fetched := earlier.fetched ++ t.fetched
  events := earlier.events ++ t.events

/-- A trail goes on where a new one would start. -/
theorem followedBy_start (t : Trail σ) : t.followedBy (.start t.host t.visited) = t := by
  simp only [followedBy, start, List.append_nil]

theorem followedBy_drop (earlier t : Trail σ) (reference : String) (event : Event) :
    earlier.followedBy (t.drop reference event) = (earlier.followedBy t).drop reference event := by
  simp only [followedBy, drop, List.append_assoc]

theorem followedBy_visit (earlier t : Trail σ) (index : Nat) (token : String) (host : σ) :
    earlier.followedBy { t.visit index token with host := host } =
      { (earlier.followedBy t).visit index token with host := host } := by
  simp only [followedBy, visit, List.append_assoc]

end Trail

variable {providers : List (Provider σ)} {limit levels : Nat} {t t' t'' : Trail σ}
  {entries entries' : List Entry} {text text' : List Char}

/-- What becomes of a line does not depend on the records. -/
theorem Settles.followedBy {deeper : Bool} {line : List Char} {fate : Fate}
    (h : Settles providers limit deeper line t fate t') (earlier : Trail σ) :
    Settles providers limit deeper line (earlier.followedBy t) fate (earlier.followedBy t') := by
  cases h with
  | kept hline => exact .kept hline
  | unmatched hline hmatch =>
    rw [Trail.followedBy_drop]
    exact .unmatched hline hmatch
  | skipped hline hmatch hseen => exact .skipped hline hmatch hseen
  | tooDeep hline hmatch hnew hdeep =>
    rw [Trail.followedBy_drop]
    exact .tooDeep hline hmatch hnew hdeep
  | failed hline hmatch hnew hdeep hfetch =>
    rw [Trail.followedBy_drop, Trail.followedBy_visit]
    exact .failed hline hmatch hnew hdeep hfetch
  | expanded hline hmatch hnew hdeep hfetch =>
    rw [Trail.followedBy_visit]
    exact .expanded hline hmatch hnew hdeep hfetch

/-- **A course does not depend on the records** that it continues. -/
theorem Unfolds.followedBy {origin : Origin} {number : Nat} {ls : List (List Char)}
    (h : Unfolds providers limit levels origin number ls t entries text t') (earlier : Trail σ) :
    Unfolds providers limit levels origin number ls (earlier.followedBy t) entries text
      (earlier.followedBy t') := by
  induction h with
  | nil => exact .nil
  | passed hsettles hopened hrest ih => exact .passed (hsettles.followedBy earlier) hopened ih
  | expanded hsettles hinner hrest ihinner ihrest =>
    exact .expanded (hsettles.followedBy earlier) ihinner ihrest

/-! ### Courses put together -/

/-- Where the lines stand is written in the entries, and shows nowhere else. -/
theorem Unfolds.exists_moved {origin : Origin} {number : Nat} {ls : List (List Char)}
    (h : Unfolds providers limit levels origin number ls t entries text t') (origin' : Origin)
    (number' : Nat) :
    ∃ moved, Unfolds providers limit levels origin' number' ls t moved text t' := by
  induction h generalizing origin' number' with
  | nil => exact ⟨[], .nil⟩
  | passed hsettles hopened hrest ih =>
    obtain ⟨moved, hmoved⟩ := ih origin' (number' + 1)
    exact ⟨_, .passed hsettles hopened hmoved⟩
  | expanded hsettles hinner hrest ihinner ihrest =>
    obtain ⟨moved, hmoved⟩ := ihrest origin' (number' + 1)
    exact ⟨_, .expanded hsettles hinner hmoved⟩

/-- **The course of lines that are put together** is put together from theirs. -/
theorem Unfolds.exists_append {origin origin' : Origin} {number number' : Nat}
    {ls ms : List (List Char)}
    (h : Unfolds providers limit levels origin number ls t entries text t')
    (h' : Unfolds providers limit levels origin' number' ms t' entries' text' t'') :
    ∃ together, Unfolds providers limit levels origin number (ls ++ ms) t together
      (text ++ text') t'' := by
  induction h with
  | nil => exact h'.exists_moved _ _
  | passed hsettles hopened hrest ih =>
    obtain ⟨together, htogether⟩ := ih h'
    rw [List.append_assoc]
    exact ⟨_, .passed hsettles hopened htogether⟩
  | expanded hsettles hinner hrest ihinner ihrest =>
    obtain ⟨together, htogether⟩ := ihrest h'
    rw [List.append_assoc]
    exact ⟨_, .expanded hsettles hinner htogether⟩

/-- What lines contribute ends with a newline. -/
theorem Unfolds.eq_nil_or_concat {origin : Origin} {number : Nat} {ls : List (List Char)}
    (h : Unfolds providers limit levels origin number ls t entries text t') :
    text = [] ∨ ∃ before, text = before ++ ['\n'] := by
  induction h with
  | nil => exact .inl rfl
  | @passed _ _ _ line _ _ _ _ fate _ more _ _ _ ih =>
    rcases ih with rfl | ⟨before, rfl⟩
    · rw [List.append_nil]
      cases fate with
      | kept => exact .inr ⟨line, rfl⟩
      | _ => exact .inl rfl
    · exact .inr ⟨fate.contribution line ++ before, (List.append_assoc ..).symm⟩
  | @expanded _ _ _ _ _ _ _ _ _ _ _ _ _ text more _ _ _ _ ihmore =>
    rcases ihmore with rfl | ⟨before, rfl⟩
    · exact .inr ⟨trim text, rfl⟩
    · exact .inr ⟨trim text ++ '\n' :: before, by rw [List.append_assoc, List.cons_append]⟩

/-! ### The pieces and the whole -/

/-- What the resolutions of two pieces have to do with that of the whole. -/
structure InPieces (before after whole : Resolution σ) : Prop where
  /-- What the second piece leaves visited is visited. -/
  visited : whole.visited = after.visited
  /-- The references dropped are those of the pieces. -/
  unresolved : whole.unresolved = before.unresolved ++ after.unresolved
  /-- The tokens asked for are those of the pieces, and asked for in the same places. -/
  fetched : whole.trail.fetched = before.trail.fetched ++ after.trail.fetched
  /-- An observer is told the same. -/
  events : whole.trail.events = before.trail.events ++ after.trail.events
  /-- The providers are left in the same state. -/
  host : whole.trail.host = after.trail.host
  /-- A first piece that comes to nothing leaves the second. -/
  text_of_before_eq_nil : before.text = [] → whole.text = after.text
  /-- A second piece that comes to nothing leaves the first. -/
  text_of_after_eq_nil : after.text = [] → whole.text = before.text
  /-- Otherwise there are blanks between the pieces, with a newline among them. -/
  text : before.text ≠ [] → after.text ≠ [] →
    ∃ gap, Blank gap ∧ '\n' ∈ gap ∧ whole.text = before.text ++ gap ++ after.text

/-- **A program can be resolved in pieces**: for all providers, whatever state they have, all tokens
visited before, all nesting limits, and all texts on either side of the newline. The second piece is
resolved with the tokens that the first has visited, and with the providers as the first has left
them. -/
theorem Resolver.resolves_in_pieces (r : Resolver σ) (host : σ) (visited : Visited)
    (first second : List Char) :
    let before := r.resolveWith host visited first
    let after := r.resolveWith before.trail.host before.visited second
    InPieces before after (r.resolveWith host visited (first ++ '\n' :: second)) := by
  intro before after
  obtain ⟨text, hunfolds, htext⟩ := r.exists_unfolds host visited first
  obtain ⟨text', hunfolds', htext'⟩ :=
    r.exists_unfolds before.trail.host before.visited second
  obtain ⟨whole, hwhole, hwholetext⟩ := r.exists_unfolds host visited (first ++ '\n' :: second)
  -- The second piece does with the records of the first what it does without them.
  have hafter := hunfolds'.followedBy before.trail
  rw [Resolution.visited, Trail.followedBy_start] at hafter
  obtain ⟨together, htogether⟩ := hunfolds.exists_append hafter
  rw [← lines_append_newline] at htogether
  obtain ⟨-, rfl, htrail⟩ := hwhole.unique htogether
  exact
    { visited := (congrArg Trail.visited htrail :)
      unresolved := congrArg Trail.unresolved htrail
      fetched := congrArg Trail.fetched htrail
      events := congrArg Trail.events htrail
      host := (congrArg Trail.host htrail :)
      text_of_before_eq_nil := by
        intro hempty
        rw [hwholetext, trim_append_of_blank_left (blank_of_trim_eq_nil (htext ▸ hempty)), htext']
      text_of_after_eq_nil := by
        intro hempty
        rw [hwholetext, trim_append_of_blank_right _ (blank_of_trim_eq_nil (htext' ▸ hempty)),
          htext]
      text := by
        intro hbefore hafter
        rw [htext] at hbefore
        rw [htext'] at hafter
        obtain ⟨lead, tail, lead', htail, hlead', hcut, htrim⟩ := exists_trim_append hbefore hafter
        have hnewline : '\n' ∈ tail := by
          -- The first piece ends with a newline, which its trim cuts off.
          rcases hunfolds.eq_nil_or_concat with rfl | ⟨start, rfl⟩
          · exact absurd rfl hbefore
          · exact mem_tail_of_concat rfl (tight_trim _) hbefore hcut
        refine ⟨tail ++ lead', blank_append_iff.2 ⟨htail, hlead'⟩,
          List.mem_append_left _ hnewline, ?_⟩
        rw [hwholetext, htrim, htext, htext'] }

end ScriptSandbox.Include

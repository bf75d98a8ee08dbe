import ScriptSandbox.Proofs.Include.Course
import ScriptSandbox.Proofs.Text.LineEnding

/-!
# Line endings do not change what is included

Carriage returns after the lines of a source, or of the fragments that the providers produce, are
seen by nothing but the text: the same references are asked about, and the same tokens recognised,
fetched, skipped and dropped. A reference does not hold the returns at the end of its line
(`reference?_eq_of_ended`), so each line settles as before, into the same trail
(`Settles.exists_with_returns`), and the fragment expanded in its place differs in returns alone. By
induction on the course so does the text (`Unfolds.exists_with_returns`), however the returns are
spread over the lines and the fragments.
-/

namespace ScriptSandbox.Include

open ScriptSandbox.Text

variable {σ : Type}

/-! ### Providers -/

/-- Answers of two providers, of which the second puts carriage returns after lines of the text. -/
inductive AnswersAlike : Except HostError (List Char) × σ → Except HostError (List Char) × σ → Prop
  | error (e : HostError) (host : σ) : AnswersAlike (.error e, host) (.error e, host)
  | ok {fragment fragment' : List Char} (h : WithReturns fragment fragment') (host : σ) :
      AnswersAlike (.ok fragment, host) (.ok fragment', host)

/-- The second provider recognises what the first does, and gives its fragments with carriage
returns after some lines. -/
structure Provider.EndsAlike (p p' : Provider σ) : Prop where
  /-- They recognise the same. -/
  find : p'.find = p.find
  /-- They answer alike. -/
  fetch : ∀ token host, AnswersAlike (p.fetch token host) (p'.fetch token host)

variable {providers providers' : List (Provider σ)} {limit : Nat}

/-- A reference that no provider recognises is not recognised by the others. -/
theorem firstMatch_eq_none_of_endsAlike (h : List.Forall₂ Provider.EndsAlike providers providers')
    {index : Nat} {reference : String} {host host' : σ}
    (hmatch : firstMatch index reference providers host = (none, host')) :
    firstMatch index reference providers' host = (none, host') := by
  induction h generalizing index host with
  | nil => exact hmatch
  | @cons p p' rest rest' hp hrest ih =>
    rcases hfind : p.find reference host with ⟨token, host''⟩
    have hfind' := (congrFun (congrFun hp.find reference) host).trans hfind
    cases token with
    | none =>
      rw [firstMatch_cons_of_none hfind] at hmatch
      rw [firstMatch_cons_of_none hfind']
      exact ih hmatch
    | some token =>
      rw [firstMatch_cons_of_some hfind] at hmatch
      cases hmatch

/-- A reference is recognised by the provider in the same place. -/
theorem exists_firstMatch_of_endsAlike (h : List.Forall₂ Provider.EndsAlike providers providers')
    {index : Nat} {reference : String} {host host' : σ} {found : Match σ}
    (hmatch : firstMatch index reference providers host = (some found, host')) :
    ∃ p', found.provider.EndsAlike p' ∧
      firstMatch index reference providers' host =
        (some ⟨found.index, p', found.token⟩, host') := by
  induction h generalizing index host with
  | nil => cases hmatch
  | @cons p p' rest rest' hp hrest ih =>
    rcases hfind : p.find reference host with ⟨token, host''⟩
    have hfind' := (congrFun (congrFun hp.find reference) host).trans hfind
    cases token with
    | none =>
      rw [firstMatch_cons_of_none hfind] at hmatch
      rw [firstMatch_cons_of_none hfind']
      exact ih hmatch
    | some token =>
      rw [firstMatch_cons_of_some hfind] at hmatch
      cases hmatch
      exact ⟨p', hp, firstMatch_cons_of_some hfind'⟩

/-! ### Lines -/

theorem reference?_concat_return (line : List Char) :
    reference? (line ++ ['\r']) = reference? line := by
  cases hlead : dropLead? directive.toList line with
  | some rest =>
    obtain rfl := dropLead?_eq_some_iff.1 hlead
    have hmore : dropLead? directive.toList (directive.toList ++ rest ++ ['\r']) =
        some (rest ++ ['\r']) := dropLead?_eq_some_iff.2 (List.append_assoc ..)
    rw [reference?, reference?, hlead, hmore, Option.map_some, Option.map_some,
      dropEndWhile_concat_return]
  | none =>
    have hnone : dropLead? directive.toList (line ++ ['\r']) = none := by
      refine Option.eq_none_iff_forall_ne_some.2 fun rest hrest ↦ ?_
      have hline := dropLead?_eq_some_iff.1 hrest
      rcases List.eq_nil_or_concat rest with rfl | ⟨rest, c, rfl⟩
      -- The directive itself does not end with a carriage return.
      · have hlast := congrArg List.getLast? hline
        rw [List.getLast?_concat, List.append_nil] at hlast
        exact absurd hlast (by decide)
      · rw [List.concat_eq_append, ← List.append_assoc] at hline
        have hwhole := dropLead?_eq_some_iff.2 (List.append_inj_left' hline rfl)
        rw [hlead] at hwhole
        cases hwhole
    rw [reference?, reference?, hlead, hnone]

/-- **A reference does not hold the carriage returns of its line.** -/
theorem reference?_eq_of_ended {line line' : List Char} (h : Ended line line') :
    reference? line' = reference? line := by
  obtain ⟨n, rfl⟩ := h
  induction n with
  | zero => rw [List.replicate_zero, List.append_nil]
  | succ n ih =>
    rw [List.replicate_succ', ← List.append_assoc, reference?_concat_return, ih]

/-- What becomes of a line and of the line with carriage returns. -/
inductive FatesAlike : Fate → Fate → Prop
  | passed {fate : Fate} (hopened : fate.opened? = none) : FatesAlike fate fate
  | expanded (token : String) {fragment fragment' : List Char}
      (h : WithReturns fragment fragment') :
      FatesAlike (.expanded token fragment) (.expanded token fragment')

/-- **A line with carriage returns settles like the line**, and leaves the same trail. -/
theorem Settles.exists_with_returns
    (hproviders : List.Forall₂ Provider.EndsAlike providers providers') {deeper : Bool}
    {line line' : List Char} {t t' : Trail σ} {fate : Fate}
    (h : Settles providers limit deeper line t fate t') (hline : Ended line line') :
    ∃ fate', Settles providers' limit deeper line' t fate' t' ∧ FatesAlike fate fate' := by
  have hreference := reference?_eq_of_ended hline
  cases h with
  | kept hordinary => exact ⟨_, .kept (hreference.trans hordinary), .passed rfl⟩
  | unmatched hdirective hmatch =>
    exact ⟨_, .unmatched (hreference.trans hdirective)
      (firstMatch_eq_none_of_endsAlike hproviders hmatch), .passed rfl⟩
  | @skipped reference found host hdirective hmatch hseen =>
    obtain ⟨p', -, hmatch'⟩ := exists_firstMatch_of_endsAlike hproviders hmatch
    exact ⟨_, .skipped (hreference.trans hdirective) hmatch' hseen, .passed rfl⟩
  | @tooDeep reference found host hdirective hmatch hnew hdeep =>
    obtain ⟨p', -, hmatch'⟩ := exists_firstMatch_of_endsAlike hproviders hmatch
    exact ⟨_, .tooDeep (hreference.trans hdirective) hmatch' hnew hdeep, .passed rfl⟩
  | @failed reference found host host' e hdirective hmatch hnew hdeep hfetch =>
    obtain ⟨p', hp', hmatch'⟩ := exists_firstMatch_of_endsAlike hproviders hmatch
    have hanswer := hp'.fetch found.token host
    rw [hfetch] at hanswer
    generalize hfetch' : p'.fetch found.token host = answer at hanswer
    cases hanswer with
    | error =>
      have hreference' := hreference.trans hdirective
      exact ⟨_, (Settles.failed hreference' hmatch' hnew hdeep hfetch' :), .passed rfl⟩
  | @expanded reference found host host' fragment hdirective hmatch hnew hdeep hfetch =>
    obtain ⟨p', hp', hmatch'⟩ := exists_firstMatch_of_endsAlike hproviders hmatch
    have hanswer := hp'.fetch found.token host
    rw [hfetch] at hanswer
    generalize hfetch' : p'.fetch found.token host = answer at hanswer
    cases hanswer with
    | ok hfragment =>
      have hreference' := hreference.trans hdirective
      exact ⟨_, (Settles.expanded hreference' hmatch' hnew hdeep hfetch' :),
        .expanded _ hfragment⟩

/-! ### Courses -/

/-- **Lines with carriage returns unfold like the lines**: they leave the same trail, and give the
text with carriage returns after some of its lines. -/
theorem Unfolds.exists_with_returns
    (hproviders : List.Forall₂ Provider.EndsAlike providers providers') {levels number : Nat}
    {origin : Origin} {ls ls' : List (List Char)} {t t' : Trail σ} {entries : List Entry}
    {text : List Char}
    (h : Unfolds providers limit levels origin number ls t entries text t')
    (hls : List.Forall₂ Ended ls ls') :
    ∃ entries' text', Unfolds providers' limit levels origin number ls' t entries' text' t' ∧
      AddsReturns text text' := by
  induction h generalizing ls' with
  | nil =>
    cases hls with
    | nil => exact ⟨_, _, .nil, .refl⟩
  | passed hsettles hopened hrest ih =>
    cases hls with
    | cons hline hls =>
      obtain ⟨entries', more', hrest', hmore⟩ := ih hls
      obtain ⟨fate', hsettles', hfates⟩ := hsettles.exists_with_returns hproviders hline
      cases hfates with
      | expanded => cases hopened
      | passed =>
        refine ⟨_, _, .passed hsettles' hopened hrest', ?_⟩
        cases hsettles with
        | kept =>
          rw [Fate.contribution, Fate.contribution, List.append_assoc, List.append_assoc]
          exact hline.addsReturns.append_newline hmore
        | unmatched | skipped | tooDeep | failed => exact hmore
        | expanded => cases hopened
  | expanded hsettles hinner hrest ihinner ihrest =>
    cases hls with
    | cons hline hls =>
      obtain ⟨fate', hsettles', hfates⟩ := hsettles.exists_with_returns hproviders hline
      cases hfates with
      | passed hopened => cases hopened
      | expanded _ hfragment =>
        obtain ⟨inner', text', hinner', htext⟩ := ihinner hfragment
        obtain ⟨entries', more', hrest', hmore⟩ := ihrest hls
        exact ⟨_, _, .expanded hsettles' hinner' hrest', htext.trim.append_newline hmore⟩

/-- **Line endings do not change what is included**, for all providers, whatever state they have and
whether or not they fail, all tokens visited before, all nesting limits, and all sources. With
carriage returns after any lines of the source and of the fragments, a resolution leaves the same
trail: the same tokens are visited, the same references are dropped, and the providers are in the
same state. Providers that keep a record of what they are asked to fetch have the same record. The
text has the same lines, but for the carriage returns at their ends. -/
theorem Resolver.resolves_alike_with_returns
    (hproviders : List.Forall₂ Provider.EndsAlike providers providers') {source source' : List Char}
    (hsource : WithReturns source source') (maxDepth : Nat) (host : σ) (visited : Visited) :
    let r : Resolver σ := ⟨providers, maxDepth⟩
    let r' : Resolver σ := ⟨providers', maxDepth⟩
    (r'.resolveWith host visited source').trail = (r.resolveWith host visited source).trail ∧
      (r'.recording.resolveWith (host, []) visited source').trail =
        (r.recording.resolveWith (host, []) visited source).trail ∧
      bareLines (r'.resolveWith host visited source').text =
        bareLines (r.resolveWith host visited source).text := by
  intro r r'
  obtain ⟨text, hunfolds, htext⟩ := r.exists_unfolds host visited source
  obtain ⟨text', hunfolds', htext'⟩ := r'.exists_unfolds host visited source'
  obtain ⟨entries, together, htogether, hreturns⟩ := hunfolds.exists_with_returns hproviders hsource
  obtain ⟨-, rfl, htrail⟩ := hunfolds'.unique htogether
  refine ⟨htrail, ?_, ?_⟩
  · rw [r.resolveWith_recording, r'.resolveWith_recording, htrail]
  · rw [htext, htext']
    exact hreturns.trim.bareLines_eq

/-- A provider of two fragments, of which `a` includes `b`, with an ending for all but the last of
their lines. -/
def endedBy (ending : String) : Provider Unit :=
  .ofFunctions (fun reference ↦ some reference) fun token ↦
    if token = "a" then .ok ("let a = 1;" ++ ending ++ "#include b" ++ ending ++ ending).toList
    else if token = "b" then .ok "\n  let b = 2;".toList
    else .error (.sourceNotFound token)

/-- Fragments with other line endings, and a source in which endings of three kinds are mixed. -/
theorem Resolver.resolves_alike_with_returns_mixed :
    let source := "#include c\n#include a\nlet  x = 3;\n\n".toList
    let source' := "#include c\r\n#include a\nlet  x = 3;\r\r\n\r\n".toList
    let r : Resolver Unit := ⟨[endedBy "\n"], 8⟩
    let r' : Resolver Unit := ⟨[endedBy "\r\n"], 8⟩
    let resolution := r.resolveWith () .empty source
    let resolution' := r'.resolveWith () .empty source'
    let recorded := r.recording.resolveWith ((), []) .empty source
    let recorded' := r'.recording.resolveWith ((), []) .empty source'
    List.Forall₂ Provider.EndsAlike [endedBy "\n"] [endedBy "\r\n"] ∧
      WithReturns source source' ∧ resolution'.trail = resolution.trail ∧
      recorded'.trail = recorded.trail ∧ recorded.trail.host.2 = ["c", "a", "b"] ∧
      resolution'.text = "let a = 1;\r\nlet b = 2;\nlet  x = 3;".toList ∧
      bareLines resolution'.text = bareLines resolution.text := by
  intro source source' r r' resolution resolution' recorded recorded'
  have halike : (endedBy "\n").EndsAlike (endedBy "\r\n") := by
    refine ⟨rfl, fun token host ↦ ?_⟩
    by_cases ha : token = "a"
    · rw [ha]
      exact .ok (by decide +kernel) ()
    by_cases hb : token = "b"
    · rw [hb]
      exact .ok (by decide +kernel) ()
    · simp only [endedBy, Provider.ofFunctions, if_neg ha, if_neg hb]
      exact .error _ _
  have hproviders : List.Forall₂ Provider.EndsAlike [endedBy "\n"] [endedBy "\r\n"] :=
    .cons halike .nil
  have hsource : WithReturns source source' := by decide +kernel
  have hasked : recorded.trail.host.2 = ["c", "a", "b"] := by decide +kernel
  have htext : resolution'.text = "let a = 1;\r\nlet b = 2;\nlet  x = 3;".toList := by
    decide +kernel
  obtain ⟨htrail, hrecord, hlines⟩ :=
    Resolver.resolves_alike_with_returns hproviders hsource 8 () .empty
  exact ⟨hproviders, hsource, htrail, hrecord, hasked, htext, hlines⟩

end ScriptSandbox.Include

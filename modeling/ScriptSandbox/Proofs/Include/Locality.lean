import ScriptSandbox.Include.Source
import ScriptSandbox.Proofs.Include.Catalogue

/-!
# What a resolution depends on

A resolution with catalogues depends on nothing but the tokens of the first matches of the
references it meets, and on what the catalogues selected give for the tokens it fetches. Which
references it meets, and what it fetches, is itself a result of the resolution; so the other
catalogues are compared along the course of the one resolution (`Serves`), and that the other
resolution takes the same course is what has to be proved.

A line settles the same way with both (`Settles.exists_serves`), and it leaves trails that are the
same but for the positions of the catalogues asked (`Trail.SameButPlaces`); by induction on the
course so do all of them (`Unfolds.exists_serves`). A catalogue that is never the first to recognise
a reference can be put in or taken out (`serves_insert`, `serves_remove`), and a source can be given
another fragment for a token that is not fetched (`serves_replace`).
-/

namespace ScriptSandbox.Include

open ScriptSandbox.Text

variable {σ : Type}

namespace Catalogue

/-- The token of the first match of a reference. -/
def token? (catalogues : List Catalogue) (reference : String) : Option String :=
  (first? reference catalogues).map Prod.snd

/-- What the first catalogue that recognises part of a reference gives for that part. -/
def answer? (catalogues : List Catalogue) (reference : String) :
    Option (Except HostError (List Char)) :=
  (first? reference catalogues).map fun found ↦ found.1.fetch found.2

end Catalogue

/-- The references that a course meets, in order. -/
def met (course : List Entry) : List String := course.filterMap fun e ↦ reference? e.line

/-- Other catalogues are as good as the ones that a course was taken with: for every reference met
they have the same first token, or none as well, and wherever a token was fetched the catalogues
selected give the same. -/
structure Serves (catalogues catalogues' : List Catalogue) (course : List Entry) : Prop where
  /-- The first tokens are the same. -/
  token : ∀ reference ∈ met course,
    Catalogue.token? catalogues' reference = Catalogue.token? catalogues reference
  /-- What is fetched is the same. -/
  answer : ∀ e ∈ course, e.fetched? ≠ none → ∀ reference, reference? e.line = some reference →
    Catalogue.answer? catalogues' reference = Catalogue.answer? catalogues reference

/-- Two trails are the same but for the positions of the providers that were asked. -/
structure Trail.SameButPlaces (t t' : Trail σ) : Prop where
  /-- All but the fetches is the same. -/
  rest : t' = { t with fetched := t'.fetched }
  /-- The same tokens were fetched, in the same order. -/
  tokens : t'.fetched.map Prod.snd = t.fetched.map Prod.snd

/-! ### First matches -/

namespace Catalogue

variable {catalogues catalogues' : List Catalogue} {reference token : String} {host host' : σ}

theorem first?_append (reference : String) (catalogues more : List Catalogue) :
    first? reference (catalogues ++ more) =
      (first? reference catalogues).or (first? reference more) :=
  List.findSome?_append

/-- Catalogues have no state that a look for a match could change. -/
theorem snd_firstMatch (index : Nat) (reference : String) (catalogues : List Catalogue)
    (host : σ) : (firstMatch index reference (providers σ catalogues) host).2 = host := by
  induction catalogues generalizing index with
  | nil => rfl
  | cons c rest ih =>
    rw [providers, List.map_cons, firstMatch_provider_cons]
    cases c.find reference with
    | none => exact ih (index + 1)
    | some token => rfl

/-- A look for a match finds the first token. -/
theorem eq_of_firstMatch {found : Option (Match σ)}
    (h : firstMatch 0 reference (providers σ catalogues) host = (found, host')) :
    host' = host ∧ found.map Match.token = token? catalogues reference := by
  have hhost := snd_firstMatch 0 reference catalogues host
  have hmap := congrArg (Option.map Prod.snd) (firstMatch_catalogues 0 reference catalogues host)
  rw [h] at hhost hmap
  rw [Option.map_map, Option.map_map] at hmap
  exact ⟨hhost, hmap⟩

theorem firstMatch_of_token?_eq_none (h : token? catalogues reference = none) (host : σ) :
    firstMatch 0 reference (providers σ catalogues) host = (none, host) := by
  rcases hmatch : firstMatch 0 reference (providers σ catalogues) host with ⟨found, host'⟩
  obtain ⟨rfl, htoken⟩ := eq_of_firstMatch hmatch
  rw [h, Option.map_eq_none_iff] at htoken
  rw [htoken]

theorem exists_firstMatch_of_token? (h : token? catalogues reference = some token) (host : σ) :
    ∃ (c : Catalogue) (index : Nat), first? reference catalogues = some (c, token) ∧
      firstMatch 0 reference (providers σ catalogues) host =
        (some ⟨index, c.provider, token⟩, host) := by
  rcases hmatch : firstMatch 0 reference (providers σ catalogues) host with ⟨found, host'⟩
  obtain ⟨rfl, htoken⟩ := eq_of_firstMatch hmatch
  obtain ⟨⟨index, provider, token⟩, rfl, rfl⟩ := Option.map_eq_some_iff.1 (htoken.trans h)
  obtain ⟨c, hfirst, rfl⟩ := exists_first?_of_firstMatch hmatch
  exact ⟨c, index, hfirst, rfl⟩

/-- The catalogue selected among others gives what the one that was found gives, if the tokens and
the answers are the same. -/
theorem exists_firstMatch_of_answer? {found : Match σ}
    (h : firstMatch 0 reference (providers σ catalogues) host = (some found, host'))
    (htoken : token? catalogues' reference = token? catalogues reference)
    (hanswer : answer? catalogues' reference = answer? catalogues reference) :
    ∃ (c : Catalogue) (index : Nat), firstMatch 0 reference (providers σ catalogues') host =
        (some ⟨index, c.provider, found.token⟩, host) ∧
      c.provider.fetch found.token host = found.provider.fetch found.token host := by
  obtain ⟨-, hfound⟩ := eq_of_firstMatch h
  obtain ⟨c, hfirst, hprovider⟩ := exists_first?_of_firstMatch h
  obtain ⟨c', index, hfirst', hmatch'⟩ :=
    exists_firstMatch_of_token? (htoken.trans hfound.symm) host
  rw [answer?, answer?, hfirst, hfirst'] at hanswer
  have hfetch : c'.fetch found.token = c.fetch found.token := Option.some.inj hanswer
  refine ⟨c', index, hmatch', ?_⟩
  rw [hprovider]
  show (c'.fetch found.token, host) = (c.fetch found.token, host)
  rw [hfetch]

end Catalogue

/-! ### Lines and courses -/

variable {catalogues catalogues' : List Catalogue} {limit levels number : Nat} {origin : Origin}
  {course entries : List Entry} {t t' s : Trail σ}

theorem mem_met {e : Entry} {reference : String} (he : e ∈ course)
    (hline : reference? e.line = some reference) : reference ∈ met course :=
  List.mem_filterMap.2 ⟨e, he, hline⟩

theorem Serves.mono (h : Serves catalogues catalogues' course) (hsub : entries ⊆ course) :
    Serves catalogues catalogues' entries where
  token reference hmem := by
    obtain ⟨e, he, hline⟩ := List.mem_filterMap.1 hmem
    exact h.token reference (mem_met (hsub he) hline)
  answer e he := h.answer e (hsub he)

theorem Serves.head {e : Entry} (h : Serves catalogues catalogues' (e :: entries)) :
    Serves catalogues catalogues' [e] :=
  h.mono (List.cons_subset_cons e (List.nil_subset entries))

theorem Serves.tail {e : Entry} (h : Serves catalogues catalogues' (e :: entries)) :
    Serves catalogues catalogues' entries :=
  h.mono (List.subset_cons_self e entries)

theorem Trail.SameButPlaces.exists_eq (h : t.SameButPlaces t') :
    ∃ fetched, t' = { t with fetched := fetched } ∧
      fetched.map Prod.snd = t.fetched.map Prod.snd :=
  ⟨t'.fetched, h.rest, h.tokens⟩

/-- **A line settles the same way with the other catalogues.** -/
theorem Settles.exists_serves {deeper : Bool} {line : List Char} {fate : Fate}
    (h : Settles (Catalogue.providers σ catalogues) limit deeper line t fate t')
    (hserves : Serves catalogues catalogues' [⟨origin, number, line, fate⟩])
    (hsame : t.SameButPlaces s) :
    ∃ s', Settles (Catalogue.providers σ catalogues') limit deeper line s fate s' ∧
      t'.SameButPlaces s' := by
  obtain ⟨fetched, rfl, htokens⟩ := hsame.exists_eq
  let moved : Trail σ := { t with fetched := fetched }
  have htoken : ∀ reference, reference? line = some reference →
      Catalogue.token? catalogues' reference = Catalogue.token? catalogues reference :=
    fun reference hline ↦ hserves.token reference (mem_met List.mem_cons_self hline)
  have hanswer := hserves.answer _ List.mem_cons_self
  have hvisited (place place' : Nat) (token : String) :
      (fetched ++ [(place', token)]).map Prod.snd =
        (t.fetched ++ [(place, token)]).map Prod.snd := by
    rw [List.map_append, List.map_append, htokens, List.map_singleton, List.map_singleton]
  cases h with
  | kept hline => exact ⟨_, .kept hline, rfl, htokens⟩
  | unmatched hline hmatch =>
    obtain ⟨rfl, hnone⟩ := Catalogue.eq_of_firstMatch hmatch
    have hmatch' :=
      Catalogue.firstMatch_of_token?_eq_none ((htoken _ hline).trans hnone.symm) t.host
    exact ⟨_, .unmatched hline hmatch', rfl, htokens⟩
  | skipped hline hmatch hseen =>
    obtain ⟨rfl, hsome⟩ := Catalogue.eq_of_firstMatch hmatch
    obtain ⟨c, index, -, hmatch'⟩ :=
      Catalogue.exists_firstMatch_of_token? ((htoken _ hline).trans hsome.symm) t.host
    exact ⟨_, (Settles.skipped (t := moved) hline hmatch' hseen :), rfl, htokens⟩
  | tooDeep hline hmatch hnew hdeep =>
    obtain ⟨rfl, hsome⟩ := Catalogue.eq_of_firstMatch hmatch
    obtain ⟨c, index, -, hmatch'⟩ :=
      Catalogue.exists_firstMatch_of_token? ((htoken _ hline).trans hsome.symm) t.host
    exact ⟨_, (Settles.tooDeep (t := moved) hline hmatch' hnew hdeep :), rfl, htokens⟩
  | failed hline hmatch hnew hdeep hfetch =>
    obtain ⟨rfl, -⟩ := Catalogue.eq_of_firstMatch hmatch
    obtain ⟨c, index, hmatch', hfetch'⟩ := Catalogue.exists_firstMatch_of_answer? hmatch
      (htoken _ hline) (hanswer (Option.some_ne_none _) _ hline)
    exact ⟨_, (Settles.failed (t := moved) hline hmatch' hnew hdeep (hfetch'.trans hfetch) :), rfl,
      hvisited _ _ _⟩
  | expanded hline hmatch hnew hdeep hfetch =>
    obtain ⟨rfl, -⟩ := Catalogue.eq_of_firstMatch hmatch
    obtain ⟨c, index, hmatch', hfetch'⟩ := Catalogue.exists_firstMatch_of_answer? hmatch
      (htoken _ hline) (hanswer (Option.some_ne_none _) _ hline)
    exact ⟨_, (Settles.expanded (t := moved) hline hmatch' hnew hdeep (hfetch'.trans hfetch) :),
      rfl, hvisited _ _ _⟩

/-- **Lines unfold the same way with the other catalogues**: into the same course and the same text,
and they leave the same trail but for the places. -/
theorem Unfolds.exists_serves {ls : List (List Char)} {text : List Char}
    (h : Unfolds (Catalogue.providers σ catalogues) limit levels origin number ls t entries text t')
    (hserves : Serves catalogues catalogues' entries) (hsame : t.SameButPlaces s) :
    ∃ s', Unfolds (Catalogue.providers σ catalogues') limit levels origin number ls s entries text
        s' ∧ t'.SameButPlaces s' := by
  induction h generalizing s with
  | nil => exact ⟨s, .nil, hsame⟩
  | passed hsettles hopened hrest ih =>
    obtain ⟨settled, hsettles', hline⟩ := hsettles.exists_serves hserves.head hsame
    obtain ⟨s', hrest', hlines⟩ := ih hserves.tail hline
    exact ⟨s', .passed hsettles' hopened hrest', hlines⟩
  | expanded hsettles hinner hrest ihinner ihrest =>
    obtain ⟨settled, hsettles', hline⟩ := hsettles.exists_serves hserves.head hsame
    obtain ⟨left, hinner', hfragment⟩ :=
      ihinner (hserves.tail.mono (List.subset_append_left _ _)) hline
    obtain ⟨s', hrest', hlines⟩ :=
      ihrest (hserves.tail.mono (List.subset_append_right _ _)) hfragment
    exact ⟨s', .expanded hsettles' hinner' hrest', hlines⟩

/-! ### Resolutions -/

/-- Two resolvers resolve a source alike, in whatever places the providers stand that they ask. -/
structure Resolver.AlikeOn (r r' : Resolver σ) (host : σ) (seen : Visited)
    (source : List Char) : Prop where
  /-- The text is the same. -/
  text : (r'.resolveWith host seen source).text = (r.resolveWith host seen source).text
  /-- The same tokens are visited. -/
  visited : (r'.resolveWith host seen source).visited = (r.resolveWith host seen source).visited
  /-- The same references are dropped, in the same order. -/
  unresolved :
    (r'.resolveWith host seen source).unresolved = (r.resolveWith host seen source).unresolved
  /-- The same tokens are fetched, in the same order. -/
  fetched : (r'.resolveWith host seen source).trail.fetched.map Prod.snd =
    (r.resolveWith host seen source).trail.fetched.map Prod.snd
  /-- Providers that keep a record of what they are asked to fetch have the same record. -/
  recorded : (r'.recording.resolveWith (host, []) seen source).trail.host =
    (r.recording.resolveWith (host, []) seen source).trail.host
  /-- An observer is told the same. -/
  events : (r'.resolveWith host seen source).trail.events =
    (r.resolveWith host seen source).trail.events

variable {maxDepth : Nat} {host : σ} {seen : Visited} {source : List Char}

theorem Serves.alikeOn (h : Serves catalogues catalogues'
      ((Catalogue.resolver catalogues maxDepth).course host seen source)) :
    Resolver.AlikeOn (Catalogue.resolver catalogues maxDepth)
      (Catalogue.resolver catalogues' maxDepth) host seen source := by
  obtain ⟨text, hunfolds, htext⟩ :=
    (Catalogue.resolver catalogues maxDepth).exists_unfolds host seen source
  obtain ⟨text', hunfolds', htext'⟩ :=
    (Catalogue.resolver catalogues' maxDepth).exists_unfolds host seen source
  obtain ⟨s, hserved, hsame⟩ := hunfolds.exists_serves h ⟨rfl, rfl⟩
  obtain ⟨-, rfl, rfl⟩ := hunfolds'.unique hserved
  have hhost := congrArg Trail.host hsame.rest
  exact
    { text := htext'.trans htext.symm
      visited := (congrArg Trail.visited hsame.rest :)
      unresolved := (congrArg Trail.unresolved hsame.rest :)
      fetched := hsame.tokens
      recorded := by
        rw [Resolver.resolveWith_recording, Resolver.resolveWith_recording]
        exact Prod.ext hhost hsame.tokens
      events := (congrArg Trail.events hsame.rest :) }

/-! ### Other catalogues -/

/-- A catalogue that comes after some others is never the first to recognise one of the references:
one of those before it does, or it does not itself. -/
def NeverFirst (before : List Catalogue) (c : Catalogue) (references : List String) : Prop :=
  ∀ reference ∈ references,
    Catalogue.token? before reference ≠ none ∨ c.find reference = none

theorem serves_of_first?_eq (h : ∀ reference ∈ met course,
      Catalogue.first? reference catalogues' = Catalogue.first? reference catalogues) :
    Serves catalogues catalogues' course where
  token reference hmem := by rw [Catalogue.token?, Catalogue.token?, h reference hmem]
  answer e he _ reference hline := by
    rw [Catalogue.answer?, Catalogue.answer?, h reference (mem_met he hline)]

/-- A catalogue that is not the first to recognise a reference might as well not be there. -/
theorem Catalogue.first?_insert {before : List Catalogue} {c : Catalogue} {reference : String}
    (h : token? before reference ≠ none ∨ c.find reference = none) (after : List Catalogue) :
    first? reference (before ++ c :: after) = first? reference (before ++ after) := by
  rw [first?_append, first?_append]
  rcases h with hbefore | hnot
  · obtain ⟨token, htoken⟩ := Option.ne_none_iff_exists'.1 hbefore
    obtain ⟨found, hfound, -⟩ := Option.map_eq_some_iff.1 htoken
    rw [hfound, Option.some_or, Option.some_or]
  · rw [first?_cons, hnot]

theorem serves_insert {before : List Catalogue} {c : Catalogue}
    (h : NeverFirst before c (met course)) (after : List Catalogue) :
    Serves (before ++ after) (before ++ c :: after) course :=
  serves_of_first?_eq fun reference hmem ↦ Catalogue.first?_insert (h reference hmem) after

theorem serves_remove {before : List Catalogue} {c : Catalogue}
    (h : NeverFirst before c (met course)) (after : List Catalogue) :
    Serves (before ++ c :: after) (before ++ after) course :=
  serves_of_first?_eq fun reference hmem ↦ (Catalogue.first?_insert (h reference hmem) after).symm

section Replace

variable {before after : List Catalogue} {c c' : Catalogue} {reference token : String}

/-- A catalogue that recognises the same can take the place of another in looking for a token. -/
theorem Catalogue.token?_replace (hfind : c'.find = c.find) (reference : String) :
    token? (before ++ c' :: after) reference = token? (before ++ c :: after) reference := by
  rw [token?, token?, first?_append, first?_append, first?_cons, first?_cons, hfind]
  cases first? reference before with
  | some found => rfl
  | none => cases c.find reference <;> rfl

/-- If it gives the same for the token, too, it can take the place of the other altogether. -/
theorem Catalogue.answer?_replace (hfind : c'.find = c.find)
    (hfetch : c'.fetch token = c.fetch token)
    (htoken : token? (before ++ c :: after) reference = some token) :
    answer? (before ++ c' :: after) reference = answer? (before ++ c :: after) reference := by
  rw [token?, first?_append, first?_cons] at htoken
  rw [answer?, answer?, first?_append, first?_append, first?_cons, first?_cons, hfind]
  cases hbefore : first? reference before with
  | some found => rfl
  | none =>
    rw [hbefore] at htoken
    cases hc : c.find reference with
    | none => rfl
    | some other =>
      rw [hc] at htoken
      obtain rfl : other = token := Option.some.inj htoken
      exact congrArg some hfetch

/-- What a catalogue gives for tokens that are not fetched does not matter. -/
theorem serves_replace {limit : Nat}
    (hcovers : Covers (Catalogue.providers σ (before ++ c :: after)) limit source course)
    (hfind : c'.find = c.find)
    (hfetch : ∀ e ∈ course, ∀ token, e.fetched? = some token → c'.fetch token = c.fetch token) :
    Serves (before ++ c :: after) (before ++ c' :: after) course where
  token reference _ := Catalogue.token?_replace hfind reference
  answer e he hfetched reference hline := by
    obtain ⟨token, htoken⟩ := Option.ne_none_iff_exists'.1 hfetched
    obtain ⟨deeper, s, s', hsettles⟩ := hcovers.settled e he
    have hasked := hsettles.token?_eq hline
    rw [Fate.token?_of_fetched? htoken] at hasked
    exact Catalogue.answer?_replace hfind (hfetch e he token htoken) hasked.symm

end Replace

/-- A source as a catalogue. -/
def Source.catalogue (s : Source) : Catalogue where
  find reference := s.find reference
  fetch token := s.fetch token

theorem Source.find_add (s : Source) (token text reference : String) :
    (s.add token text).find reference = s.find reference := by
  cases s <;> rfl

theorem Source.fetch_add {token other : String} (h : other ≠ token) (s : Source) (text : String) :
    (s.add token text).fetch other = s.fetch other := by
  cases s with
  | memory p fragments => simp only [add, fetch, NameMap.get?_insert, if_neg h]
  | computed | literal => rfl

/-! ### Locality -/

/-- **A resolution depends on the first matches of what it meets, and on what it fetches**, and on
nothing else, for all catalogues, all tokens visited before, all nesting limits, and all sources.
Other catalogues that serve its course give the same resolution. So a catalogue that is never the
first to recognise a reference met can be put in or taken out anywhere, and a source can be given
another fragment for a token that is not fetched. -/
theorem Catalogue.resolution_local (catalogues : List Catalogue) (maxDepth : Nat) (host : σ)
    (seen : Visited) (source : List Char) :
    let r : Resolver σ := resolver catalogues maxDepth
    let course := r.course host seen source
    (∀ catalogues', Serves catalogues catalogues' course →
        r.AlikeOn (resolver catalogues' maxDepth) host seen source) ∧
      (∀ before c after, catalogues = before ++ after → NeverFirst before c (met course) →
        r.AlikeOn (resolver (before ++ c :: after) maxDepth) host seen source) ∧
      (∀ before c after, catalogues = before ++ c :: after → NeverFirst before c (met course) →
        r.AlikeOn (resolver (before ++ after) maxDepth) host seen source) ∧
      ∀ before (s : Source) after token text, catalogues = before ++ s.catalogue :: after →
        token ∉ (r.resolveWith host seen source).trail.fetched.map Prod.snd →
        r.AlikeOn (resolver (before ++ (s.add token text).catalogue :: after) maxDepth) host seen
          source := by
  intro r course
  refine ⟨fun catalogues' hserves ↦ hserves.alikeOn, ?_, ?_, ?_⟩
  · rintro before c after rfl hnever
    exact (serves_insert hnever after).alikeOn
  · rintro before c after rfl hnever
    exact (serves_remove hnever after).alikeOn
  · rintro before s after token text rfl hnot
    obtain ⟨expanded, hunfolds, -⟩ := r.exists_unfolds host seen source
    have hfetched : (r.resolveWith host seen source).trail.fetched.map Prod.snd =
        course.filterMap Entry.fetched? := hunfolds.visits.fetched
    rw [hfetched] at hnot
    have hserves : Serves (before ++ s.catalogue :: after)
        (before ++ (s.add token text).catalogue :: after) course := by
      refine serves_replace (r.covers_course host seen source)
        (funext (s.find_add token text)) fun e he other hother ↦ ?_
      have hne : other ≠ token := fun heq ↦
        hnot (List.mem_filterMap.2 ⟨e, he, heq ▸ hother⟩)
      exact s.fetch_add hne text
    exact hserves.alikeOn

/-- Fragments named by small letters, of which `a` and `b` include each other and `c` is missing. -/
def lettered : Source :=
  .memory ⟨"[a-z]", #[.accept, .chars (.range 97 122) 0], 1⟩
    ((NameMap.empty.insert "a" "#include b\n#include c\nlet a = 1;").insert "b"
      "#include a\nlet b = 2;")

/-- Recognises everything and knows nothing. -/
def Catalogue.ignorant : Catalogue where
  find := some
  fetch token := .error (.sourceNotFound token)

/-- Recognises nothing. -/
def Catalogue.mute : Catalogue where
  find _ := none
  fetch token := .error (.sourceNotFound token)

/-- A source that includes the letters, and something else. -/
def letteredSource : List Char := "#include 7\n#include a\n#include b\nlet main = 0;".toList

/-- The letters that the source does not lead to, a catalogue that recognises nothing, and one that
comes after another that recognises the same, make no difference. -/
theorem Catalogue.resolution_local_lettered :
    let catalogues := [lettered.catalogue, ignorant]
    let catalogues' := [mute, (lettered.add "z" "let z = 3;").catalogue, ignorant]
    let shadowed := (lettered.add "a" "let a = 9;").catalogue
    let r : Resolver Unit := resolver catalogues 8
    let course := r.course () .empty letteredSource
    met course = ["7", "a", "b", "a", "c", "b"] ∧
      Serves catalogues catalogues' course ∧
      r.AlikeOn (resolver catalogues' 8) () .empty letteredSource ∧
      NeverFirst [lettered.catalogue] shadowed (met course) ∧
      r.AlikeOn (resolver [lettered.catalogue, shadowed, ignorant] 8) () .empty letteredSource ∧
      (resolver [lettered.catalogue, shadowed, ignorant] 8).AlikeOn r () .empty letteredSource ∧
      r.AlikeOn (resolver [(lettered.add "z" "let z = 3;").catalogue, ignorant] 8) () .empty
        letteredSource := by
  intro catalogues catalogues' shadowed r course
  have hmet : met course = ["7", "a", "b", "a", "c", "b"] := by decide +kernel
  have hserves : Serves catalogues catalogues' course := by
    refine ⟨by decide +kernel, ?_⟩
    have hanswer : ∀ e ∈ course, e.fetched? ≠ none → ∀ reference ∈ reference? e.line,
        answer? catalogues' reference = answer? catalogues reference := by decide +kernel
    exact hanswer
  have hnever : NeverFirst [lettered.catalogue] shadowed (met course) := by
    rw [hmet, NeverFirst]
    decide +kernel
  obtain ⟨hsame, hinsert, -, hadd⟩ :=
    resolution_local catalogues 8 () .empty letteredSource
  obtain ⟨-, -, hremove, -⟩ :=
    resolution_local [lettered.catalogue, shadowed, ignorant] 8 () .empty letteredSource
  have hnever' : NeverFirst [lettered.catalogue] shadowed
      (met ((resolver [lettered.catalogue, shadowed, ignorant] 8).course () .empty
        letteredSource)) := by
    rw [NeverFirst]
    decide +kernel
  exact ⟨hmet, hserves, hsame catalogues' hserves, hnever,
    hinsert [lettered.catalogue] shadowed [ignorant] rfl hnever,
    hremove [lettered.catalogue] shadowed [ignorant] rfl hnever',
    hadd [] lettered [ignorant] "z" "let z = 3;" rfl (by decide +kernel)⟩

end ScriptSandbox.Include

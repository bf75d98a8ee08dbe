import Mathlib.Data.Set.Card
import ScriptSandbox.Proofs.Include.Provenance

/-!
# Catalogues, and what they lead to

A catalogue is a provider whose answers depend on nothing but the question. For a list of catalogues
the directives of a source make a graph that can be named without any run: a text asks for the token
of the first match of each of its directives, and a token leads to those that its fragment asks for.
`Reach` is what can be reached in it from a source.

A run with catalogues says of each line what the graph says: which token its directive asks for
(`Settles.asksLine_iff`), and who answers for it, and what (`Settles.exists_picks`).
-/

namespace ScriptSandbox.Include

open ScriptSandbox.Text

variable {σ : Type}

/-- A provider without a state. -/
structure Catalogue where
  /-- The part of a reference that it recognises. -/
  find : String → Option String
  /-- The fragment of a token. -/
  fetch : String → Except HostError (List Char)

namespace Catalogue

/-- A catalogue as a provider. -/
def provider (c : Catalogue) : Provider σ := .ofFunctions c.find c.fetch

/-- The first of the catalogues that recognises part of a reference, and that part. -/
def first? (reference : String) (catalogues : List Catalogue) : Option (Catalogue × String) :=
  catalogues.findSome? fun c ↦ (c.find reference).map (c, ·)

/-- Catalogues as providers, in their order. -/
abbrev providers (σ : Type) (catalogues : List Catalogue) : List (Provider σ) :=
  catalogues.map provider

/-- A resolver that asks catalogues. -/
def resolver (catalogues : List Catalogue) (maxDepth : Nat) : Resolver σ :=
  ⟨providers σ catalogues, maxDepth⟩

end Catalogue

/-! ### The graph of directives -/

/-- The line is a directive, and the token is that of its first match. -/
def AsksLine (catalogues : List Catalogue) (line : List Char) (token : String) : Prop :=
  ∃ reference, reference? line = some reference ∧
    (Catalogue.first? reference catalogues).map Prod.snd = some token

/-- The line is a directive, and its first match is the token, recognised by the catalogue. -/
def Picks (catalogues : List Catalogue) (line : List Char) (c : Catalogue) (token : String) :
    Prop :=
  ∃ reference, reference? line = some reference ∧
    Catalogue.first? reference catalogues = some (c, token)

/-- A directive of the text asks for the token. -/
def Asks (catalogues : List Catalogue) (text : List Char) (token : String) : Prop :=
  ∃ line ∈ lines text, AsksLine catalogues line token

/-- The tokens that a text asks for, line by line. -/
def asked (catalogues : List Catalogue) (text : List Char) : List String :=
  (lines text).filterMap fun line ↦
    (reference? line).bind fun reference ↦ (Catalogue.first? reference catalogues).map Prod.snd

theorem mem_asked_iff {catalogues : List Catalogue} {text : List Char} {token : String} :
    token ∈ asked catalogues text ↔ Asks catalogues text token := by
  simp only [asked, Asks, AsksLine, List.mem_filterMap, Option.bind_eq_some_iff]

/-- A catalogue that can recognise the token answers for it. -/
def Answers (catalogues : List Catalogue) (token : String)
    (answer : Except HostError (List Char)) : Prop :=
  ∃ c ∈ catalogues, (∃ reference, c.find reference = some token) ∧ c.fetch token = answer

/-- Catalogues that can recognise the same token answer the same for it. -/
def Agree (catalogues : List Catalogue) : Prop :=
  ∀ token answer answer', Answers catalogues token answer → Answers catalogues token answer' →
    answer = answer'

/-- The fragment of a token asks for another. -/
def Leads (catalogues : List Catalogue) (token other : String) : Prop :=
  ∃ fragment, Answers catalogues token (.ok fragment) ∧ Asks catalogues fragment other

/-- The tokens that a source leads to: the least set with those the source asks for and, with each
token that has a fragment, those the fragment asks for. -/
inductive Reach (catalogues : List Catalogue) (source : List Char) : String → Prop
  | root {token : String} (h : Asks catalogues source token) : Reach catalogues source token
  | step {token other : String} (h : Reach catalogues source token)
      (hleads : Leads catalogues token other) : Reach catalogues source other

/-- The tokens that a source leads to, as a set. -/
def reach (catalogues : List Catalogue) (source : List Char) : Set String :=
  {token | Reach catalogues source token}

/-- One catalogue agrees with itself. -/
theorem agree_singleton (c : Catalogue) : Agree [c] := by
  rintro token - - ⟨d, hd, -, rfl⟩ ⟨d', hd', -, rfl⟩
  rw [List.mem_singleton.1 hd, List.mem_singleton.1 hd']

theorem Catalogue.mem_of_first? {reference token : String} {catalogues : List Catalogue}
    {c : Catalogue} (h : first? reference catalogues = some (c, token)) :
    c ∈ catalogues ∧ c.find reference = some token := by
  obtain ⟨d, hd, heq⟩ := List.exists_of_findSome?_eq_some h
  obtain ⟨token', hfind, heq⟩ := Option.map_eq_some_iff.1 heq
  cases heq
  exact ⟨hd, hfind⟩

/-- What is reached is recognised by a catalogue. -/
theorem Reach.exists_find {catalogues : List Catalogue} {source : List Char} {token : String}
    (h : Reach catalogues source token) :
    ∃ c ∈ catalogues, ∃ reference, c.find reference = some token := by
  have hasks : ∃ text, Asks catalogues text token := by
    cases h with
    | root hasks => exact ⟨source, hasks⟩
    | step hreach hleads =>
      obtain ⟨fragment, -, hasks⟩ := hleads
      exact ⟨fragment, hasks⟩
  obtain ⟨-, line, -, reference, -, hfirst⟩ := hasks
  obtain ⟨⟨c, token'⟩, hmatch, heq⟩ := Option.map_eq_some_iff.1 hfirst
  cases heq
  obtain ⟨hmem, hfind⟩ := Catalogue.mem_of_first? hmatch
  exact ⟨c, hmem, reference, hfind⟩

/-! ### What a run with catalogues says -/

theorem firstMatch_provider_cons (index : Nat) (reference : String) (c : Catalogue)
    (rest : List (Provider σ)) (host : σ) :
    firstMatch index reference (c.provider :: rest) host =
      match c.find reference with
      | some token => (some ⟨index, c.provider, token⟩, host)
      | none => firstMatch (index + 1) reference rest host := by
  change (match c.find reference with
    | some token => pure (some ⟨index, c.provider, token⟩)
    | none => firstMatch (index + 1) reference rest : StateM σ (Option (Match σ))) host = _
  cases c.find reference with
  | none => rfl
  | some token => rfl

theorem Catalogue.first?_cons (reference : String) (c : Catalogue) (rest : List Catalogue) :
    first? reference (c :: rest) =
      match c.find reference with
      | some token => some (c, token)
      | none => first? reference rest := by
  rw [first?, List.findSome?_cons]
  cases c.find reference with
  | none => rfl
  | some token => rfl

theorem firstMatch_catalogues (index : Nat) (reference : String) (catalogues : List Catalogue)
    (host : σ) :
    (firstMatch index reference (catalogues.map Catalogue.provider) host).1.map
        (fun found ↦ (found.provider, found.token)) =
      (Catalogue.first? reference catalogues).map (fun p ↦ (p.1.provider, p.2)) := by
  induction catalogues generalizing index with
  | nil => rfl
  | cons c rest ih =>
    rw [List.map_cons, firstMatch_provider_cons, Catalogue.first?_cons]
    cases c.find reference with
    | none => exact ih (index + 1)
    | some token => rfl

/-- A match among catalogues is a first match, and the catalogue answers for its token. -/
theorem exists_first?_of_firstMatch {catalogues : List Catalogue} {reference : String}
    {host host' : σ} {found : Match σ}
    (h : firstMatch 0 reference (Catalogue.providers σ catalogues) host = (some found, host')) :
    ∃ c, Catalogue.first? reference catalogues = some (c, found.token) ∧
      found.provider = c.provider := by
  have hmap := firstMatch_catalogues 0 reference catalogues host
  rw [h] at hmap
  obtain ⟨p, hp, heq⟩ := Option.map_eq_some_iff.1 hmap.symm
  obtain ⟨hprovider, htoken⟩ := Prod.mk.inj heq
  exact ⟨p.1, by rw [hp, ← htoken], hprovider.symm⟩

namespace Settles

variable {catalogues : List Catalogue} {limit : Nat} {deeper : Bool} {line : List Char}
  {t t' : Trail σ} {fate : Fate} {token : String}

/-- **The token of a fate is the one its line asks for.** -/
theorem token?_eq (h : Settles (Catalogue.providers σ catalogues) limit deeper line t fate t')
    {reference : String} (hline : reference? line = some reference) :
    fate.token? = (Catalogue.first? reference catalogues).map Prod.snd := by
  cases h with
  | kept hnone =>
    rw [hnone] at hline
    cases hline
  | unmatched hline' hmatch =>
    obtain rfl := Option.some.inj (hline.symm.trans hline')
    have hmap := firstMatch_catalogues 0 reference catalogues t.host
    rw [hmatch] at hmap
    rw [Option.map_eq_none_iff.1 hmap.symm]
    rfl
  | skipped hline' hmatch | tooDeep hline' hmatch | failed hline' hmatch
  | expanded hline' hmatch =>
    obtain rfl := Option.some.inj (hline.symm.trans hline')
    obtain ⟨c, hfirst, -⟩ := exists_first?_of_firstMatch hmatch
    rw [hfirst]
    rfl

theorem asksLine_iff
    (h : Settles (Catalogue.providers σ catalogues) limit deeper line t fate t') :
    AsksLine catalogues line token ↔ fate.token? = some token := by
  constructor
  · rintro ⟨reference, hline, hfirst⟩
    rw [h.token?_eq hline, hfirst]
  · intro htoken
    cases hline : reference? line with
    | none =>
      rw [h.eq_kept_iff.2 hline] at htoken
      cases htoken
    | some reference => exact ⟨reference, hline, by rw [← h.token?_eq hline, htoken]⟩

/-- **The answer that a fate speaks of** is given by the catalogue that the line picks. -/
theorem exists_picks
    (h : Settles (Catalogue.providers σ catalogues) limit deeper line t fate t')
    (hfetched : fate.fetched? = some token) :
    deeper = true ∧
      ∃ c, Picks catalogues line c token ∧ fate = .ofAnswer token (c.fetch token) := by
  cases h with
  | kept | unmatched | skipped | tooDeep => cases hfetched
  | failed hline hmatch hnew hdeep hfetch | expanded hline hmatch hnew hdeep hfetch =>
    cases hfetched
    obtain ⟨c, hfirst, hprovider⟩ := exists_first?_of_firstMatch hmatch
    rw [hprovider] at hfetch
    have hanswer := congrArg Prod.fst hfetch
    exact ⟨hdeep, c, ⟨_, hline, hfirst⟩, (congrArg (Fate.ofAnswer _) hanswer).symm⟩

theorem exists_answers
    (h : Settles (Catalogue.providers σ catalogues) limit deeper line t fate t')
    (hfetched : fate.fetched? = some token) :
    ∃ answer, Answers catalogues token answer ∧ fate = .ofAnswer token answer := by
  obtain ⟨-, c, ⟨reference, -, hfirst⟩, hfate⟩ := h.exists_picks hfetched
  obtain ⟨hmem, hfind⟩ := Catalogue.mem_of_first? hfirst
  exact ⟨c.fetch token, ⟨c, hmem, ⟨reference, hfind⟩, rfl⟩, hfate⟩

end Settles

end ScriptSandbox.Include

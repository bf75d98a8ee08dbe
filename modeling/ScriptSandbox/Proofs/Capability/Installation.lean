import Mathlib.Data.List.Induction
import Mathlib.Logic.Relation
import ScriptSandbox.Capability.Surface

/-!
# What is installed

Going through a table of offers with a filter comes to the same as installing the allowed offers, in
their order, and nothing else (`engine_installAllowed`). So two tables lead to the same engine
whenever the same offers are allowed in them, and that is so exactly if one comes from the other by
putting in and taking out denied offers, anywhere and any number of times (`equalButDenied_iff`).

Of an engine in which surfaces have been installed it can be said which of them a host function
comes from: there is one that put it where a call finds it (`exists_installer`), and of several that
put something there the last decides (`find?_installAll_of_last`).
-/

namespace ScriptSandbox.Capability

variable {ε : Type}

/-- The engine in which surfaces are installed, one after the other. -/
def installAll (offers : List (Capability ε)) (engine : ε) : ε :=
  offers.foldl (fun e c ↦ c.install e) engine

@[simp] theorem installAll_cons (c : Capability ε) (offers : List (Capability ε)) (engine : ε) :
    installAll (c :: offers) engine = installAll offers (c.install engine) := rfl

theorem installAll_append (offers more : List (Capability ε)) (engine : ε) :
    installAll (offers ++ more) engine = installAll more (installAll offers engine) :=
  List.foldl_append

namespace Table

variable {f : Filter} {t t' : Table ε}

/-! ### Allowed offers -/

variable {c : Capability ε}

theorem filter_cons_allowed (hc : f.allows c.id = true) (offers : List (Capability ε)) :
    ((c :: offers).filter fun c ↦ f.allows c.id) =
      c :: offers.filter fun c ↦ f.allows c.id := by
  rw [List.filter_cons, if_pos hc]

theorem filter_cons_denied (hc : f.allows c.id = false) (offers : List (Capability ε)) :
    ((c :: offers).filter fun c ↦ f.allows c.id) = offers.filter fun c ↦ f.allows c.id := by
  rw [List.filter_cons, if_neg (by rw [hc]; exact Bool.false_ne_true)]

theorem foldl_add (offers : List (Capability ε)) (i : Installation ε) :
    (offers.foldl (Installation.add f) i).engine =
        installAll (offers.filter fun c ↦ f.allows c.id) i.engine ∧
      (offers.foldl (Installation.add f) i).installed =
        i.installed + (offers.filter fun c ↦ f.allows c.id).length := by
  induction offers generalizing i with
  | nil => exact ⟨rfl, rfl⟩
  | cons c offers ih =>
    obtain ⟨hengine, hinstalled⟩ := ih (i.add f c)
    rw [List.foldl_cons, hengine, hinstalled]
    cases hc : f.allows c.id with
    | true =>
      have hadd : i.add f c = ⟨c.install i.engine, i.installed + 1, i.events ++ [event f c]⟩ := by
        rw [Installation.add, if_pos hc]
      rw [hadd, filter_cons_allowed hc, installAll_cons, List.length_cons]
      exact ⟨rfl, by dsimp only; omega⟩
    | false =>
      rw [Installation.add, if_neg (by rw [hc]; exact Bool.false_ne_true), filter_cons_denied hc]
      exact ⟨rfl, rfl⟩

/-- **Only the allowed offers are installed**, in the order in which they were offered. -/
theorem engine_installAllowed (t : Table ε) (f : Filter) (engine : ε) :
    (t.installAllowed f engine).engine = installAll (t.allowed f) engine :=
  (foldl_add t.offers ⟨engine, 0, []⟩).1

/-- It is the allowed offers that are counted. -/
theorem installed_installAllowed (t : Table ε) (f : Filter) (engine : ε) :
    (t.installAllowed f engine).installed = (t.allowed f).length :=
  (foldl_add t.offers ⟨engine, 0, []⟩).2.trans (Nat.zero_add _)

/-! ### Denied offers -/

/-- The second table has one denied offer more than the first. -/
inductive Inserts (f : Filter) : Table ε → Table ε → Prop where
  | insert (before : List (Capability ε)) (c : Capability ε) (after : List (Capability ε))
      (h : f.allows c.id = false) : Inserts f ⟨before ++ after⟩ ⟨before ++ c :: after⟩

/-- Two tables are equal but for denied offers: one comes from the other by putting in and taking
out such offers. To replace one, or to move it, is to do both. -/
def EqualButDenied (f : Filter) : Table ε → Table ε → Prop := Relation.EqvGen (Inserts f)

theorem Inserts.allowed_eq (h : Inserts f t t') : t.allowed f = t'.allowed f := by
  obtain ⟨before, c, after, hc⟩ := h
  simp only [allowed, List.filter_append, filter_cons_denied hc]

/-- All denied offers can be taken out. -/
theorem equalButDenied_allowed (f : Filter) (before offers : List (Capability ε)) :
    EqualButDenied f ⟨before ++ offers⟩ ⟨before ++ offers.filter fun c ↦ f.allows c.id⟩ := by
  induction offers generalizing before with
  | nil => exact .refl _
  | cons c offers ih =>
    cases hc : f.allows c.id with
    | true =>
      have hmoved := ih (before ++ [c])
      rwa [← List.append_cons, ← List.append_cons, ← filter_cons_allowed hc] at hmoved
    | false =>
      rw [filter_cons_denied hc]
      exact .trans _ _ _ (.symm _ _ (.rel _ _ (.insert before c offers hc))) (ih before)

/-- **Tables are equal but for denied offers exactly if the same offers are allowed in them.** -/
theorem equalButDenied_iff : EqualButDenied f t t' ↔ t.allowed f = t'.allowed f := by
  constructor
  · intro h
    induction h with
    | rel t t' h => exact h.allowed_eq
    | refl t => rfl
    | symm t t' _ ih => exact ih.symm
    | trans t t' t'' _ _ ih ih' => exact ih.trans ih'
  · intro h
    have hleft : EqualButDenied f t ⟨t.allowed f⟩ := equalButDenied_allowed f [] t.offers
    have hright : EqualButDenied f t' ⟨t'.allowed f⟩ := equalButDenied_allowed f [] t'.offers
    rw [h] at hleft
    exact .trans _ _ _ hleft (.symm _ _ hright)

end Table

/-! ### Where a call finds a function -/

open Script

variable {role : Role} {name : String} {types : List String} {g : HostFunction}

/-- A function that a call finds, and did not find before anything was installed, was put there by
one of the surfaces. -/
theorem exists_installer {offers : List (Capability Engine)} {engine : Engine}
    (hbefore : engine.find? role name types ≠ some g)
    (hafter : (installAll offers engine).find? role name types = some g) :
    ∃ before c after, offers = before ++ c :: after ∧
      (installAll before engine).find? role name types ≠ some g ∧
      (c.install (installAll before engine)).find? role name types = some g := by
  induction offers using List.reverseRecOn with
  | nil => exact absurd hafter hbefore
  | append_singleton offers c ih =>
    rw [installAll_append] at hafter
    by_cases hearlier : (installAll offers engine).find? role name types = some g
    · obtain ⟨before, d, after, rfl, hnot, hinstalled⟩ := ih hearlier
      exact ⟨before, d, after ++ [c], by simp, hnot, hinstalled⟩
    · exact ⟨offers, c, [], rfl, hearlier, hafter⟩

/-- Surfaces that leave a place alone do not change what a call finds there. -/
theorem find?_installAll_of_forall {offers : List (Capability Engine)}
    (h : ∀ c ∈ offers, ∀ e : Engine,
      (c.install e).find? role name types = e.find? role name types) (engine : Engine) :
    (installAll offers engine).find? role name types = engine.find? role name types := by
  induction offers generalizing engine with
  | nil => rfl
  | cons c offers ih =>
    rw [installAll_cons, ih (fun d hd ↦ h d (List.mem_cons_of_mem c hd)),
      h c List.mem_cons_self engine]

/-- **The last surface that puts something at a place decides what a call finds there.** -/
theorem find?_installAll_of_last {before after : List (Capability Engine)}
    {c : Capability Engine} (hc : ∀ e, (c.install e).find? role name types = some g)
    (hafter : ∀ d ∈ after, ∀ e : Engine,
      (d.install e).find? role name types = e.find? role name types) (engine : Engine) :
    (installAll (before ++ c :: after) engine).find? role name types = some g := by
  rw [installAll_append, installAll_cons, find?_installAll_of_forall hafter, hc]

end ScriptSandbox.Capability

import ScriptSandbox.Json.Decoder
import ScriptSandbox.Proofs.Text.Table

/-!
# Reading what was written

A form of some data has one way to be written and many ways to be read. A `Codec` says how the two
go together: what fits is read from what is written of it, and whatever is read fits. So all the
ways to be read are brought to one, once and for all (`Codec.normalizes`): what has been read is
read again from what is then written.

Codecs are put together as forms are. A number, a text, a list and an optional value have theirs
here; for a record there are the two facts that its codec needs. It is read from its members if each
of these passes its check (`Shape.record_object`), and whatever is read of it is read from some
members (`Shape.exists_members_of_record`).
-/

namespace ScriptSandbox.Json

open Text

variable {α : Type}

/-- What it takes to read something step by step. -/
theorem bind_eq_ok {β : Type} {x : Except DecodeFault α} {f : α → Except DecodeFault β} {b : β} :
    x >>= f = .ok b ↔ ∃ a, x = .ok a ∧ f a = .ok b := by
  constructor
  · intro h
    cases x with
    | error e => cases h
    | ok a => exact ⟨a, rfl, h⟩
  · rintro ⟨a, rfl, h⟩
    exact h

theorem map_eq_ok {β : Type} {x : Except DecodeFault α} {f : α → β} {b : β} :
    x.map f = .ok b ↔ ∃ a, x = .ok a ∧ f a = b := by
  constructor
  · intro h
    cases x with
    | error e => cases h
    | ok a => exact ⟨a, rfl, Except.ok.inj h⟩
  · rintro ⟨a, rfl, rfl⟩
    rfl

/-! ### Codecs -/

/-- How writing and reading some data go together. -/
structure Codec (encode : α → Json) (decode : Decoder α) (Fits : α → Prop) : Prop where
  /-- What fits is read from what is written of it. -/
  reads : ∀ a, Fits a → decode (encode a) = .ok a
  /-- What is read fits. -/
  fits : ∀ j a, decode j = .ok a → Fits a

/-- Whatever is read is read again from what is written of it, so that the same is written then. -/
def Normalizes (encode : α → Json) (decode : Decoder α) : Prop :=
  ∀ j a, decode j = .ok a → decode (encode a) = .ok a

theorem Codec.normalizes {encode : α → Json} {decode : Decoder α} {Fits : α → Prop}
    (h : Codec encode decode Fits) : Normalizes encode decode :=
  fun j a hj ↦ h.reads a (h.fits j a hj)

theorem codec_text : Codec .string Decoder.text fun _ ↦ True where
  reads _ _ := rfl
  fits _ _ _ := trivial

theorem codec_below (bound : Nat) (name : String) :
    Codec (fun n : Nat ↦ .int n) (Decoder.below bound name) (· < bound) where
  reads n h := by
    have hbounds : 0 ≤ (n : Int) ∧ (n : Int) < bound := by omega
    rw [Decoder.below, if_pos hbounds]
    rfl
  fits j n h := by
    cases j with
    | int i =>
      simp only [Decoder.below] at h
      split at h
      · next hbounds =>
        have hn : i.toNat = n := Except.ok.inj h
        omega
      · cases h
    | _ => cases h

section

variable {encode : α → Json} {decode : Decoder α} {Fits : α → Prop}

theorem codec_list (hc : Codec encode decode Fits) :
    Codec (fun items ↦ .array (items.map encode)) (Decoder.list decode)
      (fun items ↦ ∀ a ∈ items, Fits a) where
  reads items h := by
    show (items.map encode).mapM decode = .ok items
    induction items with
    | nil => rfl
    | cons a items ih =>
      obtain ⟨ha, hitems⟩ := List.forall_mem_cons.1 h
      rw [List.map_cons, List.mapM_cons, hc.reads a ha, ih hitems]
      rfl
  fits j items h := by
    cases j with
    | array js =>
      have hread : js.mapM decode = .ok items := h
      clear h
      induction js generalizing items with
      | nil =>
        cases hread
        exact List.forall_mem_nil _
      | cons j js ih =>
        rw [List.mapM_cons] at hread
        obtain ⟨a, ha, hread⟩ := bind_eq_ok.1 hread
        obtain ⟨rest, hrest, heq⟩ := bind_eq_ok.1 hread
        cases heq
        exact List.forall_mem_cons.2 ⟨hc.fits j a ha, ih rest hrest⟩
    | _ => cases h

/-- A value that may be absent. It must not be written as null, which is read as its absence. -/
theorem codec_option (hc : Codec encode decode Fits) (hne : ∀ a, encode a ≠ .null) :
    Codec (ofOption encode) (Decoder.option decode) (fun o ↦ ∀ a ∈ o, Fits a) where
  reads o h := by
    cases o with
    | none => rfl
    | some a =>
      have hread : (Decoder.option decode) (encode a) = (decode (encode a)).map some := by
        cases hj : encode a with
        | null => exact absurd hj (hne a)
        | _ => rfl
      show (Decoder.option decode) (encode a) = .ok (some a)
      rw [hread, hc.reads a (h a rfl)]
      rfl
  fits j o h a ha := by
    cases j with
    | null =>
      cases h
      cases ha
    | _ =>
      obtain ⟨b, hb, heq⟩ := map_eq_ok.1 h
      obtain rfl : b = a := Option.some.inj (heq.trans ha)
      exact hc.fits _ b hb

end

/-- Any value, where null stands for none. -/
theorem codec_any :
    Codec (fun o ↦ o.getD .null) (Decoder.option Decoder.any) (· ≠ some .null) where
  reads o h := by
    cases o with
    | none => rfl
    | some j =>
      cases j with
      | null => exact absurd rfl h
      | _ => rfl
  fits j o h := by
    cases j <;> cases h <;> simp

/-! ### Records -/

/-- Members with different names make an object in which they are all found. -/
theorem exists_ofMembers {members : List (String × Json)} (h : (members.map Prod.fst).Nodup) :
    ∃ sorted, ofMembers members = .object sorted ∧ (∀ m ∈ sorted, m ∈ members) ∧
      ∀ name, sorted.lookup name = members.lookup name := by
  refine ⟨members.foldl (fun acc m ↦ NameMap.insertEntry m.1 m.2 acc) [], rfl, fun m hm ↦ ?_,
    fun name ↦ ?_⟩
  · exact (NameMap.mem_of_mem_foldl_insertEntry hm).resolve_right List.not_mem_nil
  · rw [NameMap.lookup_foldl_insertEntry h, List.lookup_nil, Option.or_none]

namespace Shape

variable {s : Shape} {f : List (String × Json) → Except DecodeFault α}

/-- A member passes its check if its field is read from it. -/
theorem checkMember_eq_ok {name : String} {item : Decoder α} {j : Json} {a : α}
    (hfield : s.fields.lookup name = some (checked item)) (hread : item j = .ok a) :
    s.checkMember (name, j) = .ok () := by
  simp only [checkMember, hfield, checked, hread]
  rfl

/-- A record is read from its members, if each of them passes its check. -/
theorem record_object {members : List (String × Json)}
    (h : ∀ m ∈ members, s.checkMember m = .ok ()) : s.record f (.object members) = f members := by
  have hall : members.forM s.checkMember = .ok () := by
    induction members with
    | nil => rfl
    | cons m members ih =>
      obtain ⟨hm, hmembers⟩ := List.forall_mem_cons.1 h
      show (s.checkMember m >>= fun _ ↦ members.forM s.checkMember) = .ok ()
      rw [hm]
      exact ih hmembers
  show ((members.forM s.checkMember >>= fun _ ↦ pure members) >>= f) = f members
  rw [hall]
  rfl

/-- A record is read from the object of its members, in which they are looked up. -/
theorem record_ofMembers_eq_ok {members : List (String × Json)} {a : α}
    (hnames : (members.map Prod.fst).Nodup) (hchecks : ∀ m ∈ members, s.checkMember m = .ok ())
    (h : ∀ sorted, (∀ name, sorted.lookup name = members.lookup name) → f sorted = .ok a) :
    s.record f (ofMembers members) = .ok a := by
  obtain ⟨sorted, hobject, hmem, hlookup⟩ := exists_ofMembers hnames
  rw [hobject, record_object fun m hm ↦ hchecks m (hmem m hm)]
  exact h sorted hlookup

/-- Whatever is read of a record, from an object or from an array, is read from some members. -/
theorem exists_members_of_record {j : Json} {a : α} (h : s.record f j = .ok a) :
    ∃ members, f members = .ok a := by
  cases j with
  | array items =>
    obtain ⟨⟨members, rest⟩, -, h⟩ := bind_eq_ok.1 h
    obtain ⟨b, hb, h⟩ := bind_eq_ok.1 h
    split at h
    · exact ⟨members, hb.trans h⟩
    · cases h
  | _ =>
    obtain ⟨members, -, h⟩ := bind_eq_ok.1 h
    exact ⟨members, h⟩

end Shape

theorem required_eq_ok {item : Decoder α} {name : String} {members : List (String × Json)}
    {j : Json} {a : α} (hlookup : members.lookup name = some j) (hread : item j = .ok a) :
    required name item members = .ok a := by
  rw [required, hlookup]
  exact hread

theorem optional_eq_ok {item : Decoder α} {name : String} {members : List (String × Json)}
    {j : Json} {o : Option α} (hlookup : members.lookup name = some j)
    (hread : Decoder.option item j = .ok o) : optional name item members = .ok o := by
  rw [optional, hlookup]
  exact hread

theorem required_fits {encode : α → Json} {item : Decoder α} {Fits : α → Prop}
    (hc : Codec encode item Fits) {name : String} {members : List (String × Json)} {a : α}
    (h : required name item members = .ok a) : Fits a := by
  unfold required at h
  split at h
  · exact hc.fits _ a h
  · cases h

theorem optional_fits {encode : Option α → Json} {item : Decoder α} {Fits : Option α → Prop}
    (hc : Codec encode (Decoder.option item) Fits) (hnone : Fits none) {name : String}
    {members : List (String × Json)} {o : Option α} (h : optional name item members = .ok o) :
    Fits o := by
  unfold optional at h
  split at h
  · exact hc.fits _ o h
  · cases h
    exact hnone

end ScriptSandbox.Json

import ScriptSandbox.Execution.Summary
import ScriptSandbox.Proofs.Json.Codec

/-!
# Summaries are read back

Summaries, descriptions of failures, lifecycles and reasons of a stop are each written in one form,
and read from many: a record also as an array of its fields, an absent value also as null, a name
also with a null that comes with it, and a span also with whole seconds among its nanoseconds. Each
of the forms has its codec, so reading brings all these ways to the one that is written.

What can be read is what fits: numbers of 64 bits, spans whose nanoseconds are less than a second,
and no value that is null. All of this is so in the summary of a report, but for the last
(`Report.Fits.summary`): a script that comes to nothing has null as its value, which is read as its
absence.
-/

namespace ScriptSandbox

open Json

/-! ### Spans -/

/-- A span whose seconds are a word of 64 bits and whose nanoseconds are less than a second. -/
structure Span.Fits (s : Span) : Prop where
  /-- The seconds are a word. -/
  secs : s.secs < Nat.pow 2 64
  /-- The nanoseconds are less than a second. -/
  nanos : s.nanos < Span.nanosPerSecond

theorem Span.ofParts?_of_fits {s : Span} (h : s.Fits) : Span.ofParts? s.secs s.nanos = some s := by
  have hsecs : s.secs + s.nanos / nanosPerSecond = s.secs := by
    rw [Nat.div_eq_of_lt h.nanos, Nat.add_zero]
  simp only [ofParts?, hsecs, if_pos h.secs, Nat.mod_eq_of_lt h.nanos]

theorem Span.fits_of_ofParts? {secs nanos : Nat} {s : Span}
    (h : Span.ofParts? secs nanos = some s) : s.Fits := by
  simp only [ofParts?, Option.ite_none_right_eq_some] at h
  obtain ⟨hsecs, heq⟩ := h
  cases heq
  exact ⟨hsecs, Nat.mod_lt _ (by decide)⟩

theorem Span.codec : Codec Span.toJson Span.ofJson Span.Fits where
  reads s h := by
    have hsecs : Decoder.word64 (.int s.secs) = .ok s.secs := (codec_below _ _).reads _ h.secs
    have hnanos : Decoder.word32 (.int s.nanos) = .ok s.nanos :=
      (codec_below _ _).reads _ (Nat.lt_trans h.nanos (by decide))
    have hchecks : ∀ m ∈ [("nanos", Json.int s.nanos), ("secs", .int s.secs)],
        shape.checkMember m = .ok () :=
      List.forall_mem_cons.2 ⟨Shape.checkMember_eq_ok rfl hnanos,
        List.forall_mem_singleton.2 (Shape.checkMember_eq_ok rfl hsecs)⟩
    rw [toJson, ofJson, Shape.record_object hchecks]
    refine bind_eq_ok.2 ⟨s.secs, required_eq_ok rfl hsecs, bind_eq_ok.2
      ⟨s.nanos, required_eq_ok rfl hnanos, ?_⟩⟩
    rw [ofParts?_of_fits h]
    rfl
  fits j s h := by
    obtain ⟨members, h⟩ := Shape.exists_members_of_record h
    obtain ⟨secs, -, h⟩ := bind_eq_ok.1 h
    obtain ⟨nanos, -, h⟩ := bind_eq_ok.1 h
    split at h
    · next hparts =>
      cases h
      exact fits_of_ofParts? hparts
    · cases h

/-! ### Lifecycles and reasons of a stop -/

theorem Lifecycle.codec : Codec Lifecycle.toJson Lifecycle.ofJson fun _ ↦ True where
  reads l _ := by
    refine bind_eq_ok.2 ⟨(l.name, none), rfl, ?_⟩
    simp only [ofName?_name]
    rfl
  fits _ _ _ := trivial

/-- A reason of a stop whose limit, if it has one, fits. -/
def Termination.Fits : Termination → Prop
  | deadline limit => limit.Fits
  | cancelled => True

theorem Termination.codec : Codec Termination.toJson Termination.ofJson Termination.Fits where
  reads t h := by
    cases t with
    | cancelled => rfl
    | deadline limit =>
      have hlimit : required "limit" Span.ofJson [("limit", limit.toJson)] = .ok limit :=
        required_eq_ok rfl (Span.codec.reads limit h)
      refine bind_eq_ok.2 ⟨("deadline", some (.object [("limit", limit.toJson)])), rfl, ?_⟩
      simp only [deadlineOf, hlimit]
      rfl
  fits j t h := by
    obtain ⟨⟨name, content⟩, -, h⟩ := bind_eq_ok.1 h
    dsimp only at h
    split at h
    · unfold deadlineOf at h
      split at h
      · obtain ⟨limit, hlimit, rfl⟩ := map_eq_ok.1 h
        exact required_fits Span.codec hlimit
      · cases h
      · cases h
    · obtain ⟨-, -, h⟩ := bind_eq_ok.1 h
      cases h
      exact trivial
    · cases h

/-- A reason of a stop, which may be absent. -/
theorem Termination.codec_option :
    Codec (.ofOption toJson) (Decoder.option ofJson) (fun o ↦ ∀ t ∈ o, t.Fits) :=
  Json.codec_option codec fun t h ↦ by cases t <;> cases h

/-! ### Descriptions of failures -/

theorem FailureInfo.codec : Codec FailureInfo.toJson FailureInfo.ofJson fun _ ↦ True where
  reads i _ := by
    have hlocation := (codec_option codec_text fun _ h ↦ by cases h).reads i.location
      fun _ _ ↦ trivial
    have hbacktrace := (codec_option (codec_list codec_text) fun _ h ↦ by cases h).reads i.backtrace
      fun _ _ _ _ ↦ trivial
    have hchecks : ∀ m ∈ [("error_type", Json.string i.errorType), ("message", .string i.message),
        ("location", .ofOption .string i.location), ("backtrace", .ofOption .strings i.backtrace)],
        shape.checkMember m = .ok () := by
      simp only [List.forall_mem_cons]
      exact ⟨Shape.checkMember_eq_ok rfl (codec_text.reads _ trivial),
        Shape.checkMember_eq_ok rfl (codec_text.reads _ trivial),
        Shape.checkMember_eq_ok rfl hlocation, Shape.checkMember_eq_ok rfl hbacktrace,
        fun _ h ↦ by cases h⟩
    refine Shape.record_ofMembers_eq_ok (by simp) hchecks fun sorted hlookup ↦ ?_
    refine bind_eq_ok.2 ⟨_, required_eq_ok (hlookup _) (codec_text.reads _ trivial), ?_⟩
    refine bind_eq_ok.2 ⟨_, required_eq_ok (hlookup _) (codec_text.reads _ trivial), ?_⟩
    refine bind_eq_ok.2 ⟨_, optional_eq_ok (hlookup _) hlocation, ?_⟩
    exact bind_eq_ok.2 ⟨_, optional_eq_ok (hlookup _) hbacktrace, rfl⟩
  fits _ _ _ := trivial

/-! ### Summaries -/

/-- What can be read of a summary. -/
structure Summary.Fits (s : Summary) : Prop where
  /-- The number of the execution is a word. -/
  id : s.id < Nat.pow 2 64
  /-- The value is not null. -/
  value : s.value ≠ some .null
  /-- The limit of a deadline fits. -/
  termination : ∀ t ∈ s.termination, t.Fits
  /-- The milliseconds are a word. -/
  elapsedMillis : s.elapsedMillis < Nat.pow 2 64

theorem Summary.codec : Codec Summary.toJson Summary.ofJson Summary.Fits where
  reads s h := by
    have hid : Decoder.word64 (.int s.id) = .ok s.id := (codec_below _ _).reads _ h.id
    have hstate : Lifecycle.ofJson s.state.toJson = .ok s.state := Lifecycle.codec.reads _ trivial
    have hany : Decoder.any (s.value.getD .null) = .ok (s.value.getD .null) := rfl
    have hvalue := codec_any.reads s.value h.value
    have hlogs := (codec_list codec_text).reads s.logs fun _ _ ↦ trivial
    have herror :=
      (codec_option FailureInfo.codec fun _ h ↦ by cases h).reads s.error fun _ _ ↦ trivial
    have htermination := Termination.codec_option.reads s.termination h.termination
    have helapsed : Decoder.word64 (.int s.elapsedMillis) = .ok s.elapsedMillis :=
      (codec_below _ _).reads _ h.elapsedMillis
    have hchecks : ∀ m ∈ [("id", Json.int s.id), ("state", s.state.toJson),
        ("value", s.value.getD .null), ("logs", .strings s.logs),
        ("error", .ofOption FailureInfo.toJson s.error),
        ("termination", .ofOption Termination.toJson s.termination),
        ("elapsed_ms", .int s.elapsedMillis)], shape.checkMember m = .ok () := by
      simp only [List.forall_mem_cons]
      exact ⟨Shape.checkMember_eq_ok rfl hid, Shape.checkMember_eq_ok rfl hstate,
        Shape.checkMember_eq_ok rfl hany, Shape.checkMember_eq_ok rfl hlogs,
        Shape.checkMember_eq_ok rfl herror, Shape.checkMember_eq_ok rfl htermination,
        Shape.checkMember_eq_ok rfl helapsed, fun _ h ↦ by cases h⟩
    refine Shape.record_ofMembers_eq_ok (by simp) hchecks fun sorted hlookup ↦ ?_
    refine bind_eq_ok.2 ⟨_, required_eq_ok (hlookup _) hid, ?_⟩
    refine bind_eq_ok.2 ⟨_, required_eq_ok (hlookup _) hstate, ?_⟩
    refine bind_eq_ok.2 ⟨_, optional_eq_ok (hlookup _) hvalue, ?_⟩
    refine bind_eq_ok.2 ⟨_, required_eq_ok (hlookup _) hlogs, ?_⟩
    refine bind_eq_ok.2 ⟨_, optional_eq_ok (hlookup _) herror, ?_⟩
    refine bind_eq_ok.2 ⟨_, optional_eq_ok (hlookup _) htermination, ?_⟩
    exact bind_eq_ok.2 ⟨_, required_eq_ok (hlookup _) helapsed, rfl⟩
  fits j s h := by
    obtain ⟨members, h⟩ := Shape.exists_members_of_record h
    obtain ⟨id, hid, h⟩ := bind_eq_ok.1 h
    obtain ⟨state, -, h⟩ := bind_eq_ok.1 h
    obtain ⟨value, hvalue, h⟩ := bind_eq_ok.1 h
    obtain ⟨logs, -, h⟩ := bind_eq_ok.1 h
    obtain ⟨error, -, h⟩ := bind_eq_ok.1 h
    obtain ⟨termination, htermination, h⟩ := bind_eq_ok.1 h
    obtain ⟨elapsedMillis, helapsed, h⟩ := bind_eq_ok.1 h
    cases h
    exact ⟨required_fits (codec_below _ _) hid, optional_fits codec_any nofun hvalue,
      optional_fits Termination.codec_option nofun htermination,
      required_fits (codec_below _ _) helapsed⟩

/-! ### Summaries of reports -/

/-- Whether a value is null. -/
def Json.isNull : Json → Bool
  | .null => true
  | _ => false

/-- A summary without its value, if that is null. -/
def Summary.dropNull (s : Summary) : Summary := { s with value := s.value.filter (!·.isNull) }

/-- A summary is written in the same way without a value that is null. -/
theorem Summary.toJson_dropNull (s : Summary) : s.dropNull.toJson = s.toJson := by
  have hvalue : s.dropNull.value.getD .null = s.value.getD .null := by
    unfold dropNull
    cases s.value with
    | none => rfl
    | some j => cases j <;> rfl
  simp only [toJson, hvalue]
  rfl

/-- A report whose number is a word of 64 bits and whose deadline, if it missed one, fits. -/
structure Report.Fits (r : Report) : Prop where
  /-- The number of the execution is a word. -/
  id : r.id < Nat.pow 2 64
  /-- The limit of a deadline fits. -/
  termination : ∀ t ∈ r.outcome.termination?, t.Fits

/-- All that a summary of a report may have and cannot be read is a value that is null. -/
theorem Report.Fits.summary {r : Report} (h : r.Fits) : r.summary.dropNull.Fits where
  id := h.id
  value hnull := by
    have hnot := (Option.filter_eq_some_iff.1 hnull).2
    cases hnot
  termination := h.termination
  elapsedMillis := Nat.mod_lt _ (Nat.pow_pos (by decide))

/-- The summary of every report is read from what is written of it, but for a value that is null,
which is left out. And whatever is read at all, of a summary or of one of its parts, is read again
from what is then written of it, whichever of the many ways to spell it stood there at first. -/
theorem serialized_forms_read_back :
    (∀ r : Report, r.Fits → Summary.ofJson r.summary.toJson = .ok r.summary.dropNull) ∧
      Normalizes Summary.toJson Summary.ofJson ∧ Normalizes FailureInfo.toJson FailureInfo.ofJson ∧
      Normalizes Lifecycle.toJson Lifecycle.ofJson ∧
      Normalizes Termination.toJson Termination.ofJson := by
  refine ⟨fun r h ↦ ?_, Summary.codec.normalizes, FailureInfo.codec.normalizes,
    Lifecycle.codec.normalizes, Termination.codec.normalizes⟩
  rw [← Summary.toJson_dropNull]
  exact Summary.codec.reads _ h.summary

/-- The summary of an execution that missed its deadline is read back; and a deadline whose record
is spelled as an array, with whole seconds among its nanoseconds, is brought to the form in which
it is written. -/
theorem serialized_forms_read_back_deadline :
    Summary.ofJson (Report.summary ⟨7, .terminated (.deadline ⟨1, 500000000⟩), ["tick"],
        ⟨1, 500250000⟩⟩).toJson =
      .ok ⟨7, .forciblyTerminated, none, ["tick"], none, some (.deadline ⟨1, 500000000⟩), 1500⟩ ∧
    Termination.ofJson (.object [("deadline",
        .object [("limit", .array [.int 1, .int 2500000000])])]) =
      .ok (.deadline ⟨3, 500000000⟩) ∧
    Termination.ofJson (.object [("deadline", .object [("limit",
        .object [("nanos", .int 500000000), ("secs", .int 3)])])]) =
      .ok (.deadline ⟨3, 500000000⟩) := by
  obtain ⟨hreports, -, -, -, hterminations⟩ := serialized_forms_read_back
  have hspelled : Termination.ofJson
      (.object [("deadline", .object [("limit", .array [.int 1, .int 2500000000])])]) =
        .ok (.deadline ⟨3, 500000000⟩) := by
    rfl
  refine ⟨hreports _ ⟨by decide, fun t ht ↦ ?_⟩, hspelled, hterminations _ _ hspelled⟩
  cases ht
  exact ⟨by decide, by decide⟩

end ScriptSandbox

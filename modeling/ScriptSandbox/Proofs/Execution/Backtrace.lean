import Mathlib.Data.List.Basic
import ScriptSandbox.Failure

/-!
# What is told of the calls an error left

An error is its cause, the place where it was raised, and the calls that it left on its way out, the
outermost first (`EvalError.throughCalls`). Whether it stops the run is for the cause to say,
however many calls there are; its frames are one for each call and one for the place
(`walks_agree`).

A call that an error left names the function that was called, and has its position in the function
that called it. The frames keep the two together, so they have the lines of all calls in order, but
with each the function that the line calls and not the one that it is part of, and the script itself
where the error was raised (`backtrace_names_callees`). They are those one would expect
(`bodyFrames`) only if there are no calls, or none of a function with a name of its own.
-/

namespace ScriptSandbox

namespace Script

/-- A call that an error left. -/
structure LeftCall where
  /-- The function that was called. -/
  function : String
  /-- The name of the text that it is from. -/
  source : String
  /-- The place of the call, in the function that called it. -/
  position : Position
  deriving DecidableEq, Repr

namespace EvalError

/-- The error after it left some calls; their head is the outermost. -/
def throughCalls (calls : List LeftCall) (e : EvalError) : EvalError :=
  calls.foldr (fun c inner ↦ .inCall c.function c.source inner c.position) e

/-- The calls that an error left, the outermost first. -/
def calls : EvalError → List LeftCall
  | raised _ _ => []
  | inCall function source inner p => ⟨function, source, p⟩ :: inner.calls

/-- The place where an error was raised. -/
def origin : EvalError → Position
  | raised _ p => p
  | inCall _ _ inner _ => inner.origin

/-- Every error was raised somewhere and left some calls. -/
theorem throughCalls_calls (e : EvalError) :
    throughCalls e.calls (.raised e.cause e.origin) = e := by
  induction e with
  | raised => rfl
  | inCall function source inner p ih => exact congrArg (inCall function source · p) ih

variable (calls : List LeftCall) (e : EvalError)

@[simp] theorem isTermination_throughCalls :
    (throughCalls calls e).isTermination = e.isTermination := by
  induction calls with
  | nil => rfl
  | cons c calls ih => exact ih

theorem frames_throughCalls :
    frames (throughCalls calls e) =
      calls.map (fun c ↦ frameText c.function c.position) ++ frames e := by
  induction calls with
  | nil => rfl
  | cons c calls ih => exact congrArg (frameText c.function c.position :: ·) ih

/-- The first frame stands at the outermost place. -/
theorem exists_frames_eq_cons {line : Nat} (h : e.position.line? = some line) :
    ∃ function rest, frames e = frameText function e.position :: rest := by
  cases e with
  | raised cause p =>
    cases p with
    | none => cases h
    | place => exact ⟨"<main>", [], rfl⟩
  | inCall function _ inner _ => exact ⟨function, frames inner, rfl⟩

end EvalError

end Script

open Script Script.EvalError

/-! ### Frames -/

theorem frameText_of_line? {p : Position} {line : Nat} (h : p.line? = some line)
    (function : String) :
    frameText function p = "at " ++ function ++ " (" ++ lineText line ++ ")" := by
  rw [frameText, h]

/-- Different functions have different frames at the same place. -/
theorem frameText_inj {function function' : String} {p : Position} :
    frameText function p = frameText function' p ↔ function = function' := by
  refine ⟨fun h ↦ ?_, fun h ↦ h ▸ rfl⟩
  cases p with
  | none => exact (String.append_right_inj "at ").1 h
  | place line column =>
    rw [frameText_of_line? rfl, frameText_of_line? rfl, String.append_left_inj,
      String.append_left_inj, String.append_left_inj] at h
    exact (String.append_right_inj "at ").1 h

/-- Frames at the same places differ if the functions do. -/
theorem zipWith_frameText_inj {places : List Position} {names names' : List String}
    (h : names.length = places.length) (h' : names'.length = places.length) :
    List.zipWith frameText names places = List.zipWith frameText names' places ↔
      names = names' := by
  induction places generalizing names names' with
  | nil => simp [List.length_eq_zero_iff.1 h, List.length_eq_zero_iff.1 h']
  | cons p places ih =>
    obtain ⟨name, rest, rfl⟩ := List.exists_cons_of_length_eq_add_one h
    obtain ⟨name', rest', rfl⟩ := List.exists_cons_of_length_eq_add_one h'
    rw [List.zipWith_cons_cons, List.zipWith_cons_cons, List.cons.injEq, List.cons.injEq,
      frameText_inj, ih (Nat.succ.inj h) (Nat.succ.inj h')]

theorem concat_eq_cons_iff {α : Type} {x : α} {xs : List α} :
    xs ++ [x] = x :: xs ↔ ∀ y ∈ xs, y = x := by
  induction xs with
  | nil => simp
  | cons y ys ih =>
    rw [List.cons_append, List.cons.injEq, List.forall_mem_cons]
    exact and_congr_right fun hy ↦ hy ▸ ih

theorem backtrace_eq_some_iff {e : EvalError} {lines : List String} :
    backtrace e = some lines ↔ frames e = lines ∧ lines ≠ [] := by
  rw [backtrace]
  cases frames e with
  | nil => simp +contextual [eq_comm]
  | cons => simpa using fun h ↦ h ▸ List.cons_ne_nil _ _

theorem backtrace_getD (e : EvalError) : (backtrace e).getD [] = frames e := by
  rw [backtrace]
  cases frames e with
  | nil => rfl
  | cons => rfl

theorem backtrace_eq_none_iff {e : EvalError} : backtrace e = none ↔ frames e = [] := by
  rw [backtrace]
  cases frames e with
  | nil => simp
  | cons => simp

/-! ### What is told of calls -/

/-- What is told of an error that was raised somewhere and left some calls. -/
structure Recounts (calls : List LeftCall) (origin : Position) (info : FailureInfo) : Prop where
  /-- There is a frame for each call, and one more if it is known where the error was raised. -/
  count : (info.backtrace.getD []).length = calls.length + if origin.isNone then 0 else 1
  /-- The first ones name the functions that were called, from the outermost in. -/
  named : (info.backtrace.getD []).take calls.length =
    calls.map fun c ↦ frameText c.function c.position
  /-- There is none exactly if the error left no calls and it is not known where it was raised. -/
  absent : info.backtrace = none ↔ calls = [] ∧ origin.isNone = true
  /-- A line that is told is that of the first frame. -/
  located : ∀ text, info.location = some text →
    ∃ function rest, info.backtrace = some (("at " ++ function ++ " (" ++ text ++ ")") :: rest)

theorem recounts_throughCalls (calls : List LeftCall) (cause : Cause) (origin : Position) :
    Recounts calls origin (Failure.runtime (throughCalls calls (.raised cause origin))).info where
  count := by
    show ((backtrace _).getD []).length = _
    rw [backtrace_getD, frames_throughCalls, List.length_append, List.length_map]
    cases origin with
    | none => rfl
    | place => rfl
  named := by
    show ((backtrace _).getD []).take calls.length = _
    rw [backtrace_getD, frames_throughCalls]
    exact List.take_left' (List.length_map _)
  absent := by
    show backtrace _ = none ↔ _
    rw [backtrace_eq_none_iff, frames_throughCalls, List.append_eq_nil_iff, List.map_eq_nil_iff]
    refine and_congr_right fun _ ↦ ?_
    cases origin with
    | none => simp [frames, Position.isNone]
    | place => simp [frames, Position.isNone]
  located text h := by
    obtain ⟨line, hline, rfl⟩ := Option.map_eq_some_iff.1 h
    obtain ⟨function, rest, hframes⟩ := exists_frames_eq_cons _ hline
    rw [frameText_of_line? hline] at hframes
    exact ⟨function, rest, backtrace_eq_some_iff.2 ⟨hframes, List.cons_ne_nil _ _⟩⟩

/-- **The cause alone says whether the run was stopped from outside, and the frames tell of all
calls.** Every error is of this kind, and no other failure stops a run from outside. -/
theorem walks_agree :
    (∀ calls cause origin,
      ((Failure.runtime (throughCalls calls (.raised cause origin))).isTermination = true ↔
        cause = .terminated) ∧
      Recounts calls origin (Failure.runtime (throughCalls calls (.raised cause origin))).info) ∧
    (∀ f : Failure, (∀ e, f ≠ .runtime e) → f.isTermination = false) ∧
    ∀ e, ∃ calls cause origin, e = throughCalls calls (.raised cause origin) := by
  refine ⟨fun calls cause origin ↦ ⟨?_, recounts_throughCalls calls cause origin⟩, fun f h ↦ ?_,
    fun e ↦ ⟨e.calls, e.cause, e.origin, (throughCalls_calls e).symm⟩⟩
  · rw [Failure.isTermination, isTermination_throughCalls]
    cases cause with
    | terminated => exact iff_of_true rfl rfl
    | _ => exact iff_of_false Bool.false_ne_true nofun
  · cases f with
    | runtime e => exact absurd rfl (h e)
    | _ => rfl

/-- An error that stops the run two calls deep, of which one is not known to have a place. -/
theorem walks_agree_nested :
    let f := Failure.runtime
      (throughCalls [⟨"f", "", .place 3 1⟩, ⟨"g", "lib", .none⟩] (.raised .terminated .none))
    f.isTermination = true ∧ (Failure.parse default).isTermination = false ∧
      f.info.backtrace = some ["at f (line 3)", "at g"] ∧
      ∃ function rest,
        f.info.backtrace = some (("at " ++ function ++ " (" ++ "line 3" ++ ")") :: rest) := by
  obtain ⟨hagree, hother, -⟩ := walks_agree
  obtain ⟨hstop, hrecounts⟩ :=
    hagree [⟨"f", "", .place 3 1⟩, ⟨"g", "lib", .none⟩] .terminated .none
  have hparse : (Failure.parse default).isTermination = false := hother _ fun _ h ↦ by cases h
  exact ⟨hstop.2 rfl, hparse, by decide, hrecounts.located "line 3" (by decide)⟩

/-! ### Whose lines they are -/

/-- The frames in which each function has the line of it that was left: the script the line of the
first call, every function the line of the call that follows, and the last one the line where the
error was raised. -/
def bodyFrames (calls : List LeftCall) (origin : Position) : List String :=
  List.zipWith frameText ("<main>" :: calls.map LeftCall.function)
    (calls.map LeftCall.position ++ [origin])

/-- The lines are those of the functions, but the names come one too early. -/
theorem frames_eq_zipWith (calls : List LeftCall) (cause : Cause) {origin : Position}
    (h : origin.isNone = false) :
    frames (throughCalls calls (.raised cause origin)) =
      List.zipWith frameText (calls.map LeftCall.function ++ ["<main>"])
        (calls.map LeftCall.position ++ [origin]) := by
  have hraised : frames (.raised cause origin) = [frameText "<main>" origin] := by
    rw [frames, h]
    rfl
  rw [frames_throughCalls, hraised, List.zipWith_append (by rw [List.length_map, List.length_map]),
    List.zipWith_map, List.zipWith_self]
  rfl

/-- **Frames name the function that a line calls, not the one that it is part of.** The names come
one too early, and the script last, with the line where the error was raised. So the frames are
those in which each function has a line of its own only if all functions that were called bear the
name of the script. -/
theorem backtrace_names_callees (calls : List LeftCall) (cause : Cause) {origin : Position}
    (h : origin.isNone = false) :
    (Failure.runtime (throughCalls calls (.raised cause origin))).info.backtrace =
        some (List.zipWith frameText (calls.map LeftCall.function ++ ["<main>"])
          (calls.map LeftCall.position ++ [origin])) ∧
      ((Failure.runtime (throughCalls calls (.raised cause origin))).info.backtrace =
          some (bodyFrames calls origin) ↔
        ∀ c ∈ calls, c.function = "<main>") := by
  have hbacktrace : backtrace (throughCalls calls (.raised cause origin)) =
      some (List.zipWith frameText (calls.map LeftCall.function ++ ["<main>"])
        (calls.map LeftCall.position ++ [origin])) := by
    refine backtrace_eq_some_iff.2 ⟨frames_eq_zipWith calls cause h, ?_⟩
    simp [List.zipWith_eq_nil_iff]
  refine ⟨hbacktrace, ?_⟩
  show backtrace _ = _ ↔ _
  -- The lines of both are the same, so the names have to be: all are that of the script, since
  -- each is the one that comes after it.
  rw [hbacktrace, Option.some_inj, bodyFrames,
    zipWith_frameText_inj (by simp) (by simp), concat_eq_cons_iff, List.forall_mem_map]

/-- The calls of a script that calls `f` in its third line; `f` calls `g` in the second line, and
`g` throws in the first. -/
def deepCalls : List LeftCall := [⟨"f", "", .place 3 1⟩, ⟨"g", "", .place 2 10⟩]

/-- The script stands with the line in which `g` raises the error. -/
theorem backtrace_names_callees_deep :
    let e := throughCalls deepCalls (.raised (.thrown (.string "deep")) (.place 1 10))
    (Failure.runtime e).info.backtrace =
        some ["at f (line 3)", "at g (line 2)", "at <main> (line 1)"] ∧
      bodyFrames deepCalls (.place 1 10) =
        ["at <main> (line 3)", "at f (line 2)", "at g (line 1)"] :=
  ⟨(backtrace_names_callees deepCalls _ rfl).1.trans (by decide), by decide⟩

/-- **Not every frame has a line of the function that it names.** -/
theorem not_backtrace_eq_bodyFrames :
    ¬ ∀ (calls : List LeftCall) (cause : Cause) (origin : Position),
      (∀ c ∈ calls, c.position.isNone = false) → origin.isNone = false →
        (Failure.runtime (throughCalls calls (.raised cause origin))).info.backtrace =
          some (bodyFrames calls origin) := by
  intro h
  have hdeep := h deepCalls (.thrown (.string "deep")) (.place 1 10) (by decide) rfl
  exact absurd hdeep (by decide)

end ScriptSandbox

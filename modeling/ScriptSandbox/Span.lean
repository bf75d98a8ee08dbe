import ScriptSandbox.Json.Decoder

/-!
# Spans of time

A span is whole seconds and nanoseconds below a second. It is shown in the greatest unit that
gives it an integer part, with the fraction's zeros cut.
-/

namespace ScriptSandbox

/-- A span of time. -/
structure Span where
  /-- Whole seconds. -/
  secs : Nat
  /-- Nanoseconds of the last, incomplete second. -/
  nanos : Nat
  deriving DecidableEq, Repr, Inhabited

namespace Span

/-- The nanoseconds of a second. -/
def nanosPerSecond : Nat := 1000000000

/-- The span of whole seconds. -/
def ofSeconds (n : Nat) : Span := ⟨n, 0⟩

/-- The empty span. -/
def zero : Span := ⟨0, 0⟩

/-- The span of a number of nanoseconds. -/
def ofNanos (n : Nat) : Span := ⟨n / nanosPerSecond, n % nanosPerSecond⟩

/-- All nanoseconds of a span. -/
def totalNanos (s : Span) : Nat := s.secs * nanosPerSecond + s.nanos

/-- The whole milliseconds of a span, as a word of 64 bits. -/
def millis (s : Span) : Nat := (s.secs * 1000 + s.nanos / 1000000) % Nat.pow 2 64

/-- A whole part and a fraction of `width` digits, in a unit; zeros at the end are cut. -/
def decimal (whole fraction width : Nat) (unit : String) : String :=
  let digits := (Text.decimalPadded width fraction).toList
  let kept := (digits.reverse.dropWhile (· = '0')).reverse
  if kept.isEmpty then toString whole ++ unit
  else toString whole ++ "." ++ String.ofList kept ++ unit

/-- A span in its greatest fitting unit. -/
def text (s : Span) : String :=
  if 0 < s.secs then decimal s.secs s.nanos 9 "s"
  else if 1000000 ≤ s.nanos then decimal (s.nanos / 1000000) (s.nanos % 1000000) 6 "ms"
  else if 1000 ≤ s.nanos then decimal (s.nanos / 1000) (s.nanos % 1000) 3 "µs"
  else decimal s.nanos 0 0 "ns"

/-- A span as a record. -/
def toJson (s : Span) : Json :=
  .object [("nanos", .int s.nanos), ("secs", .int s.secs)]

/-- The span with these parts; whole seconds among the nanoseconds are carried over, and the
seconds have to fit into 64 bits. -/
def ofParts? (secs nanos : Nat) : Option Span :=
  let secs := secs + nanos / nanosPerSecond
  if secs < Nat.pow 2 64 then some ⟨secs, nanos % nanosPerSecond⟩ else none

/-- The shape of a span's record. -/
def shape : Json.Shape :=
  .closed "Duration"
    [("secs", Json.checked Json.Decoder.word64), ("nanos", Json.checked Json.Decoder.word32)]

/-- Reads a span. -/
def ofJson : Json.Decoder Span :=
  shape.record fun members ↦ do
    let secs ← Json.required "secs" Json.Decoder.word64 members
    let nanos ← Json.required "nanos" Json.Decoder.word32 members
    match ofParts? secs nanos with
    | some s => return s
    | none => throw .spanOverflow

end Span

example : Span.text ⟨0, 1500000⟩ = "1.5ms" := by decide +kernel

end ScriptSandbox

/-!
# Durations

A duration is a whole number of nanoseconds. Its text uses the largest of the
units second, millisecond, microsecond and nanosecond that it reaches, with as
many decimals as it needs: `1s`, `1.5s`, `100ms`, `1.5µs`, `1ns`.
-/

namespace HttpEngine

/-- A length of time, to the nanosecond. -/
structure Duration where
  nanos : Nat
deriving Repr, DecidableEq

namespace Duration

/-- Nanoseconds in a second. -/
def nanosPerSecond : Nat := 1000000000

/-- Whole seconds. -/
def ofSeconds (seconds : Nat) : Duration :=
  ⟨seconds * nanosPerSecond⟩

/-- Whole milliseconds. -/
def ofMillis (millis : Nat) : Duration :=
  ⟨millis * 1000000⟩

/-- Seconds and nanoseconds together. -/
def ofParts (seconds nanos : Nat) : Duration :=
  ⟨seconds * nanosPerSecond + nanos⟩

/-- The whole seconds of a duration. -/
def seconds (d : Duration) : Nat :=
  d.nanos / nanosPerSecond

/-- The nanoseconds past the whole seconds. -/
def subsecond (d : Duration) : Nat :=
  d.nanos % nanosPerSecond

/-- The decimals of a fraction of `10 ^ places`, without trailing zeros. -/
def decimals (places fraction : Nat) : List Char :=
  let digits := Nat.toDigits 10 fraction
  let padded := List.replicate (places - digits.length) '0' ++ digits
  (padded.reverse.dropWhile (· == '0')).reverse

/-- A count of units of `10 ^ places` nanoseconds. -/
def inUnit
    (places : Nat) (unit : String) (nanos : Nat) :
    String :=
  let whole := toString (nanos / Nat.pow 10 places)
  match decimals places (nanos % Nat.pow 10 places) with
  | [] => whole ++ unit
  | fraction => whole ++ "." ++ String.ofList fraction ++ unit

/-- The text of a duration in the largest unit that it reaches. -/
def text (d : Duration) : String :=
  if nanosPerSecond ≤ d.nanos then inUnit 9 "s" d.nanos
  else if 1000000 ≤ d.nanos then inUnit 6 "ms" d.nanos
  else if 1000 ≤ d.nanos then inUnit 3 "µs" d.nanos
  else inUnit 0 "ns" d.nanos

end Duration
end HttpEngine

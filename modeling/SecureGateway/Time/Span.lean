namespace SecureGateway

/-- A length of time in whole nanoseconds. -/
structure Span where
  nanos : Nat
  deriving DecidableEq, Repr, Inhabited, Hashable

namespace Span

def zero : Span := ⟨0⟩

def ofMillis (ms : Nat) : Span := ⟨ms * 1_000_000⟩

def ofSeconds (s : Nat) : Span := ⟨s * 1_000_000_000⟩

def ofParts (seconds nanos : Nat) : Span := ⟨seconds * 1_000_000_000 + nanos⟩

def seconds (d : Span) : Nat := d.nanos / 1_000_000_000

def subsecond (d : Span) : Nat := d.nanos % 1_000_000_000

def wholeMillis (d : Span) : Nat := d.nanos / 1_000_000

def isZero (d : Span) : Bool := d.nanos == 0

def fractionDigits (width part : Nat) : String :=
  let digits := (toString part).toList
  let padded := List.replicate (width - digits.length) '0' ++ digits
  String.ofList (padded.reverse.dropWhile (· == '0')).reverse

def decimalText (whole part width : Nat) : String :=
  if part = 0 then toString whole else toString whole ++ "." ++ fractionDigits width part

/-- The span in its largest unit that leaves a nonzero whole part, with as many decimals as it
needs. -/
def text (d : Span) : String :=
  if 1_000_000_000 ≤ d.nanos then decimalText d.seconds d.subsecond 9 ++ "s"
  else if 1_000_000 ≤ d.nanos then decimalText (d.nanos / 1_000_000) (d.nanos % 1_000_000) 6 ++ "ms"
  else if 1_000 ≤ d.nanos then decimalText (d.nanos / 1_000) (d.nanos % 1_000) 3 ++ "µs"
  else toString d.nanos ++ "ns"

end Span

/-- A moment, in nanoseconds since an arbitrary origin. -/
abbrev Instant := Nat

namespace Instant

def after (t : Instant) (d : Span) : Instant := t + d.nanos

/-- Whether a clock that counts seconds in 63 bits can hold the moment. -/
def Representable (t : Instant) : Prop := t / 1_000_000_000 < 9_223_372_036_854_775_808

instance (t : Instant) : Decidable (Representable t) :=
  inferInstanceAs (Decidable (_ < _))

def after? (t : Instant) (d : Span) : Option Instant :=
  if (t.after d).Representable then some (t.after d) else none

def overflowMessage : String := "overflow when adding duration to instant"

theorem after?_eq_none_iff {t : Instant} {d : Span} :
    t.after? d = none ↔ ¬(t.after d).Representable := by
  simp [after?]

end Instant
end SecureGateway

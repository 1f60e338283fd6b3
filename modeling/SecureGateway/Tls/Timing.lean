import SecureGateway.Text.Blank
import SecureGateway.Tls.Failure

namespace SecureGateway

/-- The three time limits of a handshake stage. -/
structure TimingPolicy where
  handshake : Span
  closeNotifyFlush : Span
  closeNotifyRead : Span
  deriving DecidableEq, Repr, Hashable

/-- Defaults that hold for the whole process, read once at startup. -/
structure TlsDefaults where
  handshake : Span
  deriving DecidableEq, Repr

/-- A millisecond count from outside, refused by field name when it is negative. -/
def nonNegativeMillis (field : String) (ms : Int) : Except TlsError Span :=
  if 0 ≤ ms then .ok (.ofMillis ms.toNat)
  else .error (.invalidConfiguration (field ++ " must be >= 0 ms, got " ++ toString ms))

namespace TlsDefaults

def library : TlsDefaults := ⟨.ofMillis 10000⟩

def overrideVariable : String := "TLSGATE_SSL_HANDSHAKE_TIMEOUT"

/-- Reads an override; none at all or a blank one leaves the library's default. -/
def fromOverride : Option String → Except TlsError TlsDefaults
  | none => .ok library
  | some raw =>
    let value := Text.trim raw
    if value.isEmpty then .ok library
    else
      match Text.parseInt64? value.toList with
      | none => .error (.invalidConfiguration (overrideVariable ++
          " must be an integer millisecond count, got " ++ Text.quote value))
      | some ms => (nonNegativeMillis overrideVariable ms).map TlsDefaults.mk

end TlsDefaults

namespace TimingPolicy

/-- The first negative member is the one reported. -/
def ofMillis (handshake flush read : Int) : Except TlsError TimingPolicy := do
  let handshake ← nonNegativeMillis "handshake_timeout" handshake
  let flush ← nonNegativeMillis "close_notify_flush_timeout" flush
  let read ← nonNegativeMillis "close_notify_read_timeout" read
  return ⟨handshake, flush, read⟩

def withDefaults (d : TlsDefaults) : TimingPolicy :=
  ⟨d.handshake, .ofMillis 3000, .ofMillis 0⟩

def standard : TimingPolicy := withDefaults .library

def none : TimingPolicy := ⟨.zero, .zero, .zero⟩

def debugText (t : TimingPolicy) : String :=
  Text.recordText "TimingPolicy" [("handshake_timeout", t.handshake.text),
    ("close_notify_flush_timeout", t.closeNotifyFlush.text),
    ("close_notify_read_timeout", t.closeNotifyRead.text)]

end TimingPolicy

/-- Things that carry the three time limits, such as a handshake stage. -/
class Timed (η : Type) where
  timing : η → TimingPolicy
  withTiming : TimingPolicy → η → η

export Timed (timing withTiming)

def TimingPolicy.overruns (now : Instant) (t : TimingPolicy) : Bool :=
  !t.handshake.isZero && (now.after? t.handshake).isNone

/-- Stages that set themselves a deadline when they are activated. -/
class Deadlined (η : Type) where
  /-- Whether an activation now would panic over that deadline. -/
  overruns : Instant → η → Bool

end SecureGateway

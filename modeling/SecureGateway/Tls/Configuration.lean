import SecureGateway.Address.Remote
import SecureGateway.Tls.Profile
import SecureGateway.Tls.Timing

namespace SecureGateway

/-- A value with an identity: two handles are the same object when their serial numbers agree. -/
structure Shared (α : Type) where
  serial : Nat
  value : α
  deriving Repr

class TlsContext (κ : Type) (η : outParam Type) where
  newHandler : κ → Option SniTarget → Except TlsError η
  engineName : κ → String
  debugText : κ → String

/-- Where a context came from, as far as equality goes. -/
inductive SourceIdentity where
  | prebuilt (serial : Nat)
  | builder (fingerprint : String)
  deriving DecidableEq, Repr, Hashable

structure ConfigurationIdentity where
  source : SourceIdentity
  profile : Option DefaultProfile
  timing : TimingPolicy
  customizer : Option Nat
  deriving DecidableEq, Repr, Hashable

structure SslConfiguration (κ β η : Type) where
  context : Shared κ
  /-- The caller's builder, before any profile. -/
  contextBuilder : Option β
  profile : Option DefaultProfile
  timing : TimingPolicy
  /-- Run on every new handler, first to last. -/
  customizers : List (η → η)
  identity : ConfigurationIdentity

/-- Applies a profile to a builder and builds it; every failure is one of resolution. -/
def resolveContext {β κ : Type} [ContextBuilder β κ] (b : β) (profile : Option DefaultProfile) :
    Except TlsError κ :=
  let profiled := match profile with
    | some p => p.apply b
    | none => b
  match ContextBuilder.build profiled with
  | .ok c => .ok c
  | .error (.contextResolution reason) => .error (.contextResolution reason)
  | .error e => .error (.contextResolution e.message)

namespace SslConfiguration

variable {κ β η : Type}

/-- Equality looks at the identity alone. -/
def same (a b : SslConfiguration κ β η) : Bool := a.identity = b.identity

instance : BEq (SslConfiguration κ β η) := ⟨same⟩

instance : Hashable (SslConfiguration κ β η) := ⟨fun c => hash c.identity⟩

/-- Sets the timeouts, then runs the customizers. -/
def configure [Timed η] (c : SslConfiguration κ β η) (h : η) : η :=
  c.customizers.foldl (fun h f => f h) (withTiming c.timing h)

/-- The newest customizer runs first. -/
def withExtraCustomizer (c : SslConfiguration κ β η) (f : η → η) : SslConfiguration κ β η :=
  { c with customizers := f :: c.customizers }

/-- A copy with another profile. With a builder the context is made anew, under the given serial
number; a context that came ready made stays. -/
def withProfile [ContextBuilder β κ] (c : SslConfiguration κ β η) (p : DefaultProfile)
    (serial : Nat) : Except TlsError (SslConfiguration κ β η) :=
  match c.contextBuilder with
  | some b => (resolveContext b (some p)).map fun context =>
      { c with context := ⟨serial, context⟩, profile := some p }
  | none => .ok { c with profile := some p }

def hasCustomizer (c : SslConfiguration κ β η) : Bool := !c.customizers.isEmpty

def text [TlsContext κ η] (c : SslConfiguration κ β η) : String :=
  "SslConfiguration\x7bengine=" ++ TlsContext.engineName c.context.value ++
    ", profile=" ++ (c.profile.getD .none).text ++
    ", handshake_timeout=" ++ toString c.timing.handshake.wholeMillis ++
    "ms, close_notify_flush_timeout=" ++ toString c.timing.closeNotifyFlush.wholeMillis ++
    "ms, close_notify_read_timeout=" ++ toString c.timing.closeNotifyRead.wholeMillis ++ "ms\x7d"

def debugText [TlsContext κ η] [ContextBuilder β κ] (c : SslConfiguration κ β η) : String :=
  Text.recordText "SslConfiguration" [
    ("context", TlsContext.debugText c.context.value),
    ("context_builder", Text.optionText ContextBuilder.debugText c.contextBuilder),
    ("profile", Text.optionText DefaultProfile.debugText c.profile),
    ("timing", c.timing.debugText),
    ("customizer", Text.boolText c.hasCustomizer)]

end SslConfiguration

inductive ContextSource (κ β : Type) where
  | prebuilt (context : Shared κ)
  | builder (b : β)
  deriving Repr

/-- Collects the settings of a configuration; the first bad value is reported when it is built. -/
structure SslConfigurationBuilder (κ β η : Type) where
  source : Option (ContextSource κ β)
  profile : Option DefaultProfile
  timing : TimingPolicy
  customizer : Option (Shared (η → η))
  error : Option TlsError

namespace SslConfigurationBuilder

variable {κ β η : Type}

def new (d : TlsDefaults) : SslConfigurationBuilder κ β η :=
  ⟨none, none, .withDefaults d, none, none⟩

def tlsContext (c : Shared κ) (b : SslConfigurationBuilder κ β η) : SslConfigurationBuilder κ β η :=
  { b with source := some (.prebuilt c) }

def contextBuilder (r : β) (b : SslConfigurationBuilder κ β η) : SslConfigurationBuilder κ β η :=
  { b with source := some (.builder r) }

def defaultConfiguration (p : DefaultProfile) (b : SslConfigurationBuilder κ β η) :
    SslConfigurationBuilder κ β η :=
  { b with profile := some p }

def handshakeTimeout (d : Span) (b : SslConfigurationBuilder κ β η) :
    SslConfigurationBuilder κ β η :=
  { b with timing := { b.timing with handshake := d } }

def closeNotifyFlushTimeout (d : Span) (b : SslConfigurationBuilder κ β η) :
    SslConfigurationBuilder κ β η :=
  { b with timing := { b.timing with closeNotifyFlush := d } }

def closeNotifyReadTimeout (d : Span) (b : SslConfigurationBuilder κ β η) :
    SslConfigurationBuilder κ β η :=
  { b with timing := { b.timing with closeNotifyRead := d } }

/-- Sets a millisecond count where it is not negative, and else keeps the first complaint. -/
def checked (field : String) (ms : Int)
    (set : Span → SslConfigurationBuilder κ β η → SslConfigurationBuilder κ β η)
    (b : SslConfigurationBuilder κ β η) : SslConfigurationBuilder κ β η :=
  match nonNegativeMillis field ms with
  | .ok d => set d b
  | .error e => { b with error := b.error <|> some e }

def handshakeTimeoutMillis (ms : Int) (b : SslConfigurationBuilder κ β η) :
    SslConfigurationBuilder κ β η :=
  checked "handshake_timeout" ms handshakeTimeout b

def closeNotifyFlushTimeoutMillis (ms : Int) (b : SslConfigurationBuilder κ β η) :
    SslConfigurationBuilder κ β η :=
  checked "close_notify_flush_timeout" ms closeNotifyFlushTimeout b

def closeNotifyReadTimeoutMillis (ms : Int) (b : SslConfigurationBuilder κ β η) :
    SslConfigurationBuilder κ β η :=
  checked "close_notify_read_timeout" ms closeNotifyReadTimeout b

/-- The primary customizer replaces any earlier one. -/
def handlerCustomizer (f : Shared (η → η)) (b : SslConfigurationBuilder κ β η) :
    SslConfigurationBuilder κ β η :=
  { b with customizer := some f }

def ofClient (d : TlsDefaults) (r : β) : SslConfigurationBuilder κ β η :=
  ((new d).contextBuilder r).defaultConfiguration .tcp

/-- The context of a source and its part of the identity. A built one takes the serial number. -/
def resolveSource [ContextBuilder β κ] (profile : Option DefaultProfile) (serial : Nat) :
    ContextSource κ β → Except TlsError (Shared κ × SourceIdentity)
  | .prebuilt c => .ok (c, .prebuilt c.serial)
  | .builder r => (resolveContext r profile).map fun c =>
      (⟨serial, c⟩, .builder (ContextBuilder.fingerprint r))

def keptBuilder : ContextSource κ β → Option β
  | .prebuilt _ => none
  | .builder r => some r

def build [ContextBuilder β κ] (b : SslConfigurationBuilder κ β η) (serial : Nat) :
    Except TlsError (SslConfiguration κ β η) :=
  match b.error, b.source with
  | some e, _ => .error e
  | none, none =>
    .error (.invalidConfiguration "either a TLS context or a context builder must be provided")
  | none, some source =>
    (resolveSource b.profile serial source).map fun (context, identity) => {
      context
      contextBuilder := keptBuilder source
      profile := b.profile
      timing := b.timing
      customizers := (b.customizer.map (·.value)).toList
      identity := ⟨identity, b.profile, b.timing, b.customizer.map (·.serial)⟩ }

end SslConfigurationBuilder
end SecureGateway

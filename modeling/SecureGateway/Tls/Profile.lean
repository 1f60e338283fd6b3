import SecureGateway.Tls.CipherSuite

namespace SecureGateway

inductive TlsRole where
  | client
  | server
  deriving DecidableEq, Repr

namespace TlsRole

def text : TlsRole → String
  | client => "client"
  | server => "server"

def debugText : TlsRole → String
  | client => "Client"
  | server => "Server"

end TlsRole

inductive TlsBackend where
  | standard
  | native
  deriving DecidableEq, Repr, Inhabited

inductive SelectorFailure where
  | noAdvertise
  | chooseMyLastProtocol
  | fatalAlert
  deriving DecidableEq, Repr, Inhabited

inductive ListenerFailure where
  | accept
  | chooseMyLastProtocol
  | fatalAlert
  deriving DecidableEq, Repr, Inhabited

/-- Protocols to negotiate, most wanted first, and what to do where that fails. -/
structure AlpnConfig where
  protocols : List String
  selectorFailure : SelectorFailure
  listenerFailure : ListenerFailure
  deriving DecidableEq, Repr

inductive DefaultProfile where
  | none
  | tcp
  | h2
  deriving DecidableEq, Repr, Inhabited, Hashable

namespace TlsBackend

/-- Only the built-in backend is part of this program. -/
def isAvailable : TlsBackend → Bool
  | standard => true
  | native => false

def supportsAlpn (b : TlsBackend) : Bool := b.isAvailable

def debugText : TlsBackend → String
  | standard => "Default"
  | native => "Native"

def preferred (usable : TlsBackend → Bool) : TlsBackend :=
  if usable native then native else standard

end TlsBackend

namespace SelectorFailure

def all : List SelectorFailure := [noAdvertise, chooseMyLastProtocol, fatalAlert]

def debugText : SelectorFailure → String
  | noAdvertise => "NoAdvertise"
  | chooseMyLastProtocol => "ChooseMyLastProtocol"
  | fatalAlert => "FatalAlert"

end SelectorFailure

namespace ListenerFailure

def all : List ListenerFailure := [accept, chooseMyLastProtocol, fatalAlert]

def debugText : ListenerFailure → String
  | accept => "Accept"
  | chooseMyLastProtocol => "ChooseMyLastProtocol"
  | fatalAlert => "FatalAlert"

end ListenerFailure

namespace AlpnConfig

def h2 : AlpnConfig := ⟨["h2", "http/1.1"], .noAdvertise, .accept⟩

def debugText (a : AlpnConfig) : String :=
  Text.recordText "AlpnConfig" [("protocols", Text.listText Text.quote a.protocols),
    ("selector_failure", a.selectorFailure.debugText),
    ("listener_failure", a.listenerFailure.debugText)]

end AlpnConfig

/-- A recipe of type `β` for contexts of type `κ`. Builders with equal fingerprints build alike. -/
class ContextBuilder (β : Type) (κ : outParam Type) where
  setBackend : TlsBackend → β → β
  setCiphers : Option (List String) → CipherFilter → β → β
  setAlpn : Option AlpnConfig → β → β
  build : β → Except TlsError κ
  fingerprint : β → String
  debugText : β → String

namespace DefaultProfile

def text : DefaultProfile → String
  | none => "none"
  | tcp => "tcp"
  | h2 => "h2"

def debugText : DefaultProfile → String
  | none => "None"
  | tcp => "Tcp"
  | h2 => "H2"

/-- The suites of TLS 1.2 that HTTP/2 allows. -/
def h2Ciphers : List String := [
  "TLS_ECDHE_ECDSA_WITH_AES_256_GCM_SHA384",
  "TLS_ECDHE_RSA_WITH_AES_256_GCM_SHA384",
  "TLS_ECDHE_ECDSA_WITH_CHACHA20_POLY1305_SHA256",
  "TLS_ECDHE_RSA_WITH_CHACHA20_POLY1305_SHA256",
  "TLS_ECDHE_ECDSA_WITH_AES_128_GCM_SHA256",
  "TLS_ECDHE_RSA_WITH_AES_128_GCM_SHA256"]

/-- What a profile makes of a builder; `none` leaves it alone. -/
def apply [ContextBuilder β κ] (p : DefaultProfile) (b : β) : β :=
  open ContextBuilder in
  match p with
  | none => b
  | tcp =>
    setAlpn Option.none (setCiphers Option.none .identity
      (setBackend (TlsBackend.preferred TlsBackend.isAvailable) b))
  | h2 =>
    setAlpn (some .h2) (setCiphers (some h2Ciphers) .supported
      (setBackend (TlsBackend.preferred TlsBackend.supportsAlpn) b))

end DefaultProfile
end SecureGateway

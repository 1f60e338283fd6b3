import SecureGateway.Address.Remote
import SecureGateway.Basic
import SecureGateway.Tls.Failure

namespace SecureGateway

inductive HandshakeOutcome where
  | success
  | failure (cause : Cause)
  deriving DecidableEq, Repr

namespace HandshakeOutcome

def isSuccess : HandshakeOutcome → Bool
  | success => true
  | failure _ => false

end HandshakeOutcome

inductive UserEvent where
  | handshakeCompleted (outcome : HandshakeOutcome)
  | closeNotifyReceived
  deriving DecidableEq, Repr

/-- Signals that travel from the transport to the application. -/
inductive Inbound where
  | registered
  | active
  | read (data : Bytes)
  | readComplete
  | event (e : UserEvent)
  | exception (cause : Cause)
  | inactive
  | tick (now : Instant)
  deriving DecidableEq, Repr

/-- Operations that travel from the application to the transport. -/
inductive Outbound where
  | write (data : Bytes)
  | read
  | close
  deriving DecidableEq, Repr

inductive Signal where
  | inbound (s : Inbound)
  | outbound (op : Outbound)
  deriving DecidableEq, Repr

structure Channel where
  id : Nat
  remote : Option RemoteAddress
  deriving DecidableEq, Repr

end SecureGateway

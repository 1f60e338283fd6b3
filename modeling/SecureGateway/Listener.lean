import SecureGateway.Address.Socket
import SecureGateway.Config.Schema
import SecureGateway.Tls.Failure

namespace SecureGateway

inductive ListenerError where
  | bind (error : IoError)
  | accept (error : IoError)
  | closed
  deriving DecidableEq, Repr

def ListenerError.message : ListenerError → String
  | bind e => "Failed to bind: " ++ e.text
  | accept e => "Failed to accept: " ++ e.text
  | closed => "Listener closed"

/-- A permit is taken before the next client is accepted and comes back when its connection is let
go. -/
structure Listener where
  address : SocketAddress
  maxConnections : Nat
  permits : Nat
  /-- Clients that nobody accepted yet. -/
  backlog : Nat
  deriving DecidableEq, Repr

inductive ListenerStart where
  | listening (l : Listener)
  | refused (error : ListenerError)
  | panicked (message : String)
  deriving DecidableEq, Repr

namespace Listener

/-- The most permits that can be handed out, `2^61 - 1`. -/
def maxPermits : Nat := 2_305_843_009_213_693_951

def permitsMessage : String :=
  "a semaphore may not have more than MAX_PERMITS permits (" ++ toString maxPermits ++ ")"

def bind (c : ListenerConfig) : Except ListenerError Listener :=
  match SocketAddress.parse? c.bindAddress with
  | some address => .ok ⟨address, c.maxConnections, c.maxConnections, 0⟩
  | none => .error (.bind (.custom "invalid socket address syntax"))

/-- The permits are made after the address is taken, and a number that is too large is no error. -/
def start (c : ListenerConfig) : ListenerStart :=
  match bind c with
  | .error e => .refused e
  | .ok l => if l.permits ≤ maxPermits then .listening l else .panicked permitsMessage

def arrive (l : Listener) : Listener := { l with backlog := l.backlog + 1 }

/-- Takes a permit and a client; nothing while either is missing, and then nothing is taken. -/
def accept (l : Listener) : Option Listener :=
  if 0 < l.permits ∧ 0 < l.backlog then
    some { l with permits := l.permits - 1, backlog := l.backlog - 1 }
  else none

def release (l : Listener) : Listener := { l with permits := l.permits + 1 }

end Listener
end SecureGateway

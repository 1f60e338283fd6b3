import SecureGateway.Connection.Failure
import SecureGateway.Connection.Options
import SecureGateway.Tls.Install
import SecureGateway.Tls.Secured

namespace SecureGateway

/-- What bytes are sent or received for. Draining is the wait for the peer's goodbye. -/
inductive Errand where
  | opening
  | writing
  | reading
  | closing
  | draining
  deriving DecidableEq, Repr

/-- The points at which a connection waits. -/
inductive Job where
  | idle
  /-- For the socket to take the rest of some chunks. -/
  | sending (errand : Errand) (unsent : List Bytes)
  /-- For bytes, if a stage asked for them, or for the next tick. -/
  | awaitingActive
  | receiving (errand : Errand)
  | ended
  deriving DecidableEq, Repr

/-- A pipeline over a socket that takes and gives bytes when it pleases. What an operation waits for
is part of the state, so that it can be resumed, and dropped, at every such point. -/
structure Connection (η ξ ω : Type) where
  remote : RemoteAddress
  pipeline : Pipeline (Occupant η ξ)
  env : Env ω
  /-- Signals from the end of the pipeline that nobody looked at yet. -/
  pending : List Inbound
  readPending : Bool
  endOfStream : Bool
  closeTiming : Option TimingPolicy
  connectTimeout : Span
  job : Job
  deadline : Option Instant
  nextTick : Instant
  shutDown : Bool

inductive Outcome where
  | opened
  | wrote
  | received (data : Option Bytes)
  | closed
  deriving DecidableEq, Repr

/-- A connection after a step, and the outcome of its operation if that is settled. -/
abbrev Advance (η ξ ω : Type) := Connection η ξ ω × Option (Except ConnectError Outcome)

namespace ConnectOptions

variable {κ β η ξ : Type} [Timed η] [TlsContext κ η]

/-- The chain of a connection: byte counts last, wire logging first, and then the securing stages. -/
def assemble (o : ConnectOptions κ β η) (channel : Channel) :
    Except TlsError (Pipeline (Occupant η ξ)) :=
  let p : Pipeline (Occupant η ξ) := .new channel
  match p.addAll ((if o.metrics then [(.last, .channelMetrics, .metrics)] else []) ++
      (if o.wiretap then [(.first, .logging, .logging .wire)] else [])) with
  | (_, some e) => .error (.pipeline e)
  | (p, none) =>
    match o.ssl with
    | none => .ok p
    | some ssl =>
      match install p channel.remote ssl o.sslDebug with
      | (_, some e) => .error e
      | (p, none) => .ok p

end ConnectOptions

namespace Connection

variable {η ξ ω : Type}

def readBufferSize : Nat := 16 * 1024

def tickInterval : Span := .ofMillis 100

def handshake? (c : Connection η ξ ω) : Option η :=
  match c.pipeline.get? .ssl with
  | some (.handshake h) => some h
  | _ => none

def alpn? [Secured η] (c : Connection η ξ ω) : Option String := c.handshake?.bind Secured.alpn

def version? [Secured η] (c : Connection η ξ ω) : Option String := c.handshake?.bind Secured.version

def suite? [Secured η] (c : Connection η ξ ω) : Option String := c.handshake?.bind Secured.suite

def closeNotifyReceived [Secured η] (c : Connection η ξ ω) : Bool :=
  (c.handshake?.map Secured.closeNotifyReceived).getD false

def debugTextWith (id : String) (c : Connection η ξ ω) : String :=
  Text.recordText "Connection" [("id", id), ("remote", c.remote.debugText),
    ("pipeline", c.pipeline.debugTextWith id)]

end Connection
end SecureGateway

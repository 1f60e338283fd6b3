import SecureGateway.Connection.Launch
import SecureGateway.Rehearsal.Peer

namespace SecureGateway

namespace Connection

variable {η ξ ω : Type} [Recorder ω] [Secured η]

/-- When the connection has to be looked at again although the socket does nothing. -/
def wakeTime (c : Connection η ξ ω) : Option Instant :=
  if c.job = .awaitingActive then sooner c.deadline (some c.nextTick) else c.deadline

/-- The clock's part of a turn: a tick comes before a deadline. -/
def clockTurn (k : StageKit η ξ ω) (now : Instant) (c : Connection η ξ ω) (d : Duplex) :
    Option (Turn (Advance η ξ ω × Duplex)) :=
  if c.job = .awaitingActive ∧ c.nextTick ≤ now then
    (c.tick k now).map fun a => .moved (a, d)
  else if c.deadline.any (· ≤ now) then (c.expire k now).map fun a => .moved (a, d)
  else some (.waits c.wakeTime)

def readTurn (k : StageKit η ξ ω) (now : Instant) (c : Connection η ξ ω) (d : Duplex) :
    Option (Turn (Advance η ξ ω × Duplex)) :=
  match d.incoming.read readBufferSize with
  | some (bs, incoming) => (c.received k now bs).map fun a => .moved (a, { d with incoming })
  | none => c.clockTurn k now d

/-- One turn over an end of a stream; nothing where a dispatch does not end. -/
def turn (k : StageKit η ξ ω) (now : Instant) (c : Connection η ξ ω) (d : Duplex) :
    Option (Turn (Advance η ξ ω × Duplex)) :=
  match c.job with
  | .sending _ (chunk :: _) =>
    match d.outgoing.write chunk with
    | none => (c.socketFailed k now .brokenPipe).map fun a => .moved (a, d)
    | some (0, _) => c.clockTurn k now d
    | some (n, outgoing) => (c.sent k now n).map fun a => .moved (a, { d with outgoing })
  | .awaitingActive => if c.readPending then c.readTurn k now d else c.clockTurn k now d
  | .receiving _ => c.readTurn k now d
  | _ => some (.waits none)

end Connection

structure Caller (η ξ ω : Type) where
  connection : Connection η ξ ω
  result : Option (Except ConnectError Outcome)

namespace Caller

variable {η ξ ω : Type} [Recorder ω] [Secured η]

def opening? {κ β : Type} [Timed η] [Deadlined η] [TlsContext κ η] (k : StageKit η ξ ω)
    (o : ConnectOptions κ β η) (id : Nat) (remote : RemoteAddress) (env : Env ω) :
    Option (Caller η ξ ω) :=
  match Connection.launch k 0 o id remote env with
  | .started a => some ⟨a.1, a.2⟩
  | .endless => some ⟨.start 0 o remote (.new ⟨id, some remote⟩) env, none⟩
  | .panicked _ => none

def isSettled (c : Caller η ξ ω) : Bool := c.result.isSome

def isGone (c : Caller η ξ ω) : Bool := c.connection.job = .ended

def after (a : Advance η ξ ω) (d : Duplex) : Caller η ξ ω × Duplex :=
  (⟨a.1, a.2⟩, if a.1.job = .ended then d.drop else d)

def play (k : StageKit η ξ ω) : Play (Caller η ξ ω) := fun now c d =>
  if c.isSettled then .waits none
  else
    match c.connection.turn k now d with
    | some (.moved (a, d)) => .moved (after a d)
    | some (.waits t) => .waits t
    | none => .waits none

def drop (c : Caller η ξ ω) : Caller η ξ ω :=
  { c with connection := { c.connection with job := .ended } }

end Caller

abbrev Operation (η ξ ω : Type) := Instant → Connection η ξ ω → Option (Advance η ξ ω)

namespace Encounter

variable {η ξ ω α β : Type} [Recorder ω] [Secured η]

/-- A connection has the near end of a new stream, unless it is over already. -/
def ofCaller (c : Caller η ξ ω) (far : β) (capacity : Nat) : Encounter (Caller η ξ ω) β :=
  let d := Duplex.ofCapacity capacity
  ⟨0, c, far, if c.isGone then d.drop else d⟩

def ofCallers (a b : Caller η ξ ω) (capacity : Nat) :
    Encounter (Caller η ξ ω) (Caller η ξ ω) :=
  let e := ofCaller a b capacity
  if b.isGone then { e with stream := e.stream.drop } else e

def start (op : Operation η ξ ω) (e : Encounter (Caller η ξ ω) β) : Encounter (Caller η ξ ω) β :=
  match op e.now e.near.connection with
  | none => { e with near := { e.near with result := none } }
  | some a =>
    let (near, stream) := Caller.after a e.stream
    { e with near, stream }

def settle (k : StageKit η ξ ω) (far : Play β) (e : Encounter (Caller η ξ ω) β) :
    Encounter (Caller η ξ ω) β :=
  (e.run (Caller.play k) far fun c _ => c.isSettled).1

def settleBoth (k : StageKit η ξ ω) (e : Encounter (Caller η ξ ω) (Caller η ξ ω)) :
    Encounter (Caller η ξ ω) (Caller η ξ ω) :=
  (e.run (Caller.play k) (Caller.play k) fun a b => a.isSettled && b.isSettled).1

/-- The near connection does nothing for a while; the flag is false if that has no end. -/
def pass (far : Play β) (d : Span) (e : Encounter (Caller η ξ ω) β) :
    Encounter (Caller η ξ ω) β × Bool :=
  let (r, awake) := (e.withNear (some (e.now.after d))).run Play.sleep far fun wake _ => wake.isNone
  (r.withNear e.near, awake)

def drop (e : Encounter (Caller η ξ ω) β) : Encounter (Caller η ξ ω) β :=
  { e with near := e.near.drop, stream := e.stream.drop }

end Encounter

inductive TrialStep where
  | write (data : Bytes)
  | read
  | close
  | sleep (d : Span)
  | drop
  deriving DecidableEq, Repr

namespace TrialStep

variable {η ξ ω β : Type} [Recorder ω] [Secured η]

def operation (k : StageKit η ξ ω) : TrialStep → Option (Operation η ξ ω)
  | write data => some fun now c => c.write k now data
  | read => some fun now c => c.read k now
  | close => some fun now c => c.close k now
  | _ => none

def perform (k : StageKit η ξ ω) (far : Play β) (step : TrialStep)
    (e : Encounter (Caller η ξ ω) β) : Encounter (Caller η ξ ω) β × Bool :=
  match step, step.operation k with
  | .sleep d, _ => e.pass far d
  | _, some op =>
    let e := (e.start op).settle k far
    (e, e.near.isSettled)
  | _, none => (e.drop, true)

end TrialStep

/-- What was seen of a connection in a trial: its opening, if that is settled, and then each step. -/
structure TrialReport (η ξ ω : Type) where
  opening : Option (Except ConnectError Outcome)
  opened : Caller η ξ ω
  results : List (TrialStep × Option (Except ConnectError Outcome))
  stuck : Bool
  last : Caller η ξ ω
  peer : Peer

namespace TrialReport

variable {η ξ ω : Type} [Recorder ω] [Secured η]

def finish (e : Encounter (Caller η ξ ω) Peer) (r : TrialReport η ξ ω) : TrialReport η ξ ω :=
  let alone := (e.drop.run (fun _ _ _ => .waits none) Peer.play fun _ p => p.finished).1
  { r with last := e.near, peer := alone.far }

def steps (k : StageKit η ξ ω) :
    List TrialStep → Encounter (Caller η ξ ω) Peer → TrialReport η ξ ω → TrialReport η ξ ω
  | [], e, r => r.finish e
  | step :: rest, e, r =>
    if e.near.isGone then r.finish e
    else
      let (e, ok) := step.perform k Peer.play e
      if ok then steps k rest e { r with results := r.results ++ [(step, e.near.result)] }
      else { r with stuck := true }.finish e

def ofSteps (k : StageKit η ξ ω) (c : Caller η ξ ω) (peer : Peer) (capacity : Nat)
    (todo : List TrialStep) : TrialReport η ξ ω :=
  let e := (Encounter.ofCaller c peer capacity).settle k Peer.play
  let r : TrialReport η ξ ω := ⟨e.near.result, e.near, [], !e.near.isSettled, e.near, e.far⟩
  if r.stuck then r.finish e else steps k todo e r

end TrialReport
end SecureGateway

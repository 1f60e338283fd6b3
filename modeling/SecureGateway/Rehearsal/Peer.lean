import SecureGateway.Rehearsal.Encounter

namespace SecureGateway

inductive PeerAct where
  | read (n : Nat)
  | write (bs : Bytes)
  | readAll
  | sleep (d : Span)
  | shutDown
  | hold
  deriving DecidableEq, Repr

inductive PeerNote where
  | read (bs : Bytes)
  | readAll (bs : Bytes)
  | endOfStream
  | writeFailed
  deriving DecidableEq, Repr

structure Peer where
  script : List PeerAct
  /-- What the current act has read or written so far. -/
  done : Bytes
  asleepUntil : Option Instant
  notes : List PeerNote
  finished : Bool
  deriving DecidableEq, Repr

namespace Peer

def ofScript (script : List PeerAct) : Peer := ⟨script, [], none, [], false⟩

/-- After a write a peer pauses. -/
def pause : Span := .ofMillis 1

def next (p : Peer) : Peer := { p with script := p.script.tail, done := [] }

def note (n : PeerNote) (p : Peer) : Peer := { p.next with notes := p.notes ++ [n] }

def sleepUntil (t : Instant) (p : Peer) : Peer := { p.next with asleepUntil := some t }

def act (now : Instant) (p : Peer) (d : Duplex) : PeerAct → Turn (Peer × Duplex)
  | .read n =>
    if n ≤ p.done.length then .moved (p.note (.read p.done), d)
    else
      match d.incoming.read (n - p.done.length) with
      | none => .waits none
      | some ([], incoming) => .moved (p.note .endOfStream, { d with incoming })
      | some (bs, incoming) => .moved ({ p with done := p.done ++ bs }, { d with incoming })
  | .readAll =>
    match d.incoming.read d.incoming.buffer.length with
    | none => .waits none
    | some ([], incoming) => .moved (p.note (.readAll p.done), { d with incoming })
    | some (bs, incoming) => .moved ({ p with done := p.done ++ bs }, { d with incoming })
  | .write bs =>
    if bs.length ≤ p.done.length then .moved (p.sleepUntil (now.after pause), d)
    else
      match d.outgoing.write (bs.drop p.done.length) with
      | none => .moved (p.note .writeFailed, d)
      | some (0, _) => .waits none
      | some (n, outgoing) =>
        .moved ({ p with done := bs.take (p.done.length + n) }, { d with outgoing })
  | .sleep t => .moved (p.sleepUntil (now.after t), d)
  | .shutDown => .moved (p.next, { d with outgoing := d.outgoing.close })
  | .hold => .waits none

def play : Play Peer := fun now p d =>
  match p.asleepUntil with
  | some t => if t ≤ now then .moved ({ p with asleepUntil := none }, d) else .waits (some t)
  | none =>
    match p.script with
    | a :: _ => p.act now d a
    | [] => if p.finished then .waits none else .moved ({ p with finished := true }, d.drop)

end Peer
end SecureGateway

import SecureGateway.Basic

namespace SecureGateway

/-- One direction of a stream: what is under way, how much may be, and whether either end is closed. -/
structure Pipe where
  capacity : Nat
  buffer : Bytes
  closed : Bool
  deriving DecidableEq, Repr

namespace Pipe

def ofCapacity (n : Nat) : Pipe := ⟨n, [], false⟩

/-- Takes as many bytes as there is room for, none when it is full; nothing when it is closed. -/
def write (bs : Bytes) (p : Pipe) : Option (Nat × Pipe) :=
  if p.closed then none
  else
    let taken := bs.take (p.capacity - p.buffer.length)
    some (taken.length, { p with buffer := p.buffer ++ taken })

/-- Gives up to `most` bytes, and none at the end of a closed pipe; nothing when it has to wait. -/
def read (most : Nat) (p : Pipe) : Option (Bytes × Pipe) :=
  if !p.buffer.isEmpty then some (p.buffer.take most, { p with buffer := p.buffer.drop most })
  else if p.closed then some ([], p)
  else none

def close (p : Pipe) : Pipe := { p with closed := true }

end Pipe

structure Duplex where
  incoming : Pipe
  outgoing : Pipe
  deriving DecidableEq, Repr

namespace Duplex

def ofCapacity (n : Nat) : Duplex := ⟨.ofCapacity n, .ofCapacity n⟩

def flip (d : Duplex) : Duplex := ⟨d.outgoing, d.incoming⟩

def drop (d : Duplex) : Duplex := ⟨d.incoming.close, d.outgoing.close⟩

end Duplex
end SecureGateway

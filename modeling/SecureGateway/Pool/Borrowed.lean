import SecureGateway.Connection.Progress

namespace SecureGateway

structure PooledConnection (η ξ ω : Type) where
  connection : Connection η ξ ω
  reused : Bool
  reusable : Bool

namespace PooledConnection

variable {η ξ ω : Type}

def ofConnection (c : Connection η ξ ω) (reused : Bool) : PooledConnection η ξ ω := ⟨c, reused, true⟩

/-- An operation that fails, or a read that gets no data, spoils a connection. -/
def spoils : Except ConnectError Outcome → Bool
  | .error _ => true
  | .ok (.received none) => true
  | .ok _ => false

/-- Moves the connection on; only an operation that is settled can spoil it. -/
def advance (step : Connection η ξ ω → Option (Advance η ξ ω)) (p : PooledConnection η ξ ω) :
    Option (PooledConnection η ξ ω × Option (Except ConnectError Outcome)) :=
  (step p.connection).map fun (connection, r) =>
    ({ p with connection, reusable := p.reusable && !r.any spoils }, r)

def invalidate (p : PooledConnection η ξ ω) : PooledConnection η ξ ω := { p with reusable := false }

/-- What is parked when the loan ends. -/
def kept? (p : PooledConnection η ξ ω) : Option (Connection η ξ ω) :=
  if p.reusable then some p.connection else none

def debugTextWith (id pool : String) (p : PooledConnection η ξ ω) : String :=
  Text.recordText "PooledConnection" [("id", id), ("pool_id", Text.quote pool),
    ("reused", Text.boolText p.reused), ("reusable", Text.boolText p.reusable)]

end PooledConnection
end SecureGateway

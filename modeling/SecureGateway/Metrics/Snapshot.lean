import SecureGateway.Basic
import SecureGateway.Text.Quoted

namespace SecureGateway

/-- The six counters of a pool at one moment; `unbounded` stands for a missing limit. -/
structure PoolSnapshot where
  acquired : Nat
  allocated : Nat
  idle : Nat
  pendingAcquire : Nat
  maxAllocated : Nat
  maxPendingAcquire : Nat
  deriving DecidableEq, Repr

namespace PoolSnapshot

def toList (s : PoolSnapshot) : List Nat :=
  [s.acquired, s.allocated, s.idle, s.pendingAcquire, s.maxAllocated, s.maxPendingAcquire]

def named (s : PoolSnapshot) : List (String × Nat) :=
  ["acquired", "allocated", "idle", "pending_acquire", "max_allocated", "max_pending_acquire"].zip
    s.toList

end PoolSnapshot
end SecureGateway

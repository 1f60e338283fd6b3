import SecureGateway.Config.Schema
import SecureGateway.Connection.Failure
import SecureGateway.Metrics.Snapshot

namespace SecureGateway

/-- Limits of one pool; a missing one means any number. -/
structure PoolLimits where
  maxConnections : Option Nat
  pendingAcquireMax : Option Nat
  pendingAcquireTimeout : Span
  deriving DecidableEq, Repr

namespace PoolLimits

def standard : PoolLimits := ⟨some 16, none, .ofSeconds 45⟩

/-- A negative bound on waiting acquires means that there is none. -/
def ofConfig (c : PoolConfig) : PoolLimits where
  maxConnections := some c.maxConnections
  pendingAcquireMax := if 0 ≤ c.pendingAcquireMax then some c.pendingAcquireMax.toNat else none
  pendingAcquireTimeout := .ofMillis c.pendingAcquireTimeoutMs

def debugText (l : PoolLimits) : String :=
  Text.recordText "PoolLimits" [
    ("max_connections", Text.optionText toString l.maxConnections),
    ("pending_acquire_max", Text.optionText toString l.pendingAcquireMax),
    ("pending_acquire_timeout", l.pendingAcquireTimeout.text)]

end PoolLimits

inductive PoolError where
  | pendingAcquireLimit (max : Nat)
  | pendingAcquireTimeout (limit : Span)
  | connect (error : ConnectError)
  | disposed
  deriving DecidableEq, Repr

namespace PoolError

def message : PoolError → String
  | pendingAcquireLimit max => "too many pending acquires (max " ++ toString max ++ ")"
  | pendingAcquireTimeout limit => "pending acquire timed out after " ++ limit.text
  | connect e => "connect failed: " ++ e.message
  | disposed => "connection provider disposed"

end PoolError
end SecureGateway

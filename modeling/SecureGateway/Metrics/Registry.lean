import SecureGateway.Decimal.Binary64
import SecureGateway.Metrics.Record
import SecureGateway.Metrics.Snapshot

namespace SecureGateway

open Decimal

/-- A gauge keeps the last value, a counter the sum modulo 2^64, a histogram everything. -/
inductive Meter where
  | gauge (value : Binary64)
  | counter (value : Nat)
  | histogram (values : List Binary64)
  deriving Repr

structure MeterKey where
  metric : String
  labels : List (String × String)
  deriving DecidableEq, Repr

structure MeterRegistry where
  meters : List (MeterKey × Meter)
  deriving Repr

namespace MeterRegistry

def empty : MeterRegistry := ⟨[]⟩

def get? (r : MeterRegistry) (key : MeterKey) : Option Meter :=
  (r.meters.find? fun m => m.1 = key).map (·.2)

def put (r : MeterRegistry) (key : MeterKey) (m : Meter) : MeterRegistry :=
  ⟨(r.meters.filter fun e => e.1 ≠ key) ++ [(key, m)]⟩

def setGauge (key : MeterKey) (value : Nat) (r : MeterRegistry) : MeterRegistry :=
  r.put key (.gauge (Binary64.ofNat value))

def increment (key : MeterKey) (n : Nat) (r : MeterRegistry) : MeterRegistry :=
  match r.get? key with
  | some (.counter value) => r.put key (.counter ((value + n) % UInt64.size))
  | _ => r.put key (.counter (n % UInt64.size))

def observe (key : MeterKey) (value : Binary64) (r : MeterRegistry) : MeterRegistry :=
  match r.get? key with
  | some (.histogram values) => r.put key (.histogram (values ++ [value]))
  | _ => r.put key (.histogram [value])

/-- The span in seconds: whole seconds and fraction are rounded before and after they are added. -/
def secondsOf (d : Span) : Binary64 :=
  let part := (Binary64.nearest? d.subsecond (1_000_000_000)).getD .zero
  ((Binary64.ofNat d.seconds).add? part).getD .zero

def record (m : Record) (r : MeterRegistry) : MeterRegistry :=
  match m with
  | .handshake remote elapsed status =>
    r.observe ⟨"tlsgate_tls_handshake_time_seconds",
      [("remote_address", remote.text), ("status", status)]⟩ (secondsOf elapsed)
  | .connect remote elapsed status =>
    r.observe ⟨"tlsgate_connect_time_seconds",
      [("remote_address", remote.text), ("status", status)]⟩ (secondsOf elapsed)
  | .received remote n =>
    r.increment ⟨"tlsgate_data_received_bytes", [("remote_address", remote.text)]⟩ n
  | .sent remote n =>
    r.increment ⟨"tlsgate_data_sent_bytes", [("remote_address", remote.text)]⟩ n

def keyText (k : MeterKey) : List (List Nat) :=
  (k.metric :: k.labels.flatMap fun (l, v) => [l, v]).map fun s => s.toList.map Char.toNat

def sorted (r : MeterRegistry) : List (MeterKey × Meter) :=
  r.meters.mergeSort fun a b =>
    (List.compareLex (List.compareLex compare) (keyText a.1) (keyText b.1)).isLE

end MeterRegistry

structure Registration (ν : Type) where
  id : String
  poolName : String
  remote : RemoteAddress
  view : ν
  deriving DecidableEq, Repr

structure GaugeRegistrar (ν : Type) where
  pools : List (Registration ν)
  deriving Repr

namespace GaugeRegistrar

def empty : GaugeRegistrar ν := ⟨[]⟩

def size (g : GaugeRegistrar ν) : Nat := g.pools.length

def isEmpty (g : GaugeRegistrar ν) : Bool := g.pools.isEmpty

/-- A second registration under an identifier replaces the first. -/
def register (r : Registration ν) (g : GaugeRegistrar ν) : GaugeRegistrar ν :=
  ⟨(g.pools.filter fun p => p.id != r.id) ++ [r]⟩

def gauges (s : PoolSnapshot) : List (String × Nat) := [
  ("tlsgate_pool_acquired_connections", s.acquired),
  ("tlsgate_pool_allocated_connections", s.allocated),
  ("tlsgate_pool_idle_connections", s.idle),
  ("tlsgate_pool_pending_acquire", s.pendingAcquire),
  ("tlsgate_pool_max_connections", s.maxAllocated),
  ("tlsgate_pool_max_pending_acquire", s.maxPendingAcquire)]

def publishOne (read : ν → PoolSnapshot) (r : MeterRegistry) (p : Registration ν) :
    MeterRegistry :=
  (gauges (read p.view)).foldl (fun r (metric, value) =>
    r.setGauge ⟨metric, [("id", p.id), ("name", p.poolName), ("remote_address", p.remote.text)]⟩
      value) r

/-- Sets every gauge from the counters as `read` finds them now. -/
def publish (read : ν → PoolSnapshot) (g : GaugeRegistrar ν) (r : MeterRegistry) :
    MeterRegistry :=
  g.pools.foldl (publishOne read) r

end GaugeRegistrar
end SecureGateway

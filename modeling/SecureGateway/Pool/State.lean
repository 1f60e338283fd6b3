import SecureGateway.Address.Remote
import SecureGateway.Pool.Limits
import SecureGateway.Pool.Notify

namespace SecureGateway

inductive PoolEnding where
  | failed (error : PoolError)
  | released
  | abandoned
  | disposed
  deriving DecidableEq, Repr

/-- What a waiting acquire leaves the queue with. -/
inductive Departure (κ : Type) where
  | reuse (connection : κ)
  | fresh
  | failed (error : PoolError)
  | abandoned
  deriving DecidableEq, Repr

/-- The next thing an operation does. -/
inductive PoolPhase (κ : Type) where
  | entering
  | popping
  /-- Lowers the idle counter for the connection it took. -/
  | popped (connection : κ)
  /-- Raises the acquired counter for the connection it took. -/
  | claiming (connection : κ)
  | reserving
  /-- Raises the acquired counter for the slot it reserved. -/
  | reserved
  | enlisting
  | registering
  /-- Reads the disposal flag after registering. -/
  | rechecking
  | parked
  | withdrawing (next : Departure κ)
  /-- Lowers the pending counter. -/
  | delisting (next : Departure κ)
  | connecting
  | holding (connection : κ) (reused : Bool)
  | releasing (connection : Option κ) (ending : PoolEnding)
  /-- Reads the disposal flag to decide where the connection goes. -/
  | deciding (connection : κ) (ending : PoolEnding)
  | parking (connection : κ) (ending : PoolEnding)
  /-- Raises the idle counter. -/
  | counting (ending : PoolEnding)
  | freeing (ending : PoolEnding)
  | notifying (ending : PoolEnding)
  | disposing
  | draining
  | uncounting (drained : Nat)
  | unallocating (drained : Nat)
  | waking
  | finished (ending : PoolEnding)
  deriving DecidableEq, Repr

/-- A running operation; `waiting` while it counts as a pending acquire. -/
structure PoolTask (κ : Type) where
  phase : PoolPhase κ
  waiting : Bool
  deriving DecidableEq, Repr

/-- A pool of connections to one remote. Every atomic read or write of a counter or flag and every
section under the lock of the idle queue is one step, so operations of different tasks interleave
freely. A counter may fall below zero; a gauge shows it modulo 2^64. -/
structure ConnectionPool (κ : Type) where
  id : Nat
  remote : RemoteAddress
  limits : PoolLimits
  allocated : Int
  acquired : Int
  idleCount : Int
  pending : Int
  idle : List κ
  released : Notify
  isDisposed : Bool
  tasks : List (PoolTask κ)
  deriving Repr

inductive PoolEvent (κ : Type) where
  | acquire
  | dispose
  /-- The task does what its phase says. -/
  | run (task : Nat)
  | connected (task : Nat) (connection : κ)
  | refused (task : Nat) (error : ConnectError)
  | expire (task : Nat)
  | cancel (task : Nat)
  /-- The holder lets go of its connection, which is parked or closed. -/
  | letGo (task : Nat) (keep : Option κ)
  deriving Repr

namespace ConnectionPool

variable {κ : Type}

def new (id : Nat) (remote : RemoteAddress) (limits : PoolLimits) : ConnectionPool κ :=
  ⟨id, remote, limits, 0, 0, 0, 0, [], .start, false, []⟩

/-- A counter as a 64-bit gauge shows it. -/
def gauge (n : Int) : Nat := (n % 18_446_744_073_709_551_616).toNat

def snapshot (p : ConnectionPool κ) : PoolSnapshot where
  acquired := gauge p.acquired
  allocated := gauge p.allocated
  idle := gauge p.idleCount
  pendingAcquire := gauge p.pending
  maxAllocated := p.limits.maxConnections.getD unbounded
  maxPendingAcquire := p.limits.pendingAcquireMax.getD unbounded

def idText (p : ConnectionPool κ) : String := Text.hexText p.id

def debugTextWith (id : String) (p : ConnectionPool κ) : String :=
  Text.recordText "ConnectionPool" [("id", id), ("remote", p.remote.debugText),
    ("allocated", toString (gauge p.allocated)), ("acquired", toString (gauge p.acquired)),
    ("idle", toString (gauge p.idleCount)), ("pending", toString (gauge p.pending))]

def hasRoom (limit : Option Nat) (n : Int) : Bool :=
  match limit with
  | none => true
  | some max => n < max

/-- When an acquire that joins the queue now gives up, if the clock can hold that moment. -/
def waitUntil? (now : Instant) (p : ConnectionPool κ) : Option Instant :=
  now.after? p.limits.pendingAcquireTimeout

def setTask (p : ConnectionPool κ) (i : Nat) (t : PoolTask κ) : ConnectionPool κ :=
  { p with tasks := p.tasks.set i t }

def goto (p : ConnectionPool κ) (i : Nat) (t : PoolTask κ) (phase : PoolPhase κ) :
    ConnectionPool κ :=
  p.setTask i { t with phase }

def settleDeparture : Departure κ → PoolPhase κ
  | .reuse c => .holding c true
  | .fresh => .connecting
  | .failed e => .finished (.failed e)
  | .abandoned => .finished .abandoned

/-- A slot is found: a waiting acquire leaves the queue with it. -/
def found (t : PoolTask κ) (d : Departure κ) : PoolPhase κ :=
  if t.waiting then .withdrawing d else settleDeparture d

/-- The step of task `i`, which is `t`. Tasks that wait for the outside do nothing here. -/
def runTask (p : ConnectionPool κ) (i : Nat) (t : PoolTask κ) : Option (ConnectionPool κ) :=
  match t.phase with
  | .entering =>
    some (p.goto i t (if p.isDisposed then .finished (.failed .disposed) else .popping))
  | .popping =>
    match p.idle with
    | c :: rest => some ({ p with idle := rest }.goto i t (.popped c))
    | [] => some (p.goto i t .reserving)
  | .popped c => some ({ p with idleCount := p.idleCount - 1 }.goto i t (.claiming c))
  | .claiming c => some ({ p with acquired := p.acquired + 1 }.goto i t (found t (.reuse c)))
  | .reserving =>
    if hasRoom p.limits.maxConnections p.allocated then
      some ({ p with allocated := p.allocated + 1 }.goto i t .reserved)
    else some (p.goto i t (if t.waiting then .parked else .enlisting))
  | .reserved => some ({ p with acquired := p.acquired + 1 }.goto i t (found t .fresh))
  | .enlisting =>
    match p.limits.pendingAcquireMax with
    | some max =>
      if p.pending < max then
        some ({ p with pending := p.pending + 1 }.setTask i ⟨.registering, true⟩)
      else some (p.goto i t (.finished (.failed (.pendingAcquireLimit max))))
    | none => some ({ p with pending := p.pending + 1 }.setTask i ⟨.registering, true⟩)
  | .registering => some ({ p with released := p.released.register i }.goto i t .rechecking)
  | .rechecking =>
    some (p.goto i t (if p.isDisposed then .withdrawing (.failed .disposed) else .popping))
  | .parked =>
    if p.released.isWoken i then
      some ({ p with released := p.released.consume i }.goto i t .registering)
    else none
  | .withdrawing d => some ({ p with released := p.released.withdraw i }.goto i t (.delisting d))
  | .delisting d => some ({ p with pending := p.pending - 1 }.setTask i ⟨settleDeparture d, false⟩)
  | .connecting => none
  | .holding _ _ => none
  | .releasing c e =>
    let next := match c with
      | some c => .deciding c e
      | none => .freeing e
    some ({ p with acquired := p.acquired - 1 }.goto i t next)
  | .deciding c e => some (p.goto i t (if p.isDisposed then .freeing e else .parking c e))
  | .parking c e => some ({ p with idle := p.idle ++ [c] }.goto i t (.counting e))
  | .counting e => some ({ p with idleCount := p.idleCount + 1 }.goto i t (.notifying e))
  | .freeing e => some ({ p with allocated := p.allocated - 1 }.goto i t (.notifying e))
  | .notifying e => some ({ p with released := p.released.notifyOne }.goto i t (.finished e))
  | .disposing =>
    some ({ p with isDisposed := true }.goto i t
      (if p.isDisposed then .finished .disposed else .draining))
  | .draining => some ({ p with idle := [] }.goto i t (.uncounting p.idle.length))
  | .uncounting n => some ({ p with idleCount := p.idleCount - n }.goto i t (.unallocating n))
  | .unallocating n => some ({ p with allocated := p.allocated - n }.goto i t .waking)
  | .waking => some ({ p with released := p.released.notifyAll }.goto i t (.finished .disposed))
  | .finished _ => none

/-- One step; nothing when the event is not possible in this state. -/
def step (p : ConnectionPool κ) : PoolEvent κ → Option (ConnectionPool κ)
  | .acquire => some { p with tasks := p.tasks ++ [⟨.entering, false⟩] }
  | .dispose => some { p with tasks := p.tasks ++ [⟨.disposing, false⟩] }
  | .run i => p.tasks[i]?.bind (p.runTask i)
  | .connected i c =>
    match p.tasks[i]? with
    | some t => if t.phase matches .connecting then some (p.goto i t (.holding c false)) else none
    | none => none
  | .refused i e =>
    match p.tasks[i]? with
    | some t =>
      if t.phase matches .connecting then
        some (p.goto i t (.releasing none (.failed (.connect e))))
      else none
    | none => none
  | .expire i =>
    match p.tasks[i]? with
    | some t =>
      if (t.phase matches .parked) && !p.released.isWoken i then
        some (p.goto i t
          (.withdrawing (.failed (.pendingAcquireTimeout p.limits.pendingAcquireTimeout))))
      else none
    | none => none
  | .cancel i =>
    match p.tasks[i]? with
    | some t =>
      match t.phase with
      | .parked => some (p.goto i t (.withdrawing .abandoned))
      | .connecting => some (p.goto i t (.releasing none .abandoned))
      | _ => none
    | none => none
  | .letGo i keep =>
    match p.tasks[i]? with
    | some t =>
      if t.phase matches .holding _ _ then some (p.goto i t (.releasing keep .released)) else none
    | none => none

def runToRest (limit : Nat) (i : Nat) (p : ConnectionPool κ) : ConnectionPool κ :=
  match limit with
  | 0 => p
  | limit + 1 =>
    match p.step (.run i) with
    | some q => runToRest limit i q
    | none => p

def restLimit : Nat := 64

def disposeAll (p : ConnectionPool κ) : ConnectionPool κ :=
  runToRest restLimit p.tasks.length ((p.step .dispose).getD p)

end ConnectionPool
end SecureGateway

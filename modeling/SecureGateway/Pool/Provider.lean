import SecureGateway.Metrics.Registry
import SecureGateway.Pool.State

namespace SecureGateway

/-- The next thing a provider operation does. -/
inductive ProviderPhase where
  | entering (remote : RemoteAddress)
  | lookingUp (remote : RemoteAddress)
  /-- Looks it up again and inserts a new pool if it is still missing. -/
  | inserting (remote : RemoteAddress)
  /-- Registers the pool it has just created. -/
  | registering (remote : RemoteAddress) (pool : Nat)
  | obtained (remote : RemoteAddress) (pool : Nat)
  | refused
  | raising
  /-- Lists the remotes in the map. -/
  | listing
  | removing (remotes : List RemoteAddress)
  /-- Disposes of a pool that is out of the map. -/
  | closing (pool : Nat) (remotes : List RemoteAddress)
  | closed
  deriving DecidableEq, Repr

/-- What a provider calls for the metrics of a new pool. -/
inductive MeterCall where
  | supply
  /-- The pool is registered; the view finds it by its identifier. -/
  | register (r : Registration Nat)
  deriving DecidableEq, Repr

/-- A provider keeps one pool per remote. Reading or writing the flag, each look-up in the map, each
insertion or removal and the registration are single steps. -/
structure ConnectionProvider (κ : Type) where
  name : String
  limits : PoolLimits
  isMetered : Bool
  isDisposed : Bool
  /-- The map from remotes to the identifiers of their pools. -/
  map : List (RemoteAddress × Nat)
  /-- Every pool ever created. -/
  pools : List (ConnectionPool κ)
  meterCalls : List MeterCall
  tasks : List ProviderPhase
  deriving Repr

structure ConnectionProviderBuilder where
  name : String
  limits : PoolLimits
  metricsEnabled : Bool
  supplied : Bool
  deriving DecidableEq, Repr

inductive ProviderEvent where
  | lookUp (remote : RemoteAddress)
  | dispose
  /-- The task does what its phase says; a pool it creates takes the identifier `fresh`. -/
  | run (task fresh : Nat)
  deriving Repr

namespace MeterCall

def registration? : MeterCall → Option (Registration Nat)
  | supply => none
  | register r => some r

def isSupply : MeterCall → Bool
  | supply => true
  | register _ => false

end MeterCall

namespace ConnectionProvider

variable {κ : Type}

def new (name : String) (limits : PoolLimits) (isMetered : Bool) : ConnectionProvider κ :=
  ⟨name, limits, isMetered, false, [], [], [], []⟩

end ConnectionProvider

namespace ConnectionProviderBuilder

def start (name : String) : ConnectionProviderBuilder := ⟨name, .standard, false, false⟩

def ofConfig (c : PoolConfig) : ConnectionProviderBuilder :=
  { start c.name with limits := .ofConfig c }

def pendingAcquireTimeout (d : Span) (b : ConnectionProviderBuilder) : ConnectionProviderBuilder :=
  { b with limits := { b.limits with pendingAcquireTimeout := d } }

/-- A supplier is given, and called only if metrics are enabled. -/
def metrics (enabled : Bool) (b : ConnectionProviderBuilder) : ConnectionProviderBuilder :=
  { b with metricsEnabled := enabled, supplied := true }

def isMetered (b : ConnectionProviderBuilder) : Bool := b.metricsEnabled && b.supplied

def build {κ : Type} (b : ConnectionProviderBuilder) : ConnectionProvider κ :=
  .new b.name b.limits b.isMetered

end ConnectionProviderBuilder

namespace ConnectionProvider

variable {κ : Type}

def ofConfig (c : PoolConfig) (isMetered : Bool) : ConnectionProvider κ :=
  ((ConnectionProviderBuilder.ofConfig c).metrics isMetered).build

def poolId? (p : ConnectionProvider κ) (r : RemoteAddress) : Option Nat :=
  (p.map.find? (·.1 = r)).map (·.2)

def pool? (p : ConnectionProvider κ) (id : Nat) : Option (ConnectionPool κ) :=
  p.pools.find? (·.id == id)

def modifyPool (p : ConnectionProvider κ) (id : Nat)
    (f : ConnectionPool κ → ConnectionPool κ) : ConnectionProvider κ :=
  { p with pools := p.pools.map fun q => if q.id == id then f q else q }

def poolCount (p : ConnectionProvider κ) : Nat := p.map.length

def registrations (p : ConnectionProvider κ) : List (Registration Nat) :=
  p.meterCalls.filterMap MeterCall.registration?

def suppliedCount (p : ConnectionProvider κ) : Nat := p.meterCalls.countP MeterCall.isSupply

def metrics? (p : ConnectionProvider κ) (r : RemoteAddress) : Option PoolSnapshot :=
  ((p.poolId? r).bind p.pool?).map ConnectionPool.snapshot

def goto (p : ConnectionProvider κ) (i : Nat) (phase : ProviderPhase) : ConnectionProvider κ :=
  { p with tasks := p.tasks.set i phase }

def insert (p : ConnectionProvider κ) (r : RemoteAddress) (id : Nat) : ConnectionProvider κ :=
  { p with map := p.map ++ [(r, id)], pools := p.pools ++ [.new id r p.limits] }

def register (p : ConnectionProvider κ) (r : RemoteAddress) (id : Nat) : ConnectionProvider κ :=
  if p.isMetered then
    { p with meterCalls := p.meterCalls ++ [.supply, .register ⟨Text.hexText id, p.name, r, id⟩] }
  else p

def runTask (p : ConnectionProvider κ) (i fresh : Nat) :
    ProviderPhase → Option (ConnectionProvider κ)
  | .entering r => some (p.goto i (if p.isDisposed then .refused else .lookingUp r))
  | .lookingUp r =>
    match p.poolId? r with
    | some id => some (p.goto i (.obtained r id))
    | none => some (p.goto i (.inserting r))
  | .inserting r =>
    match p.poolId? r with
    | some id => some (p.goto i (.obtained r id))
    | none => some ((p.insert r fresh).goto i (.registering r fresh))
  | .registering r id => some ((p.register r id).goto i (.obtained r id))
  | .obtained _ _ => none
  | .refused => none
  | .raising => some ({ p with isDisposed := true }.goto i .listing)
  | .listing => some (p.goto i (.removing (p.map.map (·.1))))
  | .removing [] => some (p.goto i .closed)
  | .removing (r :: rest) =>
    match p.poolId? r with
    | some id => some ({ p with map := p.map.filter (·.1 ≠ r) }.goto i (.closing id rest))
    | none => some (p.goto i (.removing rest))
  | .closing id rest => some ((p.modifyPool id ConnectionPool.disposeAll).goto i (.removing rest))
  | .closed => none

def step (p : ConnectionProvider κ) : ProviderEvent → Option (ConnectionProvider κ)
  | .lookUp r => some { p with tasks := p.tasks ++ [.entering r] }
  | .dispose => some { p with tasks := p.tasks ++ [.raising] }
  | .run i fresh => p.tasks[i]?.bind (p.runTask i fresh)

def runToEnd (limit i fresh : Nat) (p : ConnectionProvider κ) : ConnectionProvider κ :=
  match limit with
  | 0 => p
  | limit + 1 =>
    match p.step (.run i fresh) with
    | some q => runToEnd limit i fresh q
    | none => p

/-- The whole look-up of the pool for a remote, undisturbed. -/
def poolFor (p : ConnectionProvider κ) (r : RemoteAddress) (fresh : Nat) :
    Option Nat × ConnectionProvider κ :=
  let q := runToEnd 5 p.tasks.length fresh ((p.step (.lookUp r)).getD p)
  match q.tasks[p.tasks.length]? with
  | some (.obtained _ id) => (some id, q)
  | _ => (none, q)

/-- The whole disposal, undisturbed. -/
def dispose (p : ConnectionProvider κ) : ConnectionProvider κ :=
  runToEnd (2 * p.map.length + 3) p.tasks.length 0 ((p.step .dispose).getD p)

def debugText (p : ConnectionProvider κ) : String :=
  Text.recordText "ConnectionProvider" [("name", Text.quote p.name),
    ("limits", p.limits.debugText), ("metrics", Text.boolText p.isMetered),
    ("pools", toString p.poolCount)]

end ConnectionProvider
end SecureGateway

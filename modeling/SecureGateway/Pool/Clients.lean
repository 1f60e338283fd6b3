import SecureGateway.Connection.Dial
import SecureGateway.Pool.Provider

namespace SecureGateway

/-- An acquire that has not ended yet: a task of a pool. -/
structure PendingAcquire where
  client : String
  pool : Nat
  task : Nat
  /-- None where the clock cannot hold it. -/
  deadline : Option Instant
  deriving DecidableEq, Repr

structure Clients (κ : Type) where
  provider : ConnectionProvider κ
  now : Instant
  nextPool : Nat
  pending : List PendingAcquire
  held : List (PendingAcquire × κ)
  ended : List (String × Except PoolError (κ × Bool))
  records : List Record
  panicked : Bool

namespace Clients

variable {κ : Type}

def ofProvider (p : ConnectionProvider κ) : Clients κ := ⟨p, 0, 1, [], [], [], [], false⟩

def modifyPool (id : Nat) (f : ConnectionPool κ → ConnectionPool κ) (c : Clients κ) : Clients κ :=
  { c with provider := c.provider.modifyPool id f }

def attempt (e : PoolEvent κ) (p : ConnectionPool κ) : ConnectionPool κ := (p.step e).getD p

def rest (task : Nat) (p : ConnectionPool κ) : ConnectionPool κ :=
  p.runToRest ConnectionPool.restLimit task

def phase? (a : PendingAcquire) (c : Clients κ) : Option (PoolPhase κ) :=
  ((c.provider.pool? a.pool).bind fun p => p.tasks[a.task]?).map (·.phase)

def runOn (a : PendingAcquire) (c : Clients κ) : Clients κ :=
  let c := c.modifyPool a.pool (rest a.task)
  if a.deadline.any (· ≤ c.now) then
    c.modifyPool a.pool fun p => rest a.task (attempt (.expire a.task) p)
  else c

def connect (connection : RemoteAddress → Opening κ) (a : PendingAcquire) (c : Clients κ) : Clients κ :=
  match c.phase? a, c.provider.pool? a.pool with
  | some .connecting, some p =>
    let o := connection p.remote
    let event := match o.result with
      | .ok x => PoolEvent.connected a.task x
      | .error e => .refused a.task e
    { c with records := c.records ++ o.records }.modifyPool a.pool fun p =>
      rest a.task (attempt event p)
  | _, _ => c

/-- Whether the acquire joined the queue with a deadline that the clock cannot hold. -/
def overruns (c : Clients κ) (a : PendingAcquire) : Bool :=
  ((c.provider.pool? a.pool).bind fun p => p.tasks[a.task]?).any (·.waiting) &&
    a.deadline.isNone

def ending? (a : PendingAcquire) (c : Clients κ) : Option (Except PoolError (κ × Bool)) :=
  match c.phase? a with
  | some (.holding x reused) => some (.ok (x, reused))
  | some (.finished (.failed e)) => some (.error e)
  | _ => none

def finish (a : PendingAcquire) (r : Except PoolError (κ × Bool)) (c : Clients κ) : Clients κ :=
  { c with
    pending := c.pending.erase a
    held := c.held ++ (r.toOption.map fun x => (a, x.1)).toList
    ended := c.ended ++ [(a.client, r)] }

def turn (connection : RemoteAddress → Opening κ) (c : Clients κ) (a : PendingAcquire) : Clients κ :=
  let c := c.runOn a
  if c.overruns a then { c with panicked := true }
  else
    let c := c.connect connection a
    match c.ending? a with
    | some r => c.finish a r
    | none => c

/-- Everybody runs once, the longest wait first. -/
def pass (connection : RemoteAddress → Opening κ) (c : Clients κ) : Clients κ :=
  c.pending.foldl (turn connection) c

def settle (connection : RemoteAddress → Opening κ) : Nat → Clients κ → Clients κ
  | 0, c => c
  | limit + 1, c =>
    let d := c.pass connection
    if d.pending.length = c.pending.length then d else settle connection limit d

def run (connection : RemoteAddress → Opening κ) (c : Clients κ) : Clients κ :=
  c.settle connection (c.pending.length + 1)

def acquire (client : String) (r : RemoteAddress) (c : Clients κ) : Clients κ :=
  let (id?, provider) := c.provider.poolFor r c.nextPool
  match id?.bind provider.pool? with
  | none => { c with provider, ended := c.ended ++ [(client, .error .disposed)] }
  | some p =>
    let a := ⟨client, p.id, p.tasks.length, p.waitUntil? c.now⟩
    { c with
      provider := provider.modifyPool p.id (attempt .acquire)
      nextPool := c.nextPool + (provider.pools.length - c.provider.pools.length)
      pending := c.pending ++ [a] }

def cancel (client : String) (c : Clients κ) : Clients κ :=
  match c.pending.find? (·.client == client) with
  | none => c
  | some a => { c with pending := c.pending.erase a }.modifyPool a.pool fun p =>
      rest a.task (attempt (.cancel a.task) p)

/-- The client lets go of its connection, which is parked if it is to be kept. -/
def letGo (client : String) (keep : Bool) (c : Clients κ) : Clients κ :=
  match c.held.find? (·.1.client == client) with
  | none => c
  | some (a, x) =>
    { c with held := c.held.filter (·.1 ≠ a) }.modifyPool a.pool fun p =>
      rest a.task (attempt (.letGo a.task (if keep then some x else none)) p)

def dispose (c : Clients κ) : Clients κ := { c with provider := c.provider.dispose }

def advance (d : Span) (c : Clients κ) : Clients κ := { c with now := c.now.after d }

/-- The counters of the pool for a remote, also after it was disposed of. -/
def lastSnapshot? (r : RemoteAddress) (c : Clients κ) : Option PoolSnapshot :=
  (c.provider.pools.find? (·.remote = r)).map ConnectionPool.snapshot

end Clients
end SecureGateway

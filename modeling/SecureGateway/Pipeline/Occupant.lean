import SecureGateway.Metrics.Record
import SecureGateway.Pipeline.Dispatch

namespace SecureGateway

inductive LogLayer where
  | wire
  | tls
  deriving DecidableEq, Repr

/-- The observer waits for registration, then for the first completion, and then is done. -/
inductive ObserverState where
  | unarmed
  | armed (started : Instant) (recording : Bool)
  | completed
  deriving DecidableEq, Repr

inductive Occupant (η ξ : Type) where
  | plain
  | logging (layer : LogLayer)
  | metrics
  | observer (state : ObserverState)
  | handshake (h : η)
  | custom (x : ξ)
  deriving Repr

/-- How the stages of the two open kinds behave, and how long a dispatch is followed. -/
structure StageKit (η ξ ω : Type) where
  handshake : React (Occupant η ξ) η ω
  custom : React (Occupant η ξ) ξ ω
  limit : Nat

namespace Reaction

variable {σ ω : Type}

def pass (h : σ) (s : Signal) (w : ω) : Reaction σ ω := ⟨h, [s], false, w⟩

def emit (h : σ) (ss : List Signal) (w : ω) : Reaction σ ω := ⟨h, ss, false, w⟩

end Reaction

namespace ObserverState

variable {η ξ ω : Type}

def isCompleted : ObserverState → Bool
  | completed => true
  | _ => false

/-- Whether the metrics stage is in place when the observer looks for it. -/
def findsMetrics (v : View (Occupant η ξ)) : Bool :=
  match v.get? .channelMetrics with
  | some .metrics => true
  | _ => false

def measure [Recorder ω] (v : View (Occupant η ξ)) (outcome : HandshakeOutcome) (e : Env ω) :
    ObserverState → Env ω
  | armed started true =>
    e.record (.handshake (v.channel.remote.getD (.opaqueName "unknown")) ⟨v.now - started⟩
      (Record.statusOf outcome.isSuccess))
  | _ => e

/-- What a completion is turned into ahead of the event itself. -/
def announce : HandshakeOutcome → Inbound
  | .success => .active
  | .failure cause => .exception cause

/-- Activity is held back until the first completion; then the observer reports it and leaves. -/
def react [Recorder ω] : React (Occupant η ξ) ObserverState (Env ω) := fun v s o e =>
  match s with
  | .inbound .registered =>
    let armed := match o with
      | unarmed => armed v.now (findsMetrics v)
      | o => o
    .pass armed s e
  | .inbound .active => .emit o [.outbound .read] e
  | .inbound .readComplete =>
    .emit o (if o.isCompleted then [s] else [.outbound .read, s]) e
  | .inbound (.event (.handshakeCompleted outcome)) =>
    ⟨completed, [.inbound (announce outcome), s], true, o.measure v outcome e⟩
  | _ => .pass o s e

end ObserverState

namespace Occupant

variable {η ξ ω : Type}

def countBytes [Recorder ω] (v : View (Occupant η ξ)) (s : Signal) (e : Env ω) : Env ω :=
  match v.channel.remote, s with
  | some remote, .inbound (.read data) => e.record (.received remote data.length)
  | some remote, .outbound (.write data) => e.record (.sent remote data.length)
  | _, _ => e

def react [Recorder ω] (k : StageKit η ξ ω) : React (Occupant η ξ) (Occupant η ξ) (Env ω) :=
  fun v s h e =>
    match h with
    | plain => .pass plain s e
    | logging layer => .pass (logging layer) s e
    | metrics => .pass metrics s (countBytes v s e)
    | observer o =>
      let r := o.react v s e
      ⟨observer r.handler, r.emitted, r.leaves, r.world⟩
    | handshake t =>
      let r := k.handshake v s t e.world
      ⟨handshake r.handler, r.emitted, r.leaves, { e with world := r.world }⟩
    | custom x =>
      let r := k.custom v s x e.world
      ⟨custom r.handler, r.emitted, r.leaves, { e with world := r.world }⟩

end Occupant

/-- A kit without custom stages, with a limit that no dispatch of its stages comes near. -/
def StageKit.closed (handshake : React (Occupant η Empty) η ω) : StageKit η Empty ω :=
  ⟨handshake, fun _ _ x _ => x.elim, 1000000⟩

def StageKit.behaviour [Recorder ω] (k : StageKit η ξ ω) : Behaviour (Occupant η ξ) (Env ω) :=
  ⟨Occupant.react k, k.limit⟩

end SecureGateway

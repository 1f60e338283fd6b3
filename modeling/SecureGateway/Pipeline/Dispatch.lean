import SecureGateway.Pipeline.Chain

namespace SecureGateway

structure View (τ : Type) where
  channel : Channel
  name : StageName
  stages : List (Stage τ)
  now : Instant

namespace View

def get? (v : View τ) (name : StageName) : Option τ := findHandler v.stages name

def contains (v : View τ) (name : StageName) : Bool := (positionOf v.stages name).isSome

end View

/-- What a call does: the handler afterwards, the signals it emits, whether it leaves the chain, and
the surroundings. -/
structure Reaction (σ ω : Type) where
  handler : σ
  emitted : List Signal
  leaves : Bool
  world : ω

abbrev React (τ σ ω : Type) := View τ → Signal → σ → ω → Reaction σ ω

/-- How the handlers of a chain behave, and how many calls and arrivals a dispatch is followed. -/
structure Behaviour (σ ω : Type) where
  react : React σ σ ω
  limit : Nat

/-- A signal on its way to a stage, or to the end of the chain. -/
inductive Hop where
  | inbound (target : Option Nat) (s : Inbound)
  | outbound (target : Option Nat) (op : Outbound)
  deriving DecidableEq, Repr

/-- A stage that left, with the neighbours it had then. -/
structure Departed where
  id : Nat
  next : Option Nat
  prev : Option Nat
  deriving DecidableEq, Repr

/-- A dispatch under way. A signal that a call emits goes to the stage that is the neighbour once
the call is over, and is delivered with all that follows from it before the next one. A signal for a
stage that has left follows it to the neighbour it had when it left. -/
structure Dispatch (σ ω : Type) where
  pipeline : Pipeline σ
  world : ω
  departed : List Departed
  queue : List Hop

def idAt (stages : List (Stage σ)) (i : Nat) : Option Nat := stages[i]?.map (·.id)

def idBefore (stages : List (Stage σ)) : Nat → Option Nat
  | 0 => none
  | i + 1 => idAt stages i

/-- The position a hop lands on, following stages that left; each is passed at most once. -/
def resolve (stages : List (Stage σ)) (departed : List Departed) (inbound : Bool) :
    Nat → Option Nat → Option Nat
  | _, none => none
  | fuel, some id =>
    match positionOfId stages id with
    | some i => some i
    | none =>
      match fuel, departed.find? (·.id == id) with
      | fuel + 1, some gone =>
        resolve stages departed inbound fuel (if inbound then gone.next else gone.prev)
      | _, _ => none

namespace Hop

def signal : Hop → Signal
  | inbound _ s => .inbound s
  | outbound _ op => .outbound op

def position? (stages : List (Stage σ)) (departed : List Departed) : Hop → Option Nat
  | inbound target _ => resolve stages departed true departed.length target
  | outbound target _ => resolve stages departed false departed.length target

/-- The way of a signal emitted by the stage that stands, or stood, at position `i`. -/
def fromPosition (stages : List (Stage σ)) (i : Nat) (left : Bool) : Signal → Hop
  | .inbound s => .inbound (idAt stages (if left then i else i + 1)) s
  | .outbound op => .outbound (idBefore stages i) op

end Hop

namespace Pipeline

variable {σ : Type}

def arrive (p : Pipeline σ) : Signal → Pipeline σ
  | .inbound s => { p with tail := p.tail ++ [s] }
  | .outbound (.write data) => { p with transport := p.transport ++ [data] }
  | .outbound .read => { p with readRequested := true }
  | .outbound .close => { p with closeRequested := true }

end Pipeline

namespace Dispatch

variable {σ ω : Type}

def push (hops : List Hop) (d : Dispatch σ ω) : Dispatch σ ω :=
  { d with queue := hops ++ d.queue }

def call (b : Behaviour σ ω) (now : Instant) (i : Nat) (stage : Stage σ) (h : σ) (s : Signal)
    (d : Dispatch σ ω) : Dispatch σ ω :=
  let p := d.pipeline
  let emptied := p.stages.set i { stage with slot := none }
  let r := b.react ⟨p.channel, stage.name, emptied, now⟩ s h d.world
  let stages := if r.leaves then p.stages.eraseIdx i
    else p.stages.set i { stage with slot := some r.handler }
  let departed := if r.leaves then
      d.departed ++ [⟨stage.id, idAt p.stages (i + 1), idBefore p.stages i⟩]
    else d.departed
  { pipeline := { p with stages }
    world := r.world
    departed
    queue := r.emitted.map (Hop.fromPosition stages i r.leaves) ++ d.queue }

/-- Delivers a signal to the stage at position `i`. An empty slot passes it along. -/
def deliver (b : Behaviour σ ω) (now : Instant) (i : Nat) (s : Signal) (d : Dispatch σ ω) :
    Dispatch σ ω :=
  match d.pipeline.stages[i]? with
  | none => d
  | some stage =>
    match stage.slot with
    | none => d.push [Hop.fromPosition d.pipeline.stages i false s]
    | some h => d.call b now i stage h s

def step (b : Behaviour σ ω) (now : Instant) (d : Dispatch σ ω) : Dispatch σ ω :=
  match d.queue with
  | [] => d
  | hop :: rest =>
    let d := { d with queue := rest }
    match hop.position? d.pipeline.stages d.departed with
    | none => { d with pipeline := d.pipeline.arrive hop.signal }
    | some i => d.deliver b now i hop.signal

/-- Steps until the queue is empty; nothing when that takes more than `limit` steps. -/
def run (b : Behaviour σ ω) (now : Instant) : Nat → Dispatch σ ω → Option (Dispatch σ ω)
  | limit, d =>
    if d.queue.isEmpty then some d
    else
      match limit with
      | 0 => none
      | limit + 1 => run b now limit (d.step b now)

def ofHop (p : Pipeline σ) (w : ω) (hop : Hop) : Dispatch σ ω := ⟨p, w, [], [hop]⟩

end Dispatch

namespace Pipeline

variable {σ ω : Type}

/-- Runs a dispatch that starts with `hop`; nothing when it does not end within the limit. -/
def dispatch (b : Behaviour σ ω) (now : Instant) (hop : Hop) (p : Pipeline σ) (w : ω) :
    Option (Pipeline σ × ω) :=
  ((Dispatch.ofHop p w hop).run b now b.limit).map fun d => (d.pipeline, d.world)

def fire (b : Behaviour σ ω) (now : Instant) (s : Inbound) (p : Pipeline σ) (w : ω) :
    Option (Pipeline σ × ω) :=
  p.dispatch b now (.inbound (idAt p.stages 0) s) w

def submit (b : Behaviour σ ω) (now : Instant) (op : Outbound) (p : Pipeline σ) (w : ω) :
    Option (Pipeline σ × ω) :=
  p.dispatch b now (.outbound (idBefore p.stages p.stages.length) op) w

end Pipeline
end SecureGateway

import SecureGateway.Pipeline.Occupant

namespace SecureGateway

structure Endpoint (η ξ ω : Type) where
  pipeline : Pipeline (Occupant η ξ)
  env : Env ω

def pieces (size : Option Nat) (m : Bytes) : List Bytes :=
  match size with
  | none => [m]
  | some n => (List.range ((m.length + n - 1) / n)).map fun i => (m.drop (i * n)).take n

namespace Endpoint

variable {η ξ ω : Type} [Recorder ω]

/-- Sends a signal in from the transport; one that starts an endless dispatch does nothing. -/
def fire (k : StageKit η ξ ω) (s : Inbound) (x : Endpoint η ξ ω) : Endpoint η ξ ω :=
  ((x.pipeline.fire k.behaviour 0 s x.env).map fun (p, e) => ⟨p, e⟩).getD x

def submit (k : StageKit η ξ ω) (op : Outbound) (x : Endpoint η ξ ω) : Endpoint η ξ ω :=
  ((x.pipeline.submit k.behaviour 0 op x.env).map fun (p, e) => ⟨p, e⟩).getD x

def activate (k : StageKit η ξ ω) (x : Endpoint η ξ ω) : Endpoint η ξ ω :=
  (x.fire k .registered).fire k .active

def takeOutbound (x : Endpoint η ξ ω) : List Bytes × Endpoint η ξ ω :=
  let (chunks, pipeline) := x.pipeline.takeOutbound
  (chunks, { x with pipeline })

/-- Messages arrive one after the other, and then, even if there are none, the read is complete. -/
def deliver (k : StageKit η ξ ω) (size : Option Nat) (ms : List Bytes) (x : Endpoint η ξ ω) :
    Endpoint η ξ ω :=
  ((ms.flatMap (pieces size)).foldl (fun x piece => x.fire k (.read piece)) x).fire k .readComplete

/-- Rounds of exchange until both are quiet. What either sends in a round arrives in that round. -/
def exchange (k : StageKit η ξ ω) (size : Option Nat) :
    Nat → Endpoint η ξ ω × Endpoint η ξ ω → Endpoint η ξ ω × Endpoint η ξ ω
  | 0, x => x
  | rounds + 1, (a, b) =>
    let (fromA, a) := a.takeOutbound
    let (fromB, b) := b.takeOutbound
    if fromA.isEmpty && fromB.isEmpty then (a, b)
    else exchange k size rounds (a.deliver k size fromB, b.deliver k size fromA)

def roundLimit : Nat := 64

end Endpoint
end SecureGateway

import SecureGateway.Connection.Progress

namespace SecureGateway

/-- What the first dispatches of an opening come to. -/
inductive Launch (η ξ ω : Type) where
  | started (a : Advance η ξ ω)
  | endless
  | panicked (message : String)

def Launch.ofOption {η ξ ω : Type} : Option (Advance η ξ ω) → Launch η ξ ω
  | some a => started a
  | none => endless

namespace Connection

variable {κ β η ξ ω : Type} [Deadlined η]

/-- Whether the handshake stage in place cannot be activated now. -/
def overruns (now : Instant) (c : Connection η ξ ω) : Bool :=
  c.handshake?.any (Deadlined.overruns now)

variable [Recorder ω] [Secured η] [Timed η] [TlsContext κ η]

/-- Opens a connection, unless the activation panics. -/
def launch (k : StageKit η ξ ω) (now : Instant) (o : ConnectOptions κ β η) (id : Nat)
    (remote : RemoteAddress) (env : Env ω) : Launch η ξ ω :=
  match o.assemble ⟨id, some remote⟩ with
  | .ok p =>
    let c : Connection η ξ ω := start now o remote p env
    if c.overruns now then .panicked Instant.overflowMessage
    else .ofOption (c.opened k now)
  | .error _ => .ofOption (establish k now o id remote env)

end Connection
end SecureGateway

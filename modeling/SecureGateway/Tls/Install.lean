import SecureGateway.Pipeline.Occupant
import SecureGateway.Tls.Configuration

namespace SecureGateway

/-- The stages that secure a chain: the handshake stage behind the proxy or first, its observer
behind wire logging or behind the handshake stage, and record logging where both kinds of logging
are wanted. -/
def securingStages (p : Pipeline (Occupant η ξ)) (h : η) (debug : Bool) :
    List (StagePlace × StageName × Occupant η ξ) :=
  let place : StagePlace := if p.contains .proxy then .after .proxy else .first
  (place, .ssl, .handshake h) ::
    if p.contains .logging then
      (.after .logging, .sslReader, .observer .unarmed) ::
        if debug then [(.before .ssl, .sslLogging, .logging .tls)] else []
    else [(.after .ssl, .sslReader, .observer .unarmed)]

/-- Secures a chain with a new handler of the configuration. -/
def install {κ β η ξ : Type} [Timed η] [TlsContext κ η] (p : Pipeline (Occupant η ξ))
    (remote : Option RemoteAddress) (c : SslConfiguration κ β η) (debug : Bool) :
    Pipeline (Occupant η ξ) × Option TlsError :=
  match TlsContext.newHandler c.context.value (remote.bind RemoteAddress.sniTarget?) with
  | .error e => (p, some e)
  | .ok h =>
    let (q, refusal) := p.addAll (securingStages p (c.configure h) debug)
    (q, refusal.map .pipeline)

end SecureGateway

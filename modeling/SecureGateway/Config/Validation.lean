import SecureGateway.Address.Remote
import SecureGateway.Config.Schema
import SecureGateway.Text.Blank

namespace SecureGateway

/-- A broken rule and the field that breaks it. -/
structure ValidationError where
  field : String
  message : String
  deriving DecidableEq, Repr

namespace ValidationError

def text (e : ValidationError) : String := e.field ++ ": " ++ e.message

def debugText (e : ValidationError) : String :=
  Text.recordText "ValidationError"
    [("field", Text.quote e.field), ("message", Text.quote e.message)]

end ValidationError

namespace GatewayConfig

open Text

def report (broken : Bool) (field message : String) : List ValidationError :=
  if broken then [⟨field, message⟩] else []

def negativeTimeout (field : String) : Option Int → List ValidationError
  | some ms => report (decide (ms < 0)) field ("must be >= 0, got " ++ toString ms)
  | none => []

def TlsSettings.errors (t : TlsSettings) : List ValidationError :=
  negativeTimeout "tls.handshake_timeout_ms" t.handshakeTimeoutMs ++
  negativeTimeout "tls.close_notify_flush_timeout_ms" t.closeNotifyFlushTimeoutMs ++
  negativeTimeout "tls.close_notify_read_timeout_ms" t.closeNotifyReadTimeoutMs ++
  match t.role with
  | .client => report t.caPath.isNone "tls.ca_path" "required for the client role"
  | .server =>
    report t.certPath.isNone "tls.cert_path" "required for the server role" ++
    report t.keyPath.isNone "tls.key_path" "required for the server role"

def PoolConfig.errors (p : PoolConfig) : List ValidationError :=
  report (isAllBlank p.name) "pool.name" "must not be empty" ++
  report (p.maxConnections == 0) "pool.max_connections" "must be > 0" ++
  report (p.pendingAcquireMax == 0 || decide (p.pendingAcquireMax < -1)) "pool.pending_acquire_max"
    ("must be > 0 or -1 for no limit, got " ++ toString p.pendingAcquireMax) ++
  report (p.connectTimeoutMs == 0) "pool.connect_timeout_ms" "must be > 0"

def badSocketAddress (s : String) : Bool := (SocketAddress.parse? s).isNone

def ListenerConfig.errors (l : ListenerConfig) : List ValidationError :=
  report (l.maxConnections == 0) "listener.max_connections" "must be > 0" ++
  report (badSocketAddress l.bindAddress) "listener.bind_address"
    ("not a socket address: " ++ quote l.bindAddress)

def ObservabilityConfig.errors (o : ObservabilityConfig) : List ValidationError :=
  report (o.logFormat != "pretty" && o.logFormat != "json") "observability.log_format"
    ("expected \"pretty\" or \"json\", got " ++ quote o.logFormat) ++
  report (o.metricsEnabled && badSocketAddress o.metricsAddress) "observability.metrics_address"
    ("not a socket address: " ++ quote o.metricsAddress)

def isOpaque : RemoteAddress → Bool
  | .inet .. => false
  | .opaqueName _ => true

def TargetConfig.errors (t : TargetConfig) (i : Nat) : List ValidationError :=
  let path := "targets[" ++ toString i ++ "]"
  report (isAllBlank t.name) (path ++ ".name") "must not be empty" ++
  report (isOpaque (RemoteAddress.parse t.address)) (path ++ ".address")
    ("expected host:port, got " ++ quote t.address)

/-- Every broken rule, in the order of the file's sections. -/
def errors (c : GatewayConfig) : List ValidationError :=
  TlsSettings.errors c.tls ++ PoolConfig.errors c.pool ++ ListenerConfig.errors c.listener ++
    ObservabilityConfig.errors c.observability ++
    (c.targets.zipIdx.flatMap fun (t, i) => TargetConfig.errors t i)

def validate (c : GatewayConfig) : Except (List ValidationError) Unit :=
  match c.errors with
  | [] => .ok ()
  | errors => .error errors

end GatewayConfig
end SecureGateway

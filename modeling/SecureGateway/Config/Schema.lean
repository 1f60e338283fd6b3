import SecureGateway.Tls.Profile

namespace SecureGateway

structure TlsSettings where
  role : TlsRole := .client
  profile : DefaultProfile := .tcp
  handshakeTimeoutMs : Option Int := none
  closeNotifyFlushTimeoutMs : Int := 3000
  closeNotifyReadTimeoutMs : Int := 0
  caPath : Option String := none
  certPath : Option String := none
  keyPath : Option String := none
  serverName : Option String := none
  wiretap : Bool := false
  debug : Bool := false
  deriving DecidableEq, Repr

structure PoolConfig where
  name : String := "tlsgate"
  maxConnections : Nat := 16
  pendingAcquireMax : Int := 32
  pendingAcquireTimeoutMs : Nat := 45000
  connectTimeoutMs : Nat := 30000
  metricsEnabled : Bool := false
  deriving DecidableEq, Repr

structure ListenerConfig where
  bindAddress : String := "127.0.0.1:8443"
  maxConnections : Nat := 10000
  deriving DecidableEq, Repr

structure ObservabilityConfig where
  logLevel : String := "info"
  logFormat : String := "pretty"
  metricsEnabled : Bool := false
  metricsAddress : String := "127.0.0.1:9090"
  deriving DecidableEq, Repr

structure TargetConfig where
  name : String
  address : String
  deriving DecidableEq, Repr

structure GatewayConfig where
  tls : TlsSettings := {}
  pool : PoolConfig := {}
  listener : ListenerConfig := {}
  observability : ObservabilityConfig := {}
  targets : List TargetConfig := []
  deriving DecidableEq, Repr

end SecureGateway

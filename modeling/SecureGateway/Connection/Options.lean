import SecureGateway.Tls.Configuration

namespace SecureGateway

structure ConnectOptions (κ β η : Type) where
  ssl : Option (SslConfiguration κ β η) := none
  metrics : Bool := false
  wiretap : Bool := false
  /-- Adds record logging, where there is wire logging. -/
  sslDebug : Bool := false
  /-- Bounds the time to connect, and the time the handshake takes. -/
  connectTimeout : Span := .ofSeconds 30

namespace ConnectOptions

def debugText {κ β η : Type} [TlsContext κ η] (o : ConnectOptions κ β η) : String :=
  Text.recordText "ConnectOptions" [
    ("ssl", Text.optionText (fun c => Text.quote (SslConfiguration.text c)) o.ssl),
    ("metrics", Text.boolText o.metrics),
    ("wiretap", Text.boolText o.wiretap),
    ("ssl_debug", Text.boolText o.sslDebug),
    ("connect_timeout", o.connectTimeout.text)]

end ConnectOptions
end SecureGateway

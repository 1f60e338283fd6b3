import SecureGateway.Config.Schema
import SecureGateway.Tls.EngineContext

namespace SecureGateway

abbrev FileReader := String → Except SystemError Bytes

abbrev EngineConfiguration := SslConfiguration EngineContext EngineBuilder (TlsStage Session)

namespace TlsSettings

def required (field : String) : Option String → Except TlsError String
  | some path => .ok path
  | none => .error (.invalidConfiguration (field ++ " is required"))

def readPem (files : FileReader) (path : String) : Except TlsError Bytes :=
  match files path with
  | .ok bytes => .ok bytes
  | .error e => .error (resolution ("failed to read " ++ path ++ ": " ++ e.text))

def requiredPem (files : FileReader) (field : String) (path : Option String) :
    Except TlsError Bytes := do
  readPem files (← required field path)

/-- A client needs trust anchors, a server its certificates and then its key. -/
def roleBuilder (files : FileReader) (t : TlsSettings) : Except TlsError EngineBuilder :=
  match t.role with
  | .client =>
    (requiredPem files "tls.ca_path" t.caPath).map fun pem => EngineBuilder.client.withRoots pem
  | .server => do
    let chain ← requiredPem files "tls.cert_path" t.certPath
    let key ← requiredPem files "tls.key_path" t.keyPath
    return .server chain key

def engineBuilder (files : FileReader) (t : TlsSettings) : Except TlsError EngineBuilder :=
  (t.roleBuilder files).map fun b => { b with serverName := t.serverName }

/-- A handshake limit in the section goes before the process-wide one. -/
def configuration (files : FileReader) (d : TlsDefaults) (t : TlsSettings) (serial : Nat) :
    Except TlsError EngineConfiguration := do
  let engine ← t.engineBuilder files
  let b : SslConfigurationBuilder EngineContext EngineBuilder (TlsStage Session) :=
    ((((SslConfigurationBuilder.new d).contextBuilder engine).defaultConfiguration t.profile)
      |>.closeNotifyFlushTimeoutMillis t.closeNotifyFlushTimeoutMs
      |>.closeNotifyReadTimeoutMillis t.closeNotifyReadTimeoutMs)
  let b := match t.handshakeTimeoutMs with
    | some ms => b.handshakeTimeoutMillis ms
    | none => b
  b.build serial

end TlsSettings
end SecureGateway

import SecureGateway.Pipeline.StageName
import SecureGateway.SystemError
import SecureGateway.Tls.EngineFailure
import SecureGateway.Time.Span

namespace SecureGateway

/-- A failed read or write: refused by the operating system, or explained by the program. -/
inductive IoError where
  | system (error : SystemError)
  | custom (text : String)
  deriving DecidableEq, Repr

namespace IoError

def text : IoError → String
  | system e => e.text
  | custom t => t

def isSystem : IoError → Bool
  | system _ => true
  | custom _ => false

def brokenPipe : IoError := custom "broken pipe"

end IoError

inductive TlsError where
  | invalidConfiguration (reason : String)
  | contextResolution (reason : String)
  | handshake (error : EngineError)
  | handshakeTimeout (limit : Span)
  | closedDuringHandshake
  | missingServerName
  | invalidServerName (name : String)
  | io (error : IoError)
  | pipeline (error : PipelineError)
  deriving DecidableEq, Repr

namespace TlsError

def message : TlsError → String
  | invalidConfiguration reason => "invalid TLS configuration: " ++ reason
  | contextResolution reason => "failed to resolve TLS context: " ++ reason
  | handshake e => "TLS handshake failed: " ++ e.message
  | handshakeTimeout limit => "TLS handshake timed out after " ++ limit.text
  | closedDuringHandshake => "connection closed during TLS handshake"
  | missingServerName => "no server name available for TLS client"
  | invalidServerName name => "invalid TLS server name: " ++ name
  | io e => "TLS I/O error: " ++ e.text
  | pipeline e => e.message

def debugText : TlsError → String
  | invalidConfiguration reason =>
    Text.recordText "InvalidConfiguration" [("reason", Text.quote reason)]
  | contextResolution reason => "ContextResolution(" ++ Text.quote reason ++ ")"
  | handshake e => "Handshake(" ++ Text.quote e.message ++ ")"
  | handshakeTimeout limit => "HandshakeTimeout(" ++ limit.text ++ ")"
  | closedDuringHandshake => "ClosedDuringHandshake"
  | missingServerName => "MissingServerName"
  | invalidServerName name => "InvalidServerName(" ++ Text.quote name ++ ")"
  | io e => "Io(" ++ Text.quote e.text ++ ")"
  | pipeline e => "Pipeline(" ++ e.debugText ++ ")"

end TlsError

/-- The cause that an exception or a failed handshake carries through a pipeline. -/
inductive Cause where
  | tls (error : TlsError)
  | other (text : String)
  deriving DecidableEq, Repr

namespace Cause

def message : Cause → String
  | tls e => e.message
  | other t => t

end Cause
end SecureGateway

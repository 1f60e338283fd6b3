import SecureGateway.Tls.Failure

namespace SecureGateway

inductive ConnectError where
  | io (error : IoError)
  | tls (cause : Cause)
  | timeout (limit : Span)
  | closed
  deriving DecidableEq, Repr

namespace ConnectError

def message : ConnectError → String
  | io e => "I/O error: " ++ e.text
  | tls cause => "TLS error: " ++ cause.message
  | timeout limit => "connect timed out after " ++ limit.text
  | closed => "connection closed"

def ofTls (e : TlsError) : ConnectError := tls (.tls e)

/-- The TLS failure behind this one, if the TLS layer caused it. -/
def tlsError? : ConnectError → Option TlsError
  | tls (.tls e) => some e
  | _ => none

end ConnectError
end SecureGateway

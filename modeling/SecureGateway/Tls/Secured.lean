import SecureGateway.Text.Quoted

namespace SecureGateway

/-- What can be asked of a handshake stage about its session. -/
class Secured (η : Type) where
  alpn : η → Option String
  version : η → Option String
  suite : η → Option String
  closeNotifyReceived : η → Bool

end SecureGateway

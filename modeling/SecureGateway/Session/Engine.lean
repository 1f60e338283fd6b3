import SecureGateway.Session.Progress
import SecureGateway.Tls.Secured
import SecureGateway.Tls.Stage

namespace SecureGateway

open Session

/-- Hands out all decrypted bytes at once, and then the end of the stream if the peer said goodbye. -/
def Session.readPlain (s : Session) : PlainRead × Session :=
  if !s.received.isEmpty then (.data s.received, { s with received := [] })
  else if s.closeReceived then (.endOfStream, s)
  else (.wouldBlock, s)

def sessionEngine : EngineModel Session where
  readTls := Session.readTls
  process := Session.process
  readPlain := Session.readPlain
  writePlain := Session.writePlain
  wantsWrite s := !s.outgoing.isEmpty
  writeTls s := (.ok s.outgoing, { s with outgoing := [] })
  isHandshaking := Session.isHandshaking
  sendCloseNotify := Session.sendCloseNotify
  alpn s := s.protocol
  version s := s.version.map Version.text
  suite s := s.suite.map (·.name)
  limit := 4

instance : Secured (TlsStage Session) where
  alpn t := sessionEngine.alpn t.engine
  version t := sessionEngine.version t.engine
  suite t := sessionEngine.suite t.engine
  closeNotifyReceived t := t.closeNotifyReceived

end SecureGateway

import SecureGateway.Session.State

namespace SecureGateway

/-- A step that may stop the session; what was done before the fault stays done. -/
abbrev SessionStep := ExceptT SessionFault (StateM Session)

namespace Session

/-- Stops, and tells the peer why where that is usual. -/
def stop (error : EngineError) : SessionStep α := throw ⟨error, error.alert⟩

def stopQuietly (error : EngineError) : SessionStep α := throw ⟨error, none⟩

def refuse (why : Incompatibility) : SessionStep α := stop (.incompatible why)

def blame (how : Misbehaviour) : SessionStep α := stop (.misbehaved how)

def settle : Except Incompatibility α → SessionStep α
  | .ok a => return a
  | .error why => refuse why

def settleOr (error : EngineError) : Option α → SessionStep α
  | some a => return a
  | none => stop error

/-- Nothing of a further message may be at hand when the keys change. -/
def requireAligned : SessionStep Unit := do
  if !(← get).partialMessage.isEmpty then blame .pendingFragment

def enter (phase : SessionPhase) : SessionStep Unit := modify fun s => { s with phase }

def awaited (s : Session) : List String :=
  match s.phase with
  | .clientHello => ["ClientHello"]
  | .serverHello =>
    if Version.tls13.isSpoken s.suites && !s.retried then ["ServerHello", "HelloRetryRequest"]
    else ["ServerHello"]
  | .encryptedExtensions => ["EncryptedExtensions"]
  | .certificate _ =>
    if s.speaksTls13 then ["Certificate", "CertificateRequest"] else ["Certificate"]
  | .certificateVerify _ => ["CertificateVerify"]
  | .keyExchange _ statusAllowed =>
    if statusAllowed then ["ServerKeyExchange", "CertificateStatus"] else ["ServerKeyExchange"]
  | .serverHelloDone .. => ["ServerHelloDone"]
  | .clientKeyExchange => ["ClientKeyExchange"]
  | .changeCipherSpec => []
  | .finished => ["Finished"]
  | .traffic =>
    if !s.speaksTls13 then []
    else if s.isServer then ["KeyUpdate"] else ["NewSessionTicket", "KeyUpdate"]

def awaitedContent (s : Session) : List String :=
  match s.phase with
  | .changeCipherSpec => ["ChangeCipherSpec"]
  | .traffic => if s.speaksTls13 then ["ApplicationData", "Handshake"] else ["ApplicationData"]
  | _ => ["Handshake"]

def unexpected (got : String) : SessionStep α := do
  stop (.unexpectedContent got (← get).awaitedContent)

def unexpectedMessage (m : Handshake) : SessionStep α := do
  let s ← get
  if s.awaited.isEmpty then unexpected "Handshake"
  else stop (.unexpectedHandshake m.text s.awaited)

end Session
end SecureGateway

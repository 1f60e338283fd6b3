import SecureGateway.Session.Step

namespace SecureGateway.Session

def requestedHost (h : ClientHello) : SessionStep (Option String) :=
  match h.serverName? with
  | some (.host name) => return some name.toLower
  | some .malformed => blame .serverNameMalformed
  | some .address | none => return none

def serverProtocol (setup : ServerSetup) (h : ClientHello) : SessionStep Unit := do
  match setup.chooseProtocol h with
  | .error e => stop e
  | .ok protocol => modify fun s => { s with protocol }
  match ServerSetup.checkCertificateTypes h with
  | .error e => stop e
  | .ok () => return

def askForRetry (h : ClientHello) (group : KeyGroup) : SessionStep Unit := do
  let s ← get
  if s.retried then blame .retryRefused
  let request : RetryRequest :=
    ⟨h.sessionId, s.suiteInUse.code, [.group group.code, .version Version.tls13.code]⟩
  set { (s.sendMessages [.retryRequest request]).sendCipherChange with
    retried := true
    earlyDataLeft := if h.asksForEarlyData then earlyDataLimit else 0 }

/-- A shared key comes with its modes, and with a binder for each identity. None is known here. -/
def checkSharedKeys (h : ClientHello) : SessionStep Unit :=
  match h.sharedKeys? with
  | none => return
  | some (identities, binders) => do
    if h.sharedKeyModes?.isNone then blame .missingSharedKeyModes
    if identities != binders then blame .sharedKeyMismatch

def freshKeyMode : Nat := 1

/-- Sends the hello of the server; from then on records are sealed. -/
def sendServerHello (h : ClientHello) (group : KeyGroup) : SessionStep Unit :=
  modify fun s =>
    let s := s.sendMessages [.serverHello {
      version := Version.tls12.code
      random := ServerSetup.random
      sessionId := h.sessionId
      suite := s.suiteInUse.code
      compression := 0
      extensions := [.keyShare ⟨group.code, group.share "server"⟩, .version Version.tls13.code] }]
    ((if s.retried then s else s.sendCipherChange).settleSecret.writeWith 1).readWith 1

/-- The answer in TLS 1.3: the protocol is chosen once the keys are in use. Early data is not taken;
where the client meant to send some, what does not open is passed over. -/
def answerWithShare (setup : ServerSetup) (h : ClientHello) (group : KeyGroup)
    (schemes : List SignatureScheme) (share : KeyShare) : SessionStep Unit := do
  checkSharedKeys h
  modify fun s => { s with ticketsWanted := (h.sharedKeyModes?.getD []).contains freshKeyMode }
  if !group.accepts share.share then blame .invalidKeyShare
  sendServerHello h group
  serverProtocol setup h
  let scheme ← settleOr (.incompatible .noSignatureSchemesInCommon)
    (SignatureScheme.choose? setup.key.kind (schemes.filter SignatureScheme.isForTls13))
  modify fun s =>
    let s := s.sendMessages [.encryptedExtensions (commonAnswers h s.protocol),
      .certificate .tls13 setup.chain,
      .certificateVerify (Signed.make scheme setup.key.encoded s.secret), s.proof]
    { s.writeWith 2 with
      phase := .finished
      unopenedLeft := if h.asksForEarlyData then some earlyDataLimit else none }

def answerTls13 (setup : ServerSetup) (h : ClientHello) (group : KeyGroup)
    (schemes : List SignatureScheme) : SessionStep Unit := do
  if h.compressions.length != 1 then blame .offeredWrongCompressions
  let shares ← settleOr (.incompatible .keyShareRequired) h.keyShares?
  if !(shares.map (·.group)).Nodup then blame .offeredDuplicateKeyShares
  if !h.certificateCompressions.Nodup then blame .offeredDuplicateCertificateCompressions
  if (← get).retried && h.asksForEarlyData then blame .earlyDataAfterRetry
  match shares.find? fun share => share.group == group.code with
  | none => askForRetry h group
  | some share => answerWithShare setup h group schemes share

def uncompressedPoint : Nat := 0

def sendOlderAnswer (setup : ServerSetup) (h : ClientHello) (group : KeyGroup)
    (scheme : SignatureScheme) : SessionStep Unit :=
  modify fun s =>
    let randoms := h.random ++ setup.olderRandom
    let share : KeyShare := ⟨group.code, group.share "server"⟩
    let signed := Signed.make scheme setup.key.encoded (randoms ++ SignedShare.parameters share)
    let s := s.sendMessages [
      .serverHello {
        version := Version.tls12.code
        random := setup.olderRandom
        sessionId := unforeseen "server session"
        suite := s.suiteInUse.code
        compression := 0
        extensions :=
          (if h.renegotiates || h.suites.contains ClientSetup.renegotiationSignal then
            [.renegotiation []] else []) ++
          (if h.extendsMasterSecret then [.extendedMasterSecret] else []) ++
          commonAnswers h s.protocol },
      .certificate .tls12 setup.chain,
      .serverKeyExchange (SignedShare.encode ⟨share, signed⟩),
      .serverHelloDone]
    { s with phase := .clientKeyExchange, group, randoms }

/-- The answer in TLS 1.2: everything is settled before anything is sent. -/
def answerTls12 (setup : ServerSetup) (h : ClientHello) (group : KeyGroup)
    (schemes : List SignatureScheme) : SessionStep Unit := do
  if !(h.pointFormats?.getD [uncompressedPoint]).contains uncompressedPoint then
    refuse .uncompressedPointsRequired
  let usable := (SignatureScheme.ofAlgorithm setup.key.kind.algorithm).filter schemes.contains
  if usable.isEmpty then refuse .noSignatureSchemesInCommon
  serverProtocol setup h
  let scheme ← settleOr (.general "incompatible signing key")
    (SignatureScheme.choose? setup.key.kind usable)
  sendOlderAnswer setup h group scheme

def checkHost (host : Option String) : SessionStep Unit := do
  let s ← get
  if !s.retried then set { s with serverName := host }
  else if s.serverName != host then blame .serverNameDiffered

def onClientHello (setup : ServerSetup) (h : ClientHello) : SessionStep Unit := do
  if !h.compressions.contains 0 then refuse .nullCompressionRequired
  requireAligned
  checkHost (← requestedHost h)
  let schemes ← settleOr (.incompatible .signatureSchemesRequired) h.schemes?
  let version ← settle (setup.chooseVersion h)
  modify fun s => { s with version := some version }
  let group ← settle (ServerSetup.chooseGroup h)
  let suite ← settle (setup.chooseSuite version h)
  let earlier := (← get).suite
  modify fun s => { s with suite := some suite }
  if earlier.any (·.digestSize != suite.digestSize) then blame .digestVaried
  match version with
  | .tls13 => answerTls13 setup h group schemes
  | .tls12 => answerTls12 setup h group schemes

def onClientKeyExchange (body : Bytes) : SessionStep Unit := do
  match (Decoder.nonempty 1 : Decoder Bytes) body with
  | .error what => stopQuietly (.corrupt what)
  | .ok (share, rest) =>
    if !rest.isEmpty then stop (.corrupt .invalidKeyParameters)
    if !(← get).group.accepts share then blame .invalidKeyShare
    modify settleSecret
    enter .changeCipherSpec

/-- The client's proof completes the handshake; two tickets go out before any data. -/
def onClientFinished : SessionStep Unit := do
  requireAligned
  modify fun s =>
    if s.speaksTls13 then
      let s := s.readWith 2
      (if s.ticketsWanted then
        s.sendMessages [.newSessionTicket .tls13, .newSessionTicket .tls13] else s).startTraffic
    else ((s.sendCipherChange.writeWith 1).sendMessages [s.proof]).startTraffic

end SecureGateway.Session

import SecureGateway.Session.Step

namespace SecureGateway.Session

def settledVersion (setup : ClientSetup) (h : ServerHello) : SessionStep Version := do
  let older := Version.tls12.code
  let newer := Version.tls13.code
  let code := if h.version = older then h.version?.getD older else h.version
  if code == newer && Version.tls13.isSpoken setup.suites then return .tls13
  else if code == older && Version.tls12.isSpoken setup.suites then
    if h.version?.isSome then blame .versionSelectedTwice
    return .tls12
  else if code == newer || code == older then refuse .serverVersionDisabled
  else refuse .serverVersionUnsupported

def acceptProtocol (setup : ClientSetup) (name : Option Bytes) : SessionStep Unit := do
  modify fun s => { s with protocol := name.map Bytes.lossyText }
  if name.any fun p => !(setup.protocols.map Bytes.ofText).contains p then
    blame .selectedUnofferedProtocol

def acceptSuite (setup : ClientSetup) (version : Version) (code : Nat) : SessionStep Unit := do
  let suite ← settleOr (.misbehaved .selectedUnofferedSuite)
    (setup.suites.find? fun c => c.code == code)
  if suite.version != version then blame .selectedUnusableSuite
  if (← get).suite.any (· != suite) then blame .selectedOtherSuiteAfterRetry
  modify fun s => { s with suite := some suite }

def clearKinds : List Nat :=
  [ExtensionNumber.keyShare, ExtensionNumber.sharedKey, ExtensionNumber.versions]

def continueTls13 (h : ServerHello) : SessionStep Unit := do
  if h.extensions.any fun e => !clearKinds.contains e.kind then blame .cleartextExtension
  let share ← settleOr (.misbehaved .missingKeyShare) h.keyShare?
  let group := (← get).group
  if share.group != group.code then blame .wrongGroupForKeyShare
  if !group.accepts share.share then blame .invalidKeyShare
  requireAligned
  modify fun s =>
    let s := (if s.retried then s else s.sendCipherChange).settleSecret
    { (s.writeWith 1).readWith 1 with phase := .encryptedExtensions }

/-- A server that knows the newer version says so, and it makes up its own session. -/
def continueTls12 (setup : ClientSetup) (h : ServerHello) : SessionStep Unit := do
  if Version.tls13.isSpoken setup.suites && h.random.drop 24 == ServerSetup.downgradeMark then
    blame .attemptedDowngrade
  if !setup.sessionId.isEmpty && setup.sessionId == h.sessionId then blame .sessionEchoed
  modify fun s => { s with
    randoms := ClientSetup.random ++ h.random
    phase := .certificate h.hasStatus }

def onServerHello (setup : ClientSetup) (h : ServerHello) : SessionStep Unit := do
  let version ← settledVersion setup h
  if h.compression != 0 then blame .selectedUnofferedCompression
  if h.extensions.any fun e => !setup.allows e.kind then blame .unsolicitedExtension
  modify fun s => { s with version := some version }
  if version = .tls12 then acceptProtocol setup h.protocol?
  if h.pointFormats?.any fun fs => !fs.contains 0 then blame .uncompressedPointsOmitted
  acceptSuite setup version h.suite
  match version with
  | .tls13 => continueTls13 h
  | .tls12 => continueTls12 setup h

def retryGroup (wanted : Option Nat) : SessionStep KeyGroup := do
  let group := (← get).group
  match wanted with
  | none => return group
  | some code =>
    if code == group.code then return group
    else settleOr (.misbehaved .retryWithUnofferedGroup) (KeyGroup.ofCode? code)

/-- A request changes something, belongs to this session, and asks for nothing that was not offered. -/
def onRetryRequest (setup : ClientSetup) (r : RetryRequest) : SessionStep Unit := do
  requireAligned
  if r.cookie?.isNone then
    match r.group? with
    | some code => if code == (← get).group.code then blame .retryWithOfferedGroup
    | none => blame .retryWithoutChanges
  if r.sessionId != setup.sessionId then blame .retryWithWrongSession
  if r.version? != some Version.tls13.code then blame .retryWithUnsupportedVersion
  modify fun s => { s with version := some .tls13 }
  let suite ← settleOr (.misbehaved .retryWithUnofferedSuite)
    (setup.suites.find? fun c => c.code == r.suite)
  if r.extensions.contains .encryptedHello then blame .retryWithEncryptedHello
  modify fun s => { s with suite := some suite }
  let group ← retryGroup r.group?
  modify fun s => { s.sendCipherChange.sendMessages [.clientHello (setup.hello group r.cookie?)] with
    group, retried := true }

/-- Checks the first certificate of a chain with the help of the others, and gives its key. -/
def vouch (setup : ClientSetup) (chain : List Bytes) : SessionStep Bytes :=
  match chain with
  | [] => stop .noCertificates
  | leaf :: others =>
    let judged : Except CertificateFault Bytes := do
      Certificate.verify setup.anchors setup.now setup.name leaf others
      return (← Certificate.ofDer .refused leaf).key
    match judged with
    | .ok key => return key
    | .error fault => stop (.certificate fault)

def checkSigned (signed : Signed) (key message : Bytes) : SessionStep Unit := do
  if !SignatureScheme.supported.contains signed.scheme then blame .unadvertisedScheme
  match signed.verify key message with
  | .ok () => return
  | .error fault => stop (.certificate fault)

def onCertificateVerify (setup : ClientSetup) (chain : List Bytes) (signed : Signed) :
    SessionStep Unit := do
  let key ← vouch setup chain
  checkSigned signed key (← get).secret
  enter .finished

def onServerKeyExchange (chain : List Bytes) (body : Bytes) : SessionStep Unit := do
  let share ← settleOr (.corrupt .missingKeyExchange) (SignedShare.ofBytes? body)
  enter (.serverHelloDone chain share true)

def sendShare (group : KeyGroup) : SessionStep Unit :=
  modify fun s =>
    let s := s.sendMessages [.clientKeyExchange (Bytes.sized 1 (group.share "client"))]
    let s := (s.sendCipherChange.settleSecret.writeWith 1)
    { s.sendMessages [s.proof] with phase := .changeCipherSpec }

/-- The end of the server's answer in TLS 1.2: now everything in it is checked. -/
def onServerHelloDone (setup : ClientSetup) (chain : List Bytes) (share : SignedShare) :
    SessionStep Unit := do
  requireAligned
  let key ← vouch setup chain
  let s ← get
  let wanted := (SignatureScheme.algorithm? share.signed.scheme).map SuiteFamily.tls12
  if wanted != some s.suiteInUse.family then blame .wrongAlgorithmForExchange
  checkSigned share.signed key (s.randoms ++ SignedShare.parameters share.keyShare)
  let group ← settleOr (.misbehaved .selectedUnofferedGroup) (KeyGroup.ofCode? share.keyShare.group)
  if !group.accepts share.keyShare.share then blame .invalidKeyShare
  sendShare group

def onServerFinished : SessionStep Unit := do
  if (← get).speaksTls13 then requireAligned
  modify fun s =>
    if s.speaksTls13 then (((s.sendMessages [s.proof]).writeWith 2).readWith 2).startTraffic
    else s.startTraffic

end SecureGateway.Session

import SecureGateway.Session.Client
import SecureGateway.Session.Server
import SecureGateway.Tls.Failure

namespace SecureGateway.Session

def onClientMessage (setup : ClientSetup) (m : Handshake) : SessionStep Unit := do
  let s ← get
  match s.phase, m with
  | .serverHello, .serverHello h => onServerHello setup h
  | .serverHello, .retryRequest r =>
    if s.awaited.contains m.text then onRetryRequest setup r else unexpectedMessage m
  | .encryptedExtensions, .encryptedExtensions es =>
    acceptProtocol setup (es.findSome? fun | .protocol p => some p | _ => none)
    enter (.certificate false)
  | .certificate statusAllowed, .certificate form chain =>
    if form != (if s.speaksTls13 then .tls13 else .tls12) then unexpectedMessage m
    else if s.speaksTls13 then enter (.certificateVerify chain)
    else enter (.keyExchange chain statusAllowed)
  | .certificateVerify chain, .certificateVerify signed => onCertificateVerify setup chain signed
  | .keyExchange chain true, .certificateStatus => enter (.keyExchange chain false)
  | .keyExchange chain _, .serverKeyExchange body => onServerKeyExchange chain body
  | .serverHelloDone chain share true, .certificateRequest .tls12 =>
    enter (.serverHelloDone chain share false)
  | .serverHelloDone chain share _, .serverHelloDone => onServerHelloDone setup chain share
  | .finished, .finished _ => onServerFinished
  | .traffic, .newSessionTicket .tls13 => if !s.speaksTls13 then unexpectedMessage m
  | _, _ => unexpectedMessage m

def onServerMessage (setup : ServerSetup) (m : Handshake) : SessionStep Unit := do
  match (← get).phase, m with
  | .clientHello, .clientHello h => onClientHello setup h
  | .clientKeyExchange, .clientKeyExchange body => onClientKeyExchange body
  | .finished, .finished _ => onClientFinished
  | _, _ => unexpectedMessage m

def onMessage (m : Handshake) : SessionStep Unit := do
  match (← get).role with
  | .client setup => onClientMessage setup m
  | .server setup => onServerMessage setup m

def messageHeaderSize : Nat := 4

def messageLimit : Nat := 0xffff

def oversizedWithin : Nat → Bytes → Bool
  | 0, _ => false
  | fuel + 1, bs =>
    match bs with
    | _ :: a :: b :: c :: r =>
      let n := Bytes.toNat [a, b, c]
      decide (messageLimit < n) || oversizedWithin fuel (r.drop n)
    | _ => false

def takeMessage? (bs : Bytes) : Option (UInt8 × Bytes × Bytes) :=
  match bs with
  | kind :: a :: b :: c :: r =>
    let n := Bytes.toNat [a, b, c]
    if r.length < n then none else some (kind, r.take n, r.drop n)
  | _ => none

def onHandshake : Nat → SessionStep Unit
  | 0 => return
  | fuel + 1 => do
    let s ← get
    match takeMessage? s.partialMessage with
    | none => return
    | some (kind, body, rest) =>
      set { s with partialMessage := rest, unopenedLeft := none }
      match Handshake.decode s.partialVersion kind body with
      | .error what => stop (.corrupt what)
      | .ok m =>
        modify (remember (s.partialMessage.take (messageHeaderSize + body.length)))
        onMessage m
        onHandshake fuel

def onHandshakePiece (e : Envelope) : SessionStep Unit := do
  let s ← get
  let size := Envelope.headerSize + e.payload.length
  let s := if s.partialMessage.isEmpty then
      { s with partialVersion := e.version, partialSize := size }
    else { s with partialSize := s.partialSize + size }
  let bs := s.partialMessage ++ e.payload
  set { s with partialMessage := bs }
  if oversizedWithin bs.length bs then stop (.corrupt .handshakePayloadTooLarge)
  onHandshake bs.length

/-- Alerts of a level that does not exist are refused. A goodbye counts once data may flow, and
warnings are put up with, a few of them, before TLS 1.3 is settled. -/
def onAlert (level code : UInt8) : SessionStep Unit := do
  let s ← get
  let alert : Alert := ⟨code⟩
  if level != 1 && level != 2 then throw ⟨.alertReceived alert, some .illegalParameter⟩
  else if !s.isHandshaking && alert == .closeNotify then set { s with closeReceived := true }
  else if level == 1 then
    if s.warningsLeft = 0 then blame .tooManyWarnings
    set { s with warningsLeft := s.warningsLeft - 1 }
    if s.speaksTls13 && alert != .userCanceled then
      throw ⟨.alertReceived alert, some .decodeError⟩
  else stop (.alertReceived alert)

/-- A change of cipher means something in TLS 1.2 only; during a newer handshake it is dropped. -/
def onCipherChange (payload : Bytes) : SessionStep Unit := do
  let s ← get
  if s.speaksTls13 && s.isHandshaking then
    if payload != [1] then blame .illegalCipherChange
    if s.cipherChangesLeft = 0 then stopQuietly (.misbehaved .illegalCipherChange)
    set { s with cipherChangesLeft := s.cipherChangesLeft - 1 }
  else if payload.head? != some 1 then stop (.corrupt .invalidCipherChange)
  else if payload.length != 1 then stop (.corrupt (.trailingData "ChangeCipherSpecPayload"))
  else if s.phase == .changeCipherSpec then
    requireAligned
    modify fun s => { s.readWith 1 with phase := .finished }
  else unexpected "ChangeCipherSpec"

/-- Before a second hello, early data is passed over up to its limit. -/
def onData (payload : Bytes) : SessionStep Unit := do
  let s ← get
  if !s.isHandshaking then set { s with received := s.received ++ payload }
  else if s.phase == .clientHello && s.retried && decide (payload.length ≤ s.earlyDataLeft) then
    set { s with earlyDataLeft := s.earlyDataLeft - payload.length }
  else unexpected "ApplicationData"

def onContent (e : Envelope) : SessionStep Unit :=
  match e.content with
  | .handshake => onHandshakePiece e
  | .changeCipherSpec => onCipherChange e.payload
  | .applicationData => onData e.payload
  | .alert =>
    match e.payload with
    | [level, code] => onAlert level code
    | [] => stop (.corrupt (.missingData "AlertLevel"))
    | [_] => stop (.corrupt (.missingData "AlertDescription"))
    | _ => stop (.corrupt (.trailingData "AlertMessagePayload"))
  | .heartbeat => stop (.corrupt .invalidContentType)

/-- Records that come in the clear although there is a key: changes of cipher, and in TLS 1.3 alerts
of two bytes at most before anything was opened. None does so in the middle of a message. -/
def mayBeClear (s : Session) (e : Envelope) : Bool :=
  s.partialMessage.isEmpty && (e.content == .changeCipherSpec ||
    (s.speaksTls13 && e.content == .alert && !s.opened && decide (e.payload.length ≤ 2)))

/-- The record as its sender meant it, or nothing for one that may be passed over. -/
def openRecord (e : Envelope) : SessionStep (Option Envelope) := do
  let s ← get
  match s.readKey with
  | none => return some e
  | some k =>
    if s.mayBeClear e then return some e
    match unsealRecord s.suiteInUse k e with
    | some inner =>
      set { s with readKey := some k.advance, opened := true }
      return some inner
    | none =>
      match s.unopenedLeft with
      | none => stop .decryptFailed
      | some n =>
        if n < e.payload.length then stop .decryptFailed
        set { s with unopenedLeft := some (n - e.payload.length) }
        if !s.partialMessage.isEmpty then blame .interleavedEarlyData
        return none

/-- A message in pieces goes on without anything between them, and empty records have a limit. -/
def checkOrder (e : Envelope) : SessionStep Unit := do
  let s ← get
  if !s.partialMessage.isEmpty && e.content != .handshake then blame .interleavedMessage
  if e.payload.isEmpty then
    if s.emptyRecordsLeft = 0 then blame .tooManyEmptyFragments
    set { s with emptyRecordsLeft := s.emptyRecordsLeft - 1 }
  else set { s with emptyRecordsLeft := 32 }

/-- Works through the records that are complete; nothing counts after a goodbye. Records that did not
open are passed over, but they are tried again unless one behind them opens. -/
def onRecords : Nat → Bytes → SessionStep Unit
  | 0, _ => return
  | fuel + 1, bs => do
    if (← get).closeReceived then modify fun s => { s with incoming := [] }
    else
      match Envelope.read? bs with
      | .error what => stop (.corrupt what)
      | .ok none => return
      | .ok (some (e, rest)) =>
        match ← openRecord e with
        | none => onRecords fuel rest
        | some e =>
          checkOrder e
          modify fun s => { s with incoming := rest }
          onContent e
          onRecords fuel rest

/-- A failed session reports the same failure again. -/
def process (s : Session) : Except EngineError Unit × Session :=
  match s.failure with
  | some e => (.error e, s)
  | none =>
    match (onRecords (s.incoming.length + 1) s.incoming).run s with
    | (.ok (), s) => (.ok (), s)
    | (.error fault, s) =>
      let s := match fault.alert with
        | some a => s.sendAlert 2 a
        | none => s
      (.error fault.error, { s with failure := some fault.error })

/-- How many bytes may wait to be worked through: a record, or a whole message in pieces. -/
def waitingLimit (s : Session) : Nat :=
  if s.partialMessage.isEmpty then Envelope.headerSize + Envelope.payloadBound else messageLimit

def waiting (s : Session) : Nat :=
  s.incoming.length + if s.partialMessage.isEmpty then 0 else s.partialSize

def readTls (bs : Bytes) (s : Session) : Except IoError Nat × Session :=
  if s.closeReceived then (.ok 0, s)
  else if s.waitingLimit ≤ s.waiting then (.error (.custom "message buffer full"), s)
  else
    let part := bs.take (min intake (s.waitingLimit - s.waiting))
    (.ok part.length, { s with incoming := s.incoming ++ part })

/-- Seals plaintext, or holds it back until the handshake is over. Each buffer is limited, and what
fits is kept even when not all does. -/
def writePlain (bs : Bytes) (s : Session) : Except IoError Unit × Session :=
  if bs.isEmpty then (.ok (), s)
  else
    match s.failure with
    | some e => (.error (.custom e.message), s)
    | none =>
      let used := if s.isHandshaking then s.heldBack.flatten.length else s.outgoing.length
      let fitting := bs.take (bufferLimit - used)
      let s := if s.isHandshaking then
          if fitting.isEmpty then s else { s with heldBack := s.heldBack ++ [fitting] }
        else s.sendAll .applicationData fitting
      if fitting.length < bs.length then (.error (.custom "failed to write whole buffer"), s)
      else (.ok (), s)

def sendCloseNotify (s : Session) : Session :=
  if s.alertSent then s else s.sendAlert 1 .closeNotify

end SecureGateway.Session

import SecureGateway.Session.Negotiation

namespace SecureGateway

inductive SessionRole where
  | client (setup : ClientSetup)
  | server (setup : ServerSetup)
  deriving DecidableEq, Repr

/-- What a session waits for. A client keeps the certificate until it is vouched for. -/
inductive SessionPhase where
  | clientHello
  | serverHello
  | encryptedExtensions
  | certificate (statusAllowed : Bool)
  | certificateVerify (chain : List Bytes)
  | keyExchange (chain : List Bytes) (statusAllowed : Bool)
  | serverHelloDone (chain : List Bytes) (share : SignedShare) (requestAllowed : Bool)
  | clientKeyExchange
  | changeCipherSpec
  | finished
  | traffic
  deriving DecidableEq, Repr

/-- A key, named by who writes with it, in which epoch and after which messages, with the number of
the next record. -/
structure RecordKey where
  byClient : Bool
  epoch : Nat
  secret : Bytes
  next : Nat
  deriving DecidableEq, Repr

/-- A TLS session without a transport: bytes from the peer go in, bytes for the peer come out.
Sealing is symbolic: a sealed record carries its content in the clear together with a tag that names
the key and the number of the record, so that it opens only in its place. -/
structure Session where
  role : SessionRole
  phase : SessionPhase
  version : Option Version
  suite : Option CipherSuite
  protocol : Option String
  transcript : Bytes
  group : KeyGroup
  randoms : Bytes
  retried : Bool
  serverName : Option String
  ticketsWanted : Bool
  secret : Bytes
  readKey : Option RecordKey
  writeKey : Option RecordKey
  opened : Bool
  /-- How many bytes of early data are passed over before a second hello. -/
  earlyDataLeft : Nat
  /-- How many bytes of records that do not open are passed over, while they are. -/
  unopenedLeft : Option Nat
  /-- Ciphertext that is no complete record yet, behind records that did not open. -/
  incoming : Bytes
  /-- The start of a handshake message, the version of the record it began in, and how many bytes it
  came in. -/
  partialMessage : Bytes
  partialVersion : Nat
  partialSize : Nat
  outgoing : Bytes
  /-- Plaintext accepted before it may be sent, one item a write. -/
  heldBack : List Bytes
  received : Bytes
  closeReceived : Bool
  /-- No close alert is sent after a fatal one or a second time. -/
  alertSent : Bool
  warningsLeft : Nat
  cipherChangesLeft : Nat
  emptyRecordsLeft : Nat
  failure : Option EngineError
  deriving DecidableEq, Repr

structure SessionFault where
  error : EngineError
  alert : Option Alert
  deriving DecidableEq, Repr

namespace RecordKey

def tagSize : Nat := 16

def tag (k : RecordKey) : Bytes :=
  Bytes.ofNat 1 (if k.byClient then 1 else 2) ++ Bytes.ofNat 1 k.epoch ++ Bytes.ofNat 6 k.next ++
    k.secret.take 8

def advance (k : RecordKey) : RecordKey := { k with next := k.next + 1 }

end RecordKey

def explicitNumberSize (s : CipherSuite) : Nat := if s.numbersRecords then 8 else 0

/-- Seals a record. From TLS 1.3 on the type of the content is sealed as well. -/
def sealRecord (s : CipherSuite) (k : RecordKey) (e : Envelope) : Envelope :=
  match s.version with
  | .tls13 => { content := .applicationData, payload := e.payload ++ [e.content.code] ++ k.tag }
  | .tls12 => { e with payload := Bytes.ofNat (explicitNumberSize s) k.next ++ e.payload ++ k.tag }

def unsealRecord (s : CipherSuite) (k : RecordKey) (e : Envelope) : Option Envelope :=
  let inner := (e.payload.drop (explicitNumberSize s)).take
    (e.payload.length - explicitNumberSize s - RecordKey.tagSize)
  if e.payload.drop (e.payload.length - RecordKey.tagSize) != k.tag then none
  else
    match s.version with
    | .tls12 => some { e with payload := inner }
    | .tls13 => (inner.getLast?.bind ContentType.ofCode?).map fun c =>
        ⟨c, inner.dropLast, Version.tls13.code⟩

namespace Session

def bufferLimit : Nat := 64 * 1024

def intake : Nat := 4096

def earlyDataLimit : Nat := 16384

def isServer (s : Session) : Bool :=
  match s.role with
  | .client _ => false
  | .server _ => true

def suites (s : Session) : List CipherSuite :=
  match s.role with
  | .client c => c.suites
  | .server c => c.suites

def isHandshaking (s : Session) : Bool := s.phase != .traffic

def speaksTls13 (s : Session) : Bool := s.version == some .tls13

def suiteInUse (s : Session) : CipherSuite := s.suite.getD ⟨"", .tls13⟩

/-- Sends a record in the clear. The very first hello names the oldest version. -/
def sendClear (e : Envelope) (s : Session) : Session :=
  let e := if s.phase == .serverHello && s.transcript.isEmpty && e.content == .handshake then
    { e with version := 0x0301 } else e
  { s with outgoing := s.outgoing ++ e.encode }

def send (e : Envelope) (s : Session) : Session :=
  match s.writeKey with
  | none => s.sendClear e
  | some k =>
    { s with
      outgoing := s.outgoing ++ (sealRecord s.suiteInUse k e).encode
      writeKey := some k.advance }

def sendAll (content : ContentType) (bs : Bytes) (s : Session) : Session :=
  (fragments bs).foldl (fun s piece => s.send { content, payload := piece }) s

def remember (bs : Bytes) (s : Session) : Session := { s with transcript := s.transcript ++ bs }

def sendMessages (ms : List Handshake) (s : Session) : Session :=
  let bs := ms.flatMap Handshake.encode
  (s.sendAll .handshake bs).remember bs

def sendCipherChange (s : Session) : Session :=
  s.sendClear { content := .changeCipherSpec, payload := [1] }

def sendAlert (level : UInt8) (a : Alert) (s : Session) : Session :=
  { s.send { content := .alert, payload := [level, a.code] } with alertSent := true }

/-- Settles what the keys are made from: all messages so far. -/
def settleSecret (s : Session) : Session := { s with secret := Digest.sha256.of s.transcript }

def writeWith (epoch : Nat) (s : Session) : Session :=
  { s with writeKey := some ⟨!s.isServer, epoch, s.secret, 0⟩ }

def readWith (epoch : Nat) (s : Session) : Session :=
  { s with readKey := some ⟨s.isServer, epoch, s.secret, 0⟩ }

/-- The proof of having seen the same messages; its value is the key's concern. -/
def proof (s : Session) : Handshake :=
  .finished (Handshake.zeros (if s.speaksTls13 then s.suiteInUse.digestSize else 12))

/-- From now on data flows; what was held back goes first. -/
def startTraffic (s : Session) : Session :=
  s.heldBack.foldl (fun s piece => s.sendAll .applicationData piece)
    { s with phase := .traffic, heldBack := [] }

def blank (role : SessionRole) (phase : SessionPhase) : Session where
  role
  phase
  version := none
  suite := none
  protocol := none
  transcript := []
  group := ClientSetup.group
  randoms := []
  retried := false
  serverName := none
  ticketsWanted := false
  secret := []
  readKey := none
  writeKey := none
  opened := false
  earlyDataLeft := 0
  unopenedLeft := none
  incoming := []
  partialMessage := []
  partialVersion := 0
  partialSize := 0
  outgoing := []
  heldBack := []
  received := []
  closeReceived := false
  alertSent := false
  warningsLeft := 4
  cipherChangesLeft := 2
  emptyRecordsLeft := 32
  failure := none

def client (setup : ClientSetup) : Session :=
  (blank (.client setup) .serverHello).sendMessages [.clientHello (setup.hello ClientSetup.group none)]

def server (setup : ServerSetup) : Session := blank (.server setup) .clientHello

end Session
end SecureGateway

import SecureGateway.Certificate.PrivateKey
import SecureGateway.Session.Message
import SecureGateway.Text.Utf8

namespace SecureGateway

structure ClientSetup where
  suites : List CipherSuite
  protocols : List String
  anchors : List TrustAnchor
  name : ServerName
  /-- When certificates are judged, in seconds of Unix time. -/
  now : Nat
  deriving DecidableEq, Repr

/-- A server, the certificate chain it presents, its own certificate first, and its key. -/
structure ServerSetup where
  suites : List CipherSuite
  protocols : List String
  chain : List Bytes
  key : ServerKey
  deriving DecidableEq, Repr

def Version.isSpoken (suites : List CipherSuite) : Version → Bool
  | .tls13 => suites.any (·.isTls13)
  | .tls12 => suites.any (!·.isTls13)

def Version.allSpoken (suites : List CipherSuite) : List Version :=
  [Version.tls13, .tls12].filter (Version.isSpoken suites)

def CipherSuite.version (s : CipherSuite) : Version := if s.isTls13 then .tls13 else .tls12

namespace ClientSetup

def random : Bytes := unforeseen "client random"

def group : KeyGroup := .x25519

/-- A client of the newer version makes up a session, so as to look like a client of the older one. -/
def sessionId (c : ClientSetup) : Bytes :=
  if Version.tls13.isSpoken c.suites then unforeseen "client session" else []

def offersProtocols (c : ClientSetup) : Bool := !c.protocols.isEmpty

def requestedName? (c : ClientSetup) : Option RequestedName :=
  match c.name with
  | .dns host => some (.host host)
  | .ip _ => none

/-- The signalling value that a client of the older version adds to its suites. -/
def renegotiationSignal : Nat := 0x00ff

/-- A client's hello, with a share in one group; a second hello returns the server's cookie. -/
def hello (c : ClientSetup) (group : KeyGroup) (cookie : Option Bytes) : ClientHello :=
  let older := Version.tls12.isSpoken c.suites
  let newer := Version.tls13.isSpoken c.suites
  { version := Version.tls12.code
    random
    sessionId := c.sessionId
    suites := c.suites.map (·.code) ++ (if older then [renegotiationSignal] else [])
    compressions := [0]
    extensions :=
      [.versions ((Version.allSpoken c.suites).map Version.code),
       .groups (KeyGroup.all.map KeyGroup.code),
       .signatureSchemes SignatureScheme.supported,
       .extendedMasterSecret,
       .statusRequest,
       .pointFormats [0],
       .sessionTicket []] ++
      (if newer then [.keyShares [⟨group.code, group.share "client"⟩], .sharedKeyModes [1]]
        else []) ++
      c.requestedName?.toList.map ClientExtension.serverName ++
      (if c.offersProtocols then [.protocols (c.protocols.map Bytes.ofText)] else []) ++
      cookie.toList.map ClientExtension.cookie }

/-- The kinds of extension that a server may answer: those of the hello, and renegotiation. -/
def allows (c : ClientSetup) (kind : Nat) : Bool :=
  kind == ExtensionNumber.renegotiation ||
    (c.hello group none).extensions.any fun e => e.kind == kind

end ClientSetup

namespace ServerSetup

/-- The newest version that both sides speak. Without a list of versions the hello's own counts. -/
def chooseVersion (s : ServerSetup) (h : ClientHello) : Except Incompatibility Version :=
  let speaks (v : Version) : Bool := v.isSpoken s.suites
  match h.versions? with
  | some vs =>
    if vs.contains Version.tls13.code && speaks .tls13 then .ok .tls13
    else if vs.contains Version.tls12.code && speaks .tls12 then .ok .tls12
    else .error .tls12NotOfferedOrEnabled
  | none =>
    if h.version < Version.tls12.code then .error .tls12NotOffered
    else if speaks .tls12 then .ok .tls12
    else .error .versionsRequired

def chooseGroup (h : ClientHello) : Except Incompatibility KeyGroup :=
  match h.groups.findSome? KeyGroup.ofCode? with
  | some g => .ok g
  | none => .error .noGroupsInCommon

def chooseSuite (s : ServerSetup) (v : Version) (h : ClientHello) :
    Except Incompatibility CipherSuite :=
  let usable := s.suites.filter fun c =>
    match v with
    | .tls13 => c.isTls13
    | .tls12 => c.family == .tls12 s.key.kind.algorithm
  match h.suites.findSome? fun code => usable.find? fun c => c.code == code with
  | some c => .ok c
  | none => .error .noCipherSuitesInCommon

/-- The server's first protocol that the client offers. It fails where both sides name some and have
none in common. -/
def chooseProtocol (s : ServerSetup) (h : ClientHello) : Except EngineError (Option String) :=
  match h.protocols? with
  | none => .ok none
  | some theirs =>
    match s.protocols.find? fun p => theirs.contains (Bytes.ofText p) with
    | some p => .ok (some p)
    | none => if s.protocols.isEmpty then .ok none else .error .noCommonProtocol

/-- A client that lists types of certificate lists the usual one, or not the raw key. -/
def checkCertificateTypes (h : ClientHello) : Except EngineError Unit :=
  let usual (types : List Nat) : Bool := types.contains 0 || !types.contains 2
  if usual h.serverCertificateTypes && usual h.clientCertificateTypes then .ok ()
  else .error (.incompatible .certificateTypeMismatch)

def random : Bytes := unforeseen "server random"

/-- The end of the random value by which a server says that it could have done better. -/
def downgradeMark : Bytes := [0x44, 0x4f, 0x57, 0x4e, 0x47, 0x52, 0x44, 0x01]

def olderRandom (s : ServerSetup) : Bytes :=
  if Version.tls13.isSpoken s.suites then random.take 24 ++ downgradeMark else random

end ServerSetup

def commonAnswers (h : ClientHello) (protocol : Option String) : List ServerExtension :=
  (if h.serverName?.isSome then [.serverName] else []) ++
    protocol.toList.map fun p => .protocol (.ofText p)

end SecureGateway

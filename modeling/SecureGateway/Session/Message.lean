import SecureGateway.Session.Extension

namespace SecureGateway

open Decoder

structure ClientHello where
  version : Nat
  random : Bytes
  sessionId : Bytes
  suites : List Nat
  compressions : List Nat
  extensions : List ClientExtension
  deriving DecidableEq, Repr

structure ServerHello where
  version : Nat
  random : Bytes
  sessionId : Bytes
  suite : Nat
  compression : Nat
  extensions : List ServerExtension
  deriving DecidableEq, Repr

/-- A hello of the server that asks the client for another one. -/
structure RetryRequest where
  sessionId : Bytes
  suite : Nat
  extensions : List RetryExtension
  deriving DecidableEq, Repr

/-- What a server of TLS 1.2 agrees on keys with: a group, its share, and a signature of both. -/
structure SignedShare where
  keyShare : KeyShare
  signed : Signed
  deriving DecidableEq, Repr

/-- A message. Some have a form of their own in TLS 1.3; the exchanges of keys are read only once the
suite is known. -/
inductive Handshake where
  | clientHello (h : ClientHello)
  | serverHello (h : ServerHello)
  | retryRequest (r : RetryRequest)
  | encryptedExtensions (es : List ServerExtension)
  | certificate (form : Version) (chain : List Bytes)
  | certificateRequest (form : Version)
  | certificateStatus
  | certificateVerify (signed : Signed)
  | serverKeyExchange (body : Bytes)
  | serverHelloDone
  | clientKeyExchange (body : Bytes)
  | finished (proof : Bytes)
  | newSessionTicket (form : Version)
  | other (kind : UInt8)
  deriving DecidableEq, Repr

namespace ClientHello

def find? (h : ClientHello) (f : ClientExtension → Option α) : Option α := h.extensions.findSome? f

def serverName? (h : ClientHello) : Option RequestedName :=
  h.find? fun | .serverName n => some n | _ => none

def groups (h : ClientHello) : List Nat :=
  (h.find? fun | .groups gs => some gs | _ => none).getD []

def schemes? (h : ClientHello) : Option (List SignatureScheme) :=
  h.find? fun | .signatureSchemes ss => some ss | _ => none

def pointFormats? (h : ClientHello) : Option (List Nat) :=
  h.find? fun | .pointFormats fs => some fs | _ => none

def protocols? (h : ClientHello) : Option (List Bytes) :=
  h.find? fun | .protocols ps => some ps | _ => none

def versions? (h : ClientHello) : Option (List Nat) :=
  h.find? fun | .versions vs => some vs | _ => none

def keyShares? (h : ClientHello) : Option (List KeyShare) :=
  h.find? fun | .keyShares ss => some ss | _ => none

def sharedKeys? (h : ClientHello) : Option (Nat × Nat) :=
  h.find? fun | .sharedKeys i b => some (i, b) | _ => none

def sharedKeyModes? (h : ClientHello) : Option (List Nat) :=
  h.find? fun | .sharedKeyModes ms => some ms | _ => none

def certificateCompressions (h : ClientHello) : List Nat :=
  (h.find? fun | .certificateCompressions cs => some cs | _ => none).getD []

def serverCertificateTypes (h : ClientHello) : List Nat :=
  (h.find? fun | .serverCertificateTypes ts => some ts | _ => none).getD []

def clientCertificateTypes (h : ClientHello) : List Nat :=
  (h.find? fun | .clientCertificateTypes ts => some ts | _ => none).getD []

def hasSessionTicket (h : ClientHello) : Bool :=
  h.extensions.any fun | .sessionTicket _ => true | _ => false

def renegotiates (h : ClientHello) : Bool :=
  h.extensions.any fun | .renegotiation _ => true | _ => false

def asksForEarlyData (h : ClientHello) : Bool := h.extensions.contains .earlyData

def extendsMasterSecret (h : ClientHello) : Bool := h.extensions.contains .extendedMasterSecret

end ClientHello

namespace ServerHello

def find? (h : ServerHello) (f : ServerExtension → Option α) : Option α := h.extensions.findSome? f

def version? (h : ServerHello) : Option Nat := h.find? fun | .version v => some v | _ => none

def keyShare? (h : ServerHello) : Option KeyShare := h.find? fun | .keyShare s => some s | _ => none

def pointFormats? (h : ServerHello) : Option (List Nat) :=
  h.find? fun | .pointFormats fs => some fs | _ => none

def protocol? (h : ServerHello) : Option Bytes := h.find? fun | .protocol p => some p | _ => none

def hasStatus (h : ServerHello) : Bool := h.extensions.contains .statusRequest

end ServerHello

namespace RetryRequest

/-- The random value that tells a request for another hello from an answer. -/
def mark : Bytes := [
  0xcf, 0x21, 0xad, 0x74, 0xe5, 0x9a, 0x61, 0x11, 0xbe, 0x1d, 0x8c, 0x02, 0x1e, 0x65, 0xb8, 0x91,
  0xc2, 0xa2, 0x11, 0x16, 0x7a, 0xbb, 0x8c, 0x5e, 0x07, 0x9e, 0x09, 0xe2, 0xc8, 0xa8, 0x33, 0x9c]

def find? (r : RetryRequest) (f : RetryExtension → Option α) : Option α := r.extensions.findSome? f

def group? (r : RetryRequest) : Option Nat := r.find? fun | .group g => some g | _ => none

def cookie? (r : RetryRequest) : Option Bytes := r.find? fun | .cookie c => some c | _ => none

def version? (r : RetryRequest) : Option Nat := r.find? fun | .version v => some v | _ => none

end RetryRequest

namespace SignedShare

def namedCurve : UInt8 := 3

def parameters (s : KeyShare) : Bytes :=
  namedCurve :: Bytes.ofNat 2 s.group ++ Bytes.sized 1 s.share

def encode (s : SignedShare) : Bytes :=
  parameters s.keyShare ++ Bytes.ofNat 2 s.signed.scheme ++ Bytes.sized 2 s.signed.signature

def signedDecoder : Decoder Signed := do
  return ⟨← code "SignatureScheme" 2, ← sized 2⟩

def ofBytes? (body : Bytes) : Option SignedShare :=
  let d : Decoder SignedShare := do
    if (← code "ECCurveType" 1) != namedCurve.toNat then throw .missingKeyExchange
    let share : KeyShare := ⟨← code "NamedGroup" 2, ← nonempty 1⟩
    let signed ← signedDecoder
    expectEnd "ServerKeyExchange"
    return ⟨share, signed⟩
  ((d body).toOption).map (·.1)

end SignedShare

namespace Handshake

def kindNames : List (Nat × String) := [
  (0, "HelloRequest"), (1, "ClientHello"), (2, "ServerHello"), (3, "HelloVerifyRequest"),
  (4, "NewSessionTicket"), (5, "EndOfEarlyData"), (6, "HelloRetryRequest"),
  (8, "EncryptedExtensions"), (11, "Certificate"), (12, "ServerKeyExchange"),
  (13, "CertificateRequest"), (14, "ServerHelloDone"), (15, "CertificateVerify"),
  (16, "ClientKeyExchange"), (20, "Finished"), (21, "CertificateURL"), (22, "CertificateStatus"),
  (24, "KeyUpdate"), (25, "CompressedCertificate"), (254, "MessageHash")]

def kind : Handshake → UInt8
  | clientHello _ => 1
  | serverHello _ | retryRequest _ => 2
  | newSessionTicket _ => 4
  | encryptedExtensions _ => 8
  | certificate .. => 11
  | serverKeyExchange _ => 12
  | certificateRequest _ => 13
  | serverHelloDone => 14
  | certificateVerify _ => 15
  | clientKeyExchange _ => 16
  | finished _ => 20
  | certificateStatus => 22
  | other k => k

/-- A request for another hello has a name of its own. -/
def text : Handshake → String
  | retryRequest _ => "HelloRetryRequest"
  | m => Alert.nameOrNumber kindNames "HandshakeType" m.kind.toNat

def zeros (n : Nat) : Bytes := List.replicate n 0

def encodeChain (form : Version) (chain : List Bytes) : Bytes :=
  match form with
  | .tls12 => Bytes.sized 3 (chain.flatMap (Bytes.sized 3))
  | .tls13 => 0 :: Bytes.sized 3 (chain.flatMap fun c => Bytes.sized 3 c ++ zeros 2)

def ticketBody : Bytes := zeros 8 ++ Bytes.sized 1 (zeros 32) ++ Bytes.sized 2 (zeros 32) ++ zeros 2

def body : Handshake → Bytes
  | clientHello h => Bytes.ofNat 2 h.version ++ h.random ++ Bytes.sized 1 h.sessionId ++
      Extension.numbers 2 2 h.suites ++ Extension.numbers 1 1 h.compressions ++
      ClientExtension.encodeAll h.extensions
  | serverHello h => Bytes.ofNat 2 h.version ++ h.random ++ Bytes.sized 1 h.sessionId ++
      Bytes.ofNat 2 h.suite ++ Bytes.ofNat 1 h.compression ++ ServerExtension.encodeAll h.extensions
  | retryRequest r => Bytes.ofNat 2 Version.tls12.code ++ RetryRequest.mark ++
      Bytes.sized 1 r.sessionId ++ Bytes.ofNat 2 r.suite ++ [0] ++ RetryExtension.encodeAll r.extensions
  | encryptedExtensions es => ServerExtension.encodeAll es
  | certificate form chain => encodeChain form chain
  | certificateVerify s => Bytes.ofNat 2 s.scheme ++ Bytes.sized 2 s.signature
  | serverKeyExchange bs => bs
  | clientKeyExchange bs => bs
  | finished proof => proof
  | newSessionTicket _ => ticketBody
  | certificateRequest _ | certificateStatus | serverHelloDone | other _ => []

def encode (m : Handshake) : Bytes := m.kind :: Bytes.sized 3 m.body

def sessionIdDecoder : Decoder Bytes := do
  let n ← number 1
  if 32 < n then throw (.trailingData "SessionID")
  take "SessionID" n

def clientHelloDecoder : Decoder Handshake := do
  let version ← code "ProtocolVersion" 2
  let random ← take "Random" 32
  let sessionId ← sessionIdDecoder
  let suites ← nonemptyList "CipherSuites" 2 (code "CipherSuite" 2)
  let compressions ← nonemptyList "Compressions" 1 (code "Compression" 1)
  let extensions ← ClientExtension.decodeAll
  expectEnd "ClientHelloPayload"
  return clientHello ⟨version, random, sessionId, suites, compressions, extensions⟩

def retryRequestDecoder : Decoder Handshake := do
  let sessionId ← sessionIdDecoder
  let suite ← code "CipherSuite" 2
  if (← code "Compression" 1) != 0 then throw .unsupportedCompression
  return retryRequest ⟨sessionId, suite, ← RetryExtension.decodeAll⟩

def serverHelloDecoder : Decoder Handshake := do
  let version ← code "ProtocolVersion" 2
  let random ← take "Random" 32
  if random == RetryRequest.mark then retryRequestDecoder
  else
    let sessionId ← sessionIdDecoder
    let suite ← code "CipherSuite" 2
    let compression ← code "Compression" 1
    let extensions ← ServerExtension.decodeAllOrNone
    expectEnd "ServerHelloPayload"
    return serverHello ⟨version, random, sessionId, suite, compression, extensions⟩

/-- A status is a response of one kind, of any length. -/
def statusDecoder : Decoder Unit := do
  if (← code "CertificateStatusType" 1) != 1 then throw .invalidStatusType
  let _ ← sized 3

def certificateSizeLimit : Nat := 0x10000

def chainDecoder (entry : Decoder Bytes) : Decoder (List Bytes) := do
  let n ← number 3
  if certificateSizeLimit < n then throw .certificatePayloadTooLarge
  within (← part n) (many entry)

/-- Blocks of extensions of which only the format matters. -/
def checkExtensions (name : String) (known : Nat → Option (Decoder Unit)) : Decoder Unit := do
  let _ ← Extension.all ⟨name, known, fun _ _ => pure ()⟩ false

def certificateDecoder (form : Version) : Decoder Handshake := do
  match form with
  | .tls12 => certificate form <$> chainDecoder (sized 3)
  | .tls13 =>
    let _ ← sized 1
    certificate form <$> chainDecoder (do
      let c ← sized 3
      checkExtensions "CertificateExtensions" fun
        | ExtensionNumber.statusRequest => some statusDecoder
        | _ => none
      return c)

def certificateRequestDecoder (form : Version) : Decoder Handshake := do
  match form with
  | .tls12 =>
    let _ ← nonemptyList "ClientCertificateTypes" 1 (code "ClientCertificateType" 1)
    let _ ← Extension.schemeList
    let _ ← Extension.authorityList
  | .tls13 =>
    let _ ← sized 1
    checkExtensions "CertificateRequestExtensions" fun
      | ExtensionNumber.signatureSchemes => some (Extension.schemeList *> pure ())
      | ExtensionNumber.authorities => some (Extension.authorityList *> pure ())
      | ExtensionNumber.certificateCompression => some (Extension.compressionList *> pure ())
      | _ => none
  return certificateRequest form

def ticketDecoder (form : Version) : Decoder Handshake := do
  let _ ← number 4
  match form with
  | .tls12 =>
    let _ ← sized 2
  | .tls13 =>
    let _ ← number 4
    let _ ← sized 1
    if (← sized 2).isEmpty then throw .emptyTicket
    checkExtensions "NewSessionTicketExtensions" fun
      | ExtensionNumber.earlyData => some (number 4 *> pure ())
      | _ => none
  return newSessionTicket form

def compressedCertificateDecoder : Decoder Unit := do
  let _ ← code "CertificateCompressionAlgorithm" 2
  let _ ← number 3
  let _ ← sized 3

def bodyDecoder (form : Version) (kind : UInt8) : Decoder Handshake :=
  let checked (d : Decoder Unit) : Decoder Handshake := d *> pure (other kind)
  match kind.toNat with
  | 1 => clientHelloDecoder
  | 2 => serverHelloDecoder
  | 4 => ticketDecoder form
  | 5 => checked (expectEnd "EndOfEarlyData")
  | 6 => throw (.unexpectedMessage "HelloRetryRequest")
  | 8 => encryptedExtensions <$> ServerExtension.decodeAll
  | 11 => certificateDecoder form
  | 12 => serverKeyExchange <$> remaining
  | 13 => certificateRequestDecoder form
  | 14 => expectEnd "ServerHelloDone" *> pure serverHelloDone
  | 15 => certificateVerify <$> SignedShare.signedDecoder
  | 16 => clientKeyExchange <$> remaining
  | 20 => finished <$> remaining
  | 22 => statusDecoder *> pure certificateStatus
  | 24 => checked (code "KeyUpdateRequest" 1 *> pure ())
  | 25 => checked compressedCertificateDecoder
  | 254 => throw (.unexpectedMessage "MessageHash")
  | _ => checked (remaining *> pure ())

/-- Reads the body of a message that came in a record of some version; nothing may follow. -/
def decode (recordVersion : Nat) (kind : UInt8) (bs : Bytes) : Except Corruption Handshake :=
  let form : Version := if recordVersion = Version.tls13.code then .tls13 else .tls12
  let d : Decoder Handshake := do
    let m ← bodyDecoder form kind
    expectEnd "HandshakeMessagePayload"
    return m
  (d bs).map (·.1)

end Handshake
end SecureGateway

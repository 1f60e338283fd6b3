import SecureGateway.Certificate.ServerName
import SecureGateway.Session.Codec
import SecureGateway.Session.KeyGroup
import SecureGateway.Session.Record
import SecureGateway.Session.Scheme

namespace SecureGateway

open Decoder

/-- The host that a client asks for. A numeric address counts as no name at all. -/
inductive RequestedName where
  | host (name : String)
  | address
  | malformed
  deriving DecidableEq, Repr

structure KeyShare where
  group : Nat
  share : Bytes
  deriving DecidableEq, Repr

/-- What a client offers. Of identities and binders of shared keys only the number counts. -/
inductive ClientExtension where
  | serverName (name : RequestedName)
  | statusRequest
  | groups (codes : List Nat)
  | pointFormats (codes : List Nat)
  | signatureSchemes (schemes : List SignatureScheme)
  | protocols (names : List Bytes)
  | clientCertificateTypes (codes : List Nat)
  | serverCertificateTypes (codes : List Nat)
  | extendedMasterSecret
  | certificateCompressions (codes : List Nat)
  | sessionTicket (ticket : Bytes)
  | sharedKeys (identities binders : Nat)
  | earlyData
  | versions (codes : List Nat)
  | cookie (value : Bytes)
  | sharedKeyModes (codes : List Nat)
  | keyShares (shares : List KeyShare)
  | renegotiation (value : Bytes)
  | other (kind : Nat) (body : Bytes)
  deriving DecidableEq, Repr

inductive ServerExtension where
  | serverName
  | statusRequest
  | pointFormats (codes : List Nat)
  | protocol (name : Bytes)
  | extendedMasterSecret
  | version (code : Nat)
  | keyShare (share : KeyShare)
  | renegotiation (value : Bytes)
  | other (kind : Nat) (body : Bytes)
  deriving DecidableEq, Repr

inductive RetryExtension where
  | group (code : Nat)
  | cookie (value : Bytes)
  | version (code : Nat)
  | encryptedHello
  deriving DecidableEq, Repr

namespace ExtensionNumber

@[match_pattern] def serverName : Nat := 0
@[match_pattern] def statusRequest : Nat := 5
@[match_pattern] def groups : Nat := 10
@[match_pattern] def pointFormats : Nat := 11
@[match_pattern] def signatureSchemes : Nat := 13
@[match_pattern] def protocols : Nat := 16
@[match_pattern] def clientCertificateType : Nat := 19
@[match_pattern] def serverCertificateType : Nat := 20
@[match_pattern] def extendedMasterSecret : Nat := 23
@[match_pattern] def certificateCompression : Nat := 27
@[match_pattern] def sessionTicket : Nat := 35
@[match_pattern] def sharedKey : Nat := 41
@[match_pattern] def earlyData : Nat := 42
@[match_pattern] def versions : Nat := 43
@[match_pattern] def cookie : Nat := 44
@[match_pattern] def sharedKeyModes : Nat := 45
@[match_pattern] def authorities : Nat := 47
@[match_pattern] def keyShare : Nat := 51
@[match_pattern] def transportParameters : Nat := 57
@[match_pattern] def outerExtensions : Nat := 0xfd00
@[match_pattern] def encryptedHello : Nat := 0xfe0d
@[match_pattern] def renegotiation : Nat := 0xff01

end ExtensionNumber

namespace Extension

/-- The formats of the known kinds, and what is made of any other kind. -/
structure Format (α : Type) where
  name : String
  known : Nat → Option (Decoder α)
  unknown : Nat → Bytes → Decoder α

def one (f : Format α) (seen : List Nat) : Decoder (Nat × α) := do
  let kind ← code "ExtensionType" 2
  let body ← sized 2
  match f.known kind with
  | some d =>
    if seen.contains kind then throw (.duplicateExtension kind)
    let a ← within body (do
      let a ← d
      expectEnd f.name
      return a)
    return (kind, a)
  | none =>
    let a ← f.unknown kind body
    if seen.contains kind then throw (.duplicateExtension kind)
    return (kind, a)

/-- Reads extensions to the end. A shared key stands last where `sharedKeyLast` says so. -/
def allWithin (f : Format α) (sharedKeyLast : Bool) : Nat → List Nat → Decoder (List α)
  | 0, _ => return []
  | fuel + 1, seen => do
    if ← atEnd then return []
    let (kind, a) ← one f seen
    if sharedKeyLast && kind == ExtensionNumber.sharedKey && !(← atEnd) then
      throw .sharedKeyNotLast
    return a :: (← allWithin f sharedKeyLast fuel (kind :: seen))

def all (f : Format α) (sharedKeyLast : Bool) : Decoder (List α) := do
  let body ← sized 2
  within body (allWithin f sharedKeyLast body.length [])

/-- A block that may be left out at the end of a message. -/
def allOrNone (f : Format α) (sharedKeyLast : Bool) : Decoder (List α) := do
  if ← atEnd then return [] else all f sharedKeyLast

def nothing : Decoder Unit := expectEnd "Empty"

def encode (kind : Nat) (body : Bytes) : Bytes := Bytes.ofNat 2 kind ++ Bytes.sized 2 body

def numbers (listWidth width : Nat) (ns : List Nat) : Bytes :=
  Bytes.sized listWidth (ns.flatMap (Bytes.ofNat width))

end Extension

namespace RequestedName

def ofBytes (bs : Bytes) : RequestedName :=
  match (bs.text?).bind ServerName.ofText? with
  | some (.dns name) => host name
  | some (.ip _) => address
  | none => malformed

/-- Reads names until one is of another type than a host; two hosts are one too many. -/
def within (found : Option RequestedName) : Nat → Decoder (Option RequestedName)
  | 0 => return found
  | fuel + 1 => do
    if ← atEnd then return found
    if (← code "ServerNameType" 1) != 0 then
      let _ ← remaining
      return found
    let bs ← nonempty 2
    if found.isSome then throw .invalidServerName
    within (some (ofBytes bs)) fuel

/-- A list without a host is as good as a malformed one. -/
def decoder : Decoder RequestedName := do
  match ← number 2 with
  | 0 => throw (.emptyList "ServerNames")
  | n => return (← Decoder.within (← part n) (within none n)).getD malformed

def encode : RequestedName → Bytes
  | host name => Bytes.sized 2 (0 :: Bytes.sized 2 (.ofText (ServerName.withoutFinalDot name)))
  | _ => []

end RequestedName

namespace KeyShare

def decoder : Decoder KeyShare := do
  return ⟨← code "NamedGroup" 2, ← nonempty 2⟩

def encode (s : KeyShare) : Bytes := Bytes.ofNat 2 s.group ++ Bytes.sized 2 s.share

end KeyShare

namespace Extension

def pointFormatList : Decoder (List Nat) := nonemptyList "ECPointFormats" 1 (code "ECPointFormat" 1)

def schemeList : Decoder (List SignatureScheme) :=
  listUnless .noSignatureSchemes 2 (code "SignatureScheme" 2)

def authorityList : Decoder (List Bytes) := list 2 (nonempty 2)

def compressionList : Decoder (List Nat) :=
  nonemptyList "CertificateCompressionAlgorithms" 1 (code "CertificateCompressionAlgorithm" 2)

def certificateTypeList : Decoder (List Nat) :=
  nonemptyList "CertificateTypes" 1 (code "CertificateType" 1)

def suitePairs : Decoder (Nat × Nat) := do return (← code "HpkeKdf" 2, ← code "HpkeAead" 2)

end Extension

namespace ClientExtension

open Extension (nothing)

def statusFormat : Decoder Unit := do
  if (← code "CertificateStatusType" 1) == 1 then
    let _ ← list 2 (sized 2)
    let _ ← sized 2
  else
    let _ ← remaining

def sharedKeyFormat : Decoder ClientExtension := do
  let identities ← nonemptyList "PskIdentities" 2 (do
    let _ ← nonempty 2
    number 4)
  let binders ← nonemptyList "PskBinders" 2 (nonempty 1)
  return sharedKeys identities.length binders.length

/-- The outer form of an encrypted hello holds a suite, keys and the hello; the inner form nothing. -/
def encryptedHelloFormat : Decoder Unit := do
  match ← code "EchClientHelloType" 1 with
  | 0 =>
    let _ ← Extension.suitePairs
    let _ ← number 1
    let _ ← sized 2
    let _ ← nonempty 2
  | 1 => return
  | _ => throw .invalidContentType

def checked (kind : Nat) (d : Decoder α) : Decoder ClientExtension := d *> pure (other kind [])

def format : Extension.Format ClientExtension where
  name := "ClientExtensions"
  unknown kind body := return other kind body
  known kind :=
    match kind with
    | ExtensionNumber.serverName => some (serverName <$> RequestedName.decoder)
    | ExtensionNumber.statusRequest => some (statusFormat *> pure statusRequest)
    | ExtensionNumber.groups => some (groups <$> nonemptyList "NamedGroups" 2 (code "NamedGroup" 2))
    | ExtensionNumber.pointFormats => some (pointFormats <$> Extension.pointFormatList)
    | ExtensionNumber.signatureSchemes => some (signatureSchemes <$> Extension.schemeList)
    | ExtensionNumber.protocols => some (protocols <$> nonemptyList "ProtocolNames" 2 (nonempty 1))
    | ExtensionNumber.clientCertificateType =>
    some (clientCertificateTypes <$> Extension.certificateTypeList)
    | ExtensionNumber.serverCertificateType =>
    some (serverCertificateTypes <$> Extension.certificateTypeList)
    | ExtensionNumber.extendedMasterSecret => some (nothing *> pure extendedMasterSecret)
    | ExtensionNumber.certificateCompression =>
    some (certificateCompressions <$> Extension.compressionList)
    | ExtensionNumber.sessionTicket => some (sessionTicket <$> remaining)
    | ExtensionNumber.sharedKey => some sharedKeyFormat
    | ExtensionNumber.earlyData => some (nothing *> pure earlyData)
    | ExtensionNumber.versions =>
    some (versions <$> nonemptyList "ProtocolVersions" 1 (code "ProtocolVersion" 2))
    | ExtensionNumber.cookie => some (cookie <$> nonempty 2)
    | ExtensionNumber.sharedKeyModes =>
    some (sharedKeyModes <$> nonemptyList "PskKeyExchangeModes" 1 (code "PskKeyExchangeMode" 1))
    | ExtensionNumber.authorities => some (checked kind Extension.authorityList)
    | ExtensionNumber.keyShare => some (keyShares <$> list 2 KeyShare.decoder)
    | ExtensionNumber.transportParameters => some (other kind <$> remaining)
    | ExtensionNumber.outerExtensions =>
    some (checked kind (nonemptyList "ExtensionTypes" 1 (code "ExtensionType" 2)))
    | ExtensionNumber.encryptedHello => some (checked kind encryptedHelloFormat)
    | ExtensionNumber.renegotiation => some (renegotiation <$> sized 1)
    | _ => none

def decodeAll : Decoder (List ClientExtension) := Extension.allOrNone format true

def parts : ClientExtension → Nat × Bytes
  | serverName name => (ExtensionNumber.serverName, name.encode)
  | statusRequest => (ExtensionNumber.statusRequest, [1, 0, 0, 0, 0])
  | groups gs => (ExtensionNumber.groups, Extension.numbers 2 2 gs)
  | pointFormats fs => (ExtensionNumber.pointFormats, Extension.numbers 1 1 fs)
  | signatureSchemes ss => (ExtensionNumber.signatureSchemes, Extension.numbers 2 2 ss)
  | protocols ps => (ExtensionNumber.protocols, Bytes.sized 2 (ps.flatMap (Bytes.sized 1)))
  | clientCertificateTypes ts => (ExtensionNumber.clientCertificateType, Extension.numbers 1 1 ts)
  | serverCertificateTypes ts => (ExtensionNumber.serverCertificateType, Extension.numbers 1 1 ts)
  | extendedMasterSecret => (ExtensionNumber.extendedMasterSecret, [])
  | certificateCompressions cs => (ExtensionNumber.certificateCompression, Extension.numbers 1 2 cs)
  | sessionTicket t => (ExtensionNumber.sessionTicket, t)
  | sharedKeys _ _ => (ExtensionNumber.sharedKey, [])
  | earlyData => (ExtensionNumber.earlyData, [])
  | versions vs => (ExtensionNumber.versions, Extension.numbers 1 2 vs)
  | cookie c => (ExtensionNumber.cookie, Bytes.sized 2 c)
  | sharedKeyModes ms => (ExtensionNumber.sharedKeyModes, Extension.numbers 1 1 ms)
  | keyShares ss => (ExtensionNumber.keyShare, Bytes.sized 2 (ss.flatMap KeyShare.encode))
  | renegotiation r => (ExtensionNumber.renegotiation, Bytes.sized 1 r)
  | other kind body => (kind, body)

def kind (e : ClientExtension) : Nat := e.parts.1

def encodeAll (es : List ClientExtension) : Bytes :=
  Bytes.sized 2 (es.flatMap fun e => Extension.encode e.parts.1 e.parts.2)

end ClientExtension

namespace ServerExtension

open Extension (nothing)

def singleName : Decoder Bytes := do
  match ← number 2 with
  | 0 => throw (.emptyList "ProtocolNames")
  | n => Decoder.within (← part n) do
    let name ← nonempty 1
    expectEnd "SingleProtocolName"
    return name

def encryptionSettings : Decoder Unit := do
  let version ← code "EchVersion" 2
  let body ← sized 2
  if version == 0xfe0d then
    Decoder.within body do
      let _ ← number 1
      let _ ← code "HpkeKem" 2
      let _ ← nonempty 2
      let _ ← nonemptyList "HpkeSymmetricCipherSuites" 2 Extension.suitePairs
      let _ ← number 1
      match ((← sized 1).text?).bind ServerName.ofText? with
      | some (.dns _) => return
      | _ => throw .invalidServerName

def checked (kind : Nat) (d : Decoder α) : Decoder ServerExtension := d *> pure (other kind [])

def format : Extension.Format ServerExtension where
  name := "ServerExtensions"
  unknown kind body := return other kind body
  known kind :=
    match kind with
    | ExtensionNumber.serverName => some (nothing *> pure serverName)
    | ExtensionNumber.statusRequest => some (nothing *> pure statusRequest)
    | ExtensionNumber.pointFormats => some (pointFormats <$> Extension.pointFormatList)
    | ExtensionNumber.protocols => some (protocol <$> singleName)
    | ExtensionNumber.clientCertificateType | ExtensionNumber.serverCertificateType =>
    some (checked kind (code "CertificateType" 1))
    | ExtensionNumber.extendedMasterSecret => some (nothing *> pure extendedMasterSecret)
    | ExtensionNumber.sessionTicket | ExtensionNumber.earlyData => some (checked kind nothing)
    | ExtensionNumber.sharedKey => some (checked kind (number 2))
    | ExtensionNumber.versions => some (version <$> code "ProtocolVersion" 2)
    | ExtensionNumber.keyShare => some (keyShare <$> KeyShare.decoder)
    | ExtensionNumber.transportParameters => some (other kind <$> remaining)
    | ExtensionNumber.encryptedHello => some (checked kind (list 2 encryptionSettings))
    | ExtensionNumber.renegotiation => some (renegotiation <$> sized 1)
    | _ => none

def decodeAll : Decoder (List ServerExtension) := Extension.all format false

def decodeAllOrNone : Decoder (List ServerExtension) := Extension.allOrNone format false

def parts : ServerExtension → Nat × Bytes
  | serverName => (ExtensionNumber.serverName, [])
  | statusRequest => (ExtensionNumber.statusRequest, [])
  | pointFormats fs => (ExtensionNumber.pointFormats, Extension.numbers 1 1 fs)
  | protocol p => (ExtensionNumber.protocols, Bytes.sized 2 (Bytes.sized 1 p))
  | extendedMasterSecret => (ExtensionNumber.extendedMasterSecret, [])
  | version v => (ExtensionNumber.versions, Bytes.ofNat 2 v)
  | keyShare s => (ExtensionNumber.keyShare, s.encode)
  | renegotiation r => (ExtensionNumber.renegotiation, Bytes.sized 1 r)
  | other kind body => (kind, body)

def kind (e : ServerExtension) : Nat := e.parts.1

def encodeAll (es : List ServerExtension) : Bytes :=
  Bytes.sized 2 (es.flatMap fun e => Extension.encode e.parts.1 e.parts.2)

end ServerExtension

namespace RetryExtension

def format : Extension.Format RetryExtension where
  name := "HelloRetryRequestExtensions"
  unknown _ _ := throw .unknownRetryExtension
  known kind :=
    match kind with
    | ExtensionNumber.versions => some (version <$> code "ProtocolVersion" 2)
    | ExtensionNumber.cookie => some (cookie <$> nonempty 2)
    | ExtensionNumber.keyShare => some (group <$> code "NamedGroup" 2)
    | ExtensionNumber.encryptedHello => some (remaining *> pure encryptedHello)
    | _ => none

def decodeAll : Decoder (List RetryExtension) := Extension.all format false

def parts : RetryExtension → Nat × Bytes
  | group g => (ExtensionNumber.keyShare, Bytes.ofNat 2 g)
  | cookie c => (ExtensionNumber.cookie, Bytes.sized 2 c)
  | version v => (ExtensionNumber.versions, Bytes.ofNat 2 v)
  | encryptedHello => (ExtensionNumber.encryptedHello, [])

def encodeAll (es : List RetryExtension) : Bytes :=
  Bytes.sized 2 (es.flatMap fun e => Extension.encode e.parts.1 e.parts.2)

end RetryExtension
end SecureGateway

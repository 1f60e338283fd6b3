import SecureGateway.Certificate.AlternativeName
import SecureGateway.Certificate.Validity
import SecureGateway.Signature.Method

namespace SecureGateway

inductive ExtensionKind where
  | keyUsage
  | names
  | basicConstraints
  | nameConstraints
  | revocationPoints
  | purposes
  deriving DecidableEq, Repr

/-- The bytes that are signed, the content of the sequence that names the method, and the signature. -/
structure SignedData where
  data : Bytes
  algorithm : Bytes
  signature : Bytes
  deriving DecidableEq, Repr

structure Certificate where
  signed : SignedData
  issuer : Bytes
  validity : Bytes
  subject : Bytes
  key : Bytes
  extensions : List (ExtensionKind × Bytes)
  deriving DecidableEq, Repr

/-- What vouches for a chain without being vouched for. -/
structure TrustAnchor where
  subject : Bytes
  key : Bytes
  nameConstraints : Option Bytes
  deriving DecidableEq, Repr

namespace ExtensionKind

def ofIdentifier? : Bytes → Option ExtensionKind
  | [0x55, 0x1d, 15] => some keyUsage
  | [0x55, 0x1d, 17] => some names
  | [0x55, 0x1d, 19] => some basicConstraints
  | [0x55, 0x1d, 30] => some nameConstraints
  | [0x55, 0x1d, 31] => some revocationPoints
  | [0x55, 0x1d, 37] => some purposes
  | _ => none

end ExtensionKind

/-- What becomes of a critical extension that is not known. -/
inductive CriticalRule where
  | refused
  | ignored
  deriving DecidableEq, Repr

namespace Certificate

abbrev Reader := DerReader CertificateFault

def extensionContent (kind : ExtensionKind) (value : Bytes) : Except CertificateFault Bytes :=
  if kind = .keyUsage then .ok value
  else (DerReader.expect Der.sequenceTag : Reader Bytes).whole .badDer value

/-- Reads an extension and remembers it if it is known; none may come twice. -/
def extension (rule : CriticalRule) (known : List (ExtensionKind × Bytes)) :
    Reader (List (ExtensionKind × Bytes)) :=
  DerReader.within Der.sequenceTag .trailingData do
    let id ← DerReader.expect Der.identifierTag
    let critical ← DerReader.flag .trailingData
    let value ← DerReader.expect Der.octetStringTag
    match ExtensionKind.ofIdentifier? id with
    | none =>
      if critical && rule = .refused then DerReader.fail .unsupportedCriticalExtension
      else return known
    | some kind =>
      if (known.lookup kind).isSome then DerReader.fail .extensionValueInvalid
      else return known ++ [(kind, ← liftM (extensionContent kind value))]

def extensionsWithin (rule : CriticalRule) :
    Nat → List (ExtensionKind × Bytes) → Reader (List (ExtensionKind × Bytes))
  | 0, known => return known
  | fuel + 1, known => do
    if ← DerReader.atEnd then return known
    extensionsWithin rule fuel (← extension rule known)

def extensionsTag : UInt8 := 0xa3

def extensionBlock (rule : CriticalRule) : Reader (List (ExtensionKind × Bytes)) := do
  if ← DerReader.atEnd then return []
  else
    DerReader.within extensionsTag .trailingData
      (DerReader.within Der.sequenceTag .trailingData fun bs => extensionsWithin rule bs.length [] bs)

def versionTag : UInt8 := 0xa0

def requireVersion : Reader Unit :=
  DerReader.within versionTag .unsupportedVersion do
    match ← DerReader.natural with
    | [2] => return
    | [_] => DerReader.fail .unsupportedVersion
    | _ => DerReader.malformed

def signedPart (rule : CriticalRule) (signed : SignedData) : Reader Certificate := do
  requireVersion
  let _ ← DerReader.expect Der.integerTag
  let algorithm ← DerReader.expect Der.sequenceTag
  if algorithm ≠ signed.algorithm then DerReader.fail .signatureAlgorithmMismatch
  let issuer ← DerReader.expect Der.sequenceTag
  let validity ← DerReader.expect Der.sequenceTag
  let subject ← DerReader.expect Der.sequenceTag
  let key ← DerReader.expect Der.sequenceTag
  return ⟨signed, issuer, validity, subject, key, ← extensionBlock rule⟩

def signedData : Reader (Bytes × SignedData) :=
  DerReader.within Der.sequenceTag .trailingData do
    let (data, content) ← DerReader.measured Der.sequenceTag
    let algorithm ← DerReader.expect Der.sequenceTag
    return (content, ⟨data, algorithm, ← DerReader.bitString .trailingData⟩)

def ofDer (rule : CriticalRule) (encoded : Bytes) : Except CertificateFault Certificate := do
  let (content, signed) ← signedData.whole .trailingData encoded
  (signedPart rule signed).whole .trailingData content

def extension? (c : Certificate) (kind : ExtensionKind) : Option Bytes := c.extensions.lookup kind

def names (c : Certificate) : List (Except CertificateFault AlternativeName) :=
  AlternativeName.ofExtension (c.extension? .names)

end Certificate

namespace TrustAnchor

def ofCertificate (c : Certificate) : TrustAnchor :=
  ⟨c.subject, c.key, c.extension? .nameConstraints⟩

/-- The oldest form of a certificate, without a version and without extensions. -/
def oldest : DerReader CertificateFault TrustAnchor :=
  DerReader.within Der.sequenceTag .badDer do
    let a ← DerReader.within Der.sequenceTag .badDer do
      let _ ← DerReader.expect Der.integerTag
      let _ ← DerReader.expect Der.sequenceTag
      let _ ← DerReader.expect Der.sequenceTag
      let _ ← DerReader.expect Der.sequenceTag
      let subject ← DerReader.expect Der.sequenceTag
      return ⟨subject, ← DerReader.expect Der.sequenceTag, none⟩
    let _ ← DerReader.expect Der.sequenceTag
    let _ ← DerReader.expect Der.bitStringTag
    return a

/-- An anchor may be of another version, if it has the oldest form. -/
def ofDer (encoded : Bytes) : Except CertificateFault TrustAnchor :=
  match Certificate.ofDer .ignored encoded with
  | .ok c => .ok (ofCertificate c)
  | .error .unsupportedVersion =>
    match oldest.whole .badDer encoded with
    | .ok a => .ok a
    | .error _ => .error .badDer
  | .error e => .error e

end TrustAnchor
end SecureGateway

import SecureGateway.Certificate.Der
import SecureGateway.Text.Hex
import SecureGateway.Text.Quoted

namespace SecureGateway

inductive CertificateFault where
  | badDer
  | badTime
  | trailingData
  | unsupportedVersion
  | unsupportedCriticalExtension
  | extensionValueInvalid
  | signatureAlgorithmMismatch
  | invalidValidity
  | notYetValid (now first : Nat)
  | expired (now last : Nat)
  | authorityAsEndEntity
  | endEntityAsAuthority
  | pathLengthViolated
  | noPurpose
  | wrongPurpose (presented : List (List Nat))
  | unknownIssuer
  | wrongSignature
  | unsupportedSignature (algorithm : Bytes) (known : List Bytes)
  | unsupportedSignatureForKey (algorithm key : Bytes)
  | nameConstraintViolation
  | malformedHostName
  | malformedNameConstraint
  | invalidNetworkMask
  | pathTooDeep
  | tooManySignatures
  | tooManyPaths
  | tooManyComparisons
  | wrongName (wanted : String) (presented : List String)
  deriving DecidableEq, Repr

namespace CertificateFault

instance : Malformed CertificateFault := ⟨.badDer⟩

/-- How much a fault says: the higher of two is told. -/
def rank : CertificateFault → Nat
  | notYetValid .. | expired .. => 290
  | wrongName .. => 280
  | wrongSignature => 260
  | signatureAlgorithmMismatch => 250
  | noPurpose => 245
  | wrongPurpose _ => 240
  | nameConstraintViolation => 230
  | pathLengthViolated => 220
  | authorityAsEndEntity | endEntityAsAuthority => 210
  | invalidValidity => 190
  | invalidNetworkMask => 180
  | unsupportedSignatureForKey .. => 150
  | unsupportedSignature .. => 140
  | unsupportedCriticalExtension | unsupportedVersion => 130
  | pathTooDeep => 61
  | malformedHostName => 60
  | malformedNameConstraint => 50
  | trailingData => 40
  | extensionValueInvalid => 30
  | badTime => 20
  | badDer => 10
  | tooManySignatures | tooManyPaths | tooManyComparisons | unknownIssuer => 0

/-- The first of two faults of the same rank is told. -/
def mostSpecific (a b : CertificateFault) : CertificateFault := if b.rank ≤ a.rank then a else b

/-- A search that has used up its means is given up at once. -/
def isFatal (f : CertificateFault) : Bool :=
  [tooManySignatures, tooManyPaths, tooManyComparisons].contains f

def alternatives : List String → String
  | [] => ""
  | [a] => a
  | [a, b] => a ++ " or " ++ b
  | a :: r => a ++ ", " ++ alternatives r

def purposeText (id : List Nat) : String :=
  if id = [1, 3, 6, 1, 5, 5, 7, 3, 1] then "server authentication"
  else if id = [1, 3, 6, 1, 5, 5, 7, 3, 2] then "client authentication"
  else String.intercalate ", " (id.map toString)

def decimalsText (bs : Bytes) : String := Text.listText (fun b => toString b.toNat) bs

def hexText (bs : Bytes) : String := "0x" ++ bs.hex

def otherText (name : String) : String := "Other(OtherError(" ++ name ++ "))"

def text : CertificateFault → String
  | badDer | badTime | trailingData => "BadEncoding"
  | invalidValidity => "Expired"
  | notYetValid now first =>
    "certificate not valid yet: verification time " ++ toString now ++
      " (UNIX), but certificate is not valid before " ++ toString first ++ " (" ++
      toString (first - now) ++ " seconds in future)"
  | expired now last =>
    "certificate expired: verification time " ++ toString now ++
      " (UNIX), but certificate is not valid after " ++ toString last ++ " (" ++
      toString (now - last) ++ " seconds ago)"
  | unknownIssuer => "UnknownIssuer"
  | wrongSignature => "BadSignature"
  | wrongName wanted presented =>
    "certificate not valid for name " ++ Text.quote wanted ++ "; certificate is " ++
      (if presented.isEmpty then
        "not valid for any names (according to its subjectAltName extension)"
      else "only valid for " ++ alternatives presented)
  | wrongPurpose presented =>
    "certificate does not allow extended key usage for server authentication, allows " ++
      String.intercalate ", " (presented.map purposeText)
  | unsupportedSignature algorithm known =>
    Text.recordText "UnsupportedSignatureAlgorithmContext" [
      ("signature_algorithm_id", decimalsText algorithm),
      ("supported_algorithms", Text.listText hexText known)]
  | unsupportedSignatureForKey algorithm key =>
    Text.recordText "UnsupportedSignatureAlgorithmForPublicKeyContext" [
      ("signature_algorithm_id", decimalsText algorithm),
      ("public_key_algorithm_id", decimalsText key)]
  | unsupportedVersion => otherText "UnsupportedCertVersion"
  | unsupportedCriticalExtension => otherText "UnsupportedCriticalExtension"
  | extensionValueInvalid => otherText "ExtensionValueInvalid"
  | signatureAlgorithmMismatch => otherText "SignatureAlgorithmMismatch"
  | authorityAsEndEntity => otherText "CaUsedAsEndEntity"
  | endEntityAsAuthority => otherText "EndEntityUsedAsCa"
  | pathLengthViolated => otherText "PathLenConstraintViolated"
  | noPurpose => otherText "EmptyEkuExtension"
  | nameConstraintViolation => otherText "NameConstraintViolation"
  | malformedHostName => otherText "MalformedDnsIdentifier"
  | malformedNameConstraint => otherText "MalformedNameConstraint"
  | invalidNetworkMask => otherText "InvalidNetworkMaskConstraint"
  | pathTooDeep => otherText "MaximumPathDepthExceeded"
  | tooManySignatures => otherText "MaximumSignatureChecksExceeded"
  | tooManyPaths => otherText "MaximumPathBuildCallsExceeded"
  | tooManyComparisons => otherText "MaximumNameConstraintComparisonsExceeded"

end CertificateFault
end SecureGateway

import SecureGateway.Certificate.Fault
import SecureGateway.Text.Numeral
import SecureGateway.Text.Quoted

namespace SecureGateway

/-- An alert is known by its number; registered ones have names. -/
structure Alert where
  code : UInt8
  deriving DecidableEq, Repr

namespace Alert

def closeNotify : Alert := ⟨0⟩
def unexpectedMessage : Alert := ⟨10⟩
def badRecordMac : Alert := ⟨20⟩
def handshakeFailure : Alert := ⟨40⟩
def badCertificate : Alert := ⟨42⟩
def unsupportedCertificate : Alert := ⟨43⟩
def certificateExpired : Alert := ⟨45⟩
def certificateUnknown : Alert := ⟨46⟩
def illegalParameter : Alert := ⟨47⟩
def unknownAuthority : Alert := ⟨48⟩
def decodeError : Alert := ⟨50⟩
def decryptError : Alert := ⟨51⟩
def protocolVersion : Alert := ⟨70⟩
def userCanceled : Alert := ⟨90⟩
def missingExtension : Alert := ⟨109⟩
def unsupportedExtension : Alert := ⟨110⟩
def noApplicationProtocol : Alert := ⟨120⟩

def registered : List (Nat × String) := [
  (0, "CloseNotify"), (10, "UnexpectedMessage"), (20, "BadRecordMac"), (21, "DecryptionFailed"),
  (22, "RecordOverflow"), (30, "DecompressionFailure"), (40, "HandshakeFailure"),
  (41, "NoCertificate"), (42, "BadCertificate"), (43, "UnsupportedCertificate"),
  (44, "CertificateRevoked"), (45, "CertificateExpired"), (46, "CertificateUnknown"),
  (47, "IllegalParameter"), (48, "UnknownCA"), (49, "AccessDenied"), (50, "DecodeError"),
  (51, "DecryptError"), (60, "ExportRestriction"), (70, "ProtocolVersion"),
  (71, "InsufficientSecurity"), (80, "InternalError"), (86, "InappropriateFallback"),
  (90, "UserCanceled"), (100, "NoRenegotiation"), (109, "MissingExtension"),
  (110, "UnsupportedExtension"), (111, "CertificateUnobtainable"), (112, "UnrecognisedName"),
  (113, "BadCertificateStatusResponse"), (114, "BadCertificateHashValue"),
  (115, "UnknownPSKIdentity"), (116, "CertificateRequired"), (120, "NoApplicationProtocol"),
  (121, "EncryptedClientHelloRequired")]

def nameOrNumber (names : List (Nat × String)) (kind : String) (n : Nat) : String :=
  (names.lookup n).getD (kind ++ "(0x" ++ Text.hexText n ++ ")")

def text (a : Alert) : String := nameOrNumber registered "AlertDescription" a.code.toNat

end Alert

inductive Corruption where
  | invalidContentType
  | unknownProtocolVersion
  | messageTooLarge
  | invalidEmptyPayload
  | handshakePayloadTooLarge
  | certificatePayloadTooLarge
  | invalidCipherChange
  | messageTooShort
  | missingData (what : String)
  | trailingData (what : String)
  | emptyList (what : String)
  | emptyValue
  | emptyTicket
  | noSignatureSchemes
  | invalidServerName
  | invalidStatusType
  | unsupportedCompression
  | duplicateExtension (kind : Nat)
  | unknownRetryExtension
  | sharedKeyNotLast
  | unexpectedMessage (what : String)
  | missingKeyExchange
  | invalidKeyParameters
  deriving DecidableEq, Repr

namespace Corruption

def text : Corruption → String
  | invalidContentType => "InvalidContentType"
  | unknownProtocolVersion => "UnknownProtocolVersion"
  | messageTooLarge => "MessageTooLarge"
  | invalidEmptyPayload => "InvalidEmptyPayload"
  | handshakePayloadTooLarge => "HandshakePayloadTooLarge"
  | certificatePayloadTooLarge => "CertificatePayloadTooLarge"
  | invalidCipherChange => "InvalidCcs"
  | messageTooShort => "MessageTooShort"
  | missingData what => "MissingData(" ++ Text.quote what ++ ")"
  | trailingData what => "TrailingData(" ++ Text.quote what ++ ")"
  | emptyList what => "IllegalEmptyList(" ++ Text.quote what ++ ")"
  | emptyValue => "IllegalEmptyValue"
  | emptyTicket => "EmptyTicketValue"
  | noSignatureSchemes => "NoSignatureSchemes"
  | invalidServerName => "InvalidServerName"
  | invalidStatusType => "InvalidCertificateStatusType"
  | unsupportedCompression => "UnsupportedCompression"
  | duplicateExtension kind => "DuplicateExtension(" ++ toString kind ++ ")"
  | unknownRetryExtension => "UnknownHelloRetryRequestExtension"
  | sharedKeyNotLast => "PreSharedKeyIsNotFinalExtension"
  | unexpectedMessage what => "UnexpectedMessage(" ++ Text.quote what ++ ")"
  | missingKeyExchange => "MissingKeyExchange"
  | invalidKeyParameters => "InvalidDhParams"

/-- An oversized message is dropped without a word. -/
def alert : Corruption → Option Alert
  | handshakePayloadTooLarge => none
  | duplicateExtension _ | sharedKeyNotLast => some .illegalParameter
  | unknownRetryExtension => some .unsupportedExtension
  | certificatePayloadTooLarge => some .badCertificate
  | _ => some .decodeError

end Corruption

inductive Incompatibility where
  | tls12NotOffered
  | tls12NotOfferedOrEnabled
  | versionsRequired
  | serverVersionDisabled
  | serverVersionUnsupported
  | nullCompressionRequired
  | signatureSchemesRequired
  | noGroupsInCommon
  | noCipherSuitesInCommon
  | noSignatureSchemesInCommon
  | keyShareRequired
  | uncompressedPointsRequired
  | certificateTypeMismatch
  deriving DecidableEq, Repr

namespace Incompatibility

def text : Incompatibility → String
  | tls12NotOffered => "Tls12NotOffered"
  | tls12NotOfferedOrEnabled => "Tls12NotOfferedOrEnabled"
  | versionsRequired => "SupportedVersionsExtensionRequired"
  | serverVersionDisabled => "ServerTlsVersionIsDisabledByOurConfig"
  | serverVersionUnsupported => "ServerDoesNotSupportTls12Or13"
  | nullCompressionRequired => "NullCompressionRequired"
  | signatureSchemesRequired => "SignatureAlgorithmsExtensionRequired"
  | noGroupsInCommon => "NoKxGroupsInCommon"
  | noCipherSuitesInCommon => "NoCipherSuitesInCommon"
  | noSignatureSchemesInCommon => "NoSignatureSchemesInCommon"
  | keyShareRequired => "KeyShareExtensionRequired"
  | uncompressedPointsRequired => "UncompressedEcPointsRequired"
  | certificateTypeMismatch => "IncorrectCertificateTypeExtension"

def alert : Incompatibility → Alert
  | tls12NotOffered | tls12NotOfferedOrEnabled | versionsRequired | serverVersionDisabled
  | serverVersionUnsupported => .protocolVersion
  | nullCompressionRequired | uncompressedPointsRequired => .illegalParameter
  | _ => .handshakeFailure

end Incompatibility

inductive Misbehaviour where
  | interleavedMessage
  | interleavedEarlyData
  | pendingFragment
  | tooManyWarnings
  | tooManyEmptyFragments
  | illegalCipherChange
  | serverNameMalformed
  | serverNameDiffered
  | digestVaried
  | offeredWrongCompressions
  | offeredDuplicateKeyShares
  | offeredDuplicateCertificateCompressions
  | earlyDataAfterRetry
  | retryRefused
  | missingSharedKeyModes
  | sharedKeyMismatch
  | invalidKeyShare
  | missingKeyShare
  | wrongGroupForKeyShare
  | versionSelectedTwice
  | selectedUnofferedCompression
  | selectedUnofferedProtocol
  | selectedUnofferedSuite
  | selectedUnusableSuite
  | selectedOtherSuiteAfterRetry
  | selectedUnofferedGroup
  | unsolicitedExtension
  | cleartextExtension
  | uncompressedPointsOmitted
  | attemptedDowngrade
  | sessionEchoed
  | retryWithOfferedGroup
  | retryWithoutChanges
  | retryWithWrongSession
  | retryWithUnsupportedVersion
  | retryWithUnofferedSuite
  | retryWithUnofferedGroup
  | retryWithEncryptedHello
  | wrongAlgorithmForExchange
  | unadvertisedScheme
  deriving DecidableEq, Repr

namespace Misbehaviour

def text : Misbehaviour → String
  | interleavedMessage => "MessageInterleavedWithHandshakeMessage"
  | interleavedEarlyData => "RejectedEarlyDataInterleavedWithHandshakeMessage"
  | pendingFragment => "KeyEpochWithPendingFragment"
  | tooManyWarnings => "TooManyWarningAlertsReceived"
  | tooManyEmptyFragments => "TooManyEmptyFragments"
  | illegalCipherChange => "IllegalMiddleboxChangeCipherSpec"
  | serverNameMalformed => "ServerNameMustContainOneHostName"
  | serverNameDiffered => "ServerNameDifferedOnRetry"
  | digestVaried => "HandshakeHashVariedAfterRetry"
  | offeredWrongCompressions => "OfferedIncorrectCompressions"
  | offeredDuplicateKeyShares => "OfferedDuplicateKeyShares"
  | offeredDuplicateCertificateCompressions => "OfferedDuplicateCertificateCompressions"
  | earlyDataAfterRetry => "EarlyDataAttemptedInSecondClientHello"
  | retryRefused => "RefusedToFollowHelloRetryRequest"
  | missingSharedKeyModes => "MissingPskModesExtension"
  | sharedKeyMismatch => "PskExtensionWithMismatchedIdsAndBinders"
  | invalidKeyShare => "InvalidKeyShare"
  | missingKeyShare => "MissingKeyShare"
  | wrongGroupForKeyShare => "WrongGroupForKeyShare"
  | versionSelectedTwice => "SelectedTls12UsingTls13VersionExtension"
  | selectedUnofferedCompression => "SelectedUnofferedCompression"
  | selectedUnofferedProtocol => "SelectedUnofferedApplicationProtocol"
  | selectedUnofferedSuite => "SelectedUnofferedCipherSuite"
  | selectedUnusableSuite => "SelectedUnusableCipherSuiteForVersion"
  | selectedOtherSuiteAfterRetry => "SelectedDifferentCipherSuiteAfterRetry"
  | selectedUnofferedGroup => "SelectedUnofferedKxGroup"
  | unsolicitedExtension => "UnsolicitedServerHelloExtension"
  | cleartextExtension => "UnexpectedCleartextExtension"
  | uncompressedPointsOmitted => "ServerHelloMustOfferUncompressedEcPoints"
  | attemptedDowngrade => "AttemptedDowngradeToTls12WhenTls13IsSupported"
  | sessionEchoed => "ServerEchoedCompatibilitySessionId"
  | retryWithOfferedGroup => "IllegalHelloRetryRequestWithOfferedGroup"
  | retryWithoutChanges => "IllegalHelloRetryRequestWithNoChanges"
  | retryWithWrongSession => "IllegalHelloRetryRequestWithWrongSessionId"
  | retryWithUnsupportedVersion => "IllegalHelloRetryRequestWithUnsupportedVersion"
  | retryWithUnofferedSuite => "IllegalHelloRetryRequestWithUnofferedCipherSuite"
  | retryWithUnofferedGroup => "IllegalHelloRetryRequestWithUnofferedNamedGroup"
  | retryWithEncryptedHello => "IllegalHelloRetryRequestWithInvalidEch"
  | wrongAlgorithmForExchange => "SignedKxWithWrongAlgorithm"
  | unadvertisedScheme => "SignedHandshakeWithUnadvertisedSigScheme"

def alert : Misbehaviour → Option Alert
  | interleavedMessage | interleavedEarlyData | tooManyWarnings | tooManyEmptyFragments
  | serverNameDiffered | wrongAlgorithmForExchange => none
  | pendingFragment | illegalCipherChange => some .unexpectedMessage
  | missingSharedKeyModes | missingKeyShare => some .missingExtension
  | unsolicitedExtension | cleartextExtension | retryWithEncryptedHello =>
    some .unsupportedExtension
  | selectedUnofferedSuite | uncompressedPointsOmitted => some .handshakeFailure
  | _ => some .illegalParameter

end Misbehaviour

def CertificateFault.alert : CertificateFault → Alert
  | badDer | badTime | trailingData | wrongName .. => .badCertificate
  | invalidValidity | notYetValid .. | expired .. => .certificateExpired
  | unknownIssuer => .unknownAuthority
  | wrongSignature | unsupportedSignature .. | unsupportedSignatureForKey .. => .decryptError
  | wrongPurpose _ => .unsupportedCertificate
  | _ => .certificateUnknown

inductive EngineError where
  | general (text : String)
  | corrupt (what : Corruption)
  | unexpectedContent (got : String) (expected : List String)
  | unexpectedHandshake (got : String) (expected : List String)
  | incompatible (why : Incompatibility)
  | misbehaved (how : Misbehaviour)
  | alertReceived (alert : Alert)
  | certificate (fault : CertificateFault)
  | noCertificates
  | keyMismatch
  | noCommonProtocol
  | decryptFailed
  deriving DecidableEq, Repr

namespace EngineError

def orText (xs : List String) : String := String.intercalate " or " xs

def message : EngineError → String
  | general t => "unexpected error: " ++ t
  | corrupt what => "received corrupt message of type " ++ what.text
  | unexpectedContent got expected =>
    "received unexpected message: got " ++ got ++ " when expecting " ++ orText expected
  | unexpectedHandshake got expected =>
    "received unexpected handshake message: got " ++ got ++ " when expecting " ++ orText expected
  | incompatible why => "peer is incompatible: " ++ why.text
  | misbehaved how => "peer misbehaved: " ++ how.text
  | alertReceived a => "received fatal alert: " ++ a.text
  | certificate fault => "invalid peer certificate: " ++ fault.text
  | noCertificates => "peer sent no certificates"
  | keyMismatch => "keys may not be consistent: KeyMismatch"
  | noCommonProtocol => "peer doesn't support any known protocol"
  | decryptFailed => "cannot decrypt peer's message"

/-- What the peer is told. A fatal alert is not answered. -/
def alert : EngineError → Option Alert
  | general _ | alertReceived _ | noCertificates | keyMismatch => none
  | corrupt what => what.alert
  | unexpectedContent .. | unexpectedHandshake .. => some .unexpectedMessage
  | incompatible why => some why.alert
  | misbehaved how => how.alert
  | certificate fault => some fault.alert
  | noCommonProtocol => some .noApplicationProtocol
  | decryptFailed => some .badRecordMac

end EngineError
end SecureGateway

import SecureGateway.Signature.Ecdsa
import SecureGateway.Signature.Ed25519
import SecureGateway.Signature.Rsa
import SecureGateway.Tls.CipherSuite

namespace SecureGateway

inductive NamedCurve where
  | p256
  | p384
  deriving DecidableEq, Repr

inductive KeyKind where
  | ec (curve : NamedCurve)
  | ed25519
  | rsa
  deriving DecidableEq, Repr

inductive SignatureMethod where
  | ecdsa (curve : NamedCurve) (digest : Digest)
  | ed25519
  | rsa (padding : Rsa.Padding) (digest : Digest)
  deriving DecidableEq, Repr

namespace NamedCurve

def curve : NamedCurve → Curve
  | p256 => .p256
  | p384 => .p384

def identifier : NamedCurve → Bytes
  | p256 => [0x06, 0x08, 0x2a, 0x86, 0x48, 0xce, 0x3d, 0x03, 0x01, 0x07]
  | p384 => [0x06, 0x05, 0x2b, 0x81, 0x04, 0x00, 0x22]

end NamedCurve

namespace KeyKind

def ed25519Identifier : Bytes := [0x06, 0x03, 0x2b, 0x65, 0x70]

def identifier : KeyKind → Bytes
  | ec c => [0x06, 0x07, 0x2a, 0x86, 0x48, 0xce, 0x3d, 0x02, 0x01] ++ c.identifier
  | ed25519 => ed25519Identifier
  | rsa => [0x06, 0x09, 0x2a, 0x86, 0x48, 0x86, 0xf7, 0x0d, 0x01, 0x01, 0x01, 0x05, 0x00]

def algorithm : KeyKind → KeyAlgorithm
  | ec _ => .ecdsa
  | ed25519 => .ecdsa
  | rsa => .rsa

end KeyKind

namespace SignatureMethod

def keyKind : SignatureMethod → KeyKind
  | ecdsa c _ => .ec c
  | ed25519 => .ed25519
  | rsa _ _ => .rsa

def digestNumber : Digest → UInt8
  | .sha256 => 1
  | .sha384 => 2
  | .sha512 => 3

def digestIdentifier (d : Digest) : Bytes :=
  [0x30, 0x0d, 0x06, 0x09, 0x60, 0x86, 0x48, 0x01, 0x65, 0x03, 0x04, 0x02, digestNumber d, 0x05, 0x00]

def rsaIdentifier (last : UInt8) : Bytes :=
  [0x06, 0x09, 0x2a, 0x86, 0x48, 0x86, 0xf7, 0x0d, 0x01, 0x01, last]

/-- The parameters of salted padding: the digest, the mask and the length of the salt. -/
def pssParameters (d : Digest) : Bytes :=
  [0x30, 0x34, 0xa0, 0x0f] ++ digestIdentifier d ++ [0xa1, 0x1c, 0x30, 0x1a] ++ rsaIdentifier 8 ++
    digestIdentifier d ++ [0xa2, 0x03, 0x02, 0x01, d.size.toUInt8]

def identifier : SignatureMethod → Bytes
  | ecdsa _ d => [0x06, 0x08, 0x2a, 0x86, 0x48, 0xce, 0x3d, 0x04, 0x03, digestNumber d + 1]
  | ed25519 => KeyKind.ed25519Identifier
  | rsa .pkcs1 d => rsaIdentifier (digestNumber d + 10) ++ [0x05, 0x00]
  | rsa .pss d => rsaIdentifier 10 ++ pssParameters d

def verify (key message signature : Bytes) : SignatureMethod → Bool
  | ecdsa c d => Ecdsa.verify c.curve d key message signature
  | ed25519 => Ed25519.verify key message signature
  | rsa p d => Rsa.verify p d key message signature

def digests : List Digest := [.sha256, .sha384, .sha512]

/-- The methods a certificate may be signed with, each under an identifier. Some issuers leave out
the empty parameters of the older padding. -/
def registered : List (Bytes × SignatureMethod) :=
  let methods : List SignatureMethod :=
    [.ecdsa .p256 .sha256, .ecdsa .p256 .sha384, .ecdsa .p384 .sha256, .ecdsa .p384 .sha384, .ed25519] ++
      digests.map (.rsa .pss) ++ digests.map (.rsa .pkcs1)
  methods.map (fun m => (m.identifier, m)) ++
    digests.map fun d => (rsaIdentifier (digestNumber d + 10), .rsa .pkcs1 d)

end SignatureMethod
end SecureGateway

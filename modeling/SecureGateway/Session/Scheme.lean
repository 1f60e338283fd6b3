import SecureGateway.Certificate.Path

namespace SecureGateway

abbrev SignatureScheme := Nat

namespace SignatureScheme

def supported : List SignatureScheme :=
  [0x0503, 0x0403, 0x0807, 0x0806, 0x0805, 0x0804, 0x0601, 0x0501, 0x0401]

/-- What a scheme stands for in TLS 1.2, where it does not say on which curve. -/
def methods : SignatureScheme → List SignatureMethod
  | 0x0403 => [.ecdsa .p256 .sha256, .ecdsa .p384 .sha256]
  | 0x0503 => [.ecdsa .p384 .sha384, .ecdsa .p256 .sha384]
  | 0x0807 => [.ed25519]
  | 0x0804 => [.rsa .pss .sha256]
  | 0x0805 => [.rsa .pss .sha384]
  | 0x0806 => [.rsa .pss .sha512]
  | 0x0401 => [.rsa .pkcs1 .sha256]
  | 0x0501 => [.rsa .pkcs1 .sha384]
  | 0x0601 => [.rsa .pkcs1 .sha512]
  | _ => []

def ofKey : KeyKind → List SignatureScheme
  | .ec .p256 => [0x0403]
  | .ec .p384 => [0x0503]
  | .ed25519 => [0x0807]
  | .rsa => [0x0806, 0x0805, 0x0804, 0x0601, 0x0501, 0x0401]

def ofAlgorithm : KeyAlgorithm → List SignatureScheme
  | .ecdsa => [0x0807, 0x0603, 0x0503, 0x0403]
  | .rsa => [0x0806, 0x0805, 0x0804, 0x0601, 0x0501, 0x0401]

/-- The kind of key that a scheme wants, as far as suites care; old digests included. -/
def algorithm? (s : SignatureScheme) : Option KeyAlgorithm :=
  if 0x0203 = s ∨ s ∈ ofAlgorithm .ecdsa then some .ecdsa
  else if 0x0201 = s ∨ s ∈ ofAlgorithm .rsa then some .rsa
  else none

/-- TLS 1.3 knows RSA with salted padding only. -/
def isForTls13 (s : SignatureScheme) : Bool :=
  [0x0403, 0x0503, 0x0603, 0x0804, 0x0805, 0x0806, 0x0807, 0x0808].contains s

def choose? (key : KeyKind) (offered : List SignatureScheme) : Option SignatureScheme :=
  (ofKey key).find? offered.contains

end SignatureScheme

structure Signed where
  scheme : SignatureScheme
  signature : Bytes
  deriving DecidableEq, Repr

namespace Signed

/-- The signature under a public key, as a digest of the key and the message, so that only the signer's
own passes. Its length is that of most signatures on a small curve. -/
def token (key message : Bytes) : Bytes :=
  Digest.sha512.of (key ++ message) ++ List.replicate 7 0

def make (scheme : SignatureScheme) (key message : Bytes) : Signed := ⟨scheme, token key message⟩

def verify (s : Signed) (key message : Bytes) : Except CertificateFault Unit := do
  let (kind, _) ← SignedData.keyParts key
  let methods := SignatureScheme.methods s.scheme
  if methods.any fun m => m.keyKind.identifier == kind then
    if s.signature == token key message then return else throw .wrongSignature
  else
    match methods.getLast? with
    | some m => throw (.unsupportedSignatureForKey m.identifier kind)
    | none => throw .wrongSignature

end Signed
end SecureGateway

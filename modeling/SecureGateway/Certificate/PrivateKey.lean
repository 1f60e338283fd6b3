import SecureGateway.Certificate.Pem
import SecureGateway.Signature.Method

namespace SecureGateway

/-- A key a server can prove itself with: its kind, and the public part as the content of the sequence
that a certificate holds. -/
structure ServerKey where
  kind : KeyKind
  encoded : Bytes
  deriving DecidableEq, Repr

namespace PrivateKey

abbrev Reader := DerReader Unit

def failIf (b : Bool) : Reader Unit := if b then DerReader.malformed else pure ()

def encodePublic (kind : KeyKind) (bits : Bytes) : Bytes :=
  (⟨Der.sequenceTag, kind.identifier⟩ : Der).encode ++ (⟨Der.bitStringTag, 0 :: bits⟩ : Der).encode

def serverKey (kind : KeyKind) (bits : Bytes) : ServerKey := ⟨kind, encodePublic kind bits⟩

def attributesTag : UInt8 := 0xa0

/-- Which versions of a wrapping are read: the second one shows the public key. -/
inductive Versions where
  | first
  | both
  deriving DecidableEq, Repr

/-- The public key at the end of a wrapping of the second version, in either of two spellings. -/
def shownPublic : Reader Bytes := do
  if ← DerReader.sees 0xa1 then DerReader.within 0xa1 () (DerReader.bitString ())
  else
    DerReader.within 0x81 () do
      failIf ((← DerReader.byte) != 0)
      DerReader.rest

def unwrapped (kind : KeyKind) (versions : Versions) : Reader (Bytes × Option Bytes) :=
  DerReader.within Der.sequenceTag () do
    let version ← DerReader.natural
    failIf ((← DerReader.expect Der.sequenceTag) != kind.identifier)
    failIf (version != [0] && (version != [1] || versions = .first))
    let key ← DerReader.expect Der.octetStringTag
    if ← DerReader.sees attributesTag then
      let _ ← DerReader.expect attributesTag
    if version = [0] then return (key, none) else return (key, some (← shownPublic))

def ellipticKey (c : NamedCurve) : Reader ServerKey :=
  DerReader.within Der.sequenceTag () do
    failIf ((← DerReader.natural) != [1])
    let secret ← DerReader.expect Der.octetStringTag
    if ← DerReader.sees 0xa0 then
      failIf ((← DerReader.expect 0xa0) != c.identifier)
    let point ← DerReader.within 0xa1 () (DerReader.bitString ())
    let n := Bytes.toNat secret
    failIf (secret.length != c.curve.size || n = 0 || c.curve.order ≤ n)
    failIf (point != c.curve.publicPoint n)
    return serverKey (.ec c) point

def edwardsKey (seed : Bytes) (shown : Option Bytes) : Option ServerKey :=
  if seed.length = 32 then
    let key := Ed25519.publicKey seed
    if shown.all (· == key) then some (serverKey .ed25519 key) else none
  else none

def isOdd (n : Nat) : Bool := n % 2 == 1

/-- The numbers of a key: modulus, exponents, primes, exponents modulo the primes, and the inverse of
the second prime modulo the first. -/
structure RsaNumbers where
  n : Nat
  e : Nat
  d : Nat
  p : Nat
  q : Nat
  dP : Nat
  dQ : Nat
  qInv : Nat
  deriving DecidableEq, Repr

namespace RsaNumbers

/-- Of 2048 to 4096 bits, the first byte counted as full, with an exponent of 65537 or more. -/
def hasUsableSize (k : RsaNumbers) : Bool :=
  Rsa.isUsable ⟨k.n, k.e⟩ && Rsa.bitLength k.n ≤ 4096 && 65537 ≤ k.e

/-- The primes have half the bits each, and everything fits together. -/
def isConsistent (k : RsaNumbers) : Bool :=
  let half := (Rsa.bitLength k.n + 1) / 2
  Rsa.bitLength k.p == half && Rsa.bitLength k.q == half && isOdd k.p && isOdd k.q &&
    k.p * k.q == k.n && half < Rsa.bitLength k.d && k.d < k.n && isOdd k.d &&
    k.dP < k.p && isOdd k.dP && k.dQ < k.q && isOdd k.dQ &&
    k.qInv < k.p && k.qInv * k.q % k.p == 1

def encodePublic (k : RsaNumbers) : Bytes :=
  let integer (n : Nat) : Bytes :=
    (⟨Der.integerTag, Bytes.ofNat (Rsa.bitLength n / 8 + 1) n⟩ : Der).encode
  (⟨Der.sequenceTag, integer k.n ++ integer k.e⟩ : Der).encode

end RsaNumbers

def rsaKey : Reader ServerKey :=
  DerReader.within Der.sequenceTag () do
    failIf ((← DerReader.natural) != [0])
    let k : RsaNumbers := ⟨← DerReader.number, ← DerReader.number, ← DerReader.number,
      ← DerReader.number, ← DerReader.number, ← DerReader.number, ← DerReader.number,
      ← DerReader.number⟩
    failIf (!(k.hasUsableSize && k.isConsistent))
    return serverKey .rsa k.encodePublic

def readAll (r : Reader α) (bs : Bytes) : Option α := (r.whole () bs).toOption

def wrappedRsa? (bs : Bytes) : Option ServerKey :=
  (readAll (unwrapped .rsa .first) bs).bind fun (key, _) => readAll rsaKey key

def wrappedElliptic? (bs : Bytes) (c : NamedCurve) : Option ServerKey :=
  (readAll (unwrapped (.ec c) .first) bs).bind fun (key, _) => readAll (ellipticKey c) key

def wrappedEdwards? (bs : Bytes) : Option ServerKey :=
  (readAll (unwrapped .ed25519 .both) bs).bind fun (key, shown) =>
    (readAll (DerReader.expect Der.octetStringTag) key).bind fun seed => edwardsKey seed shown

def curves : List NamedCurve := [.p256, .p384]

/-- Reads the key in a section. One that is not wrapped has its kind in the label. -/
def ofSection? (s : PemSection) : Option ServerKey :=
  if s.label == "PRIVATE KEY" then
    wrappedRsa? s.content <|> curves.findSome? (wrappedElliptic? s.content) <|>
      wrappedEdwards? s.content
  else if s.label == "EC PRIVATE KEY" then
    curves.findSome? fun c => readAll (ellipticKey c) s.content
  else readAll rsaKey s.content

end PrivateKey
end SecureGateway

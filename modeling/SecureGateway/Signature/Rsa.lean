import SecureGateway.Certificate.Der
import SecureGateway.Digest.Sha2
import SecureGateway.Signature.Modular

namespace SecureGateway.Rsa

structure Key where
  modulus : Nat
  exponent : Nat
  deriving DecidableEq, Repr

def bitLength (n : Nat) : Nat := if n = 0 then 0 else Nat.log2 n + 1

def byteLength (n : Nat) : Nat := (bitLength n + 7) / 8

/-- Both numbers are odd; the modulus has between 2048 and 8192 bits, the first byte counted as full. -/
def isUsable (k : Key) : Bool :=
  k.modulus % 2 == 1 && 2048 ≤ 8 * byteLength k.modulus && bitLength k.modulus ≤ 8192 &&
    k.exponent % 2 == 1 && 3 ≤ k.exponent && bitLength k.exponent ≤ 33

def key? (bs : Bytes) : Option Key :=
  let r : DerReader Unit Key :=
    DerReader.within Der.sequenceTag () do return ⟨← DerReader.positive, ← DerReader.positive⟩
  (r.whole () bs).toOption.filter isUsable

inductive Padding where
  | pkcs1
  | pss
  deriving DecidableEq, Repr

def digestInfo : Digest → Bytes
  | .sha256 => [0x30, 0x31, 0x30, 0x0d, 0x06, 0x09, 0x60, 0x86, 0x48, 0x01, 0x65, 0x03, 0x04, 0x02,
      0x01, 0x05, 0x00, 0x04, 0x20]
  | .sha384 => [0x30, 0x41, 0x30, 0x0d, 0x06, 0x09, 0x60, 0x86, 0x48, 0x01, 0x65, 0x03, 0x04, 0x02,
      0x02, 0x05, 0x00, 0x04, 0x30]
  | .sha512 => [0x30, 0x51, 0x30, 0x0d, 0x06, 0x09, 0x60, 0x86, 0x48, 0x01, 0x65, 0x03, 0x04, 0x02,
      0x03, 0x05, 0x00, 0x04, 0x40]

/-- The one padded form of a digest in so many bytes. -/
def pkcs1Form (d : Digest) (size : Nat) (digest : Bytes) : Bytes :=
  let tail := digestInfo d ++ digest
  [0, 1] ++ List.replicate (size - 3 - tail.length) 0xff ++ [0] ++ tail

def mask (d : Digest) (seed : Bytes) (size : Nat) : Bytes :=
  ((List.range (size / d.size + 1)).flatMap fun i => d.of (seed ++ Bytes.ofNat 4 i)).take size

/-- Whether some bytes of so many bits are a salted form of a digest; the salt is as long as it. -/
def isPssForm (d : Digest) (bits : Nat) (encoded digest : Bytes) : Bool :=
  let size := encoded.length
  let maskedSize := size - d.size - 1
  let spare := 8 * size - bits
  let masked := encoded.take maskedSize
  let seed := (encoded.drop maskedSize).take d.size
  if size < 2 * d.size + 2 || encoded.getLast? != some 0xbc then false
  else if Nat.pow 2 (8 - spare) ≤ (masked.headD 0).toNat then false
  else
    let clear := List.zipWith (· ^^^ ·) masked (mask d seed maskedSize)
    let clear := (clear.headD 0 % (Nat.pow 2 (8 - spare)).toUInt8) :: clear.tail
    let zeros := maskedSize - d.size - 1
    let salt := clear.drop (zeros + 1)
    clear.take (zeros + 1) == List.replicate zeros 0 ++ [1] &&
      d.of (List.replicate 8 0 ++ digest ++ salt) == seed

def verify (padding : Padding) (d : Digest) (key message signature : Bytes) : Bool :=
  match key? key with
  | none => false
  | some k =>
    let size := byteLength k.modulus
    let s := Bytes.toNat signature
    if signature.length != size || k.modulus ≤ s then false
    else
      let opened := Modular.pow k.modulus s k.exponent
      match padding with
      | .pkcs1 => Bytes.ofNat size opened == pkcs1Form d size (d.of message)
      | .pss =>
        let bits := bitLength k.modulus - 1
        let encodedSize := (bits + 7) / 8
        opened < Nat.pow 2 (8 * encodedSize) &&
          isPssForm d bits (Bytes.ofNat encodedSize opened) (d.of message)

end SecureGateway.Rsa

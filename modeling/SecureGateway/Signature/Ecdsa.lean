import SecureGateway.Certificate.Der
import SecureGateway.Digest.Sha2
import SecureGateway.Signature.Curve

namespace SecureGateway.Ecdsa

def signature? (bs : Bytes) : Option (Nat × Nat) :=
  let r : DerReader Unit (Nat × Nat) :=
    DerReader.within Der.sequenceTag () do return (← DerReader.positive, ← DerReader.positive)
  (r.whole () bs).toOption

/-- The number that is signed: as much of the digest as the order has bytes. -/
def digestNumber (c : Curve) (digest : Bytes) : Nat := Bytes.toNat (digest.take c.size) % c.order

def verify (c : Curve) (d : Digest) (key message signature : Bytes) : Bool :=
  match c.point? key, signature? signature with
  | some p, some (r, s) =>
    if r < c.order && s < c.order then
      let w := Modular.inverse c.order s
      let sum := c.add
        (c.multiply (digestNumber c (d.of message) * w % c.order) (Curve.ofAffine c.generator))
        (c.multiply (r * w % c.order) (Curve.ofAffine p))
      match c.affine? sum with
      | some (x, _) => x % c.order == r
      | none => false
    else false
  | _, _ => false

end SecureGateway.Ecdsa

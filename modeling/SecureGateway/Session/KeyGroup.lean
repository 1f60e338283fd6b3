import SecureGateway.Digest.Sha2
import SecureGateway.Signature.Curve

namespace SecureGateway

inductive KeyGroup where
  | x25519
  | p256
  | p384
  deriving DecidableEq, Repr

/-- Bytes that belong to a label and that no peer foresees. -/
def unforeseen (label : String) : Bytes := Digest.sha256.of (.ofText label)

namespace KeyGroup

def all : List KeyGroup := [x25519, p256, p384]

def code : KeyGroup → Nat
  | x25519 => 29
  | p256 => 23
  | p384 => 24

def ofCode? (n : Nat) : Option KeyGroup := all.find? fun g => g.code == n

def text : KeyGroup → String
  | x25519 => "X25519"
  | p256 => "secp256r1"
  | p384 => "secp384r1"

def share (g : KeyGroup) (side : String) : Bytes :=
  let secret := unforeseen (side ++ " " ++ g.text)
  match g with
  | x25519 => secret
  | p256 => Curve.p256.publicPoint (Bytes.toNat secret)
  | p384 => Curve.p384.publicPoint (Bytes.toNat secret)

def montgomeryPrime : Nat := Nat.pow 2 255 - 19

/-- The coordinates of the points of small order, with which every secret gives the same key. -/
def smallOrder : List Nat := [0, 1, montgomeryPrime - 1,
  325606250916557431795983626356110631294008115727848805560023387167927233504,
  39382357235489614581723060781553021112529911719440698176882885853963445705823]

/-- A coordinate has its least significant byte first, and the top bit does not count. -/
def coordinate (bs : Bytes) : Nat := Bytes.toNat bs.reverse % Nat.pow 2 255 % montgomeryPrime

def accepts (g : KeyGroup) (peer : Bytes) : Bool :=
  match g with
  | x25519 => peer.length == 32 && !smallOrder.contains (coordinate peer)
  | p256 => (Curve.p256.point? peer).isSome
  | p384 => (Curve.p384.point? peer).isSome

end KeyGroup
end SecureGateway

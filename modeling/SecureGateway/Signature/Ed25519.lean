import SecureGateway.Digest.Sha2
import SecureGateway.Signature.Modular

namespace SecureGateway.Ed25519

def prime : Nat := Nat.pow 2 255 - 19

def order : Nat := Nat.pow 2 252 + 27742317777372353535851937790883648493

def d : Nat := (prime - 121665) * Modular.inverse prime 121666 % prime

/-- A point `(x / z, y / z)` with `t = x y / z`. -/
structure Point where
  x : Nat
  y : Nat
  z : Nat
  t : Nat
  deriving DecidableEq, Repr

def neutral : Point := ⟨0, 1, 1, 0⟩

/-- The sum of any two points. -/
def add (p q : Point) : Point :=
  let a := Modular.sub prime p.y p.x * Modular.sub prime q.y q.x % prime
  let b := (p.y + p.x) * (q.y + q.x) % prime
  let c := 2 * p.t * q.t * d % prime
  let f := 2 * p.z * q.z % prime
  let e := Modular.sub prime b a
  let g := Modular.sub prime f c
  ⟨e * g % prime, (f + c) * (b + a) % prime, g * (f + c) % prime, e * (b + a) % prime⟩

def multiply (n : Nat) (p : Point) : Point :=
  if _h : n = 0 then neutral
  else
    let rest := multiply (n / 2) (add p p)
    if n % 2 = 0 then rest else add rest p
termination_by n

def negate (p : Point) : Point :=
  { p with x := Modular.sub prime 0 p.x, t := Modular.sub prime 0 p.t }

def ofBytes (bs : Bytes) : Nat := Bytes.toNat bs.reverse

def toBytes (size n : Nat) : Bytes := (Bytes.ofNat size n).reverse

def encodePoint (p : Point) : Bytes :=
  let i := Modular.inverse prime p.z
  toBytes 32 (p.y * i % prime + (p.x * i % prime) % 2 * Nat.pow 2 255)

def rootOfMinusOne : Nat := Modular.pow prime 2 ((prime - 1) / 4)

def rootOfQuotient? (u v : Nat) : Option Nat :=
  let w := v * v * v % prime
  let r := u * w * Modular.pow prime (u * w * w * v % prime) ((prime - 5) / 8) % prime
  let square := v * r * r % prime
  if square = u then some r
  else if square = Modular.sub prime 0 u then some (r * rootOfMinusOne % prime)
  else none

def point? (bs : Bytes) : Option Point :=
  if bs.length = 32 then
    let n := ofBytes bs
    let y := n % Nat.pow 2 255 % prime
    let yy := y * y % prime
    (rootOfQuotient? (Modular.sub prime yy 1) ((d * yy + 1) % prime)).map fun r =>
      let x := if r % 2 = n / Nat.pow 2 255 then r else Modular.sub prime 0 r
      ⟨x, y, 1, x * y % prime⟩
  else none

def generator : Point :=
  (point? (toBytes 32 (4 * Modular.inverse prime 5 % prime))).getD neutral

def verify (key message signature : Bytes) : Bool :=
  let r := signature.take 32
  let s := ofBytes (signature.drop 32)
  match point? key with
  | some a =>
    let h := ofBytes (Digest.sha512.of (r ++ key ++ message)) % order
    signature.length == 64 && s < order &&
      encodePoint (add (multiply s generator) (multiply h (negate a))) == r
  | none => false

/-- The secret number of a seed: some of its bits are fixed. -/
def secretNumber (seed : Bytes) : Nat :=
  let n := ofBytes ((Digest.sha512.of seed).take 32)
  n % Nat.pow 2 254 / 8 * 8 + Nat.pow 2 254

def publicKey (seed : Bytes) : Bytes := encodePoint (multiply (secretNumber seed) generator)

end SecureGateway.Ed25519

import SecureGateway.Basic
import SecureGateway.Signature.Modular

namespace SecureGateway

/-- The curve `y² = x³ - 3x + b` over a prime field, with a generator of prime order. Points are `(x
/ z², y / z³)`, so that only the last step divides. -/
structure Curve where
  size : Nat
  prime : Nat
  b : Nat
  order : Nat
  generator : Nat × Nat
  deriving DecidableEq, Repr

/-- A point in three coordinates; the point at infinity has `z = 0`. -/
structure CurvePoint where
  x : Nat
  y : Nat
  z : Nat
  deriving DecidableEq, Repr

namespace Curve

def infinity : CurvePoint := ⟨1, 1, 0⟩

def ofAffine (p : Nat × Nat) : CurvePoint := ⟨p.1, p.2, 1⟩

def double (c : Curve) (a : CurvePoint) : CurvePoint :=
  let p := c.prime
  let yy := a.y * a.y % p
  let zz := a.z * a.z % p
  let s := 4 * a.x * yy % p
  let m := 3 * (a.x + zz) * Modular.sub p a.x zz % p
  let x := Modular.sub p (m * m % p) (2 * s % p)
  ⟨x, Modular.sub p (m * Modular.sub p s x % p) (8 * yy * yy % p), 2 * a.y * a.z % p⟩

def add (c : Curve) (a b : CurvePoint) : CurvePoint :=
  if a.z = 0 then b
  else if b.z = 0 then a
  else
    let p := c.prime
    let za := a.z * a.z % p
    let zb := b.z * b.z % p
    let u := a.x * zb % p
    let s := a.y * zb * b.z % p
    let h := Modular.sub p (b.x * za % p) u
    let r := Modular.sub p (b.y * za * a.z % p) s
    if h = 0 then if r = 0 then c.double a else infinity
    else
      let hh := h * h % p
      let hhh := h * hh % p
      let v := u * hh % p
      let x := Modular.sub p (Modular.sub p (r * r % p) hhh) (2 * v % p)
      ⟨x, Modular.sub p (r * Modular.sub p v x % p) (s * hhh % p), h * a.z * b.z % p⟩

def multiply (c : Curve) (n : Nat) (a : CurvePoint) : CurvePoint :=
  if _h : n = 0 then infinity
  else
    let rest := c.multiply (n / 2) (c.double a)
    if n % 2 = 0 then rest else c.add rest a
termination_by n

def affine? (c : Curve) (a : CurvePoint) : Option (Nat × Nat) :=
  if a.z = 0 then none
  else
    let i := Modular.inverse c.prime a.z
    let ii := i * i % c.prime
    some (a.x * ii % c.prime, a.y * ii * i % c.prime)

def contains (c : Curve) (p : Nat × Nat) : Bool :=
  (p.2 * p.2 + 3 * p.1) % c.prime == (p.1 * p.1 * p.1 + c.b) % c.prime

/-- A point as it is sent: the mark of the long form, then both coordinates. -/
def point? (c : Curve) (bs : Bytes) : Option (Nat × Nat) :=
  match bs with
  | 0x04 :: r =>
    let x := Bytes.toNat (r.take c.size)
    let y := Bytes.toNat (r.drop c.size)
    if r.length = 2 * c.size && x < c.prime && y < c.prime && c.contains (x, y) then some (x, y)
    else none
  | _ => none

def encodePoint (c : Curve) (p : Nat × Nat) : Bytes :=
  0x04 :: Bytes.ofNat c.size p.1 ++ Bytes.ofNat c.size p.2

def publicPoint (c : Curve) (secret : Nat) : Bytes :=
  ((c.affine? (c.multiply secret (ofAffine c.generator))).map c.encodePoint).getD []

def p256 : Curve where
  size := 32
  prime := Nat.pow 2 256 - Nat.pow 2 224 + Nat.pow 2 192 + Nat.pow 2 96 - 1
  b := 0x5ac635d8aa3a93e7b3ebbd55769886bc651d06b0cc53b0f63bce3c3e27d2604b
  order := 0xffffffff00000000ffffffffffffffffbce6faada7179e84f3b9cac2fc632551
  generator := (0x6b17d1f2e12c4247f8bce6e563a440f277037d812deb33a0f4a13945d898c296,
    0x4fe342e2fe1a7f9b8ee7eb4a7c0f9e162bce33576b315ececbb6406837bf51f5)

def p384 : Curve where
  size := 48
  prime := Nat.pow 2 384 - Nat.pow 2 128 - Nat.pow 2 96 + Nat.pow 2 32 - 1
  b := 0xb3312fa7e23ee7e4988e056be3f82d19181d9c6efe8141120314088f5013875ac656398d8a2ed19d2a85c8edd3ec2aef
  order :=
    0xffffffffffffffffffffffffffffffffffffffffffffffffc7634d81f4372ddf581a0db248b0a77aecec196accc52973
  generator := (
    0xaa87ca22be8b05378eb1c71ef320ad746e1d3b628ba79b9859f741e082542a385502f25dbf55296c3a545e3872760ab7,
    0x3617de4a96262c6f5d9e98bf9292dc29f8f41dbd289a147ce9da3113b5f0b8c00a60b1ce1d7e819d7a431d7c90ea0e5f)

end Curve
end SecureGateway

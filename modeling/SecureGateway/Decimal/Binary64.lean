namespace SecureGateway.Decimal

/-- A nonnegative finite double, `mantissa * 2 ^ exponent`. -/
structure Binary64 where
  mantissa : Nat
  exponent : Int
  deriving DecidableEq, Repr

/-- A decimal `digits * 10 ^ exponent`. -/
structure Scientific where
  digits : Nat
  exponent : Int
  deriving DecidableEq, Repr

def scale (base : Nat) (e : Int) (num den : Nat) : Nat × Nat :=
  if 0 ≤ e then (num * Nat.pow base e.toNat, den) else (num, den * Nat.pow base (-e).toNat)

def roundHalfEven (num den : Nat) : Nat :=
  let q := num / den
  let r := num % den
  if 2 * r < den then q
  else if den < 2 * r then q + 1
  else if q % 2 = 0 then q else q + 1

namespace Binary64

def zero : Binary64 := ⟨0, 0⟩

def leastMantissa : Nat := 0x10000000000000

def exponentOf (num den : Nat) : Int :=
  let guess : Int := (num.log2 : Int) - (den.log2 : Int) - 52
  let (n, d) := scale 2 (-guess) num den
  let e := if n / d < leastMantissa then guess - 1 else guess
  if e < -1074 then -1074 else e

def nearest? (num den : Nat) : Option Binary64 :=
  if num = 0 then some zero
  else
    let e := exponentOf num den
    let (n, d) := scale 2 (-e) num den
    let m := roundHalfEven n d
    let r : Binary64 := if m = 2 * leastMantissa then ⟨leastMantissa, e + 1⟩ else ⟨m, e⟩
    if r.exponent ≤ 971 then some r else none

def ofNat (n : Nat) : Binary64 := (nearest? n 1).getD zero

/-- The double nearest to `digits * 10 ^ exponent`. Beyond these bounds the answer is plain. -/
def ofScientific? (s : Scientific) : Option Binary64 :=
  if s.digits = 0 then some zero
  else
    let order : Int := s.exponent + (toString s.digits).length
    if 400 < order then none
    else if order < -400 then some zero
    else
      let (n, d) := scale 10 s.exponent s.digits 1
      nearest? n d

def toFraction (x : Binary64) : Nat × Nat := scale 2 x.exponent x.mantissa 1

def add? (x y : Binary64) : Option Binary64 :=
  let (a, b) := x.toFraction
  let (c, d) := y.toFraction
  nearest? (a * d + c * b) (b * d)

/-- The two ends, over a common denominator, of the numbers that round to `x`. -/
def interval (x : Binary64) : Nat × Nat × Nat :=
  let below := if x.mantissa = leastMantissa ∧ -1074 < x.exponent then 4 * x.mantissa - 1
    else 4 * x.mantissa - 2
  let above := 4 * x.mantissa + 2
  if 0 ≤ x.exponent then
    (below * Nat.pow 2 x.exponent.toNat, above * Nat.pow 2 x.exponent.toNat, 4)
  else (below, above, 4 * Nat.pow 2 (-x.exponent).toNat)

def contains (x : Binary64) (c : Nat) (p : Int) : Bool :=
  let (lo, hi, den) := x.interval
  let (n, d) := scale 10 p c 1
  if x.mantissa % 2 = 0 then lo * d ≤ n * den && n * den ≤ hi * d
  else lo * d < n * den && n * den < hi * d

/-- The exponent `k` with `10 ^ k ≤ x < 10 ^ (k + 1)`, searched downward from an upper bound. -/
def decimalOrder (x : Binary64) : Int :=
  let (num, den) := x.toFraction
  let rec go : Nat → Int → Int
    | 0, k => k
    | fuel + 1, k =>
      let (p, q) := scale 10 k 1 1
      if p * den ≤ num * q then k else go fuel (k - 1)
  go 800 400

def neighbours (x : Binary64) (p : Int) : List Nat :=
  let (num, den) := x.toFraction
  let (n, d) := scale 10 (-p) num den
  let low := n / d
  if 2 * (n % d) < d ∨ (2 * (n % d) = d ∧ low % 2 = 0) then [low, low + 1] else [low + 1, low]

/-- The fewest digits that read back as `x`, and of those the nearest. -/
def shortest (x : Binary64) : Scientific :=
  if x.mantissa = 0 then ⟨0, 0⟩
  else
    let k := x.decimalOrder
    let rec go : Nat → Int → Scientific
      | 0, p => ⟨(x.neighbours p).headD 0, p⟩
      | fuel + 1, p =>
        match (x.neighbours p).find? (x.contains · p) with
        | some c => ⟨c, p⟩
        | none => go fuel (p - 1)
    go 17 k

end Binary64

namespace Scientific

def positional (s : Scientific) : String :=
  let digits := (toString s.digits).toList
  if s.digits = 0 then "0"
  else if 0 ≤ s.exponent then
    String.ofList (digits ++ List.replicate s.exponent.toNat '0')
  else
    let places := (-s.exponent).toNat
    let padded := List.replicate (places + 1 - digits.length) '0' ++ digits
    let whole := padded.take (padded.length - places)
    let part := (padded.drop (padded.length - places)).reverse.dropWhile (· == '0')
    if part.isEmpty then String.ofList whole
    else String.ofList (whole ++ '.' :: part.reverse)

end Scientific
end SecureGateway.Decimal

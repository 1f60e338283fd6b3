import SecureGateway.Basic

namespace SecureGateway

/-- A member of the family with words of `w` bits. -/
structure Sha2 (w : Nat) where
  constants : List (BitVec w)
  start : List (BitVec w)
  /-- Two rotations and a shift, for what enters the schedule. -/
  scheduleNear : Nat × Nat × Nat
  scheduleFar : Nat × Nat × Nat
  roundFirst : Nat × Nat × Nat
  roundFifth : Nat × Nat × Nat
  size : Nat

namespace Sha2

def primes : List Nat :=
  (List.range 410).filter fun n => 2 ≤ n && (List.range n).all fun d => d < 2 || n % d != 0

def rootFrom (k n : Nat) : Nat → Nat → Nat
  | 0, r => r
  | i + 1, r => rootFrom k n i (if Nat.pow (r + Nat.pow 2 i) k ≤ n then r + Nat.pow 2 i else r)

/-- The first `w` bits after the point of the `k`th root of a number below 512. -/
def rootBits (w k n : Nat) : BitVec w := BitVec.ofNat w (rootFrom k (n * Nat.pow 2 (k * w)) (w + 5) 0)

variable {w : Nat}

def rotations (p : Nat × Nat × Nat) (x : BitVec w) : BitVec w :=
  x.rotateRight p.1 ^^^ x.rotateRight p.2.1 ^^^ x.rotateRight p.2.2

def rotationsAndShift (p : Nat × Nat × Nat) (x : BitVec w) : BitVec w :=
  x.rotateRight p.1 ^^^ x.rotateRight p.2.1 ^^^ x >>> p.2.2

/-- The schedule as a window of its next sixteen words: the first leaves and one more enters. -/
def advance (p : Sha2 w) (window : List (BitVec w)) : List (BitVec w) :=
  window.tail ++ [rotationsAndShift p.scheduleFar (window.getD 14 0) + window.getD 9 0 +
    rotationsAndShift p.scheduleNear (window.getD 1 0) + window.getD 0 0]

def round (p : Sha2 w) (constant scheduled : BitVec w) : List (BitVec w) → List (BitVec w)
  | [a, b, c, d, e, f, g, h] =>
    let t := h + rotations p.roundFifth e + ((e &&& f) ^^^ (~~~e &&& g)) + constant + scheduled
    let u := rotations p.roundFirst a + ((a &&& b) ^^^ (a &&& c) ^^^ (b &&& c))
    [t + u, a, b, c, d + t, e, f, g]
  | state => state

def compress (p : Sha2 w) (state block : List (BitVec w)) : List (BitVec w) :=
  let (mixed, _) := p.constants.foldl (fun (s, window) k =>
    (p.round k (window.getD 0 0) s, p.advance window)) (state, block)
  List.zipWith (· + ·) state mixed

def wordSize (_ : Sha2 w) : Nat := w / 8

def wordsWithin (size : Nat) : Nat → Bytes → List (BitVec w)
  | 0, _ => []
  | n + 1, bs => BitVec.ofNat w (Bytes.toNat (bs.take size)) :: wordsWithin size n (bs.drop size)

/-- A one bit, zeros, and the length in bits in the last two words of a block. -/
def pad (p : Sha2 w) (bs : Bytes) : Bytes :=
  let block := 16 * p.wordSize
  let zeros := (2 * block - 1 - 2 * p.wordSize - bs.length % block) % block
  bs ++ 0x80 :: List.replicate zeros 0 ++ Bytes.ofNat (2 * p.wordSize) (8 * bs.length)

def digest (p : Sha2 w) (bs : Bytes) : Bytes :=
  let padded := p.pad bs
  let words : List (BitVec w) := wordsWithin p.wordSize (padded.length / p.wordSize) padded
  let blocks := (List.range (words.length / 16)).map fun i => (words.drop (16 * i)).take 16
  ((blocks.foldl p.compress p.start).flatMap fun x => Bytes.ofNat p.wordSize x.toNat).take p.size

def sha256 : Sha2 32 where
  constants := (primes.take 64).map (rootBits 32 3)
  start := (primes.take 8).map (rootBits 32 2)
  scheduleNear := (7, 18, 3)
  scheduleFar := (17, 19, 10)
  roundFirst := (2, 13, 22)
  roundFifth := (6, 11, 25)
  size := 32

def sha512 : Sha2 64 where
  constants := primes.map (rootBits 64 3)
  start := (primes.take 8).map (rootBits 64 2)
  scheduleNear := (1, 8, 7)
  scheduleFar := (19, 61, 6)
  roundFirst := (28, 34, 39)
  roundFifth := (14, 18, 41)
  size := 64

/-- Starts from other primes and gives less of its state. -/
def sha384 : Sha2 64 :=
  { sha512 with start := ((primes.drop 8).take 8).map (rootBits 64 2), size := 48 }

end Sha2

inductive Digest where
  | sha256
  | sha384
  | sha512
  deriving DecidableEq, Repr

namespace Digest

def size : Digest → Nat
  | sha256 => 32
  | sha384 => 48
  | sha512 => 64

def of : Digest → Bytes → Bytes
  | sha256 => Sha2.sha256.digest
  | sha384 => Sha2.sha384.digest
  | sha512 => Sha2.sha512.digest

end Digest
end SecureGateway

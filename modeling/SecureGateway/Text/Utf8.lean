import SecureGateway.Basic

namespace SecureGateway.Utf8

def tailLength (b : UInt8) : Nat :=
  if b < 0xc2 then 0 else if b < 0xe0 then 1 else if b < 0xf0 then 2 else if b < 0xf5 then 3 else 0

def isTail (b : UInt8) : Bool := 0x80 ≤ b && b ≤ 0xbf

/-- What may follow a first byte: no long form of a short character, no surrogate and nothing after
the last code point. -/
def isSecond (first b : UInt8) : Bool :=
  (if first == 0xe0 then 0xa0 else if first == 0xf0 then 0x90 else 0x80) ≤ b &&
    b ≤ (if first == 0xed then 0x9f else if first == 0xf4 then 0x8f else 0xbf)

def tailOf (first : UInt8) : Bytes → Bytes
  | [] => []
  | b :: r =>
    if isSecond first b then b :: (r.take (tailLength first - 1)).takeWhile isTail else []

def charOf (first : UInt8) (tail : Bytes) : Char :=
  let n := tailLength first
  if n = 0 then if first < 0x80 then Char.ofNat first.toNat else '\ufffd'
  else if tail.length < n then '\ufffd'
  else Char.ofNat (tail.foldl (fun c b => c * 64 + b.toNat % 64) (first.toNat % Nat.pow 2 (6 - n)))

def lossyChars : Bytes → List Char
  | [] => []
  | b :: r =>
    let tail := if tailLength b = 0 then [] else tailOf b r
    charOf b tail :: lossyChars (r.drop tail.length)
termination_by bs => bs.length
decreasing_by simp only [List.length_drop, List.length_cons]; omega

end SecureGateway.Utf8

namespace SecureGateway.Bytes

def lossyText (bs : Bytes) : String := String.ofList (Utf8.lossyChars bs)

end SecureGateway.Bytes

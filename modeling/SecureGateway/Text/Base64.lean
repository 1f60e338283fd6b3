import SecureGateway.Basic

namespace SecureGateway

inductive Base64Error where
  | invalidCharacter (byte : UInt8)
  | prematurePadding
  | invalidTrailingPadding
  deriving DecidableEq, Repr

namespace Base64

inductive Symbol where
  | sextet (value : Nat)
  | padding
  deriving DecidableEq, Repr

def isBlank (b : UInt8) : Bool := (9 ≤ b && b ≤ 13) || b == 32

def symbol? (b : UInt8) : Option Symbol :=
  if 65 ≤ b && b ≤ 90 then some (.sextet (b.toNat - 65))
  else if 97 ≤ b && b ≤ 122 then some (.sextet (b.toNat - 71))
  else if 48 ≤ b && b ≤ 57 then some (.sextet (b.toNat + 4))
  else if b == 43 then some (.sextet 62)
  else if b == 47 then some (.sextet 63)
  else if b == 61 then some .padding
  else none

def blockSize : Nat := 8

def hasPadding (block : List Symbol) : Bool := block.contains .padding

def groups : List Symbol → Bytes
  | .sextet a :: .sextet b :: .sextet c :: .sextet d :: r =>
    Bytes.ofNat 3 (((a * 64 + b) * 64 + c) * 64 + d) ++ groups r
  | _ => []

def lastGroup : List Symbol → Except Base64Error Bytes
  | [] => .ok []
  | [.sextet a, .sextet b, .sextet c, .sextet d] =>
    .ok (groups [.sextet a, .sextet b, .sextet c, .sextet d])
  | [.sextet a, .sextet b, .sextet c, .padding] | [.sextet a, .sextet b, .sextet c] =>
    .ok (Bytes.ofNat 2 ((a * 4096 + b * 64 + c) / 4))
  | [.sextet a, .sextet b, .padding, .padding] | [.sextet a, .sextet b] =>
    .ok (Bytes.ofNat 1 ((a * 64 + b) / 16))
  | _ => .error .invalidTrailingPadding

/-- Padding belongs to the last group, so it may not stand before it. -/
def lastBlock (block : List Symbol) : Except Base64Error Bytes :=
  if block.length ≤ 4 then lastGroup block
  else if hasPadding (block.take 4) then .error .prematurePadding
  else (lastGroup (block.drop 4)).map (groups (block.take 4) ++ ·)

def decodeFrom (block : List Symbol) : Bytes → Except Base64Error Bytes
  | [] => lastBlock block
  | b :: r =>
    if isBlank b then decodeFrom block r
    else
      match symbol? b with
      | none => .error (.invalidCharacter b)
      | some s =>
        if block.length < blockSize then decodeFrom (block ++ [s]) r
        else if hasPadding block then .error .prematurePadding
        else (decodeFrom [s] r).map (groups block ++ ·)

def decode (text : Bytes) : Except Base64Error Bytes := decodeFrom [] text

end Base64

namespace Base64Error

def text : Base64Error → String
  | invalidCharacter b => "InvalidCharacter(" ++ toString b.toNat ++ ")"
  | prematurePadding => "PrematurePadding"
  | invalidTrailingPadding => "InvalidTrailingPadding"

end Base64Error
end SecureGateway

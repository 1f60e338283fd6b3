namespace SecureGateway

abbrev Bytes := List UInt8

namespace Bytes

def ofText (s : String) : Bytes := s.toUTF8.toList

def text? (bs : Bytes) : Option String := String.fromUTF8? ⟨bs.toArray⟩

def toNat (bs : Bytes) : Nat := bs.foldl (fun n b => n * 256 + b.toNat) 0

/-- The last `width` bytes of a number, most significant first. -/
def ofNat : Nat → Nat → Bytes
  | 0, _ => []
  | width + 1, n => ofNat width (n / 256) ++ [n.toUInt8]

def sized (width : Nat) (bs : Bytes) : Bytes := ofNat width bs.length ++ bs

end Bytes

/-- The largest value of a 64-bit counter; it stands for "no limit" in every metrics view. -/
def unbounded : Nat := 18_446_744_073_709_551_615

end SecureGateway

import SecureGateway.Basic

namespace SecureGateway

/-- One element: its tag and its content. -/
structure Der where
  tag : UInt8
  content : Bytes
  deriving DecidableEq, Repr

namespace Der

def booleanTag : UInt8 := 0x01
def integerTag : UInt8 := 0x02
def bitStringTag : UInt8 := 0x03
def octetStringTag : UInt8 := 0x04
def identifierTag : UInt8 := 0x06
def utcTimeTag : UInt8 := 0x17
def generalTimeTag : UInt8 := 0x18
def sequenceTag : UInt8 := 0x30

def isLongTag (tag : UInt8) : Bool := tag &&& 0x1f == 0x1f

def contentBound : Nat := 0xffff

/-- A length in one byte, or in one or two after a count of them; no shorter form may do. -/
def length? : Bytes → Option (Nat × Bytes)
  | 0x81 :: a :: r => if a < 0x80 then none else some (a.toNat, r)
  | 0x82 :: a :: b :: r => if a = 0 then none else some (Bytes.toNat [a, b], r)
  | n :: r => if n < 0x80 then some (n.toNat, r) else none
  | [] => none

def read? : Bytes → Option (Der × Bytes)
  | [] => none
  | tag :: r =>
    if isLongTag tag then none
    else
      (length? r).bind fun (n, r) =>
        if contentBound ≤ n || r.length < n then none else some (⟨tag, r.take n⟩, r.drop n)

def encodeLength (n : Nat) : Bytes :=
  if n < 0x80 then [n.toUInt8]
  else if n < 0x100 then 0x81 :: Bytes.ofNat 1 n
  else 0x82 :: Bytes.ofNat 2 n

def encode (d : Der) : Bytes := d.tag :: encodeLength d.content.length ++ d.content

end Der

/-- Faults with one for bytes that are no element, or not the right one. -/
class Malformed (ε : Type) where
  malformed : ε

instance : Malformed Unit := ⟨()⟩

abbrev DerReader (ε : Type) := StateT Bytes (Except ε)

namespace DerReader

variable {ε α : Type}

def fail (e : ε) : DerReader ε α := fun _ => .error e

def atEnd : DerReader ε Bool := fun bs => .ok (bs.isEmpty, bs)

def rest : DerReader ε Bytes := fun bs => .ok (bs, [])

def sees (tag : UInt8) : DerReader ε Bool := fun bs => .ok (bs.head? == some tag, bs)

def whole (r : DerReader ε α) (leftOver : ε) (bs : Bytes) : Except ε α :=
  match r bs with
  | .error e => .error e
  | .ok (a, []) => .ok a
  | .ok (_, _ :: _) => .error leftOver

/-- Reads the inside of an element of the tag. The fault is for another element and for what remains
inside. -/
def within (tag : UInt8) (fault : ε) (r : DerReader ε α) : DerReader ε α := fun bs =>
  match Der.read? bs with
  | none => .error fault
  | some (d, more) => if d.tag = tag then (r.whole fault d.content).map (·, more) else .error fault

variable [Malformed ε]

def malformed : DerReader ε α := fail Malformed.malformed

def byte : DerReader ε UInt8 := fun
  | [] => .error Malformed.malformed
  | b :: r => .ok (b, r)

def element : DerReader ε Der := fun bs =>
  match Der.read? bs with
  | some x => .ok x
  | none => .error Malformed.malformed

def expect (tag : UInt8) : DerReader ε Bytes := do
  let d ← element
  if d.tag = tag then return d.content else malformed

def measured (tag : UInt8) : DerReader ε (Bytes × Bytes) := fun bs =>
  (expect tag bs).map fun (content, more) => ((bs.take (bs.length - more.length), content), more)

def bitString (leftOver : ε) : DerReader ε Bytes :=
  within Der.bitStringTag leftOver do
    if (← byte) = 0 then rest else malformed

def flag (leftOver : ε) : DerReader ε Bool := do
  if ← sees Der.booleanTag then
    within Der.booleanTag leftOver do
      match ← byte with
      | 0xff => return true
      | 0x00 => return false
      | _ => malformed
  else return false

def natural : DerReader ε Bytes := do
  match ← expect Der.integerTag with
  | [] => malformed
  | 0 :: [] => return [0]
  | 0 :: b :: r => if b < 0x80 then malformed else return b :: r
  | b :: r => if b < 0x80 then return b :: r else malformed

def number : DerReader ε Nat := Bytes.toNat <$> natural

def positive : DerReader ε Nat := do
  let n ← number
  if n = 0 then malformed else return n

/-- Reads all bytes as items of one kind; an item takes at least one byte. -/
def itemsWithin (item : DerReader ε α) : Nat → DerReader ε (List α)
  | 0 => return []
  | fuel + 1 => do
    if ← atEnd then return []
    let a ← item
    return a :: (← itemsWithin item fuel)

def items (item : DerReader ε α) : DerReader ε (List α) := fun bs => itemsWithin item bs.length bs

end DerReader
end SecureGateway

import SecureGateway.Tls.EngineFailure

namespace SecureGateway

/-- Reads fields off the front. -/
abbrev Decoder := StateT Bytes (Except Corruption)

namespace Decoder

/-- A number of bytes; the error names what is missing. -/
def take (what : String) (n : Nat) : Decoder Bytes := fun bs =>
  if bs.length < n then .error (.missingData what) else .ok (bs.take n, bs.drop n)

def code (what : String) (width : Nat) : Decoder Nat := Bytes.toNat <$> take what width

def number (width : Nat) : Decoder Nat := code ("u" ++ toString (8 * width)) width

def atEnd : Decoder Bool := return (← get).isEmpty

def remaining : Decoder Bytes := modifyGet fun bs => (bs, [])

def expectEnd (what : String) : Decoder Unit := do
  if !(← atEnd) then throw (.trailingData what)

def part (n : Nat) : Decoder Bytes := fun bs =>
  if bs.length < n then .error .messageTooShort else .ok (bs.take n, bs.drop n)

def sized (width : Nat) : Decoder Bytes := do part (← number width)

def nonempty (width : Nat) : Decoder Bytes := do
  match ← number width with
  | 0 => throw .emptyValue
  | n => part n

/-- Reads a part by itself; what is left of it does not count. -/
def within (bs : Bytes) (d : Decoder α) : Decoder α :=
  match d bs with
  | .ok (a, _) => return a
  | .error e => throw e

def manyWithin (item : Decoder α) : Nat → Decoder (List α)
  | 0 => return []
  | fuel + 1 => do
    if ← atEnd then return []
    let a ← item
    return a :: (← manyWithin item fuel)

def many (item : Decoder α) : Decoder (List α) := do manyWithin item (← get).length

def list (width : Nat) (item : Decoder α) : Decoder (List α) := do
  within (← sized width) (many item)

def listUnless (empty : Corruption) (width : Nat) (item : Decoder α) : Decoder (List α) := do
  match ← number width with
  | 0 => throw empty
  | n => within (← part n) (many item)

def nonemptyList (what : String) (width : Nat) (item : Decoder α) : Decoder (List α) :=
  listUnless (.emptyList what) width item

end Decoder
end SecureGateway

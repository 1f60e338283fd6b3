import SecureGateway.Text.Utf8

namespace SecureGateway.Text.Terminal

/-- How far an escape sequence has been read. A character of several bytes waits for the rest. -/
inductive State where
  | ground
  | character (left : Nat)
  | escape
  | escapeIntermediate
  | controlEntry
  | controlParameter
  | controlIntermediate
  | controlIgnored
  | deviceEntry
  | deviceParameter
  | deviceIntermediate
  | deviceIgnored
  | deviceData
  | command
  | string
  deriving DecidableEq, Repr

/-- What becomes of a byte: whether it can be shown, and the next state, none where it stays. -/
structure Change where
  next : Option State
  shown : Bool
  deriving DecidableEq, Repr

def isBlank (b : UInt8) : Bool := [0x09, 0x0a, 0x0c, 0x0d].contains b

def isControl (b : UInt8) : Bool := b < 0x20

def continuation (b : UInt8) : Nat := if b < 0xe0 then 1 else if b < 0xf0 then 2 else 3

def move (s : State) : Change := ⟨some s, false⟩

def stay : Change := ⟨none, false⟩

/-- In most states a control character is carried out at once. -/
def carryOut (b : UInt8) : Change := ⟨none, isBlank b⟩

def between (low high b : UInt8) : Bool := low ≤ b && b ≤ high

def inGround (b : UInt8) : Change :=
  if isControl b then carryOut b
  else if b < 0x7f then ⟨none, true⟩
  else if between 0xc2 0xf4 b then ⟨some (.character (continuation b)), true⟩
  else stay

def afterEscape (b : UInt8) : Change :=
  if isControl b then carryOut b
  else if between 0x20 0x2f b then move .escapeIntermediate
  else if b = 0x50 then move .deviceEntry
  else if b = 0x5b then move .controlEntry
  else if b = 0x5d then move .command
  else if b = 0x58 || b = 0x5e || b = 0x5f then move .string
  else if between 0x30 0x7e b then move .ground
  else stay

/-- Inside a control sequence: parameters, then intermediate bytes, then the final one. -/
def inControl (s : State) (b : UInt8) : Change :=
  if isControl b then carryOut b
  else if between 0x40 0x7e b then move .ground
  else if s = .controlIgnored || 0x7e < b then stay
  else if between 0x20 0x2f b then move .controlIntermediate
  else if s = .controlIntermediate || (s = .controlParameter && between 0x3c 0x3f b) then
    move .controlIgnored
  else move .controlParameter

/-- Before the data of a device string: as in a control sequence, but nothing is carried out. -/
def inDevice (s : State) (b : UInt8) : Change :=
  if isControl b || 0x7e < b then stay
  else if between 0x40 0x7e b then move .deviceData
  else if between 0x20 0x2f b then move .deviceIntermediate
  else if s = .deviceIntermediate || b = 0x3a || (s = .deviceParameter && between 0x3c 0x3f b) then
    move .deviceIgnored
  else move .deviceParameter

/-- Cancelling and escaping work in every state. -/
def change (s : State) (b : UInt8) : Change :=
  if b = 0x18 || b = 0x1a then move .ground
  else if b = 0x1b then move .escape
  else
    match s with
    | .ground | .character _ => inGround b
    | .escape => afterEscape b
    | .escapeIntermediate =>
      if isControl b then carryOut b else if between 0x30 0x7e b then move .ground else stay
    | .controlEntry | .controlParameter | .controlIntermediate | .controlIgnored => inControl s b
    | .deviceEntry | .deviceParameter | .deviceIntermediate => inDevice s b
    | .deviceIgnored | .deviceData | .string => if b = 0x9c then move .ground else stay
    | .command => if b = 0x07 then move .ground else stay

def showByte (s : State) (b : UInt8) : Option State :=
  match s with
  | .character left => some (if left ≤ 1 then .ground else .character (left - 1))
  | s =>
    let c := change .ground b
    if c.shown then some (c.next.getD s) else none

def stripFrom : Bool → State → Bytes → Bytes
  | _, _, [] => []
  | showing, s, b :: r =>
    match if showing then showByte s b else none with
    | some t => b :: stripFrom true t r
    | none =>
      let c := change s b
      let t := c.next.getD s
      if !c.shown then stripFrom false t r
      else b :: stripFrom true ((change .ground b).next.getD t) r

def strip (text : String) : String := Bytes.lossyText (stripFrom false .ground (.ofText text))

end SecureGateway.Text.Terminal

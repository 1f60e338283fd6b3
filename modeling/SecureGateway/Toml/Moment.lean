import SecureGateway.Toml.Number

namespace SecureGateway.Toml

def symbol (c : Char) : Reader Unit := do let _ ← Reader.char (· == c)

def field (width low high : Nat) : Reader Nat :=
  .judged (fun ds =>
      let n := valueOf 10 ds
      if low ≤ n ∧ n ≤ high then .ok n else .error { breach := some .outOfRange })
    (.exactly width isDecimal)

def isLeapYear (y : Nat) : Bool := y % 4 == 0 && (y % 100 != 0 || y % 400 == 0)

def daysInMonth (year month : Nat) : Nat :=
  if month = 2 then if isLeapYear year then 29 else 28
  else if month ∈ [4, 6, 9, 11] then 30 else 31

/-- `yyyy-mm-dd`; after the first dash there is no way back. -/
def date : Reader Unit := do
  let year ← field 4 0 9999
  symbol '-'
  Reader.settled do
    let month ← field 2 1 12
    symbol '-'
    Reader.judged (fun day =>
        if day ≤ daysInMonth year month then .ok () else .error { breach := some .outOfRange })
      (field 2 1 31)

def secondFraction : Reader Unit := do
  symbol '.'
  let _ ← Reader.someRun isDecimal

/-- `hh:mm:ss` with decimals; after the first colon there is no way back. -/
def time : Reader Unit := do
  let _ ← field 2 0 23
  symbol ':'
  Reader.settled do
    let _ ← field 2 0 59
    symbol ':'
    let _ ← field 2 0 60
    let _ ← Reader.optional secondFraction

def timeOffset : Reader Unit := .within .timeOffset <|
  .either (do let _ ← Reader.char fun c => c == 'Z' || c == 'z') do
    let _ ← Reader.char fun c => c == '+' || c == '-'
    Reader.settled do
      let _ ← field 2 0 23
      symbol ':'
      let _ ← field 2 0 59

def clock : Reader Unit := do
  let _ ← Reader.char fun c => c == 'T' || c == 't' || c == ' '
  time
  let _ ← Reader.optional timeOffset

def moment : Reader Unit :=
  .either (.within .dateTime do date; let _ ← Reader.optional clock) (.within .time time)

end SecureGateway.Toml

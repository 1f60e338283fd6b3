import SecureGateway.Certificate.Fault

namespace SecureGateway.Validity

abbrev Reader := DerReader CertificateFault

def digit : Reader Nat := fun
  | b :: r => if 48 ≤ b && b ≤ 57 then .ok (b.toNat - 48, r) else .error .badTime
  | [] => .error .badTime

def twoDigits (least most : Nat) : Reader Nat := do
  let n := (← digit) * 10 + (← digit)
  if least ≤ n ∧ n ≤ most then return n else DerReader.fail .badTime

def isLeapYear (year : Nat) : Bool := year % 4 == 0 && (year % 100 != 0 || year % 400 == 0)

def daysInMonth (year month : Nat) : Nat :=
  if month = 2 then if isLeapYear year then 29 else 28
  else if [4, 6, 9, 11].contains month then 30
  else 31

def dayNumber (year month day : Nat) : Nat :=
  let years := (List.range (year - 1970)).foldl (fun n i =>
    n + if isLeapYear (1970 + i) then 366 else 365) 0
  let months := (List.range (month - 1)).foldl (fun n i => n + daysInMonth year (i + 1)) 0
  years + months + (day - 1)

def timeOfYear (year : Nat) : Reader Nat := do
  let month ← twoDigits 1 12
  let day ← twoDigits 1 (daysInMonth year month)
  let hours ← twoDigits 0 23
  let minutes ← twoDigits 0 59
  let seconds ← twoDigits 0 59
  match ← (fun | b :: r => .ok (b, r) | [] => .error .badTime : Reader UInt8) with
  | 90 =>
    if year < 1970 then DerReader.fail .badTime
    else return ((dayNumber year month day * 24 + hours) * 60 + minutes) * 60 + seconds
  | _ => DerReader.fail .badTime

/-- A moment with a year of two digits, from 1950 on, or of four. -/
def moment : Reader Nat := do
  if ← DerReader.sees Der.utcTimeTag then
    DerReader.within Der.utcTimeTag .trailingData do
      let year ← twoDigits 0 99
      timeOfYear (if 50 ≤ year then 1900 + year else 2000 + year)
  else
    DerReader.within Der.generalTimeTag .trailingData do
      timeOfYear ((← twoDigits 0 99) * 100 + (← twoDigits 0 99))

/-- Whether a moment lies between the two, both included. -/
def check (now : Nat) (validity : Bytes) : Except CertificateFault Unit :=
  let r : Reader Unit := do
    let first ← moment
    let last ← moment
    if last < first then DerReader.fail .invalidValidity
    else if now < first then DerReader.fail (.notYetValid now first)
    else if last < now then DerReader.fail (.expired now last)
    else return
  r.whole .badDer validity

end SecureGateway.Validity

namespace SecureGateway.Text

def digitValue? (c : Char) : Option Nat :=
  if '0' ≤ c ∧ c ≤ '9' then some (c.toNat - 48) else none

def hexDigitValue? (c : Char) : Option Nat :=
  if '0' ≤ c ∧ c ≤ '9' then some (c.toNat - 48)
  else if 'a' ≤ c ∧ c ≤ 'f' then some (c.toNat - 87)
  else if 'A' ≤ c ∧ c ≤ 'F' then some (c.toNat - 55)
  else none

/-- The value of a row of digits in `base`, most significant first; every character must be one. -/
def foldDigits? (base : Nat) (digit? : Char → Option Nat) : Nat → List Char → Option Nat
  | n, [] => some n
  | n, c :: r =>
    match digit? c with
    | some d => if d < base then foldDigits? base digit? (n * base + d) r else none
    | none => none

def natOfDigits? (cs : List Char) : Option Nat :=
  if cs.isEmpty then none else foldDigits? 10 digitValue? 0 cs

/-- An unsigned numeral below `bound`; a plus sign may stand in front. -/
def parseUnsigned? (bound : Nat) (cs : List Char) : Option Nat :=
  let digits := match cs with
    | '+' :: r => r
    | r => r
  (natOfDigits? digits).filter (· < bound)

/-- A numeral with an optional sign, between `-2^63` and `2^63 - 1`. -/
def parseInt64? (cs : List Char) : Option Int :=
  match cs with
  | '-' :: r => (natOfDigits? r).bind fun n => if n ≤ 9_223_372_036_854_775_808 then some (-(n : Int)) else none
  | '+' :: r => (natOfDigits? r).bind fun n => if n < 9_223_372_036_854_775_808 then some (n : Int) else none
  | r => (natOfDigits? r).bind fun n => if n < 9_223_372_036_854_775_808 then some (n : Int) else none

def hexDigit (d : Nat) : Char :=
  if d < 10 then Char.ofNat (48 + d) else Char.ofNat (87 + d)

def hexDigits (n : Nat) : List Char :=
  if _h : n < 16 then [hexDigit n] else hexDigits (n / 16) ++ [hexDigit (n % 16)]
termination_by n

def hexText (n : Nat) : String :=
  String.ofList (hexDigits n)

end SecureGateway.Text

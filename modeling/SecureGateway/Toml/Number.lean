import SecureGateway.Toml.Quotation
import SecureGateway.Toml.Value

namespace SecureGateway.Toml

open Text Decimal

def isDecimal (c : Char) : Bool := (digitValue? c).isSome

def isDigitOf (base : Nat) (c : Char) : Bool := (hexDigitValue? c).any (· < base)

/-- Further digits, with single underscores between them. -/
def moreDigits (isDigit : Char → Bool) : Reader (List Char)
  | [] => .ok ([], [])
  | '_' :: d :: r =>
    if isDigit d then cons d (moreDigits isDigit r)
    else .error ⟨{ wanted := [.digit] }, true, d :: r⟩
  | ['_'] => .error ⟨{ wanted := [.digit] }, true, []⟩
  | c :: r => if isDigit c then cons c (moreDigits isDigit r) else .ok ([], c :: r)

def someDigits (isDigit : Char → Bool) : Reader (List Char) := do
  let first ← Reader.char isDigit
  let more ← moreDigits isDigit
  return first :: more

def sign : Reader Bool := do
  let c ← Reader.optional (.char fun c => c == '+' || c == '-')
  return c == some '-'

def whole : Reader (Bool × List Char) := Reader.within .integer do
  let negative ← sign
  if ← Reader.startsWith "0" then
    Reader.word "0"
    return (negative, ['0'])
  else return (negative, ← someDigits isDecimal)

def signed (negative : Bool) (n : Nat) : Int := if negative then -n else n

def inRange (n : Int) : Except Complaint Int :=
  if n < -9_223_372_036_854_775_808 then .error { breach := some .tooSmall }
  else if 9_223_372_036_854_775_808 ≤ n then .error { breach := some .tooLarge }
  else .ok n

/-- Settled once the digits are read. -/
def decimalInteger : Reader Int := fun cs => do
  let ((negative, ds), rest) ← whole cs
  match inRange (signed negative (valueOf 10 ds)) with
  | .ok n => .ok (n, rest)
  | .error c => .error ⟨c, true, cs⟩

def basedInteger (base : Nat) (part : Part) : Reader Int :=
  Reader.settled <| .judged (fun ds => inRange (valueOf base ds)) <| .within part do
    let _ ← Reader.exactly 2 fun _ => true
    someDigits (isDigitOf base)

def integer : Reader Int := do
  if ← Reader.startsWith "0x" then basedInteger 16 .hexadecimal
  else if ← Reader.startsWith "0o" then basedInteger 8 .octal
  else if ← Reader.startsWith "0b" then basedInteger 2 .binary
  else decimalInteger

def exponent : Reader Int := do
  let _ ← Reader.char fun c => c == 'e' || c == 'E'
  let negative ← sign
  let ds ← Reader.settled (someDigits isDecimal)
  return signed negative (valueOf 10 ds)

def fraction : Reader (List Char) := do
  Reader.word "."
  Reader.wanting [.digit] (.settled (someDigits isDecimal))

/-- The digits behind the point, and an exponent; at least one of the two. -/
def floatTail : Reader (List Char × Int) :=
  .either ((([], ·)) <$> exponent) do
    let digits ← fraction
    let power ← Reader.optional exponent
    return (digits, power.getD 0)

/-- The float of the given digits. One too large is refused when positive and infinite when not. -/
def makeFloat (negative : Bool) (digits : List Char) (power : Int) : Option FloatValue :=
  match Binary64.ofScientific? ⟨valueOf 10 digits, power⟩ with
  | some x => some (.finite negative x)
  | none => if negative then some (.infinite true) else none

def decimalFloat : Reader FloatValue := fun cs => do
  let ((negative, ds), rest) ← whole cs
  let ((more, power), rest) ← floatTail rest
  match makeFloat negative (ds ++ more) (power - more.length) with
  | some f => .ok (f, rest)
  | none => .error ⟨{}, true, cs⟩

def infinity : Reader Unit := .word "inf"

def notANumber : Reader Unit := .word "nan"

def namedFloat : Reader FloatValue := do
  let negative ← sign
  .either (do infinity; return .infinite negative) (do notANumber; return .nan)

def float : Reader FloatValue := .within .float (.either decimalFloat namedFloat)

end SecureGateway.Toml

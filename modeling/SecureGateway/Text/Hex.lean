import SecureGateway.Basic
import SecureGateway.Text.Numeral

namespace SecureGateway.Bytes

def hexPair (b : UInt8) : List Char :=
  [Text.hexDigit (b.toNat / 16), Text.hexDigit (b.toNat % 16)]

def hex (bs : Bytes) : String := String.ofList (bs.flatMap hexPair)

/-- Reads pairs of digits, the wrong ones as zero, and leaves out an odd one at the end. -/
def ofHexDigits : List Char → Bytes
  | a :: b :: r =>
    ((Text.hexDigitValue? a).getD 0 * 16 + (Text.hexDigitValue? b).getD 0).toUInt8 :: ofHexDigits r
  | _ => []

def ofHex (s : String) : Bytes := ofHexDigits s.toList

end SecureGateway.Bytes

import SecureGateway.Address.Socket
import SecureGateway.Certificate.Fault
import SecureGateway.Text.Utf8

namespace SecureGateway

inductive AlternativeName where
  | dns (name : Bytes)
  | directory
  | ip (octets : Bytes)
  | uri (text : Bytes)
  | unsupported (kind : UInt8)
  deriving DecidableEq, Repr

namespace AlternativeName

/-- The names that start with a number of their own in the standard's choice. -/
def ofDer? (d : Der) : Option AlternativeName :=
  match d.tag.toNat with
  | 0x82 => some (.dns d.content)
  | 0xa4 => some .directory
  | 0x87 => some (.ip d.content)
  | 0x86 => some (.uri d.content)
  | 0xa0 => some (.unsupported 0)
  | 0x81 => some (.unsupported 1)
  | 0xa3 => some (.unsupported 3)
  | 0xa5 => some (.unsupported 5)
  | 0x88 => some (.unsupported 8)
  | _ => none

def reader : DerReader CertificateFault AlternativeName := do
  match ofDer? (← DerReader.element) with
  | some n => return n
  | none => DerReader.malformed

/-- The names up to the first that cannot be read, which comes last as a fault. -/
def namesWithin : Nat → Bytes → List (Except CertificateFault AlternativeName)
  | _, [] => []
  | 0, _ => []
  | fuel + 1, bs =>
    match reader bs with
    | .ok (n, rest) => .ok n :: namesWithin fuel rest
    | .error e => [.error e]

def ofExtension (value : Option Bytes) : List (Except CertificateFault AlternativeName) :=
  (value.map fun bs => namesWithin bs.length bs).getD []

def groupText (hi lo : UInt8) : String :=
  if hi = 0 then Text.hexText lo.toNat else Text.hexText hi.toNat ++ Bytes.hex [lo]

/-- Groups after the first; each run of zeros becomes one double colon. -/
def groupsText (skipping : Bool) : Bytes → String
  | hi :: lo :: r =>
    if hi = 0 ∧ lo = 0 then groupsText true r
    else (if skipping then "::" else ":") ++ groupText hi lo ++ groupsText false r
  | _ => ""

def octetsText (octets : Bytes) : String :=
  match octets with
  | [a, b, c, d] => IpAddress.quadText ([a, b, c, d].map (·.toNat))
  | hi :: lo :: r =>
    if octets.length = 16 then groupText hi lo ++ groupsText false r
    else "[invalid: " ++ String.intercalate ", " (octets.map fun b => Bytes.hex [b]) ++ "]"
  | _ => "[invalid: " ++ String.intercalate ", " (octets.map fun b => Bytes.hex [b]) ++ "]"

def text : AlternativeName → String
  | dns name => "DnsName(\"" ++ name.lossyText ++ "\")"
  | directory => "DirectoryName"
  | ip octets => "IpAddress(" ++ octetsText octets ++ ")"
  | uri t => "UniformResourceIdentifier(\"" ++ t.lossyText ++ "\")"
  | unsupported kind => "Unsupported(0x" ++ Bytes.hex [kind] ++ ")"

end AlternativeName
end SecureGateway

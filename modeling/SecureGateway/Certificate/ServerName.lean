import SecureGateway.Address.Socket

namespace SecureGateway

/-- Whom a client means to reach: a host name or a numeric address. -/
inductive ServerName where
  | dns (name : String)
  | ip (address : IpAddress)
  deriving DecidableEq, Repr

namespace ServerName

def maxNameLength : Nat := 253

def maxLabelLength : Nat := 63

def isLabelChar (c : Char) : Bool := c.isAlphanum || c == '-' || c == '_'

def labels (name : String) : List String :=
  match name.splitOn "." |>.reverse with
  | "" :: last :: before => (last :: before).reverse
  | parts => parts.reverse

/-- A label holds up to 63 letters, digits, hyphens and underscores, no hyphen at an end. -/
def isLabel (s : String) : Bool :=
  let cs := s.toList
  !cs.isEmpty && decide (cs.length ≤ maxLabelLength) && cs.all isLabelChar &&
    cs.head? != some '-' && cs.getLast? != some '-'

def isDnsName (name : String) : Bool :=
  decide (name.utf8ByteSize ≤ maxNameLength) && (labels name).all isLabel &&
    !((labels name).getLast?.getD "").toList.all Char.isDigit

/-- Reads a host name, or else a numeric address. -/
def ofText? (s : String) : Option ServerName :=
  if isDnsName s then some (.dns s) else (IpAddress.parse? s).map .ip

def text : ServerName → String
  | dns name => name
  | ip a => a.text

def withoutFinalDot (name : String) : String :=
  match name.toList.reverse with
  | '.' :: r => String.ofList r.reverse
  | _ => name

end ServerName
end SecureGateway

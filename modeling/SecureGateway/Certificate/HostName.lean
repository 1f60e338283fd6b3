import SecureGateway.Certificate.Fault

namespace SecureGateway.HostName

/-- What a name stands for: what a certificate presents, what a client asks for, or what an authority
is limited to. -/
inductive Role where
  | presented
  | reference
  | constraint
  deriving DecidableEq, Repr

def dot : UInt8 := 46
def star : UInt8 := 42
def hyphen : UInt8 := 45

def maxLength : Nat := 253
def maxLabelLength : Nat := 63

def labels (name : Bytes) : List Bytes :=
  name.foldr (fun b parts =>
    if b == dot then [] :: parts
    else
      match parts with
      | l :: r => (b :: l) :: r
      | [] => [[b]]) [[]]

def isDigit (b : UInt8) : Bool := 48 ≤ b && b ≤ 57

def isLetter (b : UInt8) : Bool := (65 ≤ b && b ≤ 90) || (97 ≤ b && b ≤ 122)

def isLabelByte (b : UInt8) : Bool := isLetter b || isDigit b || b == hyphen || b == 95

def isLabel (l : Bytes) : Bool :=
  !l.isEmpty && l.length ≤ maxLabelLength && l.all isLabelByte && l.head? != some hyphen &&
    l.getLast? != some hyphen

/-- The labels without an empty one at an end where the role allows a dot there: before a constraint,
and after a reference. -/
def innerLabels (role : Role) (parts : List Bytes) : List Bytes :=
  match role, parts with
  | .constraint, [] :: r => r
  | .reference, parts => if parts.getLast? == some [] then parts.dropLast else parts
  | _, parts => parts

def areLabels (parts : List Bytes) : Bool :=
  !parts.isEmpty && parts.all isLabel && !(parts.getLastD []).all isDigit

/-- Only a whole first label may be a star, and only in what is presented, before two labels. -/
def isValid (role : Role) (name : Bytes) : Bool :=
  if maxLength < name.length then false
  else if role = .constraint ∧ name = [] then true
  else
    match role, labels name with
    | .presented, [b] :: r =>
      if b == star then 2 ≤ r.length && areLabels r else areLabels ([b] :: r)
    | role, parts => areLabels (innerLabels role parts)

def lower (b : UInt8) : UInt8 := if 65 ≤ b && b ≤ 90 then b + 32 else b

def sameText (a b : Bytes) : Bool := a.map lower == b.map lower

inductive StarRule where
  | standsForLabel
  | standsForItself
  deriving DecidableEq, Repr

/-- Compares from the front; a star stands for the rest of a label. -/
def agrees (rule : StarRule) (presented other : Bytes) : Bool :=
  match presented, other with
  | b :: p, _ :: o =>
    if b == star && rule = .standsForLabel then sameText p (o.dropWhile (· != dot))
    else sameText presented other
  | _, _ => sameText presented other

def covers (presented reference : Bytes) : Except CertificateFault Bool :=
  if !isValid .presented presented || !isValid .reference reference then .error .malformedHostName
  else
    let plain := if reference.getLast? == some dot then reference.dropLast else reference
    .ok (agrees .standsForLabel presented plain)

/-- The end of a name that is held against a shorter limit, which must start at a label. -/
def tailFor? (presented limit : Bytes) : Option Bytes :=
  let skipped := presented.length - limit.length
  if skipped = 0 || limit.head? == some dot then some (presented.drop skipped)
  else if presented[skipped - 1]? == some dot then some (presented.drop skipped)
  else none

/-- A name lies within a limit if it is the limit or ends in it; everything is within an empty one. -/
def isWithin (rule : StarRule) (presented limit : Bytes) : Except CertificateFault Bool :=
  if !isValid .presented presented then .error .malformedHostName
  else if !isValid .constraint limit then .error .malformedNameConstraint
  else if limit = [] then .ok true
  else .ok ((tailFor? presented limit).any fun p => agrees rule p limit)

end SecureGateway.HostName

import SecureGateway.Certificate.NameConstraint
import SecureGateway.Certificate.ServerName

namespace SecureGateway

namespace SignedData

def keyParts (key : Bytes) : Except CertificateFault (Bytes × Bytes) :=
  let r : DerReader CertificateFault (Bytes × Bytes) := do
    return (← DerReader.expect Der.sequenceTag, ← DerReader.bitString .trailingData)
  r.whole .trailingData key

def verify (s : SignedData) (key : Bytes) : Except CertificateFault Unit := do
  let fitting := SignatureMethod.registered.filter fun m => m.1 == s.algorithm
  if fitting.isEmpty then
    throw (.unsupportedSignature s.algorithm (SignatureMethod.registered.map (·.1)))
  let (kind, point) ← keyParts key
  match fitting.find? fun m => m.2.keyKind.identifier == kind with
  | none => throw (.unsupportedSignatureForKey s.algorithm kind)
  | some (_, m) => if m.verify point s.data s.signature then return else throw .wrongSignature

end SignedData

namespace CertificatePath

/-- The ends of what is being built: an end entity stands alone, an authority has others below it. -/
inductive Role where
  | endEntity
  | authority
  deriving DecidableEq, Repr

abbrev Reader := DerReader CertificateFault

/-- Whether an extension makes its bearer an authority, and of how many authorities below it. -/
def authorityRights : Reader (Bool × Option Nat) := do
  let isAuthority ← DerReader.flag .trailingData
  if ← DerReader.atEnd then return (isAuthority, none)
  else
    match ← DerReader.natural with
    | [b] => return (isAuthority, some b.toNat)
    | _ => DerReader.malformed

def checkRights (role : Role) (authoritiesBelow : Nat) (value : Option Bytes) :
    Except CertificateFault Unit := do
  let check : Bool × Option Nat → Except CertificateFault Unit := fun (isAuthority, limit) =>
    match role with
    | .endEntity => if isAuthority then .error .authorityAsEndEntity else .ok ()
    | .authority =>
      if !isAuthority then .error .endEntityAsAuthority
      else if limit.any (· < authoritiesBelow) then .error .pathLengthViolated
      else .ok ()
  match value with
  | none => check (false, none)
  | some bs => (do liftM (check (← authorityRights)) : Reader Unit).whole .badDer bs

def serverPurpose : Bytes := [0x2b, 0x06, 0x01, 0x05, 0x05, 0x07, 0x03, 0x01]

def identifierNumbers (bs : Bytes) : List Nat :=
  let (_, numbers) := bs.foldl (fun (n, done) b =>
    let n := n * 256 % UInt64.size + b.toNat % 128
    if b < 0x80 then (0, done ++ [n]) else (n, done)) (0, ([] : List Nat))
  match numbers with
  | [] => []
  | n :: r => if n < 40 then 0 :: n :: r else if n < 80 then 1 :: (n - 40) :: r else 2 :: (n - 80) :: r

def purposesWithin : Nat → List (List Nat) → Reader Unit
  | 0, _ => DerReader.malformed
  | fuel + 1, seen => do
    let id ← DerReader.expect Der.identifierTag
    if id = serverPurpose then
      let _ ← DerReader.rest
    else
      let seen := seen ++ [identifierNumbers id]
      if ← DerReader.atEnd then DerReader.fail (.wrongPurpose seen)
      purposesWithin fuel seen

def checkPurposes (value : Option Bytes) : Except CertificateFault Unit :=
  match value with
  | none => .ok ()
  | some [] => .error .noPurpose
  | some bs => (purposesWithin bs.length []).whole .badDer bs

def checkAlone (now : Nat) (role : Role) (authoritiesBelow : Nat) (c : Certificate) :
    Except CertificateFault Unit := do
  Validity.check now c.validity
  checkRights role authoritiesBelow (c.extension? .basicConstraints)
  checkPurposes (c.extension? .purposes)

/-- The signatures from the anchor's key down. -/
def checkSignatures (key : Bytes) : List Certificate → SearchStep Unit
  | [] => return
  | c :: below => do
    SearchBudget.useSignature
    liftM (c.signed.verify key)
    checkSignatures c.key below

def checkNames (constraints : Option Bytes) : List Certificate → SearchStep Unit
  | [] => return
  | c :: below => do
    if let some bs := constraints then NameConstraint.check bs (c :: below)
    checkNames (c.extension? .nameConstraints) below

/-- Tries one after the other until one succeeds, and else tells the fault that says most. -/
def tryEach (f : α → SearchStep Unit) : CertificateFault → List α → SearchStep Unit
  | e, [] => throw e
  | e, x :: xs => tryCatch (f x) fun e' =>
    if e'.isFatal then throw e' else tryEach f (e.mostSpecific e') xs

def endAt (path : List Certificate) (issuer : Bytes) (a : TrustAnchor) : SearchStep Unit := do
  if issuer ≠ a.subject then throw .unknownIssuer
  checkSignatures a.key path
  checkNames a.nameConstraints path

structure Search where
  anchors : List TrustAnchor
  others : List Bytes
  now : Nat

def maxBetween : Nat := 6

/-- Ends the path or makes it longer, upper end first, by a certificate that issued its upper end and
is not on it already. -/
def search (s : Search) : Nat → Nat → Certificate → List Certificate → SearchStep Unit
  | room, authoritiesBelow, top, below => do
    let role : Role := if below.isEmpty then .endEntity else .authority
    liftM (checkAlone s.now role authoritiesBelow top)
    let extend (e : CertificateFault) : SearchStep Unit :=
      tryEach (fun encoded => do
        let c ← liftM (Certificate.ofDer .refused encoded)
        if c.subject ≠ top.issuer then throw .unknownIssuer
        if (top :: below).any fun d => d.key = c.key ∧ d.subject = c.subject then throw .unknownIssuer
        SearchBudget.usePath
        match room with
        | 0 => throw .pathTooDeep
        | room + 1 =>
          search s room (if below.isEmpty then authoritiesBelow else authoritiesBelow + 1) c
            (top :: below)) e s.others
    tryCatch (tryEach (endAt (top :: below) top.issuer) .unknownIssuer s.anchors) fun e =>
      if e.isFatal then throw e else extend e

end CertificatePath

namespace Certificate

def presentedNames (c : Certificate) : List String :=
  c.names.filterMap fun n => (n.toOption).map AlternativeName.text

def octetsOf : IpAddress → Bytes
  | .v4 octets => octets.map (·.toUInt8)
  | .v6 groups => groups.flatMap (Bytes.ofNat 2)

def namesServer (n : AlternativeName) (wanted : ServerName) : Bool :=
  match n, wanted with
  | .dns presented, .dns host => (HostName.covers presented (.ofText host)).toOption.getD false
  | .ip octets, .ip a => octets == octetsOf a
  | _, _ => false

def checkName (c : Certificate) (wanted : ServerName) : Except CertificateFault Unit :=
  go c.names
where
  go : List (Except CertificateFault AlternativeName) → Except CertificateFault Unit
    | [] => .error (.wrongName wanted.text c.presentedNames)
    | .error e :: _ => .error e
    | .ok n :: rest => if namesServer n wanted then .ok () else go rest

/-- Judges a certificate that a server presents under a name, with those it sends along. -/
def verify (anchors : List TrustAnchor) (now : Nat) (name : ServerName) (encoded : Bytes)
    (others : List Bytes) : Except CertificateFault Unit := do
  let c ← ofDer .refused encoded
  ((CertificatePath.search ⟨anchors, others, now⟩ CertificatePath.maxBetween 0 c []).run.run {}).1
  c.checkName name

end Certificate
end SecureGateway

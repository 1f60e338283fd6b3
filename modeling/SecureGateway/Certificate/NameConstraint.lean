import SecureGateway.Certificate.Basic
import SecureGateway.Certificate.HostName

namespace SecureGateway

/-- How much may still be tried in the search for a chain. -/
structure SearchBudget where
  signatures : Nat := 100
  paths : Nat := 200000
  comparisons : Nat := 250000
  deriving DecidableEq, Repr

/-- A step of the search; what it used up stays used up when it fails. -/
abbrev SearchStep := ExceptT CertificateFault (StateM SearchBudget)

namespace SearchBudget

def useSignature : SearchStep Unit := do
  let b ← get
  if b.signatures = 0 then throw .tooManySignatures
  set { b with signatures := b.signatures - 1 }

def usePath : SearchStep Unit := do
  let b ← get
  if b.paths = 0 then throw .tooManyPaths
  set { b with paths := b.paths - 1 }

def useComparison : SearchStep Unit := do
  let b ← get
  if b.comparisons = 0 then throw .tooManyComparisons
  set { b with comparisons := b.comparisons - 1 }

end SearchBudget

namespace NameConstraint

inductive Tree where
  | permitted
  | excluded
  deriving DecidableEq, Repr

def isMask (bs : Bytes) : Bool :=
  let bits := bs.flatMap fun b => (List.range 8).map fun i => b.toNat.testBit (7 - i)
  (bits.dropWhile id).all (!·)

/-- Compares an address byte by byte with a network and its mask, which is judged as far as the
comparison gets. -/
def isInNetwork (octets network mask : Bytes) : Except CertificateFault Bool :=
  let agrees := (octets.zip (network.zip mask)).map fun (o, n, m) => (o ^^^ n) &&& m == 0
  let read := (agrees.takeWhile id).length + 1
  if !isMask (mask.take read) then .error .invalidNetworkMask else .ok (agrees.all id)

def addressIsWithin (octets limit : Bytes) : Except CertificateFault Bool :=
  let half := octets.length
  if half = 4 ∨ half = 16 then
    if limit.length = 2 * half then isInNetwork octets (limit.take half) (limit.drop half)
    else if limit.length = 8 ∨ limit.length = 32 then .ok false
    else .error .invalidNetworkMask
  else .error .badDer

/-- Whether a name lies within a limit; nothing where they are of different kinds. A star is no name of
its own in what is permitted. Kinds that cannot be compared are never within what is permitted. -/
def isWithin? (t : Tree) : AlternativeName → AlternativeName → Option (Except CertificateFault Bool)
  | .dns name, .dns limit =>
    some (HostName.isWithin (if t = .permitted then .standsForItself else .standsForLabel) name limit)
  | .directory, .directory => some (.ok (t = .excluded))
  | .ip octets, .ip limit => some (addressIsWithin octets limit)
  | .uri _, .uri _ => some (.error .nameConstraintViolation)
  | .unsupported a, .unsupported b => if a = b then some (.error .nameConstraintViolation) else none
  | _, _ => none

def limit : DerReader CertificateFault AlternativeName := do
  liftM (AlternativeName.reader.whole .trailingData (← DerReader.expect Der.sequenceTag))

/-- Goes through the limits of a tree. Of permitted names, one of the kind has to match if there is
any; of excluded ones none may. -/
def checkTree (t : Tree) (name : AlternativeName) : Nat → (matched mismatched : Bool) → Bytes →
    SearchStep Unit
  | 0, _, _, _ => return
  | _, matched, mismatched, [] =>
    if mismatched && !matched then throw .nameConstraintViolation else return
  | fuel + 1, matched, mismatched, bs => do
    SearchBudget.useComparison
    let (base, rest) ← liftM (limit bs)
    match isWithin? t name base, t with
    | none, _ => checkTree t name fuel matched mismatched rest
    | some (.error e), _ => throw e
    | some (.ok true), .permitted => checkTree t name fuel true mismatched rest
    | some (.ok false), .permitted => checkTree t name fuel matched true rest
    | some (.ok true), .excluded => throw .nameConstraintViolation
    | some (.ok false), .excluded => checkTree t name fuel matched mismatched rest

def checkName (permitted excluded : Option Bytes) (name : AlternativeName) : SearchStep Unit := do
  if let some bs := permitted then checkTree .permitted name (bs.length + 1) false false bs
  if let some bs := excluded then checkTree .excluded name (bs.length + 1) false false bs

def permittedTag : UInt8 := 0xa0

def excludedTag : UInt8 := 0xa1

def tree (tag : UInt8) : DerReader CertificateFault (Option Bytes) := do
  if ← DerReader.sees tag then return some (← DerReader.expect tag) else return none

def checkCertificate (permitted excluded : Option Bytes) (c : Certificate) : SearchStep Unit := do
  for name in c.names do
    checkName permitted excluded (← liftM name)
  checkName permitted excluded .directory

def check (constraints : Bytes) (below : List Certificate) : SearchStep Unit := do
  let (permitted, rest) ← liftM (tree permittedTag constraints)
  let (excluded, rest) ← liftM (tree excludedTag rest)
  for c in below do
    checkCertificate permitted excluded c
  if !rest.isEmpty then throw .badDer

end NameConstraint
end SecureGateway

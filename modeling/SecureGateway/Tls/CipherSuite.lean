import SecureGateway.Tls.Failure

namespace SecureGateway

inductive KeyAlgorithm where
  | ecdsa
  | rsa
  deriving DecidableEq, Repr

/-- A suite of TLS 1.3, or one of TLS 1.2 that wants a key of the given kind. -/
inductive SuiteFamily where
  | tls13
  | tls12 (auth : KeyAlgorithm)
  deriving DecidableEq, Repr

structure CipherSuite where
  name : String
  family : SuiteFamily
  deriving DecidableEq, Repr

/-- How a requested list is reconciled with the suites at hand. -/
inductive CipherFilter where
  | identity
  | supported
  deriving DecidableEq, Repr, Inhabited

namespace CipherFilter

def debugText : CipherFilter → String
  | identity => "Identity"
  | supported => "Supported"

end CipherFilter

namespace CipherSuite

def isTls13 (s : CipherSuite) : Bool := s.family == .tls13

def bulkCiphers : List String :=
  ["AES_256_GCM_SHA384", "AES_128_GCM_SHA256", "CHACHA20_POLY1305_SHA256"]

/-- The engine's suites, best first. -/
def builtIn : List CipherSuite :=
  bulkCiphers.map (fun b => ⟨"TLS13_" ++ b, .tls13⟩) ++
    bulkCiphers.map (fun b => ⟨"TLS_ECDHE_ECDSA_WITH_" ++ b, .tls12 .ecdsa⟩) ++
    bulkCiphers.map (fun b => ⟨"TLS_ECDHE_RSA_WITH_" ++ b, .tls12 .rsa⟩)

def codes : List Nat :=
  [0x1302, 0x1301, 0x1303, 0xc02c, 0xc02b, 0xcca9, 0xc030, 0xc02f, 0xcca8]

def code (s : CipherSuite) : Nat := codes.getD (builtIn.idxOf s) 0

def digestSize (s : CipherSuite) : Nat := if s.name.endsWith "SHA384" then 48 else 32

def numbersRecords (s : CipherSuite) : Bool :=
  !s.isTls13 && !s.name.endsWith "CHACHA20_POLY1305_SHA256"

def find? (available : List CipherSuite) (name : String) : Option CipherSuite :=
  available.find? fun s => s.name == name

/-- Every requested suite in its order; the first unknown name is refused. -/
def selectAll (available : List CipherSuite) : List String → Except TlsError (List CipherSuite)
  | [] => .ok []
  | name :: rest =>
    match find? available name with
    | none => .error (.contextResolution ("unsupported cipher suite: " ++ name))
    | some s => (selectAll available rest).map (s :: ·)

/-- All suites of TLS 1.3, then the requested older ones that are available. -/
def selectSupported (available : List CipherSuite) (requested : List String) : List CipherSuite :=
  available.filter isTls13 ++ (requested.filterMap (find? available)).filter fun s => !s.isTls13

def select (available : List CipherSuite) (requested : Option (List String))
    (filter : CipherFilter) : Except TlsError (List CipherSuite) :=
  match requested, filter with
  | none, _ => .ok available
  | some names, .identity => selectAll available names
  | some names, .supported => .ok (selectSupported available names)

end CipherSuite
end SecureGateway

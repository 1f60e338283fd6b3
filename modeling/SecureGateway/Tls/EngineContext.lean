import SecureGateway.Session.Engine
import SecureGateway.Tls.Configuration

namespace SecureGateway

structure EngineBuilder where
  role : TlsRole
  rootsPem : Bytes := []
  chainPem : Bytes := []
  keyPem : Bytes := []
  /-- Goes before the peer's host, both as what is sent and as what is verified. -/
  serverName : Option String := none
  backend : TlsBackend := .standard
  ciphers : Option (List String) := none
  cipherFilter : CipherFilter := .identity
  alpn : Option AlpnConfig := none
  now : Nat := 1798761600
  deriving DecidableEq, Repr

inductive EngineSide where
  | client (anchors : List TrustAnchor) (serverName : Option String)
  | server (chain : List Bytes) (key : ServerKey)
  deriving DecidableEq, Repr

structure EngineContext where
  suites : List CipherSuite
  protocols : List String
  side : EngineSide
  now : Nat
  deriving DecidableEq, Repr

def resolution (reason : String) : TlsError := .contextResolution reason

def resolved (e : EngineError) : TlsError := resolution e.message

namespace EngineBuilder

def client : EngineBuilder := { role := .client }

def server (chainPem keyPem : Bytes) : EngineBuilder := { role := .server, chainPem, keyPem }

def withRoots (pem : Bytes) (b : EngineBuilder) : EngineBuilder :=
  { b with rootsPem := b.rootsPem ++ pem }

def withServerName (name : String) (b : EngineBuilder) : EngineBuilder :=
  { b with serverName := some name }

def selectSuites (b : EngineBuilder) : Except TlsError (List CipherSuite) :=
  match b.backend with
  | .native => .error (resolution "native TLS backend is not compiled in")
  | .standard => CipherSuite.select CipherSuite.builtIn b.ciphers b.cipherFilter

def requireSuites (suites : List CipherSuite) : Except TlsError Unit :=
  if suites.isEmpty then .error (resolved (.general "no usable cipher suites configured")) else .ok ()

def certificates (pem : Bytes) : Except TlsError (List Bytes) :=
  match Pem.certificates pem with
  | .ok cs => .ok cs
  | .error e => .error (resolution ("invalid certificate PEM: " ++ e.message))

def anchor (der : Bytes) : Except TlsError TrustAnchor :=
  (TrustAnchor.ofDer der).mapError fun e => resolved (.certificate e)

def clientSide (b : EngineBuilder) (suites : List CipherSuite) : Except TlsError EngineSide := do
  let anchors ← (← certificates b.rootsPem).mapM anchor
  requireSuites suites
  return .client anchors b.serverName

def privateKey (pem : Bytes) : Except TlsError PemSection :=
  match Pem.privateKey pem with
  | .ok (some key) => .ok key
  | .ok none => .error (resolution "no private key found in PEM")
  | .error e => .error (resolution ("invalid private key PEM: " ++ e.message))

/-- The key has to belong to the first certificate. -/
def pairUp (leaf : Bytes) (key : PemSection) : Except TlsError ServerKey :=
  match PrivateKey.ofSection? key with
  | none =>
    .error (resolved (.general "failed to parse private key as RSA, ECDSA, or EdDSA"))
  | some k =>
    match Certificate.ofDer .refused leaf with
    | .error e => .error (resolved (.certificate e))
    | .ok c => if c.key = k.encoded then .ok k else .error (resolved .keyMismatch)

def serverSide (b : EngineBuilder) (suites : List CipherSuite) : Except TlsError EngineSide := do
  match ← certificates b.chainPem with
  | [] => throw (resolution "server certificate chain is empty")
  | leaf :: rest =>
    let key ← privateKey b.keyPem
    requireSuites suites
    return .server (leaf :: rest) (← pairUp leaf key)

def build (b : EngineBuilder) : Except TlsError EngineContext := do
  let suites ← b.selectSuites
  let side ← match b.role with
    | .client => b.clientSide suites
    | .server => b.serverSide suites
  return ⟨suites, (b.alpn.map (·.protocols)).getD [], side, b.now⟩

/-- Certificates and keys stay out of the text. -/
def debugText (b : EngineBuilder) : String :=
  Text.openRecordText "RustlsContextBuilder" [("role", b.role.debugText),
    ("server_name", Text.optionText Text.quote b.serverName),
    ("backend", b.backend.debugText),
    ("ciphers", Text.optionText (Text.listText Text.quote) b.ciphers),
    ("cipher_filter", b.cipherFilter.debugText),
    ("alpn", Text.optionText AlpnConfig.debugText b.alpn)]

def bytesText (bs : Bytes) : String := Text.listText (fun b => toString b.toNat) bs

def fingerprint (b : EngineBuilder) : String :=
  b.debugText ++ bytesText b.rootsPem ++ bytesText b.chainPem ++ bytesText b.keyPem

end EngineBuilder

instance : ContextBuilder EngineBuilder EngineContext where
  setBackend backend b := { b with backend }
  setCiphers ciphers cipherFilter b := { b with ciphers, cipherFilter }
  setAlpn alpn b := { b with alpn }
  build := EngineBuilder.build
  fingerprint := EngineBuilder.fingerprint
  debugText := EngineBuilder.debugText

namespace EngineContext

def name : String := "rustls"

/-- A client needs a name to verify: its own setting, or else the host it connects to. -/
def newSession (c : EngineContext) (sni : Option SniTarget) : Except TlsError Session :=
  match c.side with
  | .server chain key => .ok (Session.server ⟨c.suites, c.protocols, chain, key⟩)
  | .client anchors serverName =>
    match serverName <|> sni.map (·.host) with
    | none => .error .missingServerName
    | some host =>
      match ServerName.ofText? host with
      | none => .error (.invalidServerName host)
      | some target => .ok (Session.client ⟨c.suites, c.protocols, anchors, target, c.now⟩)

end EngineContext

instance : TlsContext EngineContext (TlsStage Session) where
  newHandler c sni := (c.newSession sni).map TlsStage.new
  engineName _ := EngineContext.name
  debugText _ := "RustlsContext"

end SecureGateway

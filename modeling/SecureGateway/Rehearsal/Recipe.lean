import SecureGateway.Rehearsal.ClearStage
import SecureGateway.Tls.Configuration

namespace SecureGateway

structure Recipe where
  label : String
  backend : TlsBackend := .standard
  ciphers : Option (List String) := none
  cipherFilter : CipherFilter := .identity
  alpn : Option AlpnConfig := none
  print : Nat := 0
  failure : Option TlsError := none
  refusesAlpn : Bool := false
  needsSni : Bool := false
  deriving DecidableEq, Repr

structure ClearContext where
  text : String
  needsSni : Bool
  deriving DecidableEq, Repr

namespace Recipe

def alpnText (a : AlpnConfig) : String :=
  String.intercalate "/" [String.intercalate "," a.protocols, a.selectorFailure.debugText,
    a.listenerFailure.debugText]

def text (r : Recipe) : String :=
  String.intercalate ";" [r.label, r.backend.debugText,
    (r.ciphers.map (String.intercalate ",")).getD "*", r.cipherFilter.debugText,
    (r.alpn.map alpnText).getD "none"]

def build (r : Recipe) : Except TlsError ClearContext :=
  if r.refusesAlpn && r.alpn.isSome then .error (.contextResolution "alpn unsupported")
  else
    match r.failure with
    | some e => .error e
    | none => .ok ⟨r.text, r.needsSni⟩

end Recipe

instance : ContextBuilder Recipe ClearContext where
  setBackend backend r := { r with backend }
  setCiphers ciphers cipherFilter r := { r with ciphers, cipherFilter }
  setAlpn alpn r := { r with alpn }
  build := Recipe.build
  fingerprint r := toString r.print
  debugText r := "Recipe<" ++ r.text ++ ">"

/-- A host name with an exclamation mark is refused. -/
def ClearContext.newStage (c : ClearContext) : Option SniTarget → Except TlsError ClearStage
  | none => if c.needsSni then .error .missingServerName else .ok .new
  | some t => if t.host.toList.contains '!' then .error (.invalidServerName t.host) else .ok .new

instance : TlsContext ClearContext ClearStage where
  newHandler := ClearContext.newStage
  engineName _ := "fake"
  debugText c := "Ctx<" ++ c.text ++ ">"

end SecureGateway

import SecureGateway.Command.Arguments
import SecureGateway.Command.Probe
import SecureGateway.Config.Decoder
import SecureGateway.Listener
import SecureGateway.Tls.Settings

namespace SecureGateway

/-- What the program sees of the machine it runs on. -/
structure Machine (κ : Type) where
  handshakeOverride : Option String
  files : FileReader
  connection : Span → Bool → RemoteAddress → Opening κ
  session : κ → SessionSummary

structure ProgramResult where
  code : Nat
  output : String
  errors : String
  deriving DecidableEq, Repr

namespace ProgramResult

def printed (text : String) : ProgramResult := ⟨0, text, ""⟩

def failed (shown : String) : ProgramResult := ⟨1, "", "Error: " ++ shown ++ "\n"⟩

/-- The program is unwound. The place where it happened is left out. -/
def panicked (message : String) : ProgramResult := ⟨101, "", message ++ "\n"⟩

def refused (r : Refusal) : ProgramResult :=
  if r.isHelp then printed r.text else ⟨2, "", r.text⟩

end ProgramResult

namespace Machine

variable {κ : Type}

def offline (handshakeOverride : Option String) (files : FileReader) : Machine Empty where
  handshakeOverride
  files
  connection := Opening.ofNetwork Network.unreachable Empty.elim
  session := Empty.elim

def targets (c : GatewayConfig) : Option String → List TargetConfig
  | some address => [⟨address, address⟩]
  | none => c.targets

def probe (m : Machine κ) (c : GatewayConfig) (target : Option String) : Except String String :=
  match targets c target with
  | [] => .error (Text.quote "no targets configured; add [[targets]] or pass --target")
  | ts =>
    let provider := ConnectionProvider.ofConfig c.pool c.pool.metricsEnabled
    let connection := m.connection (.ofMillis c.pool.connectTimeoutMs) c.observability.metricsEnabled
    .ok (ProbeReport.layout (ProbeReport.ofTargets connection m.session ts (.ofProvider provider)))

def loadConfiguration (m : Machine κ) (path : String) : Except String GatewayConfig :=
  (GatewayConfig.load (m.files path)).mapError ConfigError.debugText

/-- Serving ends without output; only starting the listener can fail. -/
def serve (c : GatewayConfig) : Except String ProgramResult :=
  match Listener.start c.listener with
  | .listening _ => .ok (.printed "")
  | .refused e => .error e.message
  | .panicked message => .ok (.panicked message)

/-- The override is looked at before the file, and the file before the certificates. -/
def carryOut (m : Machine κ) (i : Invocation) : Except String ProgramResult := do
  let defaults ← (TlsDefaults.fromOverride m.handshakeOverride).mapError TlsError.debugText
  let c ← m.loadConfiguration i.config
  let _ ← (c.tls.configuration m.files defaults 0).mapError TlsError.debugText
  match i.command with
  | .probe target => (m.probe c target).map .printed
  | .serve => serve c

def run (m : Machine κ) (arguments : List String) : ProgramResult :=
  match Invocation.parse arguments with
  | .error r => .refused r
  | .ok i =>
    match m.carryOut i with
    | .ok result => result
    | .error shown => .failed shown

end Machine
end SecureGateway

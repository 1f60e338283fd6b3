import SecureGateway.Basic
import SecureGateway.Pipeline.Occupant
import SecureGateway.Tls.Secured
import SecureGateway.Tls.Timing

namespace SecureGateway

inductive ClearPhase where
  | idle
  | handshaking (deadline : Option Instant)
  | established
  | failed
  deriving DecidableEq, Repr

/-- A handshake in the clear, to rehearse a chain without an engine: `hello` is answered by `ok` or
`no`, data is marked on its way out, and `bye` ends the session. -/
structure ClearStage where
  phase : ClearPhase
  timing : TimingPolicy
  customized : List (String × TimingPolicy)
  deriving DecidableEq, Repr

namespace ClearPhase

def text : ClearPhase → String
  | idle => "idle"
  | handshaking _ => "handshaking"
  | established => "established"
  | failed => "failed"

end ClearPhase

namespace ClearStage

def new : ClearStage := ⟨.idle, .none, []⟩

instance : Timed ClearStage where
  timing c := c.timing
  withTiming timing c := { c with timing }

instance : Deadlined ClearStage where
  overruns now c := c.phase == .idle && c.timing.overruns now

instance : Secured ClearStage where
  alpn _ := none
  version _ := none
  suite _ := none
  closeNotifyReceived _ := false

/-- Notes what it finds and replaces the limits that are given. -/
def customize (label : String) (handshake flush read : Option Span) (c : ClearStage) : ClearStage :=
  let t := c.timing
  { c with
    timing := ⟨handshake.getD t.handshake, flush.getD t.closeNotifyFlush,
      read.getD t.closeNotifyRead⟩
    customized := c.customized ++ [(label, t)] }

def hello : Bytes := .ofText "hello"
def goodbye : Bytes := .ofText "bye"
def accepted : Bytes := .ofText "ok"
def refused : Bytes := .ofText "no"
def broken : Bytes := .ofText "err"
def mark : Bytes := .ofText "e:"

def fail (e : TlsError) (c : ClearStage) : ClearStage × List Signal :=
  ({ c with phase := .failed },
    [.inbound (.event (.handshakeCompleted (.failure (.tls e)))), .outbound .close])

def answer (m : Bytes) (c : ClearStage) : ClearStage × List Signal :=
  if accepted.isPrefixOf m then
    let rest := m.drop accepted.length
    ({ c with phase := .established }, .inbound (.event (.handshakeCompleted .success)) ::
      if rest.isEmpty then [] else [.inbound (.read rest)])
  else if refused.isPrefixOf m then c.fail (.invalidServerName "fake")
  else (c, [.outbound .read])

def receive (m : Bytes) (c : ClearStage) : ClearStage × List Signal :=
  if m = goodbye then (c, [.inbound (.event .closeNotifyReceived)])
  else if m = broken then
    ({ c with phase := .failed }, [.inbound (.exception (.other "fake record error"))])
  else (c, [.inbound (.read m)])

def step (now : Instant) (s : Signal) (c : ClearStage) : ClearStage × List Signal :=
  match s, c.phase with
  | .inbound .active, .idle =>
    let limit := c.timing.handshake
    ({ c with phase := .handshaking (if limit.isZero then none else some (now.after limit)) },
      [.outbound (.write hello), s])
  | .inbound (.read m), .established => c.receive m
  | .inbound (.read m), .handshaking _ => c.answer m
  | .inbound (.read _), _ => (c, [])
  | .inbound .inactive, .handshaking _ =>
    let (c, out) := c.fail .closedDuringHandshake
    (c, out ++ [s])
  | .inbound (.tick t), .handshaking (some deadline) =>
    if deadline ≤ t then
      let (c, out) := c.fail (.handshakeTimeout c.timing.handshake)
      (c, out ++ [s])
    else (c, [s])
  | .outbound (.write m), .established => (c, [.outbound (.write (mark ++ m))])
  | .outbound (.write _), _ => (c, [])
  | .outbound .close, .established => (c, [.outbound (.write goodbye), s])
  | s, _ => (c, [s])

/-- The stage as a handler; it never leaves the chain by itself. -/
def react {τ ω : Type} : React τ ClearStage ω := fun v s c w =>
  let (c, emitted) := c.step v.now s
  ⟨c, emitted, false, w⟩

end ClearStage
end SecureGateway

import SecureGateway.Pipeline.Dispatch
import SecureGateway.Tls.Timing

namespace SecureGateway

inductive PlainRead where
  | data (bytes : Bytes)
  | endOfStream
  | wouldBlock
  | failed (error : IoError)
  deriving DecidableEq, Repr

/-- The operations of a TLS engine with states in `ε`. -/
structure EngineModel (ε : Type) where
  /-- Takes ciphertext off the front and says how many bytes. -/
  readTls : Bytes → ε → Except IoError Nat × ε
  process : ε → Except EngineError Unit × ε
  readPlain : ε → PlainRead × ε
  /-- Accepts all of some plaintext. -/
  writePlain : Bytes → ε → Except IoError Unit × ε
  wantsWrite : ε → Bool
  writeTls : ε → Except IoError Bytes × ε
  isHandshaking : ε → Bool
  sendCloseNotify : ε → ε
  alpn : ε → Option String
  version : ε → Option String
  suite : ε → Option String
  /-- How often an engine is asked again in one go. -/
  limit : Nat

inductive HandshakeState where
  | idle
  | handshaking (deadline : Option Instant)
  | established
  | failed
  deriving DecidableEq, Repr

/-- A TLS engine driven by the signals of a pipeline. Ciphertext comes in as reads and goes out as
writes. -/
structure TlsStage (ε : Type) where
  engine : ε
  state : HandshakeState
  timing : TimingPolicy
  closeNotifyReceived : Bool
  deriving Repr

namespace EngineModel

variable {ε : Type}

def takeOutput (m : EngineModel ε) : Nat → ε → Except IoError Bytes × ε
  | 0, e => (.ok [], e)
  | limit + 1, e =>
    if m.wantsWrite e then
      match m.writeTls e with
      | (.error err, e) => (.error err, e)
      | (.ok out, e) =>
        match m.takeOutput limit e with
        | (.ok more, e) => (.ok (out ++ more), e)
        | (.error err, e) => (.error err, e)
    else (.ok [], e)

/-- All plaintext at hand, and whether the stream ended. -/
def takePlain (m : EngineModel ε) : Nat → ε → Except IoError (Bytes × Bool) × ε
  | 0, e => (.ok ([], false), e)
  | limit + 1, e =>
    match m.readPlain e with
    | (.endOfStream, e) => (.ok ([], true), e)
    | (.wouldBlock, e) => (.ok ([], false), e)
    | (.failed err, e) => (.error err, e)
    | (.data bytes, e) =>
      match m.takePlain limit e with
      | (.ok (more, ended), e) => (.ok (bytes ++ more, ended), e)
      | (.error err, e) => (.error err, e)

end EngineModel

namespace TlsStage

variable {ε τ : Type}

def new (e : ε) : TlsStage ε := ⟨e, .idle, .none, false⟩

instance : Timed (TlsStage ε) where
  timing t := t.timing
  withTiming timing t := { t with timing }

/-- Only the first activation sets a deadline. -/
instance : Deadlined (TlsStage ε) where
  overruns now t := t.state == .idle && t.timing.overruns now

def isEstablished (t : TlsStage ε) : Bool := t.state == .established

def isHandshaking (t : TlsStage ε) : Bool :=
  match t.state with
  | .handshaking _ => true
  | _ => false

abbrev Step (ε : Type) := TlsStage ε × List Signal

def flush (m : EngineModel ε) (t : TlsStage ε) : Except IoError (List Signal) × TlsStage ε :=
  match m.takeOutput m.limit t.engine with
  | (.ok out, e) => (.ok (if out.isEmpty then [] else [.outbound (.write out)]), { t with engine := e })
  | (.error err, e) => (.error err, { t with engine := e })

/-- Flushes as well as it can. -/
def flushBestEffort (m : EngineModel ε) (t : TlsStage ε) : Step ε :=
  match t.flush m with
  | (.ok out, t) => (t, out)
  | (.error _, t) => (t, [])

/-- A failure during the handshake completes it and closes; at any other time it is an exception. -/
def fail (m : EngineModel ε) (err : TlsError) (t : TlsStage ε) : Step ε :=
  let (u, out) := t.flushBestEffort m
  let report : List Signal := if u.isHandshaking then
      [.inbound (.event (.handshakeCompleted (.failure (.tls err)))), .outbound .close]
    else [.inbound (.exception (.tls err))]
  ({ u with state := .failed }, out ++ report)

/-- Feeds ciphertext to the engine, a part at a time, and collects the plaintext. -/
def ingest (m : EngineModel ε) : Nat → Bytes → Bytes → TlsStage ε → Except TlsError Bytes × TlsStage ε
  | 0, _, plain, t => (.ok plain, t)
  | fuel + 1, cipher, plain, t =>
    if cipher.isEmpty then (.ok plain, t)
    else
      match m.readTls cipher t.engine with
      | (.error err, e) => (.error (.io err), { t with engine := e })
      | (.ok 0, e) => (.ok plain, { t with engine := e })
      | (.ok n, e) =>
        match m.process e with
        | (.error err, e) => (.error (.handshake err), { t with engine := e })
        | (.ok (), e) =>
          match m.takePlain m.limit e with
          | (.error err, e) => (.error (.io err), { t with engine := e })
          | (.ok (more, ended), e) =>
            ingest m fuel (cipher.drop n) (plain ++ more)
              { t with engine := e, closeNotifyReceived := t.closeNotifyReceived || ended }

def onActive (m : EngineModel ε) (now : Instant) (t : TlsStage ε) : Step ε :=
  match t.state with
  | .idle =>
    let deadline := if t.timing.handshake.isZero then none else some (now.after t.timing.handshake)
    let t := { t with state := .handshaking deadline }
    match t.flush m with
    | (.ok out, t) => (t, out ++ [.inbound .active])
    | (.error err, t) => t.fail m (.io err)
  | _ => (t, [.inbound .active])

/-- The handshake is over, or asks for more; then come the plaintext and the peer's goodbye. -/
def afterRead (m : EngineModel ε) (plain : Bytes) (hadCloseNotify : Bool) (t : TlsStage ε) : Step ε :=
  let (t, progress) : Step ε :=
    if t.isHandshaking then
      if m.isHandshaking t.engine then (t, [.outbound .read])
      else ({ t with state := .established }, [.inbound (.event (.handshakeCompleted .success))])
    else (t, [])
  (t, progress ++
    (if plain.isEmpty then [] else [.inbound (.read plain)]) ++
    (if t.closeNotifyReceived && !hadCloseNotify then [.inbound (.event .closeNotifyReceived)] else []))

def onRead (m : EngineModel ε) (cipher : Bytes) (t : TlsStage ε) : Step ε :=
  if t.state == .failed then (t, [])
  else
    match t.ingest m cipher.length cipher [] with
    | (.error err, u) => u.fail m err
    | (.ok plain, u) =>
      match u.flush m with
      | (.error err, u) => u.fail m (.io err)
      | (.ok out, u) =>
        let (u, emitted) := u.afterRead m plain t.closeNotifyReceived
        (u, out ++ emitted)

def onInactive (m : EngineModel ε) (t : TlsStage ε) : Step ε :=
  let (u, report) := if t.isHandshaking then t.fail m .closedDuringHandshake else (t, [])
  (u, report ++ [.inbound .inactive])

def onTick (m : EngineModel ε) (now : Instant) (t : TlsStage ε) : Step ε :=
  let (u, report) : Step ε :=
    match t.state with
    | .handshaking (some deadline) =>
      if deadline ≤ now then t.fail m (.handshakeTimeout t.timing.handshake) else (t, [])
    | _ => (t, [])
  (u, report ++ [.inbound (.tick now)])

def onWrite (m : EngineModel ε) (plain : Bytes) (t : TlsStage ε) : Step ε :=
  match m.writePlain plain t.engine with
  | (.error err, e) => ({ t with engine := e }).fail m (.io err)
  | (.ok (), e) =>
    match ({ t with engine := e }).flush m with
    | (.error err, t) => t.fail m (.io err)
    | (.ok out, t) => (t, out)

def onClose (m : EngineModel ε) (t : TlsStage ε) : Step ε :=
  let (u, out) : Step ε :=
    if t.isEstablished then
      ({ t with engine := m.sendCloseNotify t.engine }).flushBestEffort m
    else (t, [])
  (u, out ++ [.outbound .close])

def step (m : EngineModel ε) (now : Instant) (s : Signal) (t : TlsStage ε) : Step ε :=
  match s with
  | .inbound .active => t.onActive m now
  | .inbound (.read cipher) => t.onRead m cipher
  | .inbound .inactive => t.onInactive m
  | .inbound (.tick t') => t.onTick m t'
  | .outbound (.write plain) => t.onWrite m plain
  | .outbound .close => t.onClose m
  | s => (t, [s])

def react {ω : Type} (m : EngineModel ε) : React τ (TlsStage ε) ω := fun v s t w =>
  let (t, emitted) := t.step m v.now s
  ⟨t, emitted, false, w⟩

end TlsStage
end SecureGateway

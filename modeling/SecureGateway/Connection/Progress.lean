import SecureGateway.Connection.State

namespace SecureGateway.Connection

variable {η ξ ω : Type}

/-- Moves what left the pipeline behind what is pending. -/
def collect (c : Connection η ξ ω) : Connection η ξ ω :=
  let (signals, pipeline) := c.pipeline.takeInbound
  { c with pipeline, pending := c.pending ++ signals }

/-- A request for a read is kept until bytes come. -/
def noteReadRequest (c : Connection η ξ ω) : Connection η ξ ω :=
  let (requested, pipeline) := c.pipeline.takeReadRequest
  { c with pipeline, readPending := c.readPending || requested }

def failure? (c : Connection η ξ ω) : Option Cause :=
  c.pending.findSome? fun
    | .exception cause => some cause
    | _ => none

def settle (r : Except ConnectError Outcome) (c : Connection η ξ ω) : Advance η ξ ω :=
  ({ c with job := .idle, deadline := none }, some r)

def wait (job : Job) (c : Connection η ξ ω) : Advance η ξ ω := ({ c with job }, none)

def finish (r : Except ConnectError Outcome) (c : Connection η ξ ω) : Advance η ξ ω :=
  ({ c with job := .ended, deadline := none }, some r)

/-- An opening that fails shuts the socket down, but not one that takes too long. -/
def failOpening (e : ConnectError) (c : Connection η ξ ω) : Advance η ξ ω :=
  { c with shutDown := true }.finish (.error e)

def finishClosing (c : Connection η ξ ω) : Advance η ξ ω :=
  { c with shutDown := true }.finish (.ok .closed)

/-- The first signal that settles an opening, and what comes after it. -/
def decideOpening : List Inbound → Option (Except ConnectError Unit × List Inbound)
  | [] => none
  | .active :: r => some (.ok (), r)
  | .exception cause :: r => some (.error (.tls cause), r)
  | .inactive :: r => some (.error .closed, r)
  | _ :: r => decideOpening r

/-- After each flush the opening is settled, or waits for more. -/
def continueOpening (c : Connection η ξ ω) : Advance η ξ ω :=
  let c := c.collect
  match decideOpening c.pending with
  | some (.ok (), pending) => { c with pending }.settle (.ok .opened)
  | some (.error e, pending) => { c with pending }.failOpening e
  | none =>
    let c := { c with pending := [] }
    if c.pipeline.closeRequested || c.endOfStream then c.failOpening .closed
    else c.noteReadRequest.wait .awaitingActive

def decideReading : List Inbound → Option (Except ConnectError (Option Bytes) × List Inbound)
  | [] => none
  | .read data :: r => some (.ok (some data), r)
  | .exception cause :: r => some (.error (.tls cause), r)
  | .inactive :: r => some (.ok none, r)
  | .event .closeNotifyReceived :: r => some (.ok none, r)
  | _ :: r => decideReading r

def decideDraining (pending : List Inbound) : Bool :=
  pending.any fun
    | .exception _ => true
    | .inactive => true
    | .event .closeNotifyReceived => true
    | _ => false

/-- Reports a failure that is pending, and leaves it there. -/
def checkFailed (c : Connection η ξ ω) : Connection η ξ ω × Except ConnectError Unit :=
  let c := c.collect
  (c, match c.failure? with
    | some cause => .error (.tls cause)
    | none => .ok ())

/-- A write is settled once its bytes are out, with the failure they may have brought to light. -/
def finishWriting (c : Connection η ξ ω) : Advance η ξ ω :=
  let (c, r) := c.checkFailed
  c.settle (r.map fun _ => .wrote)

def abandon (c : Connection η ξ ω) : Connection η ξ ω := { c with job := .idle, deadline := none }

variable [Recorder ω]

def fire (k : StageKit η ξ ω) (now : Instant) (s : Inbound) (c : Connection η ξ ω) :
    Option (Connection η ξ ω) :=
  (c.pipeline.fire k.behaviour now s c.env).map fun (pipeline, env) => { c with pipeline, env }

def submit (k : StageKit η ξ ω) (now : Instant) (op : Outbound) (c : Connection η ξ ω) :
    Option (Connection η ξ ω) :=
  (c.pipeline.submit k.behaviour now op c.env).map fun (pipeline, env) => { c with pipeline, env }

/-- Asks the pipeline for a read, and then reads in any case. -/
def requestRead (k : StageKit η ξ ω) (now : Instant) (errand : Errand) (c : Connection η ξ ω) :
    Option (Advance η ξ ω) :=
  (c.submit k now .read).map fun c => c.noteReadRequest.wait (.receiving errand)

def continueReading (k : StageKit η ξ ω) (now : Instant) (c : Connection η ξ ω) :
    Option (Advance η ξ ω) :=
  let c := c.collect
  match decideReading c.pending with
  | some (r, pending) => some ({ c with pending }.settle (r.map .received))
  | none =>
    let c := { c with pending := [] }
    if c.endOfStream then some (c.settle (.ok (.received none)))
    else c.requestRead k now .reading

/-- After the goodbye was sent: whatever ends the wait for the peer's ends it well. -/
def continueDraining (k : StageKit η ξ ω) (now : Instant) (c : Connection η ξ ω) :
    Option (Advance η ξ ω) :=
  let c := c.collect
  if decideDraining c.pending || c.endOfStream then some { c with pending := [] }.finishClosing
  else { c with pending := [] }.requestRead k now .draining

/-- Bytes from the socket, or none at the end of the stream. -/
def accept (k : StageKit η ξ ω) (now : Instant) (data : Bytes) (c : Connection η ξ ω) :
    Option (Connection η ξ ω) :=
  let c := { c with readPending := false }
  if data.isEmpty then { c with endOfStream := true }.fire k now .inactive
  else (c.fire k now (.read data)).bind fun c => c.fire k now .readComplete

def read (k : StageKit η ξ ω) (now : Instant) (c : Connection η ξ ω) : Option (Advance η ξ ω) :=
  c.continueReading k now

variable [Secured η]

/-- Once the goodbye is out: waits for the peer's, where there is time for that. -/
def continueClosing (k : StageKit η ξ ω) (now : Instant) (c : Connection η ξ ω) :
    Option (Advance η ξ ω) :=
  let limit := (c.closeTiming.map (·.closeNotifyRead)).getD .zero
  if limit.isZero || c.closeNotifyReceived then some c.finishClosing
  else { c with deadline := some (now.after limit) }.continueDraining k now

def afterFlush (k : StageKit η ξ ω) (now : Instant) (errand : Errand) (c : Connection η ξ ω) :
    Option (Advance η ξ ω) :=
  match errand with
  | .opening => some c.continueOpening
  | .writing => some c.finishWriting
  | .reading => c.continueReading k now
  | .closing => c.continueClosing k now
  | .draining => c.continueDraining k now

/-- Waits for the socket while anything is left to send; empty chunks need no waiting. -/
def sendRest (k : StageKit η ξ ω) (now : Instant) (errand : Errand) (unsent : List Bytes)
    (c : Connection η ξ ω) : Option (Advance η ξ ω) :=
  match unsent.dropWhile List.isEmpty with
  | [] => c.afterFlush k now errand
  | rest => some (c.wait (.sending errand rest))

def flush (k : StageKit η ξ ω) (now : Instant) (errand : Errand) (c : Connection η ξ ω) :
    Option (Advance η ξ ω) :=
  let (chunks, pipeline) := c.pipeline.takeOutbound
  { c with pipeline }.sendRest k now errand chunks

/-- A failed write or read. A close with a time limit goes on all the same. -/
def onSocketError (k : StageKit η ξ ω) (now : Instant) (errand : Errand) (e : IoError)
    (c : Connection η ξ ω) : Option (Advance η ξ ω) :=
  match errand with
  | .opening => some (c.failOpening (.io e))
  | .writing => some (c.settle (.error (.io e)))
  | .reading => some (c.settle (.error (.io e)))
  | .closing =>
    if c.deadline.isSome then { c with deadline := none }.continueClosing k now
    else some (c.finish (.error (.io e)))
  | .draining => some c.finishClosing

def sent (k : StageKit η ξ ω) (now : Instant) (n : Nat) (c : Connection η ξ ω) :
    Option (Advance η ξ ω) :=
  match c.job with
  | .sending errand (chunk :: rest) => c.sendRest k now errand (chunk.drop n :: rest)
  | _ => some (c, none)

def received (k : StageKit η ξ ω) (now : Instant) (data : Bytes) (c : Connection η ξ ω) :
    Option (Advance η ξ ω) :=
  match c.job with
  | .awaitingActive =>
    if c.readPending then (c.accept k now data).bind fun c => c.flush k now .opening
    else some (c, none)
  | .receiving errand => (c.accept k now data).bind fun c => c.flush k now errand
  | _ => some (c, none)

def socketFailed (k : StageKit η ξ ω) (now : Instant) (e : IoError) (c : Connection η ξ ω) :
    Option (Advance η ξ ω) :=
  match c.job with
  | .sending errand _ => c.onSocketError k now errand e
  | .receiving errand => { c with readPending := false }.onSocketError k now errand e
  | .awaitingActive => { c with readPending := false }.onSocketError k now .opening e
  | _ => some (c, none)

def tick (k : StageKit η ξ ω) (now : Instant) (c : Connection η ξ ω) : Option (Advance η ξ ω) :=
  match c.job with
  | .awaitingActive =>
    (c.fire k now (.tick now)).bind fun c =>
      { c with nextTick := now.after tickInterval }.flush k now .opening
  | _ => some (c, none)

def expire (k : StageKit η ξ ω) (now : Instant) (c : Connection η ξ ω) : Option (Advance η ξ ω) :=
  match c.job with
  | .sending .opening _ | .awaitingActive | .receiving .opening =>
    some (c.finish (.error (.timeout c.connectTimeout)))
  | .sending .closing _ => { c with deadline := none }.continueClosing k now
  | .sending .draining _ | .receiving .draining => some c.finishClosing
  | _ => some (c, none)

def start {κ β : Type} (now : Instant) (o : ConnectOptions κ β η) (remote : RemoteAddress)
    (pipeline : Pipeline (Occupant η ξ)) (env : Env ω) : Connection η ξ ω :=
  { remote, pipeline, env, pending := [], readPending := false, endOfStream := false
    closeTiming := o.ssl.map (·.timing), connectTimeout := o.connectTimeout
    job := .idle, deadline := some (now.after o.connectTimeout), nextTick := now
    shutDown := false }

def opened (k : StageKit η ξ ω) (now : Instant) (c : Connection η ξ ω) : Option (Advance η ξ ω) :=
  (c.fire k now .registered).bind fun c =>
    (c.fire k now .active).bind fun c => c.flush k now .opening

/-- Opens a connection. One whose chain cannot be assembled is over at once. -/
def establish {κ β : Type} [Timed η] [TlsContext κ η] (k : StageKit η ξ ω) (now : Instant)
    (o : ConnectOptions κ β η) (id : Nat) (remote : RemoteAddress) (env : Env ω) :
    Option (Advance η ξ ω) :=
  match o.assemble ⟨id, some remote⟩ with
  | .ok p => (start now o remote p env).opened k now
  | .error e => some ((start now o remote (.new ⟨id, some remote⟩) env).finish (.error (.ofTls e)))

/-- A failure that is pending comes before the write. -/
def write (k : StageKit η ξ ω) (now : Instant) (data : Bytes) (c : Connection η ξ ω) :
    Option (Advance η ξ ω) :=
  match c.checkFailed with
  | (c, .error e) => some (c.settle (.error e))
  | (c, .ok ()) => (c.submit k now (.write data)).bind fun c => c.flush k now .writing

def close (k : StageKit η ξ ω) (now : Instant) (c : Connection η ξ ω) : Option (Advance η ξ ω) :=
  (c.submit k now .close).bind fun c =>
    let limit := (c.closeTiming.map (·.closeNotifyFlush)).getD .zero
    { c with deadline := if limit.isZero then none else some (now.after limit) }.flush k now .closing

end SecureGateway.Connection

import SecureGateway.Pipeline.Signal

namespace SecureGateway

/-- A named place in a chain. Its slot is empty only while its own handler runs. -/
structure Stage (σ : Type) where
  id : Nat
  name : StageName
  slot : Option σ
  deriving Repr

/-- A chain of handlers of type `σ`, transport end first, with what has left it at either end. -/
structure Pipeline (σ : Type) where
  channel : Channel
  stages : List (Stage σ)
  nextId : Nat
  tail : List Inbound
  transport : List Bytes
  readRequested : Bool
  closeRequested : Bool
  deriving Repr

inductive StagePlace where
  | first
  | last
  | after (base : StageName)
  | before (base : StageName)
  deriving DecidableEq, Repr

def findHandler (stages : List (Stage σ)) (name : StageName) : Option σ :=
  (stages.find? (·.name == name)).bind (·.slot)

def positionOf (stages : List (Stage σ)) (name : StageName) : Option Nat :=
  stages.findIdx? (·.name == name)

def positionOfId (stages : List (Stage σ)) (id : Nat) : Option Nat :=
  stages.findIdx? (·.id == id)

namespace Pipeline

variable {σ : Type}

def new (channel : Channel) : Pipeline σ :=
  ⟨channel, [], 0, [], [], false, false⟩

def names (p : Pipeline σ) : List StageName := p.stages.map (·.name)

def size (p : Pipeline σ) : Nat := p.stages.length

def isEmpty (p : Pipeline σ) : Bool := p.stages.isEmpty

def contains (p : Pipeline σ) (name : StageName) : Bool := (positionOf p.stages name).isSome

def get? (p : Pipeline σ) (name : StageName) : Option σ := findHandler p.stages name

/-- A name is used once in a chain. -/
def insertAt (p : Pipeline σ) (index : Nat) (name : StageName) (h : σ) :
    Except PipelineError (Pipeline σ) :=
  if p.contains name then .error (.duplicateStage name)
  else .ok { p with
    stages := p.stages.insertIdx index ⟨p.nextId, name, some h⟩
    nextId := p.nextId + 1 }

/-- A missing base is reported before a name that is taken. -/
def add (p : Pipeline σ) (place : StagePlace) (name : StageName) (h : σ) :
    Except PipelineError (Pipeline σ) :=
  match place with
  | .first => p.insertAt 0 name h
  | .last => p.insertAt p.stages.length name h
  | .after base =>
    match positionOf p.stages base with
    | some i => p.insertAt (i + 1) name h
    | none => .error (.noSuchStage base)
  | .before base =>
    match positionOf p.stages base with
    | some i => p.insertAt i name h
    | none => .error (.noSuchStage base)

/-- Adds stages one after the other and stops at the first refusal; those before it stay. -/
def addAll (p : Pipeline σ) : List (StagePlace × StageName × σ) → Pipeline σ × Option PipelineError
  | [] => (p, none)
  | (place, name, h) :: rest =>
    match p.add place name h with
    | .ok q => q.addAll rest
    | .error e => (p, some e)

/-- Takes out a stage; a missing one is no error. -/
def remove (p : Pipeline σ) (name : StageName) : Option σ × Pipeline σ :=
  match positionOf p.stages name with
  | some i => (p.stages[i]?.bind (·.slot), { p with stages := p.stages.eraseIdx i })
  | none => (none, p)

def takeInbound (p : Pipeline σ) : List Inbound × Pipeline σ :=
  (p.tail, { p with tail := [] })

def takeOutbound (p : Pipeline σ) : List Bytes × Pipeline σ :=
  (p.transport, { p with transport := [] })

def takeReadRequest (p : Pipeline σ) : Bool × Pipeline σ :=
  (p.readRequested, { p with readRequested := false })

def debugTextWith (id : String) (p : Pipeline σ) : String :=
  Text.recordText "Pipeline" [("channel", id),
    ("stages", Text.listText StageName.debugText p.names)]

end Pipeline
end SecureGateway

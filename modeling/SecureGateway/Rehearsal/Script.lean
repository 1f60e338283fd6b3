import SecureGateway.Rehearsal.ClearStage

namespace SecureGateway

inductive SignalKind where
  | registered | active | read | readComplete | event | exception | inactive | tick
  | write | readRequest | close
  deriving DecidableEq, Repr

inductive ScriptAction where
  | forward
  | emit (s : Signal)
  | leave
  | contains (name : StageName)
  | find (name : StageName)
  | remote
  deriving DecidableEq, Repr

structure Script where
  label : String
  /-- A kind of signal without a program is forwarded. -/
  programs : List (SignalKind × List ScriptAction)
  deriving DecidableEq, Repr

inductive ScriptFinding (η : Type) where
  | called (s : Signal)
  | removed (first : Bool)
  | contains (yes : Bool)
  | got (what : Option (Occupant η Script))
  | remote (r : Option RemoteAddress)
  deriving Repr

inductive Note (η : Type) where
  | measured (r : Record)
  | script (label : String) (stage : StageName) (finding : ScriptFinding η)
  deriving Repr

/-- The surroundings of scripts: the calls left and the notes so far. -/
structure Rehearsal (η : Type) where
  callsLeft : Nat
  notes : List (Note η)
  deriving Repr

instance {η : Type} : Recorder (Rehearsal η) where
  note r w := { w with notes := w.notes ++ [.measured r] }

def SignalKind.of : Signal → SignalKind
  | .inbound .registered => registered
  | .inbound .active => active
  | .inbound (.read _) => read
  | .inbound .readComplete => readComplete
  | .inbound (.event _) => event
  | .inbound (.exception _) => exception
  | .inbound .inactive => inactive
  | .inbound (.tick _) => tick
  | .outbound (.write _) => write
  | .outbound .read => readRequest
  | .outbound .close => close

namespace Rehearsal

variable {η : Type}

def start : Rehearsal η := ⟨400, []⟩

def say (label : String) (stage : StageName) (f : ScriptFinding η) (w : Rehearsal η) : Rehearsal η :=
  { w with notes := w.notes ++ [.script label stage f] }

end Rehearsal

namespace Script

variable {η : Type}

def program (h : Script) (s : Signal) : List ScriptAction :=
  (h.programs.lookup (SignalKind.of s)).getD [.forward]

abbrev Outcome (η : Type) := Reaction Script (Rehearsal η)

def act (v : View (Occupant η Script)) (s : Signal) (r : Outcome η) : ScriptAction → Outcome η
  | .forward => { r with emitted := r.emitted ++ [s] }
  | .emit t => { r with emitted := r.emitted ++ [t] }
  | .leave =>
    { r with leaves := true, world := r.world.say r.handler.label v.name (.removed !r.leaves) }
  | .contains n =>
    { r with world := r.world.say r.handler.label v.name (.contains (v.contains n)) }
  | .find n => { r with world := r.world.say r.handler.label v.name (.got (v.get? n)) }
  | .remote => { r with world := r.world.say r.handler.label v.name (.remote v.channel.remote) }

/-- A call without any calls left does nothing at all. -/
def react : React (Occupant η Script) Script (Rehearsal η) := fun v s h w =>
  if w.callsLeft = 0 then ⟨h, [], false, w⟩
  else
    let called := ({ w with callsLeft := w.callsLeft - 1 }).say h.label v.name (.called s)
    (h.program s).foldl (act v s) ⟨h, [], false, called⟩

end Script

def rehearsalKit {η : Type} (handshake : React (Occupant η Script) η (Rehearsal η)) :
    StageKit η Script (Rehearsal η) :=
  ⟨handshake, Script.react, 1000000⟩

end SecureGateway

import SecureGateway.Address.Remote
import SecureGateway.Time.Span

namespace SecureGateway

inductive Record where
  | handshake (remote : RemoteAddress) (elapsed : Span) (status : String)
  | connect (remote : RemoteAddress) (elapsed : Span) (status : String)
  | received (remote : RemoteAddress) (bytes : Nat)
  | sent (remote : RemoteAddress) (bytes : Nat)
  deriving DecidableEq, Repr

namespace Record

def succeeded : String := "success"

def failed : String := "error"

def statusOf (ok : Bool) : String := if ok then succeeded else failed

end Record

/-- A world that hears about every measurement when it is made. -/
class Recorder (ω : Type) where
  note : Record → ω → ω

instance : Recorder Unit := ⟨fun _ w => w⟩

/-- The surroundings of a pipeline: the measurements made so far and the rest of the world. -/
structure Env (ω : Type) where
  records : List Record
  world : ω
  deriving Repr

namespace Env

def record [Recorder ω] (r : Record) (e : Env ω) : Env ω :=
  ⟨e.records ++ [r], Recorder.note r e.world⟩

theorem records_record [Recorder ω] (r : Record) (e : Env ω) :
    (e.record r).records = e.records ++ [r] := rfl

end Env
end SecureGateway

import SecureGateway.Connection.Failure
import SecureGateway.Metrics.Record

namespace SecureGateway

structure Elapsed (α : Type) where
  took : Span
  value : α
  deriving DecidableEq, Repr

/-- What came of it, unless it took longer than the limit. -/
def Elapsed.within {α : Type} (limit : Span) (e : Elapsed (Except ConnectError α)) :
    Except ConnectError α :=
  if limit.nanos < e.took.nanos then .error (.timeout limit) else e.value

abbrev Network (σ : Type) := String → Nat → Elapsed (Except IoError σ)

def Network.unreachable : Network Empty := fun _ _ =>
  ⟨.zero, .error (.system .networkUnreachable)⟩

structure Opening (κ : Type) where
  result : Except ConnectError κ
  records : List Record

namespace Opening

variable {σ κ : Type}

def dial (n : Network σ) (limit : Span) (host : String) (port : Nat) : Except ConnectError σ :=
  let e := n host port
  ({ took := e.took, value := e.value.mapError .io } : Elapsed _).within limit

/-- Only a peer with a host and a port can be dialled, and only the dial is measured. -/
def ofNetwork (n : Network σ) (establish : σ → Elapsed (Except ConnectError κ)) (limit : Span)
    (metrics : Bool) (r : RemoteAddress) : Opening κ :=
  match r.hostPort? with
  | none => ⟨.error (.io (.custom ("cannot connect to non-inet address " ++ r.text))), []⟩
  | some (host, port) =>
    let socket := dial n limit host port
    let measured := Record.connect r (n host port).took (Record.statusOf socket.isOk)
    ⟨socket.bind fun s => (establish s).within limit, if metrics then [measured] else []⟩

end Opening
end SecureGateway

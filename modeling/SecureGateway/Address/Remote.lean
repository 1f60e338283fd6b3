import SecureGateway.Address.Socket
import SecureGateway.Text.Quoted

namespace SecureGateway

/-- The peer of a connection: a host with a port, or the name of anything else. -/
inductive RemoteAddress where
  | inet (host : String) (port : Nat)
  | opaqueName (name : String)
  deriving DecidableEq, Repr

structure SniTarget where
  host : String
  port : Nat
  deriving DecidableEq, Repr

namespace RemoteAddress

open Text

def ofSocket (a : SocketAddress) : RemoteAddress :=
  inet a.ip.text a.port

def splitLastColon (cs : List Char) : Option (List Char × List Char) :=
  if cs.contains ':' then
    let back := cs.reverse.takeWhile (· != ':')
    some ((cs.reverse.drop (back.length + 1)).reverse, back.reverse)
  else none

def hostAndPort? (s : String) : Option RemoteAddress := do
  let (host, port) ← splitLastColon s.toList
  if host.isEmpty || host.contains ':' then none
  else
    let p ← parseUnsigned? 65536 port
    some (inet (String.ofList host) p)

/-- A numeric socket address, else `host:port`, else an opaque name. -/
def parse (s : String) : RemoteAddress :=
  match SocketAddress.parse? s with
  | some a => ofSocket a
  | none => (hostAndPort? s).getD (opaqueName s)

def hostPort? : RemoteAddress → Option (String × Nat)
  | inet host port => some (host, port)
  | opaqueName _ => none

def sniTarget? (r : RemoteAddress) : Option SniTarget :=
  r.hostPort?.map fun (host, port) => ⟨host, port⟩

/-- A host with a colon stands in brackets. -/
def text : RemoteAddress → String
  | inet host port =>
    if host.toList.contains ':' then "[" ++ host ++ "]:" ++ toString port
    else host ++ ":" ++ toString port
  | opaqueName name => name

def debugText : RemoteAddress → String
  | inet host port => recordText "Inet" [("host", quote host), ("port", toString port)]
  | opaqueName name => "Opaque(" ++ quote name ++ ")"

end RemoteAddress
end SecureGateway

import SecureGateway.Command.Json
import SecureGateway.Pool.Clients

namespace SecureGateway

structure SessionSummary where
  alpn : Option String
  version : Option String
  suite : Option String
  deriving DecidableEq, Repr

structure ProbeReport where
  target : TargetConfig
  elapsed : Span
  result : Except PoolError SessionSummary
  pool : Option PoolSnapshot

namespace ProbeReport

def snapshotTree (s : PoolSnapshot) : JsonTree :=
  .record (s.named.map fun (name, n) => (name, .number n))

def tree (r : ProbeReport) : JsonTree :=
  let session := r.result.toOption
  let outcome : List (String × JsonTree) := match r.result with
    | .ok _ => [("outcome", .text "ok")]
    | .error e => [("outcome", .text "error"), ("error", .text e.message)]
  .record ([("name", .text r.target.name), ("address", .text r.target.address)] ++ outcome ++ [
    ("elapsed_ms", .number r.elapsed.wholeMillis),
    ("alpn", .ofOption .text (session.bind (·.alpn))),
    ("tls_version", .ofOption .text (session.bind (·.version))),
    ("cipher_suite", .ofOption .text (session.bind (·.suite))),
    ("pool", .ofOption snapshotTree r.pool)])

def layout (reports : List ProbeReport) : String :=
  (JsonTree.list (reports.map tree)).layout 0 ++ "\n"

variable {κ : Type}

/-- Acquires a connection, reports on it and its pool, and gives it back. -/
def ofTarget (connection : RemoteAddress → Opening κ) (session : κ → SessionSummary)
    (c : Clients κ) (t : TargetConfig) : ProbeReport × Clients κ :=
  let remote := RemoteAddress.parse t.address
  let d := ({ c with ended := [] }.acquire t.name remote).run connection
  let result := match d.ended with
    | (_, .ok (x, _)) :: _ => .ok (session x)
    | (_, .error e) :: _ => .error e
    | [] => .error (.pendingAcquireTimeout c.provider.limits.pendingAcquireTimeout)
  (⟨t, ⟨d.now - c.now⟩, result, d.provider.metrics? remote⟩, d.letGo t.name true)

def ofTargets (connection : RemoteAddress → Opening κ) (session : κ → SessionSummary) :
    List TargetConfig → Clients κ → List ProbeReport
  | [], _ => []
  | t :: rest, c =>
    let (r, c) := ofTarget connection session c t
    r :: ofTargets connection session rest c

end ProbeReport
end SecureGateway

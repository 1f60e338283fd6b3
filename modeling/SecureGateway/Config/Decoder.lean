import SecureGateway.Basic
import SecureGateway.Config.Failure

namespace SecureGateway

open Toml (Scalar Value Entries)

abbrev Decoded := Except Misfit

namespace Decode

def quoted (s : String) : String := "\x60" ++ s ++ "\x60"

def unexpected : Value → String
  | .scalar _ (.string s) => "string " ++ Text.quote s
  | .scalar _ (.integer n) => "integer " ++ quoted (toString n)
  | .scalar _ (.float f) => "floating point " ++ quoted f.text
  | .scalar _ (.boolean b) => "boolean " ++ quoted (Text.boolText b)
  | .scalar _ .datetime => "map"
  | .table _ _ => "map"
  | .array _ _ => "sequence"
  | .tables _ => "sequence"

def refuse {α : Type} (v : Value) (message : String) : Decoded α := .error ⟨message, [], v.extent⟩

def misfit {α : Type} (expected : String) (v : Value) : Decoded α :=
  refuse v ("invalid type: " ++ unexpected v ++ ", expected " ++ expected)

def string : Value → Decoded String
  | .scalar _ (.string s) => .ok s
  | v => misfit "a string" v

def boolean : Value → Decoded Bool
  | .scalar _ (.boolean b) => .ok b
  | v => misfit "a boolean" v

def int64 : Value → Decoded Int
  | .scalar _ (.integer n) => .ok n
  | v => misfit "i64" v

def natural (kind : String) (v : Value) : Decoded Nat :=
  match v with
  | .scalar _ (.integer n) =>
    if 0 ≤ n then .ok n.toNat
    else refuse v ("invalid value: integer " ++ quoted (toString n) ++ ", expected " ++ kind)
  | v => misfit kind v

def oneOf (names : List String) : String :=
  match names with
  | [a, b] => quoted a ++ " or " ++ quoted b
  | names => "one of " ++ String.intercalate ", " (names.map quoted)

def variant {α : Type} (cases : List (String × α)) (extent : Option Toml.Extent) (name : String) :
    Decoded α :=
  match cases.lookup name with
  | some a => .ok a
  | none => .error ⟨"unknown variant " ++ quoted name ++ ", expected " ++ oneOf (cases.map (·.1)),
      [], extent⟩

/-- A variant without data may be written as a table whose value is empty. -/
def emptyContent (v : Value) : Decoded Unit :=
  match v with
  | .table _ [] => .ok ()
  | .array _ [] => .ok ()
  | .tables [] => .ok ()
  | .table _ _ => refuse v "expected empty table"
  | .array _ _ => refuse v "expected empty table"
  | .tables _ => refuse v "expected empty array"
  | .scalar _ _ => refuse v ("expected table, found " ++ v.kind)

def choice {α : Type} (cases : List (String × α)) (v : Value) : Decoded α :=
  match v with
  | .scalar extent (.string s) => variant cases extent s
  | .table _ [] => refuse v "wanted exactly 1 element, found 0 elements"
  | .table _ [(key, inner)] => do
    let a ← variant cases key.extent key.name
    emptyContent inner
    return a
  | .table _ _ => refuse v "wanted exactly 1 element, more than 1 element"
  | v => refuse v "wanted string or table"

/-- A field of a record: how a value is put into it and how it is read out, if there is one. -/
structure Setting (α : Type) where
  name : String
  put : Value → α → Decoded α
  get : α → Option Value

def field {α β : Type} (name : String) (read : Value → Decoded β) (put : β → α → α)
    (get : α → Option Value) : Setting α :=
  ⟨name, fun v a => (read v).map (put · a), get⟩

variable {α : Type}

/-- Complaints about a value point at it, unless they point into it. -/
def Setting.fill (f : Setting α) (v : Value) (a : α) : Decoded α :=
  (f.put v a).mapError (·.placed v.extent)

def fromEntries (fields : List (Setting α)) : Entries → α → Decoded α
  | [], a => .ok a
  | (key, v) :: rest, a =>
    match fields.find? (·.name == key.name) with
    | some f => (f.fill v a).mapError (·.under key) >>= fromEntries fields rest
    | none => fromEntries fields rest a

def fromItems : List (Setting α) → List Value → α → Decoded α
  | f :: fields, v :: rest, a => f.fill v a >>= fromItems fields rest
  | _, _, a => .ok a

def toEntries (fields : List (Setting α)) (a : α) : Entries :=
  fields.filterMap fun f => (f.get a).map (⟨f.name, none⟩, ·)

def asTables (items : List (Option Toml.Extent × Entries)) : List Value :=
  items.map fun (extent, es) => .table { Toml.TableStyle.header with extent } es

/-- A record whose fields all have defaults, those of `base`. -/
def record (name : String) (fields : List (Setting α)) (base : α) : Value → Decoded α
  | .table _ es => fromEntries fields es base
  | .scalar _ .datetime => .ok base
  | .array _ items => fromItems fields items base
  | .tables items => fromItems fields (asTables items) base
  | v => misfit ("struct " ++ name) v

def items (read : Value → Decoded α) (vs : List Value) : Decoded (List α) :=
  vs.mapM fun v => (read v).mapError (·.placed v.extent)

def list (read : Value → Decoded α) : Value → Decoded (List α)
  | .array _ vs => items read vs
  | .tables vs => items read (asTables vs)
  | v => misfit "a sequence" v

def ofString (s : String) : Value := .of (.string s)

def ofInt (n : Int) : Value := .of (.integer n)

def ofBool (b : Bool) : Value := .of (.boolean b)

end Decode

open Decode

def roleNames : List (String × TlsRole) := [("client", .client), ("server", .server)]

def profileNames : List (String × DefaultProfile) := [("none", .none), ("tcp", .tcp), ("h2", .h2)]

def TlsSettings.fields : List (Setting TlsSettings) := [
  field "role" (choice roleNames) (fun x s => { s with role := x })
    fun s => some (ofString s.role.text),
  field "profile" (choice profileNames) (fun x s => { s with profile := x })
    fun s => some (ofString s.profile.text),
  field "handshake_timeout_ms" int64 (fun x s => { s with handshakeTimeoutMs := some x })
    fun s => s.handshakeTimeoutMs.map ofInt,
  field "close_notify_flush_timeout_ms" int64 (fun x s => { s with closeNotifyFlushTimeoutMs := x })
    fun s => some (ofInt s.closeNotifyFlushTimeoutMs),
  field "close_notify_read_timeout_ms" int64 (fun x s => { s with closeNotifyReadTimeoutMs := x })
    fun s => some (ofInt s.closeNotifyReadTimeoutMs),
  field "ca_path" string (fun x s => { s with caPath := some x })
    fun s => s.caPath.map ofString,
  field "cert_path" string (fun x s => { s with certPath := some x })
    fun s => s.certPath.map ofString,
  field "key_path" string (fun x s => { s with keyPath := some x })
    fun s => s.keyPath.map ofString,
  field "server_name" string (fun x s => { s with serverName := some x })
    fun s => s.serverName.map ofString,
  field "wiretap" boolean (fun x s => { s with wiretap := x })
    fun s => some (ofBool s.wiretap),
  field "debug" boolean (fun x s => { s with debug := x })
    fun s => some (ofBool s.debug)]

def PoolConfig.fields : List (Setting PoolConfig) := [
  field "name" string (fun x s => { s with name := x })
    fun s => some (ofString s.name),
  field "max_connections" (natural "usize") (fun x s => { s with maxConnections := x })
    fun s => some (ofInt s.maxConnections),
  field "pending_acquire_max" int64 (fun x s => { s with pendingAcquireMax := x })
    fun s => some (ofInt s.pendingAcquireMax),
  field "pending_acquire_timeout_ms" (natural "u64")
    (fun x s => { s with pendingAcquireTimeoutMs := x })
    fun s => some (ofInt s.pendingAcquireTimeoutMs),
  field "connect_timeout_ms" (natural "u64") (fun x s => { s with connectTimeoutMs := x })
    fun s => some (ofInt s.connectTimeoutMs),
  field "metrics_enabled" boolean (fun x s => { s with metricsEnabled := x })
    fun s => some (ofBool s.metricsEnabled)]

def ListenerConfig.fields : List (Setting ListenerConfig) := [
  field "bind_address" string (fun x s => { s with bindAddress := x })
    fun s => some (ofString s.bindAddress),
  field "max_connections" (natural "usize") (fun x s => { s with maxConnections := x })
    fun s => some (ofInt s.maxConnections)]

def ObservabilityConfig.fields : List (Setting ObservabilityConfig) := [
  field "log_level" string (fun x s => { s with logLevel := x })
    fun s => some (ofString s.logLevel),
  field "log_format" string (fun x s => { s with logFormat := x })
    fun s => some (ofString s.logFormat),
  field "metrics_enabled" boolean (fun x s => { s with metricsEnabled := x })
    fun s => some (ofBool s.metricsEnabled),
  field "metrics_address" string (fun x s => { s with metricsAddress := x })
    fun s => some (ofString s.metricsAddress)]

def TargetConfig.entries (t : TargetConfig) : Entries :=
  [(⟨"name", none⟩, ofString t.name), (⟨"address", none⟩, ofString t.address)]

/-- A target while its two fields are being read; neither has a default. -/
structure PartialTarget where
  name : Option String
  address : Option String

def PartialTarget.fields : List (Setting PartialTarget) := [
  field "name" string (fun x s => { s with name := some x })
    fun s => s.name.map ofString,
  field "address" string (fun x s => { s with address := some x })
    fun s => s.address.map ofString]

def PartialTarget.complete (complaint : Nat → String → String) :
    PartialTarget → Decoded TargetConfig
  | ⟨some name, some address⟩ => .ok ⟨name, address⟩
  | ⟨none, _⟩ => .error ⟨complaint 0 "name", [], none⟩
  | ⟨some _, none⟩ => .error ⟨complaint 1 "address", [], none⟩

def TargetConfig.missing (_ : Nat) (name : String) : String := "missing field " ++ quoted name

def TargetConfig.tooShort (n : Nat) (_ : String) : String :=
  "invalid length " ++ toString n ++ ", expected struct TargetConfig with 2 elements"

def TargetConfig.ofItems (items : List Value) : Decoded TargetConfig := do
  let t ← fromItems PartialTarget.fields items ⟨none, none⟩
  t.complete tooShort

def TargetConfig.decode : Value → Decoded TargetConfig
  | .table _ es => do
    let t ← fromEntries PartialTarget.fields es ⟨none, none⟩
    t.complete missing
  | .scalar _ .datetime => .error ⟨missing 0 "name", [], none⟩
  | .array _ items => ofItems items
  | .tables items => ofItems (asTables items)
  | v => misfit "struct TargetConfig" v

def GatewayConfig.fields : List (Setting GatewayConfig) := [
  field "tls" (record "TlsSettings" TlsSettings.fields {}) (fun x s => { s with tls := x })
    fun s => some (.table .header (toEntries TlsSettings.fields s.tls)),
  field "pool" (record "PoolConfig" PoolConfig.fields {}) (fun x s => { s with pool := x })
    fun s => some (.table .header (toEntries PoolConfig.fields s.pool)),
  field "listener" (record "ListenerConfig" ListenerConfig.fields {})
    (fun x s => { s with listener := x })
    fun s => some (.table .header (toEntries ListenerConfig.fields s.listener)),
  field "observability" (record "ObservabilityConfig" ObservabilityConfig.fields {})
    (fun x s => { s with observability := x })
    fun s => some (.table .header (toEntries ObservabilityConfig.fields s.observability)),
  field "targets" (list TargetConfig.decode) (fun x s => { s with targets := x })
    fun s => some (.tables (s.targets.map fun t => (none, t.entries)))]

namespace GatewayConfig

def ofEntries (es : Entries) : Decoded GatewayConfig := fromEntries fields es {}

def entries (c : GatewayConfig) : Entries := toEntries fields c

def parse (s : String) : Except ConfigError GatewayConfig :=
  match Toml.parse s with
  | .error e => .error (.syntaxError s e)
  | .ok es =>
    match ofEntries es with
    | .error m => .error (.shape s m)
    | .ok c =>
      match c.validate with
      | .error errors => .error (.validation errors)
      | .ok () => .ok c

def load : Except SystemError Bytes → Except ConfigError GatewayConfig
  | .error e => .error (.unreadable e)
  | .ok bytes =>
    match String.fromUTF8? ⟨bytes.toArray⟩ with
    | none => .error .notUtf8
    | some s => parse s

end GatewayConfig
end SecureGateway

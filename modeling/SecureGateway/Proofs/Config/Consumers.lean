import SecureGateway.Connection.Dial
import SecureGateway.Listener
import SecureGateway.Pool.Limits
import SecureGateway.Proofs.Config.Rules
import SecureGateway.Proofs.Tls.Construction
import SecureGateway.Tls.Settings

namespace SecureGateway

theorem nanos_ofMillis {ms : Int} (h : 0 ≤ ms) :
    ((Span.ofMillis ms.toNat).nanos : Int) = ms * 1_000_000 := by
  rw [Span.ofMillis, Int.natCast_mul, Int.toNat_of_nonneg h]
  rfl

namespace TlsSettings

/-- Time limits that are what the section says, to the nanosecond. -/
structure Sets (t : TlsSettings) (d : TlsDefaults) (timing : TimingPolicy) : Prop where
  handshake : ∀ ms, t.handshakeTimeoutMs = some ms → (timing.handshake.nanos : Int) = ms * 1_000_000
  handshake_unset : t.handshakeTimeoutMs = none → timing.handshake = d.handshake
  flush : (timing.closeNotifyFlush.nanos : Int) = t.closeNotifyFlushTimeoutMs * 1_000_000
  read : (timing.closeNotifyRead.nanos : Int) = t.closeNotifyReadTimeoutMs * 1_000_000

def Readable (files : FileReader) (t : TlsSettings) : Prop :=
  ∀ path, t.caPath = some path ∨ t.certPath = some path ∨ t.keyPath = some path →
    ∃ bytes, files path = .ok bytes

/-- The role needs a path that is not there. -/
def LacksPath (t : TlsSettings) : Prop :=
  t.role = .client ∧ t.caPath = none ∨ t.role = .server ∧ (t.certPath = none ∨ t.keyPath = none)

def HasNegativeTimeout (t : TlsSettings) : Prop :=
  (∃ ms ∈ t.handshakeTimeoutMs, ms < 0) ∨ t.closeNotifyFlushTimeoutMs < 0 ∨
    t.closeNotifyReadTimeoutMs < 0

def millis (t : TlsSettings) : Limit → Option Int
  | .handshake => t.handshakeTimeoutMs
  | .closeNotifyFlush => some t.closeNotifyFlushTimeoutMs
  | .closeNotifyRead => some t.closeNotifyReadTimeoutMs

def builder (d : TlsDefaults) (t : TlsSettings) (engine : EngineBuilder) :
    SslConfigurationBuilder EngineContext EngineBuilder (TlsStage Session) :=
  let b := (((SslConfigurationBuilder.new d).contextBuilder engine).defaultConfiguration t.profile)
    |>.closeNotifyFlushTimeoutMillis t.closeNotifyFlushTimeoutMs
    |>.closeNotifyReadTimeoutMillis t.closeNotifyReadTimeoutMs
  match t.handshakeTimeoutMs with
  | some ms => b.handshakeTimeoutMillis ms
  | none => b

def calls (t : TlsSettings) (engine : EngineBuilder) :
    List (BuilderCall EngineContext EngineBuilder (TlsStage Session)) :=
  [.builder engine, .profile t.profile, .limitMillis .closeNotifyFlush t.closeNotifyFlushTimeoutMs,
    .limitMillis .closeNotifyRead t.closeNotifyReadTimeoutMs] ++
  (t.handshakeTimeoutMs.map (BuilderCall.limitMillis .handshake)).toList

variable {files : FileReader} {d : TlsDefaults} {t : TlsSettings} {serial : Nat}

theorem builder_eq_setAll (d : TlsDefaults) (t : TlsSettings) (engine : EngineBuilder) :
    t.builder d engine = (SslConfigurationBuilder.new d).setAll (t.calls engine) := by
  unfold builder calls
  cases t.handshakeTimeoutMs <;> rfl

theorem configuration_eq (files : FileReader) (d : TlsDefaults) (t : TlsSettings) (serial : Nat) :
    t.configuration files d serial =
      (t.engineBuilder files).bind fun engine => (t.builder d engine).build serial :=
  rfl

section Paths

variable {field path : String}

theorem requiredPem_none : requiredPem files field none =
    .error (.invalidConfiguration (field ++ " is required")) := rfl

theorem requiredPem_some_of_readable {bytes : Bytes} (h : files path = .ok bytes) :
    requiredPem files field (some path) = .ok bytes := by
  change readPem files path = .ok bytes
  rw [readPem, h]

theorem requiredPem_some (files : FileReader) (field path : String) :
    (∃ bytes, requiredPem files field (some path) = .ok bytes) ∨
      (∀ bytes, files path ≠ .ok bytes) ∧
        ∃ reason, requiredPem files field (some path) = .error (.contextResolution reason) := by
  change (∃ bytes, readPem files path = .ok bytes) ∨
    _ ∧ ∃ reason, readPem files path = .error (.contextResolution reason)
  unfold readPem
  cases files path with
  | ok bytes => exact .inl ⟨bytes, rfl⟩
  | error e => exact .inr ⟨nofun, _, rfl⟩

theorem engineBuilder_of_paths (files : FileReader) (h : ¬ t.LacksPath) :
    (∃ engine, t.engineBuilder files = .ok engine) ∨
      ¬ t.Readable files ∧
        ∃ reason, t.engineBuilder files = .error (.contextResolution reason) := by
  unfold engineBuilder roleBuilder
  have hunreadable : ∀ path, (∀ bytes, files path ≠ .ok bytes) →
      t.caPath = some path ∨ t.certPath = some path ∨ t.keyPath = some path →
        ¬ t.Readable files := fun path hbytes hpath hfiles =>
    (hfiles path hpath).elim hbytes
  -- a client needs its anchors, a server its chain and its key
  cases hrole : t.role with
  | client =>
    obtain ⟨ca, hca⟩ := Option.ne_none_iff_exists'.1 fun hca => h (.inl ⟨hrole, hca⟩)
    rw [hca]
    rcases requiredPem_some files "tls.ca_path" ca with ⟨pem, hpem⟩ | ⟨hbytes, reason, hpem⟩ <;>
      rw [hpem]
    · exact .inl ⟨_, rfl⟩
    · exact .inr ⟨hunreadable ca hbytes (.inl hca), reason, rfl⟩
  | server =>
    obtain ⟨cert, hcert⟩ := Option.ne_none_iff_exists'.1 fun hcert => h (.inr ⟨hrole, .inl hcert⟩)
    obtain ⟨key, hkey⟩ := Option.ne_none_iff_exists'.1 fun hkey => h (.inr ⟨hrole, .inr hkey⟩)
    rw [hcert, hkey]
    rcases requiredPem_some files "tls.cert_path" cert with
      ⟨chain, hchain⟩ | ⟨hbytes, reason, hchain⟩ <;> rw [hchain]
    · rcases requiredPem_some files "tls.key_path" key with ⟨pem, hpem⟩ | ⟨hbytes, reason, hpem⟩ <;>
        rw [hpem]
      · exact .inl ⟨_, rfl⟩
      · exact .inr ⟨hunreadable key hbytes (.inr (.inr hkey)), reason, rfl⟩
    · exact .inr ⟨hunreadable cert hbytes (.inr (.inl hcert)), reason, rfl⟩

theorem engineBuilder_of_lacksPath (hfiles : t.Readable files) (h : t.LacksPath) :
    ∃ reason, t.engineBuilder files = .error (.invalidConfiguration reason) := by
  unfold engineBuilder roleBuilder
  rcases h with ⟨hrole, hca⟩ | ⟨hrole, hpath⟩ <;> rw [hrole]
  · rw [hca, requiredPem_none]
    exact ⟨_, rfl⟩
  · cases hcert : t.certPath with
    | none =>
      rw [requiredPem_none]
      exact ⟨_, rfl⟩
    | some cert =>
      -- The certificates are read before the key is looked for.
      obtain ⟨chain, hchain⟩ := hfiles cert (.inr (.inl hcert))
      have hkey : t.keyPath = none := hpath.resolve_left (by simp [hcert])
      rw [hkey, requiredPem_some_of_readable hchain, requiredPem_none]
      exact ⟨_, rfl⟩

end Paths

section Timeouts

variable {engine : EngineBuilder}

theorem builder_source (d : TlsDefaults) (t : TlsSettings) (engine : EngineBuilder) :
    (t.builder d engine).source = some (.builder engine) := by
  rw [builder_eq_setAll, SslConfigurationBuilder.setAll_source]
  cases hms : t.handshakeTimeoutMs <;> rw [calls, hms] <;> rfl

theorem hasNegativeTimeout_iff : t.HasNegativeTimeout ↔ ∃ l, ∃ ms ∈ t.millis l, ms < 0 := by
  constructor
  · rintro (hms | hms | hms)
    · exact ⟨.handshake, hms⟩
    · exact ⟨.closeNotifyFlush, _, rfl, hms⟩
    · exact ⟨.closeNotifyRead, _, rfl, hms⟩
  · rintro ⟨l, ms, hms, hlt⟩
    cases l with
    | handshake => exact .inl ⟨ms, hms, hlt⟩
    | closeNotifyFlush => exact .inr (.inl (Option.some.inj hms ▸ hlt))
    | closeNotifyRead => exact .inr (.inr (Option.some.inj hms ▸ hlt))

theorem builder_error_eq_none_iff :
    (t.builder d engine).error = none ↔ ¬ t.HasNegativeTimeout := by
  rw [builder_eq_setAll, SslConfigurationBuilder.setAll_new, SslConfigurationBuilder.outcome,
    Option.map_eq_none_iff, BuilderCall.firstNegative?_eq_none_iff]
  cases hms : t.handshakeTimeoutMs with
  | none => simp [calls, hms, HasNegativeTimeout, BuilderCall.negative?]
  | some ms =>
    simp [calls, hms, HasNegativeTimeout, BuilderCall.negative?]
    omega

theorem builder_error_eq_some {e : TlsError} (h : (t.builder d engine).error = some e) :
    ∃ reason, e = .invalidConfiguration reason := by
  rw [builder_eq_setAll, SslConfigurationBuilder.setAll_new] at h
  obtain ⟨x, -, rfl⟩ := Option.map_eq_some_iff.1 h
  exact ⟨_, rfl⟩

theorem last?_calls (h : ∀ l, ∀ ms ∈ t.millis l, 0 ≤ ms) (l : Limit) :
    BuilderCall.last? (BuilderCall.limit? l) (t.calls engine) =
      (t.millis l).map fun ms => .ofMillis ms.toNat := by
  have hflush := h .closeNotifyFlush _ rfl
  have hread := h .closeNotifyRead _ rfl
  have hhandshake := h .handshake
  simp only [millis] at hhandshake ⊢
  cases hms : t.handshakeTimeoutMs with
  | none =>
    cases l <;> simp [calls, hms, BuilderCall.last?, BuilderCall.limit?, hflush, hread]
  | some ms =>
    have hnonneg := hhandshake ms hms
    cases l <;> simp [calls, hms, BuilderCall.last?, BuilderCall.limit?, hflush, hread, hnonneg]

theorem builder_timing (h : ¬ t.HasNegativeTimeout) : t.Sets d (t.builder d engine).timing := by
  have hnonneg : ∀ l, ∀ ms ∈ t.millis l, 0 ≤ ms := fun l ms hms =>
    Int.not_lt.1 fun hlt => h (hasNegativeTimeout_iff.2 ⟨l, ms, hms, hlt⟩)
  have hlimit : ∀ l, Limit.of (t.builder d engine).timing l =
      ((t.millis l).map fun ms => .ofMillis ms.toNat).getD (l.of (.withDefaults d)) := by
    intro l
    rw [builder_eq_setAll, SslConfigurationBuilder.setAll_limit, last?_calls hnonneg]
    rfl
  have hset : ∀ l ms, t.millis l = some ms →
      ((Limit.of (t.builder d engine).timing l).nanos : Int) = ms * 1_000_000 := by
    intro l ms hms
    rw [hlimit, hms]
    exact nanos_ofMillis (hnonneg l ms hms)
  refine ⟨hset .handshake, fun hnone => ?_, hset .closeNotifyFlush _ rfl, hset .closeNotifyRead _ rfl⟩
  have hmillis : t.millis .handshake = none := hnone
  have hdefault := hlimit .handshake
  rw [hmillis] at hdefault
  exact hdefault

end Timeouts

theorem configuration_of_sound (files : FileReader) (d : TlsDefaults) (serial : Nat)
    (hpaths : ¬ t.LacksPath) (htimeouts : ¬ t.HasNegativeTimeout) :
    (∃ c, t.configuration files d serial = .ok c ∧ t.Sets d c.timing) ∨
      ∃ reason, t.configuration files d serial = .error (.contextResolution reason) := by
  rw [configuration_eq]
  rcases engineBuilder_of_paths files hpaths with ⟨engine, hengine⟩ | ⟨-, reason, hengine⟩ <;>
    rw [hengine]
  · rcases SslConfigurationBuilder.build_of_source serial
      (builder_error_eq_none_iff.2 htimeouts) (builder_source d t engine) with
      ⟨c, hc, htiming⟩ | ⟨reason, hc⟩
    · exact .inl ⟨c, hc, htiming ▸ builder_timing htimeouts⟩
    · exact .inr ⟨reason, hc⟩
  · exact .inr ⟨reason, rfl⟩

theorem configuration_invalid_iff (d : TlsDefaults) (serial : Nat) (hfiles : t.Readable files) :
    (∃ reason, t.configuration files d serial = .error (.invalidConfiguration reason)) ↔
      t.LacksPath ∨ t.HasNegativeTimeout := by
  constructor
  · rintro ⟨reason, h⟩
    by_contra hsound
    obtain ⟨hpaths, htimeouts⟩ := not_or.1 hsound
    rcases configuration_of_sound files d serial hpaths htimeouts with ⟨c, hc, -⟩ | ⟨other, hc⟩
    · cases hc.symm.trans h
    · cases hc.symm.trans h
  · intro h
    rw [configuration_eq]
    by_cases hpaths : t.LacksPath
    · obtain ⟨reason, hengine⟩ := engineBuilder_of_lacksPath hfiles hpaths
      rw [hengine]
      exact ⟨reason, rfl⟩
    · obtain ⟨engine, hengine⟩ :=
        (engineBuilder_of_paths files hpaths).resolve_right fun hfailed => hfailed.1 hfiles
      have herror : (t.builder d engine).error ≠ none := fun hnone =>
        builder_error_eq_none_iff.1 hnone (h.resolve_left hpaths)
      obtain ⟨e, he⟩ := Option.ne_none_iff_exists'.1 herror
      obtain ⟨reason, rfl⟩ := builder_error_eq_some he
      rw [hengine]
      exact ⟨reason, SslConfigurationBuilder.build_of_error he⟩

end TlsSettings

namespace GatewayConfig

variable {c : GatewayConfig}

theorem exists_tlsRule_violated_iff :
    (∃ r ∈ Rule.tlsRules, r.Violated c) ↔ c.tls.LacksPath ∨ c.tls.HasNegativeTimeout := by
  simp only [Rule.tlsRules, List.mem_cons, List.not_mem_nil, or_false, exists_eq_or_imp,
    exists_eq_left, Rule.Violated, TlsSettings.LacksPath, TlsSettings.HasNegativeTimeout]
  grind

theorem exists_tls_error_iff : (∃ e ∈ c.reported, "tls.".toList <+: e.field.toList) ↔
    c.tls.LacksPath ∨ c.tls.HasNegativeTimeout := by
  rw [← exists_tlsRule_violated_iff, reported_eq_errors]
  constructor
  · rintro ⟨e, he, hfield⟩
    obtain ⟨r, hr, rfl⟩ := mem_errors.1 he
    exact ⟨r, Rule.field_tls_iff.1 hfield, hr⟩
  · rintro ⟨r, htls, hr⟩
    exact ⟨r.error c, mem_errors.2 ⟨r, hr, rfl⟩, Rule.field_tls_iff.2 htls⟩

/-- What the parts of the program make of a configuration they can all work with. -/
structure Usable (c : GatewayConfig) : Prop where
  /-- Only the files behind the section can be at fault. -/
  tls : ∀ files d serial,
    (∃ made, c.tls.configuration files d serial = .ok made ∧ c.tls.Sets d made.timing) ∨
      ∃ reason, c.tls.configuration files d serial = .error (.contextResolution reason)
  connections : 1 ≤ c.pool.maxConnections ∧
    (PoolLimits.ofConfig c.pool).maxConnections = some c.pool.maxConnections
  unlimited : (PoolLimits.ofConfig c.pool).pendingAcquireMax = none ↔ c.pool.pendingAcquireMax = -1
  limited : ∀ n, (PoolLimits.ofConfig c.pool).pendingAcquireMax = some n →
    0 < n ∧ c.pool.pendingAcquireMax = n
  targets : ∀ t ∈ c.targets, ∃ host port, RemoteAddress.parse t.address = .inet host port ∧
    ∀ {σ κ : Type} (network : Network σ) (establish : σ → Elapsed (Except ConnectError κ))
      (limit : Span) (metrics : Bool),
      (Opening.ofNetwork network establish limit metrics (RemoteAddress.parse t.address)).result =
        (Opening.dial network limit host port).bind fun socket => (establish socket).within limit
  listener : ∃ l, Listener.bind c.listener = .ok l ∧
    SocketAddress.parse? c.listener.bindAddress = some l.address

theorem usable_of_validate (h : c.validate = .ok ()) : c.Usable := by
  have hrules := validate_eq_ok_iff.1 h
  have hsound : ¬ (c.tls.LacksPath ∨ c.tls.HasNegativeTimeout) := fun hbad => by
    obtain ⟨r, -, hr⟩ := exists_tlsRule_violated_iff.2 hbad
    exact hrules r hr
  obtain ⟨hpaths, htimeouts⟩ := not_or.1 hsound
  have hpending : 0 < c.pool.pendingAcquireMax ∨ c.pool.pendingAcquireMax = -1 := by
    have := hrules .pendingAcquires
    simp only [Rule.Violated] at this
    omega
  refine ⟨fun files d serial => TlsSettings.configuration_of_sound files d serial hpaths htimeouts,
    ⟨Nat.one_le_iff_ne_zero.2 (hrules .poolSize), rfl⟩, ?_, ?_, ?_, ?_⟩
  · simp only [PoolLimits.ofConfig]
    split <;> simp <;> omega
  · intro n hn
    simp only [PoolLimits.ofConfig] at hn
    split at hn
    · obtain rfl := Option.some.inj hn
      omega
    · cases hn
  · intro t ht
    obtain ⟨i, hi⟩ := List.mem_iff_getElem?.1 ht
    have hinet : (RemoteAddress.parse t.address).hostPort? ≠ none := fun hnone =>
      hrules (.targetAddress i) ⟨t, hi, hnone⟩
    cases haddress : RemoteAddress.parse t.address with
    | inet host port => exact ⟨host, port, rfl, fun _ _ _ _ => rfl⟩
    | opaqueName name =>
      rw [haddress] at hinet
      exact absurd rfl hinet
  · obtain ⟨a, ha⟩ := Option.ne_none_iff_exists'.1 (hrules .bindAddress)
    refine ⟨⟨a, c.listener.maxConnections, c.listener.maxConnections, 0⟩, ?_, ha⟩
    rw [Listener.bind, ha]

/-- Validation and the parts of the program that use a configuration agree on what is wrong with
one. -/
theorem validation_agrees (c : GatewayConfig) :
    (∀ r : Rule, c.reported.filter (·.field = r.field) =
      if r.Violated c then [r.error c] else []) ∧
    (∀ e ∈ c.reported, ∃ r : Rule, r.Violated c ∧ e = r.error c) ∧
    (c.validate = .ok () → c.Usable) ∧
    ∀ (files : FileReader) (d : TlsDefaults) (serial : Nat), c.tls.Readable files →
      ((∃ reason, c.tls.configuration files d serial = .error (.invalidConfiguration reason)) ↔
        ∃ e ∈ c.reported, "tls.".toList <+: e.field.toList) := by
  refine ⟨fun r => ?_, fun e he => ?_, usable_of_validate, fun files d serial hfiles => ?_⟩
  · rw [reported_eq_errors, errors_filter_field, Rule.findings]
  · rw [reported_eq_errors] at he
    exact mem_errors.1 he
  · rw [exists_tls_error_iff]
    exact TlsSettings.configuration_invalid_iff d serial hfiles

def oneTarget : GatewayConfig where
  tls := { caPath := some "ca.pem" }
  targets := [⟨"local", "localhost:8443"⟩]

/-- The same without trust anchors, and with limits that nothing can keep to. -/
def hopeless : GatewayConfig :=
  { oneTarget with tls := { handshakeTimeoutMs := some (-1) }, pool := { maxConnections := 0 } }

theorem validation_agrees_of_oneTarget :
    oneTarget.validate = .ok () ∧ oneTarget.Usable ∧
    hopeless.reported.map (·.field) =
      ["tls.handshake_timeout_ms", "tls.ca_path", "pool.max_connections"] ∧
    hopeless.tls.Readable (fun _ => .ok []) ∧
    ∃ reason, hopeless.tls.configuration (fun _ => .ok []) .library 0 =
      .error (.invalidConfiguration reason) := by
  have hvalid : oneTarget.validate = .ok () := by rfl
  have hreported : hopeless.reported.map (·.field) =
      ["tls.handshake_timeout_ms", "tls.ca_path", "pool.max_connections"] := by
    decide +kernel
  have hreadable : hopeless.tls.Readable (fun _ => .ok []) := fun _ _ => ⟨[], rfl⟩
  refine ⟨hvalid, (validation_agrees oneTarget).2.2.1 hvalid, hreported, hreadable, ?_⟩
  refine ((validation_agrees hopeless).2.2.2 _ _ _ hreadable).2 ⟨Rule.trustAnchors.error hopeless, ?_, ?_⟩
  · rw [reported_eq_errors]
    exact mem_errors.2 ⟨.trustAnchors, by decide, rfl⟩
  · decide

end GatewayConfig
end SecureGateway

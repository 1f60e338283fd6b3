import Mathlib.Data.List.Nodup
import SecureGateway.Config.Validation
import SecureGateway.Proofs.Address.Numeral

namespace SecureGateway

inductive Rule where
  | handshakeTimeout
  | flushTimeout
  | readTimeout
  | trustAnchors
  | certificates
  | privateKey
  | poolName
  | poolSize
  | pendingAcquires
  | connectTimeout
  | listenerSize
  | bindAddress
  | logFormat
  | metricsAddress
  | targetName (i : Nat)
  | targetAddress (i : Nat)
  deriving DecidableEq, Repr

namespace Rule

open Text (isBlank quote)

def targetPath (i : Nat) : String := "targets[" ++ toString i ++ "]"

def field : Rule → String
  | handshakeTimeout => "tls.handshake_timeout_ms"
  | flushTimeout => "tls.close_notify_flush_timeout_ms"
  | readTimeout => "tls.close_notify_read_timeout_ms"
  | trustAnchors => "tls.ca_path"
  | certificates => "tls.cert_path"
  | privateKey => "tls.key_path"
  | poolName => "pool.name"
  | poolSize => "pool.max_connections"
  | pendingAcquires => "pool.pending_acquire_max"
  | connectTimeout => "pool.connect_timeout_ms"
  | listenerSize => "listener.max_connections"
  | bindAddress => "listener.bind_address"
  | logFormat => "observability.log_format"
  | metricsAddress => "observability.metrics_address"
  | targetName i => targetPath i ++ ".name"
  | targetAddress i => targetPath i ++ ".address"

/-- A rule looks at its own setting, and where the setting is not always needed, at what needs it. -/
def Violated (c : GatewayConfig) : Rule → Prop
  | handshakeTimeout => ∃ ms ∈ c.tls.handshakeTimeoutMs, ms < 0
  | flushTimeout => c.tls.closeNotifyFlushTimeoutMs < 0
  | readTimeout => c.tls.closeNotifyReadTimeoutMs < 0
  | trustAnchors => c.tls.role = .client ∧ c.tls.caPath = none
  | certificates => c.tls.role = .server ∧ c.tls.certPath = none
  | privateKey => c.tls.role = .server ∧ c.tls.keyPath = none
  | poolName => ∀ x ∈ c.pool.name.toList, isBlank x = true
  | poolSize => c.pool.maxConnections = 0
  | pendingAcquires => c.pool.pendingAcquireMax ≤ 0 ∧ c.pool.pendingAcquireMax ≠ -1
  | connectTimeout => c.pool.connectTimeoutMs = 0
  | listenerSize => c.listener.maxConnections = 0
  | bindAddress => SocketAddress.parse? c.listener.bindAddress = none
  | logFormat => c.observability.logFormat ≠ "pretty" ∧ c.observability.logFormat ≠ "json"
  | metricsAddress => c.observability.metricsEnabled = true ∧
      SocketAddress.parse? c.observability.metricsAddress = none
  | targetName i => ∃ t ∈ c.targets[i]?, ∀ x ∈ t.name.toList, isBlank x = true
  | targetAddress i => ∃ t ∈ c.targets[i]?, (RemoteAddress.parse t.address).hostPort? = none

instance (c : GatewayConfig) : (r : Rule) → Decidable (r.Violated c)
  | handshakeTimeout => inferInstanceAs (Decidable (∃ ms ∈ _, ms < 0))
  | flushTimeout => inferInstanceAs (Decidable (_ < _))
  | readTimeout => inferInstanceAs (Decidable (_ < _))
  | trustAnchors => inferInstanceAs (Decidable (_ ∧ _))
  | certificates => inferInstanceAs (Decidable (_ ∧ _))
  | privateKey => inferInstanceAs (Decidable (_ ∧ _))
  | poolName => inferInstanceAs (Decidable (∀ x ∈ _, isBlank x = true))
  | poolSize => inferInstanceAs (Decidable (_ = _))
  | pendingAcquires => inferInstanceAs (Decidable (_ ∧ _))
  | connectTimeout => inferInstanceAs (Decidable (_ = _))
  | listenerSize => inferInstanceAs (Decidable (_ = _))
  | bindAddress => inferInstanceAs (Decidable (_ = _))
  | logFormat => inferInstanceAs (Decidable (_ ∧ _))
  | metricsAddress => inferInstanceAs (Decidable (_ ∧ _))
  | targetName i => inferInstanceAs (Decidable (∃ t ∈ c.targets[i]?, ∀ x ∈ _, isBlank x = true))
  | targetAddress i => inferInstanceAs (Decidable (∃ t ∈ c.targets[i]?, _ = none))

def message (c : GatewayConfig) : Rule → String
  | handshakeTimeout => "must be >= 0, got " ++ toString (c.tls.handshakeTimeoutMs.getD 0)
  | flushTimeout => "must be >= 0, got " ++ toString c.tls.closeNotifyFlushTimeoutMs
  | readTimeout => "must be >= 0, got " ++ toString c.tls.closeNotifyReadTimeoutMs
  | trustAnchors => "required for the client role"
  | certificates => "required for the server role"
  | privateKey => "required for the server role"
  | poolName => "must not be empty"
  | poolSize => "must be > 0"
  | pendingAcquires =>
    "must be > 0 or -1 for no limit, got " ++ toString c.pool.pendingAcquireMax
  | connectTimeout => "must be > 0"
  | listenerSize => "must be > 0"
  | bindAddress => "not a socket address: " ++ quote c.listener.bindAddress
  | logFormat => "expected \"pretty\" or \"json\", got " ++ quote c.observability.logFormat
  | metricsAddress => "not a socket address: " ++ quote c.observability.metricsAddress
  | targetName _ => "must not be empty"
  | targetAddress i =>
    "expected host:port, got " ++ quote ((c.targets[i]?.map (·.address)).getD "")

def error (c : GatewayConfig) (r : Rule) : ValidationError := ⟨r.field, r.message c⟩

def findings (c : GatewayConfig) (r : Rule) : List ValidationError :=
  if r.Violated c then [r.error c] else []

def sections : List Rule :=
  [handshakeTimeout, flushTimeout, readTimeout, trustAnchors, certificates, privateKey, poolName,
    poolSize, pendingAcquires, connectTimeout, listenerSize, bindAddress, logFormat, metricsAddress]

def ofTarget (i : Nat) : List Rule := [targetName i, targetAddress i]

def all (targets : Nat) : List Rule := sections ++ (List.range targets).flatMap ofTarget

section Fields

theorem mem_sections_or_mem_ofTarget (r : Rule) : r ∈ sections ∨ ∃ i, r ∈ ofTarget i := by
  cases r <;> simp [sections, ofTarget]

theorem mem_all {r : Rule} {n : Nat} : r ∈ all n ↔ r ∈ sections ∨ ∃ i < n, r ∈ ofTarget i := by
  simp [all]

theorem field_of_mem_ofTarget {r : Rule} {i : Nat} (h : r ∈ ofTarget i) :
    "targets[".toList <+: r.field.toList := by
  rcases List.mem_pair.1 h with rfl | rfl <;> simp [field, targetPath]

theorem field_of_mem_sections : ∀ r ∈ sections, ¬ "targets[".toList <+: r.field.toList := by
  decide

theorem nodup_field_sections : (sections.map field).Nodup := by
  decide

theorem nodup_all (n : Nat) : (all n).Nodup := by
  refine List.nodup_append.2 ⟨by decide, ?_, ?_⟩
  · refine List.nodup_flatMap.2 ⟨fun i _ => by simp [ofTarget], ?_⟩
    refine List.nodup_range.imp fun {i j} hij r hi hj => hij ?_
    rcases List.mem_pair.1 hi with rfl | rfl <;> simpa [ofTarget] using hj
  · rintro r hr s hs rfl
    obtain ⟨i, -, hi⟩ := List.mem_flatMap.1 hs
    exact field_of_mem_sections r hr (field_of_mem_ofTarget hi)

theorem targetPath_append_inj {i j : Nat} {setting : String}
    (h : targetPath i ++ setting = targetPath j ++ setting) : i = j := by
  have hlist := congrArg String.toList h
  rw [String.toList_append, String.toList_append] at hlist
  have hpath : ("targets[" ++ toString i ++ "]").toList = ("targets[" ++ toString j ++ "]").toList :=
    List.append_cancel_right hlist
  have hdigits : Nat.toDigits 10 i = Nat.toDigits 10 j := by
    simpa using hpath
  rw [← Address.digitsValue_toDigits i, hdigits, Address.digitsValue_toDigits]

theorem field_targetName_ne (i j : Nat) : (targetName i).field ≠ (targetAddress j).field := by
  intro h
  have hlist := congrArg String.toList h
  simp only [field, String.toList_append] at hlist
  have hlast := congrArg List.getLast? hlist
  rw [List.getLast?_append, List.getLast?_append] at hlast
  simp at hlast

theorem field_injective : Function.Injective field := by
  intro r s h
  rcases mem_sections_or_mem_ofTarget r with hr | ⟨i, hr⟩ <;>
    rcases mem_sections_or_mem_ofTarget s with hs | ⟨j, hs⟩
  · exact List.inj_on_of_nodup_map nodup_field_sections hr hs h
  · exact absurd (h ▸ field_of_mem_ofTarget hs) (field_of_mem_sections r hr)
  · exact absurd (h ▸ field_of_mem_ofTarget hr) (field_of_mem_sections s hs)
  · rcases List.mem_pair.1 hr with rfl | rfl <;> rcases List.mem_pair.1 hs with rfl | rfl
    · rw [targetPath_append_inj h]
    · exact absurd h (field_targetName_ne i j)
    · exact absurd h.symm (field_targetName_ne j i)
    · rw [targetPath_append_inj h]

def tlsRules : List Rule :=
  [handshakeTimeout, flushTimeout, readTimeout, trustAnchors, certificates, privateKey]

theorem field_tls_iff {r : Rule} : "tls.".toList <+: r.field.toList ↔ r ∈ tlsRules := by
  rcases mem_sections_or_mem_ofTarget r with hr | ⟨i, hr⟩
  · revert r
    decide
  · refine iff_of_false (fun htls => ?_) fun hmem => ?_
    · exact absurd (List.prefix_of_prefix_length_le htls (field_of_mem_ofTarget hr) (by decide))
        (by decide)
    · rcases List.mem_pair.1 hr with rfl | rfl <;> simp [tlsRules] at hmem

end Fields

section Reports

variable {c : GatewayConfig} {r : Rule}

theorem mem_findings {e : ValidationError} : e ∈ r.findings c ↔ r.Violated c ∧ e = r.error c := by
  unfold findings
  split <;> simp [*]

theorem findings_filter (c : GatewayConfig) (r s : Rule) :
    (s.findings c).filter (·.field = r.field) = if s = r then r.findings c else [] := by
  by_cases hsr : s = r
  · subst hsr
    rw [if_pos rfl]
    refine List.filter_eq_self.2 fun e he => ?_
    rw [(mem_findings.1 he).2, error, decide_eq_true rfl]
  · rw [if_neg hsr]
    refine List.filter_eq_nil_iff.2 fun e he hfield => hsr (field_injective ?_)
    rw [(mem_findings.1 he).2] at hfield
    exact of_decide_eq_true hfield

theorem report_eq_findings {broken : Bool} {message : String} (hbroken : broken = true ↔ r.Violated c)
    (hmessage : r.message c = message) :
    GatewayConfig.report broken r.field message = r.findings c := by
  unfold GatewayConfig.report findings error
  rw [hmessage]
  exact if_congr hbroken rfl rfl

theorem findings_of_not_violated (h : ¬ r.Violated c) : r.findings c = [] := if_neg h

theorem message_handshakeTimeout {ms : Int} (h : c.tls.handshakeTimeoutMs = some ms) :
    handshakeTimeout.message c = "must be >= 0, got " ++ toString ms := by
  have hvalue : c.tls.handshakeTimeoutMs.getD 0 = ms := by rw [h, Option.getD_some]
  exact congrArg (fun n : Int => "must be >= 0, got " ++ toString n) hvalue

theorem message_targetAddress {t : TargetConfig} {i : Nat} (h : c.targets[i]? = some t) :
    (targetAddress i).message c = "expected host:port, got " ++ quote t.address := by
  have hvalue : (c.targets[i]?.map (·.address)).getD "" = t.address := by
    rw [h, Option.map_some, Option.getD_some]
  exact congrArg (fun s => "expected host:port, got " ++ quote s) hvalue

theorem tls_errors_eq (c : GatewayConfig) : GatewayConfig.TlsSettings.errors c.tls =
    tlsRules.flatMap (findings c) := by
  have hhandshake : GatewayConfig.negativeTimeout "tls.handshake_timeout_ms" c.tls.handshakeTimeoutMs =
      handshakeTimeout.findings c := by
    cases hms : c.tls.handshakeTimeoutMs with
    | none => exact (findings_of_not_violated (by simp [Violated, hms])).symm
    | some ms =>
      exact report_eq_findings (r := handshakeTimeout) (by simp [Violated, hms])
        (message_handshakeTimeout hms)
  have hflush : GatewayConfig.negativeTimeout "tls.close_notify_flush_timeout_ms"
      c.tls.closeNotifyFlushTimeoutMs = flushTimeout.findings c :=
    report_eq_findings (r := flushTimeout) (by simp [Violated]) rfl
  have hread : GatewayConfig.negativeTimeout "tls.close_notify_read_timeout_ms"
      c.tls.closeNotifyReadTimeoutMs = readTimeout.findings c :=
    report_eq_findings (r := readTimeout) (by simp [Violated]) rfl
  simp only [GatewayConfig.TlsSettings.errors, tlsRules, hhandshake, hflush, hread, List.flatMap_cons,
    List.flatMap_nil, List.append_assoc, List.append_nil]
  cases hrole : c.tls.role with
  | client =>
    have hanchors : GatewayConfig.report c.tls.caPath.isNone "tls.ca_path"
        "required for the client role" = trustAnchors.findings c :=
      report_eq_findings (r := trustAnchors) (by simp [Violated, hrole]) rfl
    rw [findings_of_not_violated (r := certificates) (by simp [Violated, hrole]),
      findings_of_not_violated (r := privateKey) (by simp [Violated, hrole]), ← hanchors,
      List.append_nil, List.append_nil]
  | server =>
    have hcertificates : GatewayConfig.report c.tls.certPath.isNone "tls.cert_path"
        "required for the server role" = certificates.findings c :=
      report_eq_findings (r := certificates) (by simp [Violated, hrole]) rfl
    have hkey : GatewayConfig.report c.tls.keyPath.isNone "tls.key_path"
        "required for the server role" = privateKey.findings c :=
      report_eq_findings (r := privateKey) (by simp [Violated, hrole]) rfl
    rw [findings_of_not_violated (r := trustAnchors) (by simp [Violated, hrole]), ← hcertificates,
      ← hkey, List.nil_append]

theorem pool_errors_eq (c : GatewayConfig) : GatewayConfig.PoolConfig.errors c.pool =
    [poolName, poolSize, pendingAcquires, connectTimeout].flatMap (findings c) := by
  simp only [List.flatMap_cons, List.flatMap_nil, List.append_nil, GatewayConfig.PoolConfig.errors,
    List.append_assoc]
  refine congrArg₂ (· ++ ·) ?_ (congrArg₂ (· ++ ·) ?_ (congrArg₂ (· ++ ·) ?_ ?_))
  · exact report_eq_findings (r := poolName) (by simp [Violated, Text.isAllBlank]) rfl
  · exact report_eq_findings (r := poolSize) (by simp [Violated]) rfl
  · refine report_eq_findings (r := pendingAcquires) ?_ rfl
    simp only [Violated, Bool.or_eq_true, beq_iff_eq, decide_eq_true_eq]
    omega
  · exact report_eq_findings (r := connectTimeout) (by simp [Violated]) rfl

theorem listener_errors_eq (c : GatewayConfig) : GatewayConfig.ListenerConfig.errors c.listener =
    [listenerSize, bindAddress].flatMap (findings c) := by
  simp only [List.flatMap_cons, List.flatMap_nil, List.append_nil,
    GatewayConfig.ListenerConfig.errors]
  refine congrArg₂ (· ++ ·) ?_ ?_
  · exact report_eq_findings (r := listenerSize) (by simp [Violated]) rfl
  · exact report_eq_findings (r := bindAddress)
      (by simp [Violated, GatewayConfig.badSocketAddress]) rfl

theorem observability_errors_eq (c : GatewayConfig) :
    GatewayConfig.ObservabilityConfig.errors c.observability =
      [logFormat, metricsAddress].flatMap (findings c) := by
  simp only [List.flatMap_cons, List.flatMap_nil, List.append_nil,
    GatewayConfig.ObservabilityConfig.errors]
  refine congrArg₂ (· ++ ·) ?_ ?_
  · exact report_eq_findings (r := logFormat) (by simp [Violated]) rfl
  · exact report_eq_findings (r := metricsAddress)
      (by simp [Violated, GatewayConfig.badSocketAddress]) rfl

theorem target_errors_eq {t : TargetConfig} {i : Nat} (h : c.targets[i]? = some t) :
    GatewayConfig.TargetConfig.errors t i = (ofTarget i).flatMap (findings c) := by
  simp only [ofTarget, List.flatMap_cons, List.flatMap_nil, List.append_nil,
    GatewayConfig.TargetConfig.errors]
  refine congrArg₂ (· ++ ·) ?_ ?_
  · exact report_eq_findings (r := targetName i) (by simp [Violated, h, Text.isAllBlank]) rfl
  · refine report_eq_findings (r := targetAddress i) ?_ (message_targetAddress h)
    simp only [Violated, h, Option.mem_some, exists_eq_left']
    cases RemoteAddress.parse t.address <;> simp [GatewayConfig.isOpaque, RemoteAddress.hostPort?]

theorem targets_errors_eq (c : GatewayConfig) :
    (c.targets.zipIdx.flatMap fun (t, i) => GatewayConfig.TargetConfig.errors t i) =
      ((List.range c.targets.length).flatMap ofTarget).flatMap (findings c) := by
  rw [List.flatMap_assoc, List.flatMap_def, List.flatMap_def]
  refine congrArg List.flatten ?_
  refine List.ext_getElem (by simp) fun i hi _ => ?_
  have hi : i < c.targets.length := by simpa using hi
  simp only [List.getElem_map, List.getElem_zipIdx, Nat.zero_add, List.getElem_range]
  exact target_errors_eq (List.getElem?_eq_getElem hi)

theorem mem_all_of_violated (h : r.Violated c) : r ∈ all c.targets.length := by
  rcases mem_sections_or_mem_ofTarget r with hr | ⟨i, hr⟩
  · exact mem_all.2 (.inl hr)
  · refine mem_all.2 (.inr ⟨i, ?_, hr⟩)
    rcases List.mem_pair.1 hr with rfl | rfl
    all_goals
      obtain ⟨t, ht, -⟩ := h
      exact (List.getElem?_eq_some_iff.1 ht).1

theorem flatMap_only {rules : List Rule} (h : rules.Nodup) {found : List ValidationError} :
    (rules.flatMap fun s => if s = r then found else []) = if r ∈ rules then found else [] := by
  induction rules with
  | nil => rfl
  | cons s rules ih =>
    obtain ⟨hs, h⟩ := List.nodup_cons.1 h
    rw [List.flatMap_cons, ih h]
    by_cases hsr : s = r
    · subst hsr
      simp [hs]
    · simp [hsr, Ne.symm hsr]

end Reports

end Rule

namespace GatewayConfig

variable {c : GatewayConfig}

/-- The errors are what each rule has to report, rule by rule. -/
theorem errors_eq_findings (c : GatewayConfig) :
    c.errors = (Rule.all c.targets.length).flatMap (Rule.findings c) := by
  rw [errors, Rule.tls_errors_eq, Rule.pool_errors_eq, Rule.listener_errors_eq,
    Rule.observability_errors_eq, Rule.targets_errors_eq, Rule.all, List.flatMap_append]
  simp only [← List.flatMap_append]
  rfl

theorem mem_errors {e : ValidationError} :
    e ∈ c.errors ↔ ∃ r : Rule, r.Violated c ∧ e = r.error c := by
  rw [errors_eq_findings, List.mem_flatMap]
  constructor
  · rintro ⟨r, -, he⟩
    exact ⟨r, Rule.mem_findings.1 he⟩
  · rintro ⟨r, hr, he⟩
    exact ⟨r, Rule.mem_all_of_violated hr, Rule.mem_findings.2 ⟨hr, he⟩⟩

theorem errors_filter_field (c : GatewayConfig) (r : Rule) :
    c.errors.filter (·.field = r.field) = r.findings c := by
  rw [errors_eq_findings, List.filter_flatMap, funext (Rule.findings_filter c r)]
  by_cases hr : r ∈ Rule.all c.targets.length
  · rw [Rule.flatMap_only (Rule.nodup_all _), if_pos hr]
  · rw [Rule.flatMap_only (Rule.nodup_all _), if_neg hr,
      Rule.findings_of_not_violated fun h => hr (Rule.mem_all_of_violated h)]

theorem validate_eq_ok_iff : c.validate = .ok () ↔ ∀ r : Rule, ¬ r.Violated c := by
  have hnil : c.validate = .ok () ↔ c.errors = [] := by
    unfold validate
    cases c.errors <;> simp
  rw [hnil, List.eq_nil_iff_forall_not_mem]
  simp only [mem_errors]
  exact ⟨fun h r hr => h _ ⟨r, hr, rfl⟩, fun h e ⟨r, hr, _⟩ => h r hr⟩

/-- What validation reports. -/
def reported (c : GatewayConfig) : List ValidationError :=
  match c.validate with
  | .ok () => []
  | .error errors => errors

theorem reported_eq_errors (c : GatewayConfig) : c.reported = c.errors := by
  unfold reported validate
  cases c.errors <;> rfl

end GatewayConfig
end SecureGateway

import SecureGateway.Command.Run
import SecureGateway.Pool.Provider
import SecureGateway.Proofs.Config.Consumers
import SecureGateway.Proofs.Pool.Transition

namespace SecureGateway

/-- Whether a length of time that counts its seconds in 64 bits can hold the span. -/
def Span.Representable (d : Span) : Prop := d.seconds < 18_446_744_073_709_551_616

def Instant.Realistic (t : Instant) : Prop := t / 1_000_000_000 < 4_611_686_018_427_387_904

section Millis

variable {d : Span} {ms : Int} (h : (d.nanos : Int) = ms * 1_000_000)
  (hms : ms < 18_446_744_073_709_551_616)

include h hms

theorem Span.representable_of_millis : d.Representable := by
  unfold Representable seconds
  omega

theorem Instant.representable_after {now : Instant} (hnow : now.Realistic) :
    (now.after d).Representable := by
  have hsum : ∀ n : Nat, n / 1_000_000_000 < 4_611_686_018_427_387_904 →
      (n + d.nanos) / 1_000_000_000 < 9_223_372_036_854_775_808 := by
    intro n hn
    omega
  exact hsum now hnow

end Millis

theorem Text.parseInt64?_lt {cs : List Char} {ms : Int} (h : Text.parseInt64? cs = some ms) :
    ms < 9_223_372_036_854_775_808 := by
  unfold Text.parseInt64? at h
  split at h <;>
  · obtain ⟨n, -, hn⟩ := Option.bind_eq_some_iff.1 h
    split at hn
    · obtain rfl := Option.some.inj hn
      omega
    · cases hn

theorem TlsDefaults.handshake_of_fromOverride {raw : Option String} {d : TlsDefaults}
    (h : TlsDefaults.fromOverride raw = .ok d) :
    ∃ ms : Int, (d.handshake.nanos : Int) = ms * 1_000_000 ∧ ms < 9_223_372_036_854_775_808 := by
  have hlibrary : ∃ ms : Int, (library.handshake.nanos : Int) = ms * 1_000_000 ∧
      ms < 9_223_372_036_854_775_808 := ⟨10000, by decide, by decide⟩
  unfold fromOverride at h
  split at h
  · exact Except.ok.inj h ▸ hlibrary
  simp only at h
  split at h
  · exact Except.ok.inj h ▸ hlibrary
  split at h
  · cases h
  rename_i ms hms
  rw [nonNegativeMillis] at h
  split at h
  · rename_i hnonneg
    obtain rfl := Except.ok.inj h
    exact ⟨ms, nanos_ofMillis hnonneg, Text.parseInt64?_lt hms⟩
  · cases h

namespace TlsSettings

theorem customizers_of_configuration {files : FileReader} {d : TlsDefaults} {t : TlsSettings}
    {serial : Nat} {made : EngineConfiguration} (h : t.configuration files d serial = .ok made) :
    made.customizers = [] := by
  rw [configuration_eq] at h
  cases hengine : t.engineBuilder files with
  | error e =>
    rw [hengine] at h
    cases h
  | ok engine =>
    rw [hengine] at h
    obtain ⟨_, -, -, hholds⟩ := SslConfigurationBuilder.holds_of_build h
    have hnone : (t.builder d engine).customizer = none := by
      rw [builder_eq_setAll, SslConfigurationBuilder.setAll_customizer]
      cases hms : t.handshakeTimeoutMs <;> rw [calls, hms] <;> rfl
    rw [hholds.customizers, hnone]
    rfl

end TlsSettings

namespace GatewayConfig

/-- Numbers that the fields can hold: signed and unsigned words of 64 bits. -/
structure InRange (c : GatewayConfig) : Prop where
  handshakeTimeout : ∀ ms ∈ c.tls.handshakeTimeoutMs, ms < 9_223_372_036_854_775_808
  flushTimeout : c.tls.closeNotifyFlushTimeoutMs < 9_223_372_036_854_775_808
  readTimeout : c.tls.closeNotifyReadTimeoutMs < 9_223_372_036_854_775_808
  poolSize : c.pool.maxConnections < 18_446_744_073_709_551_616
  pendingAcquires : c.pool.pendingAcquireMax < 9_223_372_036_854_775_808
  pendingTimeout : c.pool.pendingAcquireTimeoutMs < 18_446_744_073_709_551_616
  connectTimeout : c.pool.connectTimeoutMs < 18_446_744_073_709_551_616
  listenerSize : c.listener.maxConnections < 18_446_744_073_709_551_616

variable {c : GatewayConfig}

theorem start_of_validate (h : c.validate = .ok ()) :
    ∃ address, Listener.start c.listener =
      if c.listener.maxConnections ≤ Listener.maxPermits then
        .listening ⟨address, c.listener.maxConnections, c.listener.maxConnections, 0⟩
      else .panicked Listener.permitsMessage := by
  obtain ⟨address, haddress⟩ := Option.ne_none_iff_exists'.1 (validate_eq_ok_iff.1 h .bindAddress)
  exact ⟨address, by rw [Listener.start, Listener.bind, haddress]⟩

theorem serve_of_validate (h : c.validate = .ok ()) :
    Machine.serve c = .ok (if c.listener.maxConnections ≤ Listener.maxPermits then .printed ""
      else .panicked Listener.permitsMessage) := by
  obtain ⟨address, hstart⟩ := start_of_validate h
  rw [Machine.serve, hstart]
  split_ifs <;> rfl

theorem millis_of_configuration (h : c.validate = .ok ()) (hrange : c.InRange)
    {raw : Option String} {d : TlsDefaults} (hd : TlsDefaults.fromOverride raw = .ok d)
    {files : FileReader} {serial : Nat} {made : EngineConfiguration}
    (hmade : c.tls.configuration files d serial = .ok made) (l : Limit) :
    ∃ ms : Int, ((Limit.of made.timing l).nanos : Int) = ms * 1_000_000 ∧
      ms < 9_223_372_036_854_775_808 := by
  have hsets : c.tls.Sets d made.timing := by
    rcases (usable_of_validate h).tls files d serial with ⟨made', hmade', hsets⟩ | ⟨reason, hfailed⟩
    · obtain rfl := Except.ok.inj (hmade.symm.trans hmade')
      exact hsets
    · cases hmade.symm.trans hfailed
  cases l with
  | handshake =>
    cases hms : c.tls.handshakeTimeoutMs with
    | none =>
      have hdefault : Limit.of made.timing .handshake = d.handshake := hsets.handshake_unset hms
      exact hdefault ▸ TlsDefaults.handshake_of_fromOverride hd
    | some ms => exact ⟨ms, hsets.handshake ms hms, hrange.handshakeTimeout ms hms⟩
  | closeNotifyFlush => exact ⟨_, hsets.flush, hrange.flushTimeout⟩
  | closeNotifyRead => exact ⟨_, hsets.read, hrange.readTimeout⟩

/-- An accepted configuration unwinds a task only through the permits of the listener, and does so as soon
as there are too many of them. Its lengths of time fit, and so do the moments that a pool in any state and
a new handshake stage make of them. -/
theorem panics_only_for_permits (h : c.validate = .ok ()) (hrange : c.InRange) :
    (Listener.start c.listener = .panicked Listener.permitsMessage ↔
      Listener.maxPermits < c.listener.maxConnections) ∧
    (c.listener.maxConnections ≤ Listener.maxPermits →
      ∃ l, Listener.start c.listener = .listening l ∧ l.permits = c.listener.maxConnections) ∧
    (Span.ofMillis c.pool.connectTimeoutMs).Representable ∧
    (∀ (κ : Type) (isMetered : Bool) (id : Nat) (remote : RemoteAddress) (p : ConnectionPool κ),
      ConnectionPool.Reachable id remote
        (ConnectionProvider.ofConfig c.pool isMetered : ConnectionProvider κ).limits p →
      p.limits.pendingAcquireTimeout.Representable ∧
      ∀ now : Instant, now.Realistic → (now.after p.limits.pendingAcquireTimeout).Representable) ∧
    ∀ raw d files serial made, TlsDefaults.fromOverride raw = .ok d →
      c.tls.configuration files d serial = .ok made →
      (∀ l, (Limit.of made.timing l).Representable) ∧
      ∀ (e : Session) (now : Instant), now.Realistic →
        (now.after (made.configure (TlsStage.new e)).timing.handshake).Representable := by
  -- validation bounds the numbers from below, the types of the fields bound them from above
  obtain ⟨address, hstart⟩ := start_of_validate h
  refine ⟨?_, fun hfew => ?_, ?_, ?_, ?_⟩
  · rw [hstart]
    split_ifs with hfew
    · exact ⟨nofun, fun hmany => absurd hfew (Nat.not_le.2 hmany)⟩
    · exact ⟨fun _ => Nat.not_le.1 hfew, fun _ => rfl⟩
  · rw [hstart, if_pos hfew]
    exact ⟨_, rfl, rfl⟩
  · exact Span.representable_of_millis (Int.natCast_mul _ _) (Int.ofNat_lt.2 hrange.connectTimeout)
  · intro κ isMetered id remote p hp
    have htimeout : p.limits.pendingAcquireTimeout = .ofMillis c.pool.pendingAcquireTimeoutMs := by
      rw [hp.limits_eq]
      rfl
    rw [htimeout]
    have hmillis : ((Span.ofMillis c.pool.pendingAcquireTimeoutMs).nanos : Int) =
        c.pool.pendingAcquireTimeoutMs * 1_000_000 := Int.natCast_mul _ _
    have hlt := Int.ofNat_lt.2 hrange.pendingTimeout
    exact ⟨Span.representable_of_millis hmillis hlt,
      fun now hnow => Instant.representable_after hmillis hlt hnow⟩
  · intro raw d files serial made hd hmade
    have hmillis := millis_of_configuration h hrange hd hmade
    refine ⟨fun l => ?_, fun e now hnow => ?_⟩
    · obtain ⟨ms, hms, hlt⟩ := hmillis l
      exact Span.representable_of_millis hms (by omega)
    · have htiming : (made.configure (TlsStage.new e)).timing = made.timing := by
        rw [SslConfiguration.configure, TlsSettings.customizers_of_configuration hmade]
        rfl
      obtain ⟨ms, hms, hlt⟩ := hmillis .handshake
      rw [htiming]
      exact Instant.representable_after hms (by omega) hnow

/-- The largest numbers that the fields can hold, and as many permits as there can be. -/
def utmost : GatewayConfig :=
  { oneTarget with
    tls := { oneTarget.tls with
      handshakeTimeoutMs := some 9_223_372_036_854_775_807
      closeNotifyFlushTimeoutMs := 9_223_372_036_854_775_807
      closeNotifyReadTimeoutMs := 9_223_372_036_854_775_807 }
    pool := {
      maxConnections := 18_446_744_073_709_551_615
      pendingAcquireMax := 9_223_372_036_854_775_807
      pendingAcquireTimeoutMs := 18_446_744_073_709_551_615
      connectTimeoutMs := 18_446_744_073_709_551_615 }
    listener := { maxConnections := Listener.maxPermits } }

theorem utmost_inRange : utmost.InRange where
  handshakeTimeout := by
    rintro ms ⟨⟩
    decide
  flushTimeout := by decide
  readTimeout := by decide
  poolSize := by decide
  pendingAcquires := by decide
  pendingTimeout := by decide
  connectTimeout := by decide
  listenerSize := by decide

theorem panics_only_for_permits_of_utmost : utmost.validate = .ok () ∧ utmost.InRange ∧
    (∃ l, Listener.start utmost.listener = .listening l ∧ l.permits = Listener.maxPermits) ∧
    (Span.ofMillis utmost.pool.connectTimeoutMs).Representable := by
  have hvalid : utmost.validate = .ok () := by rfl
  obtain ⟨-, hlistens, hconnect, -⟩ := panics_only_for_permits hvalid utmost_inRange
  exact ⟨hvalid, utmost_inRange, hlistens (Nat.le_refl _), hconnect⟩

def crowded : GatewayConfig :=
  { utmost with listener := { maxConnections := 2_305_843_009_213_693_952 } }

theorem crowded_panics : crowded.validate = .ok () ∧ crowded.InRange ∧
    Listener.start crowded.listener = .panicked
      "a semaphore may not have more than MAX_PERMITS permits (2305843009213693951)" :=
  ⟨by rfl, { utmost_inRange with listenerSize := by decide }, by decide⟩

end GatewayConfig
end SecureGateway

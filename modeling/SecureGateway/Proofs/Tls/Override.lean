import SecureGateway.Proofs.Config.Consumers
import SecureGateway.Proofs.Text.Integer

namespace SecureGateway

theorem Span.ofMillis_inj {m n : Nat} : Span.ofMillis m = .ofMillis n ↔ m = n := by
  rw [Span.ofMillis, Span.ofMillis, Span.mk.injEq]
  exact Nat.mul_left_inj (by decide)

namespace TlsDefaults

variable {raw : Option String} {i : Int}

def Unset (raw : Option String) : Prop :=
  ∀ text, raw = some text → ∀ c ∈ text.toList, Text.isBlank c = true

/-- The override is a decimal integer, with blanks around it or without. -/
def Counts (raw : Option String) (i : Int) : Prop :=
  ∃ text value, raw = some text ∧ Text.Trimmed text.toList value ∧ Text.IsInteger value i

theorem toList_trim (text : String) : (Text.trim text).toList = Text.trimChars text.toList :=
  String.toList_ofList

theorem unset_some_iff {text : String} : Unset (some text) ↔ (Text.trim text).isEmpty = true := by
  rw [String.isEmpty_iff, ← String.toList_eq_nil_iff, toList_trim, Text.trimChars_eq_nil_iff]
  exact ⟨fun h => h text rfl, fun h _ htext => Option.some.inj htext ▸ h⟩

theorem counts_some_iff {text : String} :
    Counts (some text) i ↔ Text.IsInteger (Text.trim text).toList i := by
  rw [toList_trim]
  constructor
  · rintro ⟨_, value, ⟨⟩, hvalue, hi⟩
    exact Text.trimmed_iff.1 hvalue ▸ hi
  · exact fun hi => ⟨text, _, rfl, Text.trimmed_iff.2 rfl, hi⟩

theorem Counts.not_unset (h : Counts raw i) : ¬Unset raw := by
  obtain ⟨text, value, rfl, hvalue, hi⟩ := h
  intro hunset
  rw [Text.trimmed_iff.1 hvalue, Text.trimChars_eq_nil_iff.2 (hunset text rfl)] at hi
  cases hi with
  | unsigned hds => exact hds.1 rfl

theorem fromOverride_of_unset (h : Unset raw) : fromOverride raw = .ok library := by
  cases raw with
  | none => rfl
  | some text => simp only [fromOverride, unset_some_iff.1 h, if_true]

/-- An integer that a word holds is only looked at for its sign. -/
theorem fromOverride_of_counts (h : Counts raw i) (hi : Text.FitsInt64 i) :
    fromOverride raw = (nonNegativeMillis overrideVariable i).map TlsDefaults.mk := by
  obtain ⟨text, -, rfl, -⟩ := id h
  have hset := mt unset_some_iff.2 h.not_unset
  have hparse := Text.parseInt64?_eq_some_iff.2 ⟨counts_some_iff.1 h, hi⟩
  simp only [fromOverride, hset, hparse, Bool.false_eq_true, if_false]

theorem fromOverride_of_nonneg {n : Nat} (h : Counts raw n) (hn : n ≤ 9_223_372_036_854_775_807) :
    fromOverride raw = .ok ⟨.ofMillis n⟩ := by
  rw [fromOverride_of_counts h ⟨by omega, by omega⟩, nonNegativeMillis, if_pos (Int.natCast_nonneg n)]
  rfl

theorem fromOverride_refused (hset : ¬Unset raw)
    (hcounts : ∀ n : Nat, n ≤ 9_223_372_036_854_775_807 → ¬Counts raw n) :
    ∃ reason, fromOverride raw = .error (.invalidConfiguration (overrideVariable ++ reason)) := by
  cases raw with
  | none => exact absurd nofun hset
  | some text =>
    have hempty := mt unset_some_iff.2 hset
    cases hparse : Text.parseInt64? (Text.trim text).toList with
    | none =>
      simp only [fromOverride, hempty, hparse, Bool.false_eq_true, if_false, String.append_assoc]
      exact ⟨_, rfl⟩
    | some ms =>
      obtain ⟨hms, hfits⟩ := Text.parseInt64?_eq_some_iff.1 hparse
      have hnegative : ¬0 ≤ ms := by
        intro hnonneg
        obtain ⟨n, rfl⟩ := Int.eq_ofNat_of_zero_le hnonneg
        exact hcounts n (Int.ofNat_le.1 hfits.2) (counts_some_iff.2 hms)
      rw [fromOverride_of_counts (counts_some_iff.2 hms) hfits, nonNegativeMillis, if_neg hnegative,
        String.append_assoc]
      exact ⟨_, rfl⟩

theorem fromOverride_eq_ok_iff {n : Nat} : fromOverride raw = .ok ⟨.ofMillis n⟩ ↔
    Unset raw ∧ n = 10000 ∨ Counts raw n ∧ n ≤ 9_223_372_036_854_775_807 := by
  have hok : ∀ m k : Nat, (Except.ok ⟨.ofMillis m⟩ : Except TlsError TlsDefaults) = .ok ⟨.ofMillis k⟩ ↔
      k = m := by
    intro m k
    rw [Except.ok.injEq, TlsDefaults.mk.injEq, Span.ofMillis_inj]
    exact eq_comm
  constructor
  · intro h
    by_cases hunset : Unset raw
    · rw [fromOverride_of_unset hunset] at h
      exact .inl ⟨hunset, (hok 10000 n).1 h⟩
    · by_contra hnot
      have hcounts : ∀ m : Nat, m ≤ 9_223_372_036_854_775_807 → ¬Counts raw m := by
        intro m hm hcounts
        rw [fromOverride_of_nonneg hcounts hm, hok] at h
        exact hnot (.inr ⟨h ▸ hcounts, h ▸ hm⟩)
      obtain ⟨reason, hrefused⟩ := fromOverride_refused hunset hcounts
      cases h.symm.trans hrefused
  · rintro (⟨hunset, rfl⟩ | ⟨hcounts, hn⟩)
    · exact fromOverride_of_unset hunset
    · exact fromOverride_of_nonneg hcounts hn

end TlsDefaults

namespace SslConfiguration

variable {κ β η : Type}

def retimed (timing : TimingPolicy) (c : SslConfiguration κ β η) : SslConfiguration κ β η :=
  { c with timing, identity := { c.identity with timing } }

end SslConfiguration

theorem SslConfigurationBuilder.build_timing {κ β η : Type} [ContextBuilder β κ]
    (b : SslConfigurationBuilder κ β η) (timing : TimingPolicy) (serial : Nat) :
    build { b with timing } serial = (b.build serial).map (SslConfiguration.retimed timing) := by
  obtain ⟨source, profile, -, customizer, error⟩ := b
  cases error with
  | some e => rfl
  | none =>
    cases source with
    | none => rfl
    | some source =>
      simp only [build]
      cases resolveSource profile serial source <;> rfl

namespace TlsSettings

variable {files : FileReader} {d d' : TlsDefaults} {t : TlsSettings} {serial : Nat}
  {c : EngineConfiguration}

theorem builder_timing_eq (d d' : TlsDefaults) (t : TlsSettings) (engine : EngineBuilder) :
    t.builder d' engine = { t.builder d engine with timing := (t.builder d' engine).timing } := by
  rw [builder_eq_setAll, builder_eq_setAll, SslConfigurationBuilder.setAll_new,
    SslConfigurationBuilder.setAll_new]
  rfl

theorem configuration_ok (h : t.configuration files d serial = .ok c) : t.Sets d c.timing ∧
    ∀ d', ∃ timing, t.Sets d' timing ∧ t.configuration files d' serial = .ok (c.retimed timing) := by
  rw [configuration_eq] at h
  cases hengine : t.engineBuilder files with
  | error e =>
    rw [hengine] at h
    cases h
  | ok engine =>
    rw [hengine] at h
    obtain ⟨_, herror, -, hholds⟩ := SslConfigurationBuilder.holds_of_build h
    have hnonneg := builder_error_eq_none_iff.1 herror
    refine ⟨hholds.timing ▸ builder_timing hnonneg,
      fun d' => ⟨(t.builder d' engine).timing, builder_timing hnonneg, ?_⟩⟩
    rw [configuration_eq, hengine]
    show (t.builder d' engine).build serial = _
    have hbuild : (t.builder d engine).build serial = .ok c := h
    rw [builder_timing_eq d d', SslConfigurationBuilder.build_timing, hbuild]
    rfl

theorem Sets.closing_eq {timing timing' : TimingPolicy} (h : t.Sets d timing) (h' : t.Sets d' timing') :
    timing'.closeNotifyFlush = timing.closeNotifyFlush ∧
      timing'.closeNotifyRead = timing.closeNotifyRead := by
  have hspan : ∀ a b : Span, (a.nanos : Int) = b.nanos → a = b := fun _ _ hnanos =>
    congrArg Span.mk (Int.ofNat.inj hnanos)
  exact ⟨hspan _ _ (h'.flush.trans h.flush.symm), hspan _ _ (h'.read.trans h.read.symm)⟩

end TlsSettings

namespace TlsDefaults

/-- For every override: the default limit comes of no override, of blanks and of the default limit written
out; a number of milliseconds comes of the integers of that value that a word holds, between blanks, and
of nothing else; the rest is refused by the name of the variable. Whatever is built from a section has the
handshake limit of the section if that has one, and the overriding one if not; with any other default the
same is built, with the same limits for closing. -/
theorem override_laws (raw : Option String) :
    (fromOverride raw = .ok library ↔ Unset raw ∨ Counts raw 10000) ∧
    (∀ n : Nat, fromOverride raw = .ok ⟨.ofMillis n⟩ ↔
      Unset raw ∧ n = 10000 ∨ Counts raw n ∧ n ≤ 9_223_372_036_854_775_807) ∧
    (¬Unset raw → (∀ n : Nat, n ≤ 9_223_372_036_854_775_807 → ¬Counts raw n) →
      ∃ reason, fromOverride raw = .error (.invalidConfiguration (overrideVariable ++ reason))) ∧
    ∀ d, fromOverride raw = .ok d → ∀ (files : FileReader) (t : TlsSettings) (serial : Nat)
      (c : EngineConfiguration), t.configuration files d serial = .ok c →
      t.Sets d c.timing ∧
      ∀ d' : TlsDefaults, ∃ timing,
        t.configuration files d' serial = .ok (c.retimed timing) ∧ t.Sets d' timing ∧
          timing.closeNotifyFlush = c.timing.closeNotifyFlush ∧
          timing.closeNotifyRead = c.timing.closeNotifyRead := by
  refine ⟨?_, fun n => fromOverride_eq_ok_iff, fromOverride_refused, ?_⟩
  · have hlibrary : fromOverride raw = .ok library ↔
        Unset raw ∧ 10000 = 10000 ∨ Counts raw 10000 ∧ 10000 ≤ 9_223_372_036_854_775_807 :=
      fromOverride_eq_ok_iff
    simpa using hlibrary
  · intro d _ files t serial c hc
    obtain ⟨hsets, hothers⟩ := TlsSettings.configuration_ok hc
    refine ⟨hsets, fun d' => ?_⟩
    obtain ⟨timing, hsets', hc'⟩ := hothers d'
    exact ⟨timing, hc', hsets', hsets.closing_eq hsets'⟩

def unhurried : TlsSettings := { caPath := some "ca.pem", closeNotifyReadTimeoutMs := 9 }

theorem override_laws_of_padded :
    fromOverride (some " +7000\n") = .ok ⟨.ofMillis 7000⟩ ∧
    (∃ reason, fromOverride (some "-1") =
      .error (.invalidConfiguration (overrideVariable ++ reason))) ∧
    ∃ c, unhurried.configuration (fun _ => .ok []) ⟨.ofMillis 7000⟩ 0 = .ok c ∧
      c.timing.handshake = .ofMillis 7000 ∧ (c.timing.closeNotifyRead.nanos : Int) = 9_000_000 := by
  have hinteger : Text.IsInteger ('+' :: ['7', '0', '0', '0']) 7000 :=
    Text.isInteger_plus_iff.2 ⟨⟨nofun, List.all_eq_true.1 rfl⟩, by decide⟩
  have hpadded : Counts (some " +7000\n") 7000 := counts_some_iff.2 hinteger
  obtain ⟨-, hread, -, hbuilt⟩ := override_laws (some " +7000\n")
  have hd := (hread 7000).2 (.inr ⟨hpadded, by decide⟩)
  refine ⟨hd, (override_laws (some "-1")).2.2.1 ?_ fun n _ hcounts => ?_, ?_⟩
  · exact fun h => Bool.false_ne_true (h "-1" rfl '-' (by decide))
  · have hminus : Text.IsInteger ('-' :: ['1']) n := counts_some_iff.1 hcounts
    have hvalue : (n : Int) = -1 := (Text.isInteger_minus_iff.1 hminus).2
    omega
  · obtain ⟨c, hc⟩ : ∃ c, unhurried.configuration (fun _ => .ok []) ⟨.ofMillis 7000⟩ 0 = .ok c := ⟨_, rfl⟩
    obtain ⟨hsets, -⟩ := hbuilt _ hd (fun _ => .ok []) unhurried 0 c hc
    exact ⟨c, hc, hsets.handshake_unset rfl, hsets.read⟩

/-- The default limit, written out, is no sign of its absence. -/
theorem library_of_written_default :
    ¬(fromOverride (some "10000") = .ok library ↔ Unset (some "10000")) := by
  have hread : fromOverride (some "10000") = .ok library := by rfl
  have hset : ¬Unset (some "10000") := fun h => Bool.false_ne_true (h "10000" rfl '1' (by decide))
  exact fun h => hset (h.1 hread)

end TlsDefaults
end SecureGateway

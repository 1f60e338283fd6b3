import Mathlib.Tactic.SplitIfs
import SecureGateway.Proofs.Tls.Derivation

namespace SecureGateway

inductive Limit where
  | handshake
  | closeNotifyFlush
  | closeNotifyRead
  deriving DecidableEq, Repr

namespace Limit

def field : Limit → String
  | handshake => "handshake_timeout"
  | closeNotifyFlush => "close_notify_flush_timeout"
  | closeNotifyRead => "close_notify_read_timeout"

def of (t : TimingPolicy) : Limit → Span
  | handshake => t.handshake
  | closeNotifyFlush => t.closeNotifyFlush
  | closeNotifyRead => t.closeNotifyRead

def set (d : Span) (t : TimingPolicy) : Limit → TimingPolicy
  | handshake => { t with handshake := d }
  | closeNotifyFlush => { t with closeNotifyFlush := d }
  | closeNotifyRead => { t with closeNotifyRead := d }

theorem of_set (d : Span) (t : TimingPolicy) (l m : Limit) :
    (of (m.set d t) l) = if m = l then d else of t l := by
  cases m <;> cases l <;> rfl

def refusal (l : Limit) (ms : Int) : TlsError :=
  .invalidConfiguration (l.field ++ " must be >= 0 ms, got " ++ toString ms)

theorem eq_of_of_eq {t u : TimingPolicy} (h : ∀ l, of t l = of u l) : t = u := by
  obtain ⟨a, b, c⟩ := t
  obtain rfl : a = _ := h .handshake
  obtain rfl : b = _ := h .closeNotifyFlush
  obtain rfl : c = _ := h .closeNotifyRead
  rfl

end Limit

inductive BuilderCall (κ β η : Type) where
  | context (c : Shared κ)
  | builder (r : β)
  | profile (p : DefaultProfile)
  | limit (l : Limit) (d : Span)
  | limitMillis (l : Limit) (ms : Int)
  | customizer (f : Shared (η → η))

namespace BuilderCall

variable {κ β η : Type}

open SslConfigurationBuilder in
def apply : BuilderCall κ β η → SslConfigurationBuilder κ β η → SslConfigurationBuilder κ β η
  | context c => tlsContext c
  | builder r => contextBuilder r
  | profile p => defaultConfiguration p
  | limit .handshake d => handshakeTimeout d
  | limit .closeNotifyFlush d => closeNotifyFlushTimeout d
  | limit .closeNotifyRead d => closeNotifyReadTimeout d
  | limitMillis .handshake ms => handshakeTimeoutMillis ms
  | limitMillis .closeNotifyFlush ms => closeNotifyFlushTimeoutMillis ms
  | limitMillis .closeNotifyRead ms => closeNotifyReadTimeoutMillis ms
  | customizer f => handlerCustomizer f

def source? : BuilderCall κ β η → Option (ContextSource κ β)
  | context c => some (.prebuilt c)
  | builder r => some (.builder r)
  | _ => none

def profile? : BuilderCall κ β η → Option DefaultProfile
  | profile p => some p
  | _ => none

/-- The value for a limit; a negative count is none. -/
def limit? (l : Limit) : BuilderCall κ β η → Option Span
  | limit m d => if m = l then some d else none
  | limitMillis m ms => if m = l ∧ 0 ≤ ms then some (.ofMillis ms.toNat) else none
  | _ => none

def customizer? : BuilderCall κ β η → Option (Shared (η → η))
  | customizer f => some f
  | _ => none

def negative? : BuilderCall κ β η → Option (Limit × Int)
  | limitMillis l ms => if ms < 0 then some (l, ms) else none
  | _ => none

def last? {α : Type} (f : BuilderCall κ β η → Option α) (calls : List (BuilderCall κ β η)) :
    Option α :=
  (calls.filterMap f).getLast?

def firstNegative? (calls : List (BuilderCall κ β η)) : Option (Limit × Int) :=
  (calls.filterMap negative?).head?

theorem firstNegative?_eq_none_iff {calls : List (BuilderCall κ β η)} :
    firstNegative? calls = none ↔ ∀ call ∈ calls, call.negative? = none := by
  rw [firstNegative?, List.head?_eq_none_iff, List.filterMap_eq_nil_iff]

end BuilderCall

namespace SslConfigurationBuilder

open SecureGateway.BuilderCall (last? firstNegative?)

variable {κ β η : Type} {b : SslConfigurationBuilder κ β η}

def setAll (b : SslConfigurationBuilder κ β η) (calls : List (BuilderCall κ β η)) :
    SslConfigurationBuilder κ β η :=
  calls.foldl (fun b call => call.apply b) b

theorem setAll_last {α : Type} (get : SslConfigurationBuilder κ β η → Option α)
    {set? : BuilderCall κ β η → Option α}
    (h : ∀ call b, get (call.apply b) = (set? call).or (get b))
    (calls : List (BuilderCall κ β η)) (b : SslConfigurationBuilder κ β η) :
    get (b.setAll calls) = (last? set? calls).or (get b) := by
  induction calls generalizing b with
  | nil => rfl
  | cons call calls ih =>
    have hlast : last? set? (call :: calls) = (last? set? calls).or (set? call) := by
      unfold last?
      cases hcall : set? call with
      | none => rw [List.filterMap_cons_none hcall, Option.or_none]
      | some x =>
        rw [List.filterMap_cons_some hcall, List.getLast?_cons]
        cases (calls.filterMap set?).getLast? <;> rfl
    rw [hlast, Option.or_assoc, ← h]
    exact ih (call.apply b)

/-- A limit is one setting; which of the three it is decides over the field alone. -/
theorem apply_limit (l : Limit) (d : Span) (b : SslConfigurationBuilder κ β η) :
    (BuilderCall.limit l d).apply b = { b with timing := l.set d b.timing } := by
  cases l <;> rfl

theorem apply_limitMillis (l : Limit) (ms : Int) (b : SslConfigurationBuilder κ β η) :
    (BuilderCall.limitMillis l ms).apply b =
      if 0 ≤ ms then (BuilderCall.limit l (.ofMillis ms.toNat)).apply b
      else { b with error := b.error.or (some (l.refusal ms)) } := by
  have hchecked : (BuilderCall.limitMillis l ms).apply b =
      checked l.field ms (fun d => (BuilderCall.limit l d).apply) b := by
    cases l <;> rfl
  rw [hchecked]
  split_ifs with h
  · rw [checked, nonNegativeMillis, if_pos h]
  · rw [checked, nonNegativeMillis, if_neg h]
    exact congrArg (fun e => { b with error := e }) Option.orElse_eq_or

theorem keep_limit {α : Type} {get : SslConfigurationBuilder κ β η → α}
    (h : ∀ b timing error, get { b with timing, error } = get b) (l : Limit) (d : Span)
    (b : SslConfigurationBuilder κ β η) : get ((BuilderCall.limit l d).apply b) = get b := by
  rw [apply_limit]
  exact h b _ b.error

theorem keep_limitMillis {α : Type} {get : SslConfigurationBuilder κ β η → α}
    (h : ∀ b timing error, get { b with timing, error } = get b) (l : Limit) (ms : Int)
    (b : SslConfigurationBuilder κ β η) : get ((BuilderCall.limitMillis l ms).apply b) = get b := by
  rw [apply_limitMillis]
  split_ifs
  · exact keep_limit h l _ b
  · exact h b b.timing _

theorem setAll_source (calls : List (BuilderCall κ β η)) (b : SslConfigurationBuilder κ β η) :
    (b.setAll calls).source = (last? BuilderCall.source? calls).or b.source := by
  refine setAll_last source (fun call b => ?_) calls b
  cases call with
  | limit l d => exact keep_limit (fun _ _ _ => rfl) l d b
  | limitMillis l ms => exact keep_limitMillis (fun _ _ _ => rfl) l ms b
  | _ => rfl

theorem setAll_profile (calls : List (BuilderCall κ β η)) (b : SslConfigurationBuilder κ β η) :
    (b.setAll calls).profile = (last? BuilderCall.profile? calls).or b.profile := by
  refine setAll_last profile (fun call b => ?_) calls b
  cases call with
  | limit l d => exact keep_limit (fun _ _ _ => rfl) l d b
  | limitMillis l ms => exact keep_limitMillis (fun _ _ _ => rfl) l ms b
  | _ => rfl

theorem setAll_customizer (calls : List (BuilderCall κ β η)) (b : SslConfigurationBuilder κ β η) :
    (b.setAll calls).customizer = (last? BuilderCall.customizer? calls).or b.customizer := by
  refine setAll_last customizer (fun call b => ?_) calls b
  cases call with
  | limit l d => exact keep_limit (fun _ _ _ => rfl) l d b
  | limitMillis l ms => exact keep_limitMillis (fun _ _ _ => rfl) l ms b
  | _ => rfl

theorem setAll_limit (l : Limit) (calls : List (BuilderCall κ β η))
    (b : SslConfigurationBuilder κ β η) :
    Limit.of (b.setAll calls).timing l = (last? (BuilderCall.limit? l) calls).getD (l.of b.timing) := by
  have hset : ∀ (call : BuilderCall κ β η) (b : SslConfigurationBuilder κ β η),
      some (Limit.of (call.apply b).timing l) = (call.limit? l).or (some (l.of b.timing)) := by
    intro call b
    cases call with
    | limit m d =>
      rw [apply_limit, Limit.of_set, BuilderCall.limit?]
      split_ifs <;> rfl
    | limitMillis m ms =>
      rw [apply_limitMillis, BuilderCall.limit?]
      by_cases hms : 0 ≤ ms
      · simp only [hms, and_true, if_true, apply_limit, Limit.of_set]
        split_ifs <;> rfl
      · rw [if_neg hms, if_neg fun h => hms h.2]
        rfl
    | _ => rfl
  have hlast := setAll_last (fun b => some (Limit.of b.timing l)) hset calls b
  rw [Option.or_some] at hlast
  exact Option.some.inj hlast

theorem setAll_error (calls : List (BuilderCall κ β η)) (b : SslConfigurationBuilder κ β η) :
    (b.setAll calls).error = b.error.or ((firstNegative? calls).map fun x => x.1.refusal x.2) := by
  have hcall : ∀ (call : BuilderCall κ β η) (b : SslConfigurationBuilder κ β η),
      (call.apply b).error = b.error.or (call.negative?.map fun x => x.1.refusal x.2) := by
    intro call b
    cases call with
    | limit l d => exact (congrArg error (apply_limit l d b)).trans Option.or_none.symm
    | limitMillis l ms =>
      rw [apply_limitMillis, BuilderCall.negative?]
      by_cases hms : 0 ≤ ms
      · rw [if_pos hms, if_neg (Int.not_lt.2 hms), apply_limit]
        exact Option.or_none.symm
      · rw [if_neg hms, if_pos (Int.not_le.1 hms)]
        rfl
    | _ => exact Option.or_none.symm
  -- an error that is there already stays, so the first one wins
  induction calls generalizing b with
  | nil => exact Option.or_none.symm
  | cons call calls ih =>
    have hfirst : firstNegative? (call :: calls) = call.negative?.or (firstNegative? calls) := by
      unfold firstNegative?
      cases hnegative : call.negative? with
      | none => rw [List.filterMap_cons_none hnegative, Option.none_or]
      | some x =>
        rw [List.filterMap_cons_some hnegative]
        rfl
    have hrest := ih (call.apply b)
    rw [hcall, Option.or_assoc, ← Option.map_or, ← hfirst] at hrest
    exact hrest

end SslConfigurationBuilder

namespace ContextSource

variable {κ β : Type} [ContextBuilder β κ]

/-- The same context, or builders with equal fingerprints. -/
def Agrees : ContextSource κ β → ContextSource κ β → Prop
  | prebuilt c, prebuilt d => c.serial = d.serial
  | builder r, builder s => ContextBuilder.fingerprint r = ContextBuilder.fingerprint s
  | _, _ => False

/-- The context that comes from a source under a profile. One that is made takes the serial number. -/
def Yields (profile : Option DefaultProfile) (serial : Nat) (c : Shared κ) :
    ContextSource κ β → Prop
  | prebuilt d => c = d
  | builder r => c.serial = serial ∧ ContextBuilder.build (profiled profile r) = .ok c.value

def identity : ContextSource κ β → SourceIdentity
  | prebuilt c => .prebuilt c.serial
  | builder r => .builder (ContextBuilder.fingerprint r)

theorem Agrees.identity_eq {s t : ContextSource κ β} (h : s.Agrees t) : s.identity = t.identity := by
  cases s <;> cases t
  · exact congrArg SourceIdentity.prebuilt h
  · exact h.elim
  · exact h.elim
  · exact congrArg SourceIdentity.builder h

theorem yields_of_resolveSource {profile : Option DefaultProfile} {serial : Nat}
    {s : ContextSource κ β} {x : Shared κ × SourceIdentity}
    (h : SslConfigurationBuilder.resolveSource profile serial s = .ok x) :
    s.Yields profile serial x.1 ∧ x.2 = s.identity := by
  cases s with
  | prebuilt c =>
    obtain rfl := Except.ok.inj h
    exact ⟨rfl, rfl⟩
  | builder r =>
    rw [SslConfigurationBuilder.resolveSource] at h
    cases hcontext : resolveContext r profile with
    | error e =>
      rw [hcontext] at h
      cases h
    | ok context =>
      rw [hcontext] at h
      obtain rfl := Except.ok.inj h
      exact ⟨⟨rfl, resolveContext_ok_iff.1 hcontext⟩, rfl⟩

end ContextSource

namespace SslConfigurationBuilder

open SecureGateway.BuilderCall (last? firstNegative?)

variable {κ β η : Type} [ContextBuilder β κ] {b : SslConfigurationBuilder κ β η} {serial : Nat}
  {source : ContextSource κ β} {c c' : SslConfiguration κ β η}

theorem build_of_error {e : TlsError} (h : b.error = some e) : b.build serial = .error e := by
  rw [build, h]

theorem resolveSource_error {profile : Option DefaultProfile} {e : TlsError}
    (h : resolveSource profile serial source = .error e) : ∃ reason, e = .contextResolution reason := by
  cases source with
  | prebuilt context => cases h
  | builder engine =>
    rw [resolveSource] at h
    cases hcontext : resolveContext engine profile with
    | ok context =>
      rw [hcontext] at h
      cases h
    | error e' =>
      rw [hcontext] at h
      obtain rfl := Except.error.inj h
      exact resolveContext_error hcontext

theorem build_of_source (serial : Nat) (herror : b.error = none)
    (hsource : b.source = some source) :
    (∃ c, b.build serial = .ok c ∧ c.timing = b.timing) ∨
      ∃ reason, b.build serial = .error (.contextResolution reason) := by
  simp only [build, herror, hsource]
  cases hresolve : resolveSource b.profile serial source with
  | ok x => exact .inl ⟨_, rfl, rfl⟩
  | error e =>
    obtain ⟨reason, rfl⟩ := resolveSource_error hresolve
    exact .inr ⟨reason, rfl⟩

/-- A configuration has the settings of the builder it was built with. -/
structure Holds (b : SslConfigurationBuilder κ β η) (serial : Nat) (source : ContextSource κ β)
    (c : SslConfiguration κ β η) : Prop where
  context : source.Yields b.profile serial c.context
  contextBuilder : c.contextBuilder = keptBuilder source
  profile : c.profile = b.profile
  timing : c.timing = b.timing
  customizers : c.customizers = (b.customizer.map (·.value)).toList
  identity : c.identity = ⟨source.identity, b.profile, b.timing, b.customizer.map (·.serial)⟩

theorem holds_of_build (h : b.build serial = .ok c) :
    ∃ source, b.error = none ∧ b.source = some source ∧ b.Holds serial source c := by
  cases herror : b.error with
  | some e =>
    rw [build_of_error herror] at h
    cases h
  | none =>
    cases hsource : b.source with
    | none =>
      simp only [build, herror, hsource] at h
      cases h
    | some source =>
      simp only [build, herror, hsource] at h
      cases hresolve : resolveSource b.profile serial source with
      | error e =>
        rw [hresolve] at h
        cases h
      | ok x =>
        rw [hresolve] at h
        obtain rfl := Except.ok.inj h
        obtain ⟨hyields, hidentity⟩ := ContextSource.yields_of_resolveSource hresolve
        refine ⟨source, rfl, rfl, hyields, rfl, rfl, rfl, rfl, ?_⟩
        exact congrArg (ConfigurationIdentity.mk · b.profile b.timing _) hidentity

theorem build_of_builder_error {r : β} {e : TlsError} (herror : b.error = none)
    (hsource : b.source = some (.builder r))
    (hr : ContextBuilder.build (profiled b.profile r) = .error e) :
    ∃ reason, b.build serial = .error (.contextResolution reason) := by
  rcases build_of_source serial herror hsource with ⟨c, hc, -⟩ | hfailed
  · obtain ⟨_, -, hsource', hholds⟩ := holds_of_build hc
    obtain rfl := Option.some.inj (hsource.symm.trans hsource')
    cases hr.symm.trans hholds.context.2
  · exact hfailed

theorem build_of_builds (herror : b.error = none) (hsource : b.source = some source)
    (hbuilds : ∀ r e, source = .builder r →
      ContextBuilder.build (profiled b.profile r) ≠ .error e) :
    ∃ c, b.build serial = .ok c := by
  cases source with
  | prebuilt context => exact ⟨_, by simp only [build, herror, hsource]; rfl⟩
  | builder r =>
    cases hr : ContextBuilder.build (profiled b.profile r) with
    | error e => exact absurd hr (hbuilds r e rfl)
    | ok k =>
      have hresolve := resolveContext_ok_iff.2 hr
      exact ⟨_, by simp only [build, herror, hsource, resolveSource, hresolve]; rfl⟩

def limitAfter (d : TlsDefaults) (calls : List (BuilderCall κ β η)) (l : Limit) : Span :=
  (last? (BuilderCall.limit? l) calls).getD (l.of (.withDefaults d))

def outcome (d : TlsDefaults) (calls : List (BuilderCall κ β η)) : SslConfigurationBuilder κ β η where
  source := last? BuilderCall.source? calls
  profile := last? BuilderCall.profile? calls
  timing := ⟨limitAfter d calls .handshake, limitAfter d calls .closeNotifyFlush,
    limitAfter d calls .closeNotifyRead⟩
  customizer := last? BuilderCall.customizer? calls
  error := (firstNegative? calls).map fun x => x.1.refusal x.2

omit [ContextBuilder β κ] in
theorem setAll_new (d : TlsDefaults) (calls : List (BuilderCall κ β η)) :
    (new d).setAll calls = outcome d calls := by
  have hsource : ((new d).setAll calls).source = _ :=
    (setAll_source calls (new d)).trans Option.or_none
  have hprofile : ((new d).setAll calls).profile = _ :=
    (setAll_profile calls (new d)).trans Option.or_none
  have htiming : ((new d).setAll calls).timing = (outcome d calls).timing :=
    Limit.eq_of_of_eq fun l => (setAll_limit l calls (new d)).trans (by cases l <;> rfl)
  have hcustomizer : ((new d).setAll calls).customizer = _ :=
    (setAll_customizer calls (new d)).trans Option.or_none
  have herror : ((new d).setAll calls).error = (outcome d calls).error := setAll_error calls (new d)
  generalize (new d).setAll calls = b at *
  cases b
  rw [outcome, SslConfigurationBuilder.mk.injEq]
  exact ⟨hsource, hprofile, htiming, hcustomizer, herror⟩

/-- For all calls on a new builder: the first negative count is the one that is reported, whatever else
is set; then a source is asked for; then only a builder can fail, in the copy that has the profile. What is
built has the last value of each setting or its default, and equality sees nothing but these. -/
theorem construction_laws (d : TlsDefaults) (calls : List (BuilderCall κ β η)) (serial : Nat) :
    (∀ l ms, firstNegative? calls = some (l, ms) →
      ((new d).setAll calls).build serial = .error (.invalidConfiguration
        (l.field ++ " must be >= 0 ms, got " ++ toString ms))) ∧
    (firstNegative? calls = none → last? BuilderCall.source? calls = none →
      ((new d).setAll calls).build serial = .error (.invalidConfiguration
        "either a TLS context or a context builder must be provided")) ∧
    (∀ r e, firstNegative? calls = none → last? BuilderCall.source? calls = some (.builder r) →
      ContextBuilder.build (profiled (last? BuilderCall.profile? calls) r) = .error e →
      ∃ reason, ((new d).setAll calls).build serial = .error (.contextResolution reason)) ∧
    (∀ source, firstNegative? calls = none → last? BuilderCall.source? calls = some source →
      (∀ r e, source = .builder r →
        ContextBuilder.build (profiled (last? BuilderCall.profile? calls) r) ≠ .error e) →
      ∃ c, ((new d).setAll calls).build serial = .ok c ∧ (outcome d calls).Holds serial source c) ∧
    ∀ d' calls' serial' c c' source source', ((new d).setAll calls).build serial = .ok c →
      ((new d').setAll calls').build serial' = .ok c' →
      last? BuilderCall.source? calls = some source → last? BuilderCall.source? calls' = some source' →
      source.Agrees source' →
      last? BuilderCall.profile? calls = last? BuilderCall.profile? calls' →
      (∀ l, limitAfter d calls l = limitAfter d' calls' l) →
      (last? BuilderCall.customizer? calls).map (·.serial) =
        (last? BuilderCall.customizer? calls').map (·.serial) →
      (c == c') = true ∧ hash c = hash c' := by
  have hnone : firstNegative? calls = none → (outcome d calls).error = none := fun h => by
    rw [outcome, h, Option.map_none]
  rw [setAll_new]
  refine ⟨fun l ms h => ?negative, fun h hs => ?missing, fun r e h hs hr => ?failing,
    fun source h hs hr => ?built, ?_⟩
  case negative =>
    have herror : (outcome d calls).error = some (l.refusal ms) := by
      rw [outcome, h, Option.map_some]
    exact build_of_error herror
  case missing =>
    have hsource : (outcome d calls).source = none := hs
    simp only [build, hnone h, hsource]
  case failing => exact build_of_builder_error (hnone h) hs hr
  case built =>
    obtain ⟨c, hc⟩ := build_of_builds (hnone h) hs hr
    obtain ⟨source', -, hs', hholds⟩ := holds_of_build hc
    obtain rfl := Option.some.inj (hs.symm.trans hs')
    exact ⟨c, hc, hholds⟩
  intro d' calls' serial' c c' s s' hc hc' hs hs' hagrees hprofile hlimit hcustomizer
  rw [setAll_new] at hc'
  -- equality looks at the identity alone, and that is made of what the last calls left
  obtain ⟨_, -, hsource, hholds⟩ := holds_of_build hc
  obtain rfl := Option.some.inj (hs.symm.trans hsource)
  obtain ⟨_, -, hsource', hholds'⟩ := holds_of_build hc'
  obtain rfl := Option.some.inj (hs'.symm.trans hsource')
  have htiming : (outcome d calls).timing = (outcome d' calls').timing :=
    Limit.eq_of_of_eq fun l => by cases l <;> exact hlimit _
  have hidentity : c.identity = c'.identity := by
    have hprofile' : (outcome d calls).profile = (outcome d' calls').profile := hprofile
    rw [hholds.identity, hholds'.identity, hagrees.identity_eq, hprofile', htiming]
    exact congrArg _ hcustomizer
  exact ⟨decide_eq_true hidentity, congrArg (fun i : ConfigurationIdentity => hash i) hidentity⟩

/-- Calls that are overwritten in part. -/
def wavering : List (BuilderCall ClearContext Recipe ClearStage) := [
  .limitMillis .handshake 5, .context ⟨7, ⟨"ready made", false⟩⟩, .profile .h2,
  .builder plainRecipe, .customizer ⟨5, ClearStage.customize "primary" none none none⟩, .profile .tcp]

def direct : List (BuilderCall ClearContext Recipe ClearStage) := [
  .profile .tcp, .customizer ⟨5, ClearStage.customize "primary" none none none⟩,
  .builder { plainRecipe with label := "other" }, .limit .handshake (.ofMillis 5)]

theorem construction_laws_of_wavering :
    ((new .library).setAll (.limitMillis .closeNotifyRead (-3) :: wavering)).build 1 =
        .error (.invalidConfiguration "close_notify_read_timeout must be >= 0 ms, got -3") ∧
      ∃ c c', ((new .library).setAll wavering).build 1 = .ok c ∧
        ((new .library).setAll direct).build 2 = .ok c' ∧ (c == c') = true ∧ hash c = hash c' := by
  refine ⟨(construction_laws .library (.limitMillis .closeNotifyRead (-3) :: wavering) 1).1
    .closeNotifyRead (-3) rfl, ?_⟩
  obtain ⟨-, -, -, hbuilt, hequal⟩ := construction_laws .library wavering 1
  obtain ⟨c, hc, -⟩ := hbuilt (.builder plainRecipe) rfl rfl (by rintro _ _ ⟨⟩ ⟨⟩)
  obtain ⟨-, -, -, hbuilt', -⟩ := construction_laws .library direct 2
  obtain ⟨c', hc', -⟩ := hbuilt' (.builder { plainRecipe with label := "other" }) rfl rfl
    (by rintro _ _ ⟨⟩ ⟨⟩)
  exact ⟨c, c', hc, hc', hequal _ _ _ c c' _ _ hc hc' rfl rfl rfl rfl
    (fun l => by cases l <;> rfl) rfl⟩

end SslConfigurationBuilder
end SecureGateway

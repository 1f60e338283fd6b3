import SecureGateway.Rehearsal.Recipe

namespace SecureGateway

/-- A call that derives a configuration. A context that it makes anew takes the serial number. -/
inductive Derivation (η : Type) where
  | customizer (f : η → η)
  | profile (p : DefaultProfile) (serial : Nat)

namespace Derivation

variable {η : Type}

def customizer? : Derivation η → Option (η → η)
  | customizer f => some f
  | profile _ _ => none

def profile? : Derivation η → Option (DefaultProfile × Nat)
  | customizer _ => none
  | profile p serial => some (p, serial)

def extras (ds : List (Derivation η)) : List (η → η) := (ds.filterMap customizer?).reverse

def lastProfile? (ds : List (Derivation η)) : Option (DefaultProfile × Nat) :=
  (ds.filterMap profile?).getLast?

theorem extras_append (ds es : List (Derivation η)) : extras (ds ++ es) = extras es ++ extras ds := by
  rw [extras, List.filterMap_append, List.reverse_append]
  rfl

theorem lastProfile?_append (ds es : List (Derivation η)) :
    lastProfile? (ds ++ es) = (lastProfile? es).or (lastProfile? ds) := by
  rw [lastProfile?, List.filterMap_append, List.getLast?_append]
  rfl

end Derivation

section

variable {κ β : Type} [ContextBuilder β κ]

theorem resolveContext_error {b : β} {profile : Option DefaultProfile} {e : TlsError}
    (h : resolveContext b profile = .error e) : ∃ reason, e = .contextResolution reason := by
  unfold resolveContext at h
  simp only at h
  split at h
  · cases h
  · exact ⟨_, (Except.error.inj h).symm⟩
  · exact ⟨_, (Except.error.inj h).symm⟩

def profiled (profile : Option DefaultProfile) (b : β) : β :=
  match profile with
  | some p => p.apply b
  | none => b

theorem resolveContext_ok_iff {b : β} {profile : Option DefaultProfile} {c : κ} :
    resolveContext b profile = .ok c ↔ ContextBuilder.build (profiled profile b) = .ok c := by
  unfold resolveContext
  simp only
  split <;> rename_i hbuild <;>
    have hprofiled : ContextBuilder.build (profiled profile b) = _ := hbuild <;> rw [hprofiled]
  exact ⟨nofun, nofun⟩

end

namespace SslConfiguration

open SecureGateway.Derivation (extras lastProfile?)

variable {κ β η : Type} [ContextBuilder β κ] {c d e : SslConfiguration κ β η}

theorem withProfile_error {p : DefaultProfile} {serial : Nat} {failure : TlsError}
    (h : c.withProfile p serial = .error failure) :
    ∃ reason, failure = .contextResolution reason := by
  unfold withProfile at h
  split at h
  · rename_i b _
    cases hb : resolveContext b (some p) with
    | ok context =>
      rw [hb] at h
      cases h
    | error e =>
      rw [hb] at h
      obtain rfl := Except.error.inj h
      exact resolveContext_error hb
  · cases h

def derive (c : SslConfiguration κ β η) : Derivation η → Except TlsError (SslConfiguration κ β η)
  | .customizer f => .ok (c.withExtraCustomizer f)
  | .profile p serial => c.withProfile p serial

def deriveAll (c : SslConfiguration κ β η) :
    List (Derivation η) → Except TlsError (SslConfiguration κ β η)
  | [] => .ok c
  | x :: xs => (c.derive x).bind fun c => c.deriveAll xs

/-- The configurations at hand after a call on one of them. A call that fails makes none. -/
def extend (cs : List (SslConfiguration κ β η)) (call : Nat × Derivation η) :
    List (SslConfiguration κ β η) :=
  cs ++ (cs[call.1]?.bind fun c => (c.derive call.2).toOption).toList

/-- What `d` has from `c` when it was derived from it by `ds`. -/
structure Inherits (c : SslConfiguration κ β η) (ds : List (Derivation η))
    (d : SslConfiguration κ β η) : Prop where
  identity : d.identity = c.identity
  timing : d.timing = c.timing
  contextBuilder : d.contextBuilder = c.contextBuilder
  customizers : d.customizers = extras ds ++ c.customizers
  profile : d.profile = ((lastProfile? ds).map (·.1)).or c.profile
  /-- The context stays where there is nothing to make another one from, or no reason to. -/
  keeps : c.contextBuilder = none ∨ lastProfile? ds = none → d.context = c.context
  /-- Only the last profile counts, and it meets the builder as it was at first. -/
  remakes : ∀ b p serial, c.contextBuilder = some b → lastProfile? ds = some (p, serial) →
    d.context.serial = serial ∧ ContextBuilder.build (p.apply b) = .ok d.context.value

theorem Inherits.refl (c : SslConfiguration κ β η) : Inherits c [] c where
  identity := rfl
  timing := rfl
  contextBuilder := rfl
  customizers := rfl
  profile := rfl
  keeps := fun _ => rfl
  remakes := nofun

theorem Inherits.trans {ds es : List (Derivation η)} (hd : Inherits c ds d) (he : Inherits d es e) :
    Inherits c (ds ++ es) e where
  identity := he.identity.trans hd.identity
  timing := he.timing.trans hd.timing
  contextBuilder := he.contextBuilder.trans hd.contextBuilder
  customizers := by
    rw [he.customizers, hd.customizers, Derivation.extras_append, List.append_assoc]
  profile := by
    rw [he.profile, hd.profile, Derivation.lastProfile?_append]
    cases lastProfile? es <;> rfl
  keeps := by
    intro h
    rw [Derivation.lastProfile?_append, Option.or_eq_none_iff] at h
    have hlater := he.keeps (h.imp hd.contextBuilder.trans And.left)
    exact hlater.trans (hd.keeps (h.imp_right And.right))
  remakes := by
    -- the context is made by the last profile, which may be among the later derivations or not
    intro b p serial hb hlast
    rw [Derivation.lastProfile?_append] at hlast
    cases hes : lastProfile? es with
    | none =>
      rw [hes, Option.none_or] at hlast
      rw [he.keeps (.inr hes)]
      exact hd.remakes b p serial hb hlast
    | some x =>
      rw [hes, Option.some_or] at hlast
      exact he.remakes b p serial (hd.contextBuilder.trans hb) (hes.trans hlast)

theorem withExtraCustomizer_inherits (c : SslConfiguration κ β η) (f : η → η) :
    Inherits c [.customizer f] (c.withExtraCustomizer f) where
  identity := rfl
  timing := rfl
  contextBuilder := rfl
  customizers := rfl
  profile := rfl
  keeps := fun _ => rfl
  remakes := nofun

theorem withProfile_inherits {p : DefaultProfile} {serial : Nat} (h : c.withProfile p serial = .ok d) :
    Inherits c [.profile p serial] d := by
  unfold withProfile at h
  split at h
  · rename_i b hb
    cases hcontext : resolveContext b (some p) with
    | error e =>
      rw [hcontext] at h
      cases h
    | ok context =>
      rw [hcontext] at h
      obtain rfl := Except.ok.inj h
      refine ⟨rfl, rfl, rfl, rfl, rfl, ?_, ?_⟩
      · rintro (hnone | hnone)
        · cases hb.symm.trans hnone
        · cases hnone
      · rintro b' p' serial' hb' hlast
        obtain rfl := Option.some.inj (hb.symm.trans hb')
        cases hlast
        exact ⟨rfl, resolveContext_ok_iff.1 hcontext⟩
  · rename_i hnone
    obtain rfl := Except.ok.inj h
    refine ⟨rfl, rfl, rfl, rfl, rfl, fun _ => rfl, ?_⟩
    intro b _ _ hb
    cases hnone.symm.trans hb

theorem derive_inherits {x : Derivation η} (h : c.derive x = .ok d) : Inherits c [x] d := by
  cases x with
  | customizer f => exact Except.ok.inj h ▸ withExtraCustomizer_inherits c f
  | profile p serial => exact withProfile_inherits h

theorem deriveAll_inherits {ds : List (Derivation η)} (h : c.deriveAll ds = .ok d) :
    Inherits c ds d := by
  induction ds generalizing c with
  | nil => exact Except.ok.inj h ▸ .refl c
  | cons x xs ih =>
    cases hx : c.derive x with
    | error e =>
      rw [deriveAll, hx] at h
      cases h
    | ok c' =>
      rw [deriveAll, hx] at h
      exact (derive_inherits hx).trans (ih h)

theorem deriveAll_append_singleton {ds : List (Derivation η)} {x : Derivation η}
    (hd : c.deriveAll ds = .ok d) (hx : d.derive x = .ok e) : c.deriveAll (ds ++ [x]) = .ok e := by
  induction ds generalizing c with
  | nil =>
    obtain rfl := Except.ok.inj hd
    rw [List.nil_append, deriveAll, hx]
    rfl
  | cons y ys ih =>
    cases hy : c.derive y with
    | error e =>
      rw [deriveAll, hy] at hd
      cases hd
    | ok c' =>
      rw [deriveAll, hy] at hd
      rw [List.cons_append, deriveAll, hy]
      exact ih hd

theorem extend_descends {cs : List (SslConfiguration κ β η)} (call : Nat × Derivation η)
    (hcs : ∃ later, cs = c :: later ∧ ∀ d ∈ later, ∃ ds, c.deriveAll ds = .ok d) :
    ∃ later, extend cs call = c :: later ∧ ∀ d ∈ later, ∃ ds, c.deriveAll ds = .ok d := by
  obtain ⟨later, rfl, hlater⟩ := hcs
  refine ⟨_, List.cons_append, fun d hd => ?_⟩
  rcases List.mem_append.1 hd with hd | hd
  · exact hlater d hd
  · obtain ⟨source, hsource, hderived⟩ := Option.bind_eq_some_iff.1 (Option.mem_toList.1 hd)
    have hd' : source.derive call.2 = .ok d := by
      cases hx : source.derive call.2 with
      | error e =>
        rw [hx] at hderived
        cases hderived
      | ok d' =>
        rw [hx] at hderived
        exact congrArg _ (Option.some.inj hderived)
    rcases List.mem_cons.1 (List.mem_of_getElem? hsource) with rfl | hmem
    · have hnone : source.deriveAll [] = .ok source := rfl
      exact ⟨[call.2], deriveAll_append_singleton hnone hd'⟩
    · obtain ⟨ds, hds⟩ := hlater source hmem
      exact ⟨ds ++ [call.2], deriveAll_append_singleton hds hd'⟩

theorem foldl_extend_descends (c : SslConfiguration κ β η) (calls : List (Nat × Derivation η)) :
    ∃ later, calls.foldl extend [c] = c :: later ∧ ∀ d ∈ later, ∃ ds, c.deriveAll ds = .ok d := by
  refine List.foldlRecOn calls extend (motive := fun cs => ∃ later, cs = c :: later ∧
    ∀ d ∈ later, ∃ ds, c.deriveAll ds = .ok d) ⟨[], rfl, List.forall_mem_nil _⟩ ?_
  exact fun cs hcs call _ => extend_descends call hcs

end SslConfiguration

namespace SslConfigurationBuilder

open SecureGateway.Derivation (extras lastProfile?)

variable {κ β η : Type} [ContextBuilder β κ] {s : SslConfigurationBuilder κ β η} {serial : Nat}
  {c : SslConfiguration κ β η}

theorem build_ok (h : s.build serial = .ok c) :
    (∀ b, c.contextBuilder = some b → s.source = some (.builder b)) ∧
      c.customizers = (s.customizer.map (·.value)).toList := by
  unfold build at h
  split at h
  · cases h
  · cases h
  · rename_i source _ hsource
    cases hresolved : resolveSource s.profile serial source with
    | error e =>
      rw [hresolved] at h
      cases h
    | ok x =>
      rw [hresolved] at h
      obtain rfl := Except.ok.inj h
      refine ⟨fun b hb => ?_, rfl⟩
      cases source with
      | prebuilt context => cases hb
      | builder r =>
        obtain rfl := Option.some.inj hb
        exact hsource

/-- Whatever is derived from a configuration that was built, in any order and from each other: it equals
its source and has its limits and its builder; the last profile holds, and alone decides over the context,
which is made from the builder as it was given or stays the same object; the limits are set first, and then
each customizer runs once, the newest one first and the primary one last. A profile can only fail for want
of a context, and the source is still there as it was. -/
theorem derivation_laws [Timed η] (hc : s.build serial = .ok c) :
    (∀ ds d, c.deriveAll ds = .ok d →
      (d == c) = true ∧ hash d = hash c ∧ d.timing = c.timing ∧
      d.contextBuilder = c.contextBuilder ∧
      d.profile = ((lastProfile? ds).map (·.1)).or c.profile ∧
      (c.contextBuilder = none ∨ lastProfile? ds = none → d.context = c.context) ∧
      (∀ b p n, c.contextBuilder = some b → lastProfile? ds = some (p, n) →
        s.source = some (.builder b) ∧ d.context.serial = n ∧
          ContextBuilder.build (p.apply b) = .ok d.context.value) ∧
      (∀ h, d.configure h = (extras ds ++ (s.customizer.map (·.value)).toList).foldl
        (fun h f => f h) (withTiming c.timing h)) ∧
      ∀ p n failure, d.withProfile p n = .error failure →
        ∃ reason, failure = .contextResolution reason) ∧
    ∀ calls : List (Nat × Derivation η), ∃ later,
      calls.foldl SslConfiguration.extend [c] = c :: later ∧
        ∀ d ∈ later, ∃ ds, c.deriveAll ds = .ok d := by
  obtain ⟨hsource, hcustomizers⟩ := build_ok hc
  refine ⟨fun ds d hd => ?_, SslConfiguration.foldl_extend_descends c⟩
  have hinherits := SslConfiguration.deriveAll_inherits hd
  have hhash : hash d = hash c := congrArg (fun i : ConfigurationIdentity => hash i) hinherits.identity
  refine ⟨decide_eq_true hinherits.identity, hhash, hinherits.timing, hinherits.contextBuilder,
    hinherits.profile, hinherits.keeps, fun b p n hb hlast => ?_,
    fun h => ?_, fun p n failure => SslConfiguration.withProfile_error⟩
  · exact ⟨hsource b hb, hinherits.remakes b p n hb hlast⟩
  · rw [SslConfiguration.configure, hinherits.customizers, hinherits.timing, hcustomizers]

def plainRecipe : Recipe := { label := "plain", alpn := some .h2 }

def staged : SslConfigurationBuilder ClearContext Recipe ClearStage :=
  (((new .library).contextBuilder plainRecipe).defaultConfiguration .tcp).handlerCustomizer
    ⟨5, ClearStage.customize "primary" none none none⟩

def stagedConfiguration : SslConfiguration ClearContext Recipe ClearStage where
  context := ⟨1, (DefaultProfile.tcp.apply plainRecipe).text, false⟩
  contextBuilder := some plainRecipe
  profile := some .tcp
  timing := .withDefaults .library
  customizers := [ClearStage.customize "primary" none none none]
  identity := ⟨.builder "0", some .tcp, .withDefaults .library, some 5⟩

def rederived : SslConfiguration ClearContext Recipe ClearStage :=
  { stagedConfiguration with
    context := ⟨3, (DefaultProfile.none.apply plainRecipe).text, false⟩
    profile := some .none
    customizers := [ClearStage.customize "extra" (some .zero) none none,
      ClearStage.customize "primary" none none none] }

theorem derivation_laws_of_staged :
    staged.build 1 = .ok stagedConfiguration ∧
      stagedConfiguration.deriveAll [.profile .h2 2,
        .customizer (ClearStage.customize "extra" (some .zero) none none), .profile .none 3] =
          .ok rederived ∧
      (rederived == stagedConfiguration) = true ∧ rederived.profile = some .none ∧
      ContextBuilder.build plainRecipe = .ok rederived.context.value ∧
      (rederived.configure .new).customized =
        [("extra", .withDefaults .library), ("primary", ⟨.zero, .ofMillis 3000, .ofMillis 0⟩)] := by
  have hbuilt : staged.build 1 = .ok stagedConfiguration := rfl
  have hlaws := (derivation_laws hbuilt).1
    [.profile .h2 2, .customizer (ClearStage.customize "extra" (some .zero) none none),
      .profile .none 3] rederived rfl
  obtain ⟨hequal, -, -, -, hprofile, -, hcontext, hconfigure, -⟩ := hlaws
  refine ⟨hbuilt, rfl, hequal, hprofile, (hcontext plainRecipe .none 3 rfl rfl).2.2, ?_⟩
  rw [hconfigure]
  rfl

end SslConfigurationBuilder
end SecureGateway

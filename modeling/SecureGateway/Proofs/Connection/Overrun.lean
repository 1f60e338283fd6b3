import SecureGateway.Connection.Launch
import SecureGateway.Pool.Clients
import SecureGateway.Proofs.Config.Capacity
import SecureGateway.Proofs.Connection.Installed
import SecureGateway.Proofs.Tls.Deadline
import SecureGateway.Tls.EngineContext

namespace SecureGateway

namespace Instant

variable {now : Instant} {d : Span}

theorem representable_after_short (hnow : now.Realistic)
    (hd : d.seconds < 4_611_686_018_427_387_904) : (now.after d).Representable := by
  have hsum : ∀ n : Nat, n / 1_000_000_000 < 4_611_686_018_427_387_904 →
      d.nanos / 1_000_000_000 < 4_611_686_018_427_387_904 →
      (n + d.nanos) / 1_000_000_000 < 9_223_372_036_854_775_808 := by
    intro n hn hd
    omega
  exact hsum now hnow hd

theorem not_representable_after_long (now : Instant) (hd : 9_223_372_036_854_775_808 ≤ d.seconds) :
    ¬(now.after d).Representable := by
  have hsum : ∀ n : Nat, 9_223_372_036_854_775_808 ≤ d.nanos / 1_000_000_000 →
      ¬(n + d.nanos) / 1_000_000_000 < 9_223_372_036_854_775_808 := by
    intro n hd
    omega
  exact hsum now hd

end Instant

theorem TimingPolicy.overruns_iff {now : Instant} {t : TimingPolicy} :
    t.overruns now = true ↔ 0 < t.handshake.nanos ∧ ¬(now.after t.handshake).Representable := by
  simp [overruns, Span.isZero, Option.isNone_iff_eq_none, Instant.after?_eq_none_iff,
    Nat.pos_iff_ne_zero]

namespace TlsStage

variable {ε : Type} {m : EngineModel ε} {t u : TlsStage ε} {s : Signal} {out : List Signal}
  {now : Instant}

theorem overruns_iff : Deadlined.overruns now t = true ↔
    t.state = .idle ∧ t.timing.overruns now = true := by
  simp [Deadlined.overruns]

theorem Did.idle (h : Did m t s u out) (hu : u.state = .idle) : t.state = .idle := by
  cases h with
  | kept hstate => exact hstate.symm.trans hu
  | begun _ _ hstate => cases hstate.symm.trans hu
  | finished _ _ _ hstate => cases hstate.symm.trans hu
  | broken _ _ hstate => cases hstate.symm.trans hu
  | spoiled _ _ _ _ hstate => cases hstate.symm.trans hu

theorem overruns_of_step {clock : Instant}
    (h : Deadlined.overruns now (t.step m clock s).1 = true) :
    Deadlined.overruns now t = true := by
  rw [overruns_iff, step_timing] at h
  exact overruns_iff.2 ⟨(did_step m clock s t).idle h.1, h.2⟩

end TlsStage

/-- The call that panics. -/
def Call.Overruns {η ξ ω : Type} [Deadlined η] (c : Call (Occupant η ξ) ω) : Prop :=
  c.signal = .inbound .active ∧
    ∃ h, c.handler = .handshake h ∧ Deadlined.overruns c.view.now h = true

def Unready {η ξ : Type} [Deadlined η] (now : Instant) (places : List (Place (Occupant η ξ))) :
    Prop :=
  ∃ q ∈ places, ∃ h, q.handler = some (.handshake h) ∧ Deadlined.overruns now h = true

namespace Occupant

variable {η ξ : Type}

/-- The handler as it was before any registration. -/
def unarmed : Occupant η ξ → Occupant η ξ
  | observer _ => observer .unarmed
  | h => h

theorem eq_of_unarmed {h h' : Occupant η ξ} (heq : h.unarmed = h'.unarmed)
    (hne : ∀ o, h' ≠ observer o) : h = h' := by
  cases h' with
  | observer o => exact absurd rfl (hne o)
  | _ => cases h <;> first | exact heq | cases heq

end Occupant

def Place.unarmed {η ξ : Type} (q : Place (Occupant η ξ)) : Place (Occupant η ξ) :=
  { q with handler := q.handler.map Occupant.unarmed }

theorem Place.eq_of_unarmed {η ξ : Type} {q q' : Place (Occupant η ξ)} {h : Occupant η ξ}
    (heq : q.unarmed = q'.unarmed) (hq' : q'.handler = some h) (hne : ∀ o, h ≠ .observer o) :
    q = q' := by
  obtain ⟨i, n, x⟩ := q
  obtain ⟨j, n', x'⟩ := q'
  obtain rfl : x' = some h := hq'
  obtain ⟨hid, hname, hx⟩ := Place.mk.inj heq
  obtain ⟨h', hh', hsame⟩ := Option.map_eq_some_iff.1 (hx : x.map Occupant.unarmed = some h.unarmed)
  obtain rfl : i = j := hid
  obtain rfl : n = n' := hname
  obtain rfl : x = some h' := hh'
  rw [Occupant.eq_of_unarmed hsame hne]

section Dispatches

variable {ε ξ ω : Type} [Recorder ω] {m : EngineModel ε} {k : StageKit (TlsStage ε) ξ ω}
  {now : Instant} {hops : List Hop} {s s' : Scene (Occupant (TlsStage ε) ξ) (Env ω)}
  {l : List (Happening (Occupant (TlsStage ε) ξ) (Env ω))}
  {c : Call (Occupant (TlsStage ε) ξ) (Env ω)} {t u : TlsStage ε}

theorem Call.stage_of_reaction (hk : k.handshake = TlsStage.react m)
    (h : (c.reaction (Occupant.react k)).handler = .handshake u) :
    ∃ t, c.handler = .handshake t ∧ u = (t.step m c.view.now c.signal).1 := by
  obtain ⟨v, sig, x, e⟩ := c
  cases x with
  | handshake t =>
    rw [Call.reaction_stage hk rfl] at h
    cases h
    exact ⟨t, rfl, rfl⟩
  | _ => cases h

theorem Delivers.unready (hk : k.handshake = TlsStage.react m)
    (hd : Delivers (Occupant.react k) now s hops l s') :
    (Unready now s'.places → Unready now s.places) ∧
      ∀ c, .called c ∈ l → c.Overruns → Unready now s.places := by
  induction hd with
  | done s => exact ⟨id, fun c hc => nomatch hc⟩
  | leave _ _ ih =>
    refine ⟨ih.1, fun c hc ho => ih.2 c ?_ ho⟩
    exact (List.mem_cons.1 hc).resolve_left nofun
  | @call s s₁ s' hop hops inner outer before after q h c _ hsplit hh hc _ _ ihin ihout =>
    have hq : q ∈ s.places := hsplit ▸ List.mem_append_right _ List.mem_cons_self
    have hback : Unready now (s.react before q after (c.reaction (Occupant.react k))).places →
        Unready now s.places := by
      rintro ⟨x, hx, u, hu, hover⟩
      rcases mem_react hsplit hx with hx | hx
      · exact ⟨x, hx, u, hu, hover⟩
      rw [hx] at hu
      split at hu
      · cases hu
      obtain ⟨t, ht, rfl⟩ := Call.stage_of_reaction hk (Option.some.inj hu)
      rw [hc] at ht
      exact ⟨q, hq, t, hh.trans (congrArg some ht), TlsStage.overruns_of_step hover⟩
    have hback₁ := hback ∘ ihin.1
    refine ⟨hback₁ ∘ ihout.1, fun d hd ho => ?_⟩
    rcases List.mem_cons.1 hd with hd | hd
    · obtain ⟨-, t, ht, hover⟩ := ho
      rw [Happening.called.inj hd, hc] at ht hover
      exact ⟨q, hq, t, hh.trans (congrArg some ht), hover⟩
    · rcases List.mem_append.1 hd with hd | hd
      · exact hback (ihin.2 d hd ho)
      · exact hback₁ (ihout.2 d hd ho)

theorem Call.reaction_registered (hk : k.handshake = TlsStage.react m)
    (hsig : c.signal = .inbound .registered) (hclosed : ∀ x, c.handler ≠ .custom x) :
    (c.reaction (Occupant.react k)).handler.unarmed = c.handler.unarmed ∧
      (c.reaction (Occupant.react k)).leaves = false ∧
      (c.reaction (Occupant.react k)).emitted = [.inbound .registered] := by
  obtain ⟨v, sig, x, e⟩ := c
  obtain rfl : sig = .inbound .registered := hsig
  cases x with
  | handshake t =>
    rw [Call.reaction_stage hk rfl]
    exact ⟨rfl, rfl, rfl⟩
  | custom x => exact absurd rfl (hclosed x)
  | _ => exact ⟨rfl, rfl, rfl⟩

theorem Delivers.registration (hk : k.handshake = TlsStage.react m)
    (hd : Delivers (Occupant.react k) now s hops l s')
    (hhops : ∀ hop ∈ hops, hop.signal = .inbound .registered)
    (hclosed : ∀ q ∈ s.places.map Place.unarmed, ∀ x, q.handler ≠ some (.custom x)) :
    s'.places.map Place.unarmed = s.places.map Place.unarmed := by
  induction hd with
  | done s => rfl
  | leave _ _ ih => exact ih (fun hop hhop => hhops hop (List.mem_cons_of_mem _ hhop)) hclosed
  | @call s s₁ s' hop hops inner outer before after q h c _ hsplit hh hc _ _ ihin ihout =>
    have hsig : c.signal = .inbound .registered := by
      rw [hc]
      exact hhops hop List.mem_cons_self
    have hhandler : c.handler = h := by rw [hc]; rfl
    have hcustom : ∀ x, c.handler ≠ .custom x := by
      rintro x hx
      have hq : q ∈ s.places := hsplit ▸ List.mem_append_right _ List.mem_cons_self
      refine hclosed _ (List.mem_map_of_mem hq) x ?_
      rw [Place.unarmed, hh, ← hhandler, hx]
      rfl
    obtain ⟨hsame, hstays, hemitted⟩ := Call.reaction_registered hk hsig hcustom
    have hreact : (s.react before q after (c.reaction (Occupant.react k))).places.map
        Place.unarmed = s.places.map Place.unarmed := by
      rw [hsplit, Scene.react, hstays, if_neg Bool.false_ne_true]
      simp [Place.unarmed, hsame, hhandler, hh]
    have hinner := ihin (fun hop hhop => by
      rw [hemitted, List.map_singleton] at hhop
      rw [List.mem_singleton.1 hhop]
      rfl) (hreact ▸ hclosed)
    have hs₁ := hinner.trans hreact
    have hrest := ihout (fun hop hhop => hhops hop (List.mem_cons_of_mem _ hhop)) (hs₁ ▸ hclosed)
    exact hrest.trans hs₁

theorem Delivers.called_behind (sig : Signal)
    {ahead row rest : List (Place (Occupant (TlsStage ε) ξ))}
    {q : Place (Occupant (TlsStage ε) ξ)} {h : Occupant (TlsStage ε) ξ}
    (hd : Delivers (Occupant.react k) now s (sig.aimedAt (nearest (row ++ q :: rest)) :: hops) l s')
    (hcourse : sig.course s.places = ahead ++ (row ++ q :: rest))
    (hn : (s.places.map (·.id)).Nodup)
    (hrow : ∀ q ∈ row, ∃ h, q.handler = some h ∧ h.Relays) (hq : q.handler = some h) :
    ∃ c, .called c ∈ l ∧ c.signal = sig ∧ c.handler = h ∧ c.view.now = now := by
  obtain ⟨s₁, l₁, hsuffix, ⟨hplaces, -, -⟩, hd₁⟩ := Delivers.passes sig hd hcourse hn hrow
  rw [← hplaces] at hcourse hn
  have hmem : q ∈ s₁.places := by
    have hmem : q ∈ sig.course s₁.places := by rw [hcourse]; simp
    cases sig with
    | inbound => exact hmem
    | outbound => exact List.mem_reverse.1 hmem
  obtain ⟨before, after, hsplit⟩ := List.append_of_mem hmem
  rw [← List.append_assoc] at hcourse
  obtain ⟨l₂, rfl, -⟩ := hd₁.calls_stage hsplit hq hcourse hn
  exact ⟨_, hsuffix.subset List.mem_cons_self, rfl, rfl, rfl⟩

end Dispatches

section Openings

variable {κ β ε ξ ω : Type} [TlsContext κ (TlsStage ε)] {o : ConnectOptions κ β (TlsStage ε)}
  {ssl : SslConfiguration κ β (TlsStage ε)} {channel : Channel}
  {p : Pipeline (Occupant (TlsStage ε) ξ)} {now : Instant}

/-- An assembled chain: its handshake stage is the only one, with only relays in front of it. -/
structure Staged (t : TlsStage ε) (p : Pipeline (Occupant (TlsStage ε) ξ)) : Prop where
  wellFormed : p.WellFormed
  split : ∃ row id rest,
    p.stages.map Place.ofStage = row ++ ⟨id, .ssl, some (.handshake t)⟩ :: rest ∧
    ∀ q ∈ row, ∃ h, q.handler = some h ∧ h.Relays
  only : ∀ q ∈ p.stages.map Place.ofStage, ∀ u, q.handler = some (.handshake u) → u = t
  closed : ∀ q ∈ (p.stages.map Place.ofStage).map Place.unarmed, ∀ x, q.handler ≠ some (.custom x)

theorem securedChain_cases {wiretap debug metrics : Bool} {t : TlsStage ε} :
    ∀ x ∈ (securedChain wiretap debug metrics t :
        List (StageName × Option (Occupant (TlsStage ε) ξ))),
      ∃ h, x.2 = some h ∧ (h = .handshake t ∨ h = .observer .unarmed ∨ h.Relays) := by
  cases wiretap <;> cases debug <;> cases metrics <;> simp [securedChain, Occupant.Relays]

theorem staged_of_assemble (hssl : o.ssl = some ssl) (hp : o.assemble channel = .ok p) :
    ∃ t, TlsContext.newHandler ssl.context.value
        (channel.remote.bind RemoteAddress.sniTarget?) = .ok t ∧
      Staged (ssl.configure t) p ∧ p.get? .ssl = some (.handshake (ssl.configure t)) := by
  obtain ⟨-, -, -, t, ht, hstages⟩ := assemble_spec hssl hp
  have hplaces : (p.stages.map Place.ofStage).map (fun q => (q.name, q.handler)) =
      securedChain o.wiretap o.sslDebug o.metrics (ssl.configure t) := by
    rw [← hstages, List.map_map]
    rfl
  have hentries : ∀ q ∈ p.stages.map Place.ofStage, (q.name, q.handler) ∈
      (securedChain o.wiretap o.sslDebug o.metrics (ssl.configure t) :
        List (StageName × Option (Occupant (TlsStage ε) ξ))) :=
    fun q hq => hplaces ▸ List.mem_map_of_mem hq
  refine ⟨t, ht, ⟨assemble_wellFormed hp, ?_, ?_, ?_⟩, ?_⟩
  · -- the handshake stage, with relays in front of it
    obtain ⟨head, reader, hsplit, hhead, -⟩ := List.map_eq_append_iff.1 hplaces
    obtain ⟨row, tail, rfl, hrow, htail⟩ := List.map_eq_append_iff.1 hhead
    obtain ⟨⟨id, n, x⟩, mid, rfl, hstage, -⟩ := List.map_eq_cons_iff.1 htail
    obtain ⟨rfl, rfl⟩ := Prod.mk.inj hstage
    have hrelays := relays_of_map hrow (by
      cases o.wiretap <;> cases o.sslDebug <;> simp [Occupant.Relays])
    exact ⟨row, id, mid ++ reader, by rw [hsplit, List.append_assoc]; rfl,
      fun q hq => (hrelays q hq).1⟩
  · intro q hq u hu
    obtain ⟨h, hh, rfl | rfl | hr⟩ := securedChain_cases _ (hentries q hq)
    · exact (Occupant.handshake.inj (Option.some.inj (hh.symm.trans hu))).symm
    · cases hh.symm.trans hu
    · obtain rfl := Option.some.inj (hh.symm.trans hu)
      exact hr.elim
  · -- and no stage of any other kind
    intro q' hq' x hx
    obtain ⟨q, hq, rfl⟩ := List.mem_map.1 hq'
    obtain ⟨h, hh, hcases⟩ := securedChain_cases _ (hentries q hq)
    obtain ⟨h', hh', hcustom⟩ := Option.map_eq_some_iff.1 hx
    obtain rfl := Option.some.inj (hh.symm.trans hh')
    cases h with
    | custom y => simp [Occupant.Relays] at hcases
    | _ => cases hcustom
  · have hget : p.get? .ssl =
        ((p.stages.map fun st => (st.name, st.slot)).find? (·.1 == .ssl)).bind (·.2) := by
      rw [List.find?_map, Option.bind_map]
      rfl
    rw [hget, hstages]
    cases o.wiretap <;> cases o.sslDebug <;> rfl

end Openings

theorem Pipeline.WellFormed.stands {σ : Type} {p : Pipeline σ} (hw : p.WellFormed) :
    ∀ x ∈ p.stages.map Place.ofStage, x.stands = true := by
  intro x hx
  obtain ⟨st, hst, rfl⟩ := List.mem_map.1 hx
  exact Option.isSome_iff_exists.2 (hw.full st hst)

namespace Staged

variable {ε ξ ω : Type} {p q : Pipeline (Occupant (TlsStage ε) ξ)} {t : TlsStage ε} {now : Instant}

theorem unready_iff (ha : Staged t p) :
    Unready now (p.stages.map Place.ofStage) ↔ Deadlined.overruns now t = true := by
  constructor
  · rintro ⟨x, hx, u, hu, hover⟩
    exact ha.only x hx u hu ▸ hover
  · intro hover
    obtain ⟨row, id, rest, hsplit, -⟩ := ha.split
    exact ⟨⟨id, .ssl, some (.handshake t)⟩, by rw [hsplit]; simp, t, rfl, hover⟩

theorem of_unarmed (ha : Staged t p) (hw : q.WellFormed)
    (hsame : (q.stages.map Place.ofStage).map Place.unarmed =
      (p.stages.map Place.ofStage).map Place.unarmed) : Staged t q := by
  have horigin : ∀ x ∈ q.stages.map Place.ofStage, ∃ y ∈ p.stages.map Place.ofStage,
      x.unarmed = y.unarmed := by
    intro x hx
    have hmem := List.mem_map_of_mem (f := Place.unarmed) hx
    rw [hsame] at hmem
    obtain ⟨y, hy, heq⟩ := List.mem_map.1 hmem
    exact ⟨y, hy, heq.symm⟩
  refine ⟨hw, ?_, fun x hx u hu => ?_, hsame ▸ ha.closed⟩
  · -- apart from the observer every place is the one it was
    obtain ⟨row, id, rest, hsplit, hrow⟩ := ha.split
    rw [hsplit, List.map_append, List.map_cons] at hsame
    obtain ⟨row', tail, hq, hrow', htail⟩ := List.map_eq_append_iff.1 hsame
    obtain ⟨stage, rest', rfl, hstage, -⟩ := List.map_eq_cons_iff.1 htail
    rw [hq, Place.eq_of_unarmed hstage rfl nofun]
    refine ⟨row', id, rest', rfl, fun x hx => ?_⟩
    have hmem := List.mem_map_of_mem (f := Place.unarmed) hx
    rw [hrow'] at hmem
    obtain ⟨y, hy, heq⟩ := List.mem_map.1 hmem
    obtain ⟨h, hh, hr⟩ := hrow y hy
    rw [Place.eq_of_unarmed heq.symm hh hr.ne_observer]
    exact ⟨h, hh, hr⟩
  · obtain ⟨y, hy, heq⟩ := horigin x hx
    rw [← Place.eq_of_unarmed heq.symm hu nofun] at hu
    exact ha.only y hy u hu

variable [Recorder ω] {m : EngineModel ε} {k : StageKit (TlsStage ε) ξ ω} {e e' : Env ω}

theorem registered (ha : Staged t p) (hk : k.handshake = TlsStage.react m)
    (hq : p.fire k.behaviour now .registered e = some (q, e')) : Staged t q := by
  have hw := ha.wellFormed.fire hq
  obtain ⟨s, hd, rfl, -⟩ := ha.wellFormed.delivers hq
  have hsame : s.places.map Place.unarmed = (p.stages.map Place.ofStage).map Place.unarmed := by
    refine Delivers.registration hk hd (fun hop hhop => ?_) ha.closed
    rw [List.mem_singleton.1 hhop]
    rfl
  have hstands : ∀ x ∈ s.places, x.stands = true := by
    intro x hx
    have hmem := List.mem_map_of_mem (f := Place.unarmed) hx
    rw [hsame] at hmem
    obtain ⟨y, hy, heq⟩ := List.mem_map.1 hmem
    have hunarmed : ∀ z : Place (Occupant (TlsStage ε) ξ), z.unarmed.stands = z.stands :=
      fun z => Option.isSome_map
    rw [← hunarmed, ← heq, hunarmed]
    exact ha.wellFormed.stands y hy
  refine ha.of_unarmed hw ?_
  rw [Scene.pipeline, ofStage_stages, List.filter_eq_self.2 hstands]
  exact hsame

theorem activated (ha : Staged t p) (hq : p.fire k.behaviour now .active e = some (q, e')) :
    ∃ c, .called c ∈ p.history k.behaviour now (.inbound (idAt p.stages 0) .active) e ∧
      c.signal = .inbound .active ∧ c.handler = .handshake t ∧ c.view.now = now := by
  obtain ⟨s, hd, -, -⟩ := ha.wellFormed.delivers hq
  obtain ⟨row, id, rest, hsplit, hrow⟩ := ha.split
  rw [idAt_zero_of_stands ha.wellFormed.stands, hsplit] at hd
  have hcourse : (Signal.inbound .active).course (Scene.ofPipeline p e).places =
      [] ++ (row ++ ⟨id, .ssl, some (.handshake t)⟩ :: rest) := hsplit
  rw [idAt_zero_of_stands ha.wellFormed.stands, hsplit]
  exact Delivers.called_behind (.inbound .active) hd hcourse ha.wellFormed.ids_places hrow rfl

/-- A call of the first dispatches panics just when the stage cannot be activated. -/
theorem overruns_iff (ha : Staged t p) (hk : k.handshake = TlsStage.react m)
    (hq : p.fireAll k.behaviour now [.registered, .active] e = some (q, e')) :
    (∃ c, .called c ∈ p.fireHistory k.behaviour now [.registered, .active] e ∧ c.Overruns) ↔
      Deadlined.overruns now t = true := by
  obtain ⟨⟨p₁, e₁⟩, hp₁, hrest⟩ := Option.bind_eq_some_iff.1 hq
  obtain ⟨⟨p₂, e₂⟩, hp₂, -⟩ := Option.bind_eq_some_iff.1 hrest
  have ha₁ : Staged t p₁ := ha.registered hk hp₁
  have hhistory : p.fireHistory k.behaviour now [.registered, .active] e =
      p.history k.behaviour now (.inbound (idAt p.stages 0) .registered) e ++
        p₁.history k.behaviour now (.inbound (idAt p₁.stages 0) .active) e₁ := by
    simp only [Pipeline.fireHistory, hp₁, hp₂, List.append_nil]
  rw [hhistory]
  constructor
  · rintro ⟨c, hc, hover⟩
    rcases List.mem_append.1 hc with hc | hc
    · obtain ⟨s, hd, -⟩ := ha.wellFormed.delivers hp₁
      exact ha.unready_iff.1 ((Delivers.unready hk hd).2 c hc hover)
    · obtain ⟨s, hd, -⟩ := ha₁.wellFormed.delivers hp₂
      exact ha₁.unready_iff.1 ((Delivers.unready hk hd).2 c hc hover)
  · intro hover
    obtain ⟨c, hc, hsig, hhandler, hnow⟩ := ha₁.activated hp₂
    exact ⟨c, List.mem_append_right _ hc, hsig, t, hhandler, hnow ▸ hover⟩

end Staged

section Settings

variable {κ β ε : Type} [ContextBuilder β κ] {d : Span} {c : SslConfiguration κ β (TlsStage ε)}
  {t : TlsStage ε}

theorem SslConfigurationBuilder.isOk_build (b : SslConfigurationBuilder κ β (TlsStage ε))
    (timing : TimingPolicy) (customizer : Option (Shared (TlsStage ε → TlsStage ε)))
    (serial : Nat) :
    ({ b with timing, customizer }.build serial).isOk = (b.build serial).isOk := by
  obtain ⟨source, profile, _, _, error⟩ := b
  cases error with
  | some e => rfl
  | none =>
    cases source with
    | none => rfl
    | some source =>
      simp only [build]
      cases resolveSource profile serial source <;> rfl

/-- The length of time is the handshake limit of new stages: as a setting, or by the primary
customizer, which runs last and sets it alone or with the other two. -/
inductive HandshakeLimit (d : Span) : SslConfiguration κ β (TlsStage ε) → Prop
  | setting {b : SslConfigurationBuilder κ β (TlsStage ε)} {serial : Nat}
    {c : SslConfiguration κ β (TlsStage ε)} : b.customizer = none →
    (b.handshakeTimeout d).build serial = .ok c → HandshakeLimit d c
  | customizer {b : SslConfigurationBuilder κ β (TlsStage ε)} {serial : Nat}
    {c : SslConfiguration κ β (TlsStage ε)} (id : Nat) :
    (b.handlerCustomizer
      ⟨id, fun t => withTiming { timing t with handshake := d } t⟩).build serial = .ok c →
    HandshakeLimit d c
  | policy {b : SslConfigurationBuilder κ β (TlsStage ε)} {serial : Nat}
    {c : SslConfiguration κ β (TlsStage ε)} (id : Nat) (flush read : Span) :
    (b.handlerCustomizer ⟨id, withTiming ⟨d, flush, read⟩⟩).build serial = .ok c →
    HandshakeLimit d c

theorem HandshakeLimit.configure (h : HandshakeLimit d c) (ht : t.state = .idle) :
    (c.configure t).state = .idle ∧ (c.configure t).timing.handshake = d := by
  cases h with
  | setting hnone hbuild =>
    obtain ⟨_, -, -, hholds⟩ := SslConfigurationBuilder.holds_of_build hbuild
    have hcustomizers : c.customizers = [] := by
      rw [hholds.customizers]
      exact congrArg (fun x => (x.map Shared.value).toList) hnone
    rw [SslConfiguration.configure, hcustomizers, hholds.timing]
    exact ⟨ht, rfl⟩
  | customizer id hbuild =>
    obtain ⟨_, -, -, hholds⟩ := SslConfigurationBuilder.holds_of_build hbuild
    rw [SslConfiguration.configure, hholds.customizers]
    exact ⟨ht, rfl⟩
  | policy id flush read hbuild =>
    obtain ⟨_, -, -, hholds⟩ := SslConfigurationBuilder.holds_of_build hbuild
    rw [SslConfiguration.configure, hholds.customizers]
    exact ⟨ht, rfl⟩

end Settings

theorem Launch.ofOption_ne_panicked {η ξ ω : Type} (a : Option (Advance η ξ ω))
    (message : String) : Launch.ofOption a ≠ .panicked message := by
  intro h
  cases a with
  | none => cases h
  | some a => cases h

namespace Connection

variable {κ β ε ξ ω : Type} [ContextBuilder β κ] [TlsContext κ (TlsStage ε)] [Recorder ω]
  [Secured (TlsStage ε)] {m : EngineModel ε} {k : StageKit (TlsStage ε) ξ ω} {now : Instant}
  {o : ConnectOptions κ β (TlsStage ε)} {ssl : SslConfiguration κ β (TlsStage ε)} {id : Nat}
  {remote : RemoteAddress} {env : Env ω} {d : Span}

omit [ContextBuilder β κ] in
theorem launch_panics_iff {p : Pipeline (Occupant (TlsStage ε) ξ)} {t : TlsStage ε}
    (hp : o.assemble ⟨id, some remote⟩ = .ok p) (ht : p.get? .ssl = some (.handshake t)) :
    launch k now o id remote env = .panicked Instant.overflowMessage ↔
      Deadlined.overruns now t = true := by
  have hstage : (start now o remote p env : Connection (TlsStage ε) ξ ω).handshake? = some t := by
    have hget : (start now o remote p env : Connection (TlsStage ε) ξ ω).pipeline.get? .ssl =
        some (.handshake t) := ht
    rw [handshake?, hget]
  rw [launch, hp]
  simp only [overruns, hstage, Option.any_some]
  cases Deadlined.overruns now t with
  | true => exact iff_of_true rfl rfl
  | false => exact iff_of_false (Launch.ofOption_ne_panicked _ _) Bool.false_ne_true

/-- No setting looks at how long a length of time is. An opening panics over its handshake limit
just when there is one and its end is past what the clock can hold, in the call that activates the
handshake stage; an acquire that joins the queue of a pool panics just when the end of its wait is.
Neither does for anything less than half the range of the clock, and both do for anything beyond
that range. -/
theorem panics_iff_past_clock (hk : k.handshake = TlsStage.react m)
    (hnew : ∀ (context : κ) sni t, TlsContext.newHandler context sni = .ok t → t.state = .idle)
    (d : Span) (now : Instant) :
    (∀ (b : SslConfigurationBuilder κ β (TlsStage ε)) f serial,
      ((b.handshakeTimeout d).build serial).isOk = (b.build serial).isOk ∧
        ((b.handlerCustomizer f).build serial).isOk = (b.build serial).isOk) ∧
    (∀ (o : ConnectOptions κ β (TlsStage ε)) ssl id remote (env : Env ω)
        (p : Pipeline (Occupant (TlsStage ε) ξ)),
      HandshakeLimit d ssl → o.ssl = some ssl → o.assemble ⟨id, some remote⟩ = .ok p →
      (launch k now o id remote env = .panicked Instant.overflowMessage ↔
        0 < d.nanos ∧ ¬(now.after d).Representable) ∧
      ∀ a, establish k now o id remote env = some a →
        ((∃ c, .called c ∈ openingHistory k now o id remote env [] ∧ c.Overruns) ↔
          0 < d.nanos ∧ ¬(now.after d).Representable)) ∧
    (∀ (α : Type) (b : ConnectionProviderBuilder) id remote (p : ConnectionPool α),
      ConnectionPool.Reachable id remote
        ((b.pendingAcquireTimeout d).build : ConnectionProvider α).limits p →
      (p.waitUntil? now = none ↔ ¬(now.after d).Representable)) ∧
    (now.Realistic → d.seconds < 4_611_686_018_427_387_904 → (now.after d).Representable) ∧
    (9_223_372_036_854_775_808 ≤ d.seconds → ¬(now.after d).Representable) := by
  refine ⟨fun b f serial => ?_, fun o ssl id remote env p hlimit hssl hp => ?_,
    fun α b id remote p hp => ?_, Instant.representable_after_short,
    Instant.not_representable_after_long now⟩
  · exact ⟨b.isOk_build _ b.customizer serial, b.isOk_build b.timing (some f) serial⟩
  · obtain ⟨t, ht, hstaged, hstage⟩ := staged_of_assemble hssl hp
    obtain ⟨hidle, hd⟩ := hlimit.configure (hnew _ _ t ht)
    -- the clock matters only to a stage that is idle when it is activated, as a new one is
    have hover : Deadlined.overruns now (ssl.configure t) = true ↔
        0 < d.nanos ∧ ¬(now.after d).Representable := by
      rw [TlsStage.overruns_iff, TimingPolicy.overruns_iff, hd]
      exact and_iff_right hidle
    refine ⟨(launch_panics_iff hp hstage).trans hover, fun a ha => ?_⟩
    have hopened : (start now o remote p env).opened k now = some a := by
      rw [establish, hp] at ha
      exact ha
    rw [opened_eq] at hopened
    obtain ⟨⟨q, e⟩, hall, -⟩ := Option.bind_eq_some_iff.1 hopened
    have hhistory : openingHistory k now o id remote env [] =
        p.fireHistory k.behaviour now [.registered, .active] env := by
      rw [openingHistory, hp]
      cases establish k now o id remote env <;> simp [followHistory]
    rw [hhistory]
    exact (hstaged.overruns_iff hk hall).trans hover
  · rw [ConnectionPool.waitUntil?, hp.limits_eq]
    exact Instant.after?_eq_none_iff

/-- The longest length of time there is, to the second. -/
def forever : Span := .ofSeconds 18_446_744_073_709_551_615

def bareBuilder : SslConfigurationBuilder EngineContext EngineBuilder (TlsStage Session) :=
  (SslConfigurationBuilder.new .library).tlsContext ⟨0, ⟨[], [], .server [] ⟨.ed25519, []⟩, 0⟩⟩

def patientOptions : ConnectOptions EngineContext EngineBuilder (TlsStage Session) where
  ssl := ((bareBuilder.handshakeTimeout forever).build 0).toOption

/-- A provider whose pools have no room, and whose clients wait for ever. -/
def crampedProvider : ConnectionProvider Empty :=
  ({ ConnectionProviderBuilder.start "cramped" with
      limits := ⟨some 0, none, .zero⟩ }.pendingAcquireTimeout forever).build

theorem EngineContext.idle_of_newHandler (context : EngineContext) (sni : Option SniTarget)
    (t : TlsStage Session) (h : TlsContext.newHandler context sni = .ok t) : t.state = .idle := by
  have hmap : (context.newSession sni).map TlsStage.new = .ok t := h
  cases hsession : context.newSession sni with
  | error e =>
    rw [hsession] at hmap
    cases hmap
  | ok session =>
    rw [hsession] at hmap
    rw [← Except.ok.inj hmap]
    rfl

theorem panics_iff_past_clock_of_forever :
    ((bareBuilder.handshakeTimeout forever).build 0).isOk = true ∧
      launch (.closed (TlsStage.react sessionEngine)) 0 patientOptions 0 (.opaqueName "peer")
        (⟨[], ()⟩ : Env Unit) = .panicked Instant.overflowMessage ∧
      ∃ c, .called c ∈ openingHistory (.closed (TlsStage.react sessionEngine)) 0 patientOptions 0
        (.opaqueName "peer") (⟨[], ()⟩ : Env Unit) [] ∧ c.Overruns := by
  obtain ⟨c, hc⟩ : ∃ c, (bareBuilder.handshakeTimeout forever).build 0 = .ok c := ⟨_, rfl⟩
  have hssl : patientOptions.ssl = some c := congrArg Except.toOption hc
  obtain ⟨p, hp⟩ : ∃ p : Pipeline (Occupant (TlsStage Session) Empty),
      patientOptions.assemble ⟨0, some (.opaqueName "peer")⟩ = .ok p := ⟨_, rfl⟩
  obtain ⟨a, ha⟩ := Option.isSome_iff_exists.1 (by decide +kernel :
    (establish (.closed (TlsStage.react sessionEngine)) 0 patientOptions 0 (.opaqueName "peer")
      (⟨[], ()⟩ : Env Unit)).isSome = true)
  obtain ⟨-, hopens, -, -, hlong⟩ := panics_iff_past_clock (β := EngineBuilder) (ω := Unit)
    (k := .closed (TlsStage.react sessionEngine)) rfl EngineContext.idle_of_newHandler forever 0
  have hpast : 0 < forever.nanos ∧ ¬(Instant.after 0 forever).Representable :=
    ⟨by decide, hlong (by decide)⟩
  obtain ⟨hpanics, hcalled⟩ :=
    hopens patientOptions c 0 (.opaqueName "peer") ⟨[], ()⟩ p (.setting rfl hc) hssl hp
  exact ⟨rfl, hpanics.2 hpast, (hcalled a ha).2 hpast⟩

/-- The settings take it, and both panic. -/
theorem forever_panics : forever.seconds < 18_446_744_073_709_551_616 ∧
    ((bareBuilder.handshakeTimeout forever).build 0).isOk = true ∧
    launch (.closed (TlsStage.react sessionEngine)) 0 patientOptions 0 (.opaqueName "peer")
      (⟨[], ()⟩ : Env Unit) = .panicked "overflow when adding duration to instant" ∧
    (((Clients.ofProvider crampedProvider).acquire "client" (.opaqueName "peer")).run
      (Opening.ofNetwork Network.unreachable Empty.elim .zero false)).panicked = true :=
  ⟨by decide, rfl, rfl, by decide +kernel⟩

end Connection
end SecureGateway

import SecureGateway.Proofs.Connection.Handshake

namespace SecureGateway

section Layouts

variable {η ξ : Type} {L : Layout η ξ} {t : η} {o : ObserverState}

theorem relays_of_map {row : List (Place (Occupant η ξ))}
    {entries : List (StageName × Option (Occupant η ξ))}
    (h : row.map (fun q => (q.name, q.handler)) = entries)
    (he : ∀ x ∈ entries, (∃ y, x.2 = some y ∧ y.Relays) ∧ x.1 ≠ .channelMetrics) :
    ∀ q ∈ row, (∃ y, q.handler = some y ∧ y.Relays) ∧ q.name ≠ .channelMetrics := by
  intro q hq
  exact he (q.name, q.handler) (h ▸ List.mem_map_of_mem hq)

/-- A secured chain with byte counts is laid out around its handshake stage and its observer. -/
theorem exists_layout {places : List (Place (Occupant η ξ))} {wiretap debug : Bool}
    (h : places.map (fun q => (q.name, q.handler)) = securedChain wiretap debug true t)
    (hids : (places.map (·.id)).Nodup) :
    ∃ L : Layout η ξ, L.Sound ∧ places = L.places t .unarmed := by
  rw [securedChain, if_pos rfl] at h
  obtain ⟨head, reader, rfl, hhead, hreader⟩ := List.map_eq_append_iff.1 h
  obtain ⟨front, rest, rfl, hfront, hrest⟩ := List.map_eq_append_iff.1 hhead
  obtain ⟨⟨i, n, x⟩, mid, rfl, hstage, hmid⟩ := List.map_eq_cons_iff.1 hrest
  obtain ⟨⟨j, n', x'⟩, back, rfl, hobserver, hback⟩ := List.map_eq_cons_iff.1 hreader
  obtain ⟨⟨b, n'', x''⟩, none', rfl, hmetrics, hnone⟩ := List.map_eq_cons_iff.1 hback
  obtain rfl := List.map_eq_nil_iff.1 hnone
  obtain ⟨rfl, rfl⟩ := Prod.mk.inj hstage
  obtain ⟨rfl, rfl⟩ := Prod.mk.inj hobserver
  obtain ⟨rfl, rfl⟩ := Prod.mk.inj hmetrics
  -- relays in front of the stage and between it and the observer, the counter behind
  let L : Layout η ξ := ⟨front, i, mid, j, [⟨b, .channelMetrics, some .metrics⟩]⟩
  have hplaces : front ++ ⟨i, .ssl, some (.handshake t)⟩ :: mid ++
      [⟨j, .sslReader, some (.observer .unarmed)⟩, ⟨b, .channelMetrics, some .metrics⟩] =
        L.places t .unarmed := by
    simp [L, Layout.places, Layout.stage, Layout.observer]
  have hfront' := relays_of_map hfront (by
    cases wiretap <;> cases debug <;> simp [Occupant.Relays])
  have hmid' := relays_of_map hmid (by cases wiretap <;> simp [Occupant.Relays])
  refine ⟨L, ⟨fun q hq => (hfront' q hq).1, fun q hq => (hmid' q hq).1, ?_, ?_, ?_, rfl⟩, hplaces⟩
  · intro q hq
    rw [List.mem_singleton.1 hq]
    exact ⟨.metrics, rfl, trivial⟩
  · rw [← L.ids_places t .unarmed, ← hplaces]
    exact hids
  · intro q hq
    rcases List.mem_append.1 hq with hq | hq
    · exact (hfront' q hq).2
    · exact (hmid' q hq).2

theorem Layout.Sound.stands (hL : L.Sound) : ∀ q ∈ L.places t o, q.stands = true := by
  have hrelays : ∀ q : Place (Occupant η ξ), (∃ h, q.handler = some h ∧ h.Relays) →
      q.stands = true := by
    rintro q ⟨h, hh, -⟩
    exact Option.isSome_iff_exists.2 ⟨h, hh⟩
  intro q hq
  simp only [Layout.places, List.mem_append, List.mem_cons] at hq
  rcases hq with hq | rfl | hq | rfl | hq
  · exact hrelays q (hL.front q hq)
  · rfl
  · exact hrelays q (hL.mid q hq)
  · rfl
  · exact hrelays q (hL.back q hq)

theorem Layout.Sound.stages_eq {ω : Type} (hL : L.Sound) {s : Scene (Occupant η ξ) ω}
    (hs : s.places = L.places t o) : s.pipeline.stages.map Place.ofStage = L.places t o := by
  rw [Scene.pipeline, ofStage_stages, hs]
  exact List.filter_eq_self.2 hL.stands

theorem idAt_zero_of_stands {stages : List (Stage (Occupant η ξ))}
    (h : ∀ q ∈ stages.map Place.ofStage, q.stands = true) :
    idAt stages 0 = nearest (stages.map Place.ofStage) := by
  rw [idAt_zero]
  cases hrow : stages.map Place.ofStage with
  | nil => rfl
  | cons q row =>
    have hstands : q.stands = true := h q (hrow ▸ List.mem_cons_self)
    obtain ⟨x, hx⟩ := Option.isSome_iff_exists.1 hstands
    exact (nearest_cons_of_stands hx row).symm

end Layouts

section Scenes

variable {η ξ ω : Type} {s s₁ s' : Scene (Occupant η ξ) (Env ω)} {out : HandshakeOutcome}

/-- From one scene to another there was no observer to measure anything. -/
structure Spent (s s' : Scene (Occupant η ξ) (Env ω)) : Prop where
  channel : s'.ends.channel = s.ends.channel
  tail : ∃ ys, s'.ends.tail = s.ends.tail ++ ys
  handshakes : s'.world.handshakes = s.world.handshakes
  unwatched : Unwatched s'

theorem Spent.refl (h : Unwatched s) : Spent s s :=
  ⟨rfl, ⟨[], (List.append_nil _).symm⟩, rfl, h⟩

theorem Spent.trans (h₁ : Spent s s₁) (h₂ : Spent s₁ s') : Spent s s' := by
  obtain ⟨ys, htail₁⟩ := h₁.tail
  obtain ⟨zs, htail₂⟩ := h₂.tail
  refine ⟨h₂.channel.trans h₁.channel, ⟨ys ++ zs, ?_⟩, h₂.handshakes.trans h₁.handshakes,
    h₂.unwatched⟩
  rw [htail₂, htail₁, List.append_assoc]

theorem Concluded.spent (h₁ : Concluded out s s₁) (h₂ : Spent s₁ s') : Concluded out s s' := by
  obtain ⟨xs, ys, htail₁, hxs⟩ := h₁.tail
  obtain ⟨zs, htail₂⟩ := h₂.tail
  obtain ⟨elapsed, hrecords⟩ := h₁.handshakes
  refine ⟨h₂.channel.trans h₁.channel, ⟨xs, ys ++ zs, ?_, hxs⟩, ⟨elapsed, ?_⟩, h₂.unwatched⟩
  · rw [htail₂, htail₁]
    simp
  · rw [h₂.handshakes, hrecords]

theorem Quiet.settle (h : Quiet s s') : Quiet s (.ofPipeline s'.pipeline s'.world) :=
  ⟨h.channel, h.tail, h.close, h.handshakes⟩

theorem Unwatched.settle (h : Unwatched s) : Unwatched (.ofPipeline s.pipeline s.world) := by
  intro q hq
  have hmem : q ∈ s.places.filter Place.stands := by
    rw [← ofStage_stages]
    exact hq
  exact h q (List.mem_filter.1 hmem).1

theorem Concluded.settle (h : Concluded out s s') :
    Concluded out s (.ofPipeline s'.pipeline s'.world) :=
  ⟨h.channel, h.tail, h.handshakes, h.unwatched.settle⟩

end Scenes

section Dispatches

variable {ε ξ ω : Type} [Recorder ω] {m : EngineModel ε} {k : StageKit (TlsStage ε) ξ ω}
  {now started : Instant} {p q : Pipeline (Occupant (TlsStage ε) ξ)} {e e' : Env ω} {sig : Inbound}
  {sigs : List Inbound} {L : Layout (TlsStage ε) ξ} {t : TlsStage ε} {o : ObserverState}

theorem Pipeline.WellFormed.fire (hw : p.WellFormed)
    (hq : p.fire k.behaviour now sig e = some (q, e')) : q.WellFormed := by
  obtain ⟨s, hd, rfl, -⟩ := hw.delivers hq
  exact hw.of_delivers hd

theorem Pipeline.WellFormed.fireAll (hw : p.WellFormed)
    (hq : p.fireAll k.behaviour now sigs e = some (q, e')) : q.WellFormed := by
  induction sigs generalizing p e with
  | nil =>
    obtain ⟨rfl, rfl⟩ := Prod.mk.inj (Option.some.inj hq)
    exact hw
  | cons s sigs ih =>
    obtain ⟨⟨p₁, e₁⟩, hp₁, hrest⟩ := Option.bind_eq_some_iff.1 hq
    exact ih (hw.fire hp₁) hrest

theorem delivers_of_fire (hL : L.Sound) (hw : p.WellFormed)
    (hp : p.stages.map .ofStage = L.places t o)
    (hq : p.fire k.behaviour now sig e = some (q, e')) :
    ∃ s l, Delivers (Occupant.react k) now (.ofPipeline p e) [.inbound (nearest (L.places t o)) sig]
        l s ∧ s.pipeline = q ∧ s.world = e' := by
  obtain ⟨s, hd, hs⟩ := hw.delivers hq
  have hfirst : idAt p.stages 0 = nearest (p.stages.map Place.ofStage) :=
    idAt_zero_of_stands (hp ▸ hL.stands)
  rw [hfirst, hp] at hd
  exact ⟨s, _, hd, hs⟩

theorem fire_registered (hk : k.handshake = TlsStage.react m) (hL : L.Sound) (hw : p.WellFormed)
    (hp : p.stages.map .ofStage = L.places t .unarmed)
    (hq : p.fire k.behaviour now .registered e = some (q, e')) :
    q.stages.map .ofStage = L.places t (.armed now true) ∧
      Quiet (.ofPipeline p e) (.ofPipeline q e') := by
  obtain ⟨s, l, hd, rfl, rfl⟩ := delivers_of_fire hL hw hp hq
  obtain ⟨hs, hquiet⟩ := hd.registers hk hL hp
  exact ⟨hL.stages_eq hs, hquiet.settle⟩

/-- The handshake of a pipeline is under way and will be measured. -/
def Layout.Engaged (L : Layout (TlsStage ε) ξ) (p : Pipeline (Occupant (TlsStage ε) ξ)) : Prop :=
  ∃ (t : TlsStage ε) (started : Instant), t.isHandshaking = true ∧
    p.stages.map .ofStage = L.places t (.armed started true)

/-- A signal from outside leaves the handshake under way, or has it completed and measured. -/
theorem fire_engaged (hk : k.handshake = TlsStage.react m) (hL : L.Sound) (hw : p.WellFormed)
    (hp : p.stages.map .ofStage = L.places t (.armed started true)) (hsig : sig.Outer)
    (ht : t.Engaged sig) (hq : p.fire k.behaviour now sig e = some (q, e')) :
    (sig ≠ .inactive ∧ L.Engaged q ∧ Quiet (.ofPipeline p e) (.ofPipeline q e')) ∨
      ∃ out, Concluded out (.ofPipeline p e) (.ofPipeline q e') := by
  obtain ⟨s, l, hd, rfl, rfl⟩ := delivers_of_fire hL hw hp hq
  rcases hd.engaged hk hL hp hsig ht with ⟨hne, u, hu, hs, hquiet⟩ | ⟨out, hconcluded⟩
  · exact .inl ⟨hne, ⟨u, started, hu, hL.stages_eq hs⟩, hquiet.settle⟩
  · exact .inr ⟨out, hconcluded.settle⟩

theorem fire_spent (hw : p.WellFormed) (hp : Unwatched (.ofPipeline p e))
    (hq : p.fire k.behaviour now sig e = some (q, e')) :
    Spent (.ofPipeline p e) (.ofPipeline q e') := by
  obtain ⟨s, hd, rfl, rfl⟩ := hw.delivers hq
  have hd' : Delivers (Occupant.react k) now (.ofPipeline p e) _ _ s := hd
  obtain ⟨hs, hrecords⟩ := hd'.unwatched hp
  exact ⟨hd'.channel_eq, ⟨_, hd'.tail_eq⟩, hrecords, hs.settle⟩

theorem fireAll_spent (hw : p.WellFormed) (hp : Unwatched (.ofPipeline p e))
    (hq : p.fireAll k.behaviour now sigs e = some (q, e')) :
    Spent (.ofPipeline p e) (.ofPipeline q e') := by
  induction sigs generalizing p e with
  | nil =>
    obtain ⟨rfl, rfl⟩ := Prod.mk.inj (Option.some.inj hq)
    exact .refl hp
  | cons s sigs ih =>
    obtain ⟨⟨p₁, e₁⟩, hp₁, hrest⟩ := Option.bind_eq_some_iff.1 hq
    have hspent : Spent (.ofPipeline p e) (.ofPipeline p₁ e₁) := fire_spent hw hp hp₁
    exact hspent.trans (ih (hw.fire hp₁) hspent.unwatched hrest)

theorem fireAll_engaged (hk : k.handshake = TlsStage.react m) (hL : L.Sound) (hw : p.WellFormed)
    (hp : L.Engaged p) (hsigs : ∀ s ∈ sigs, s.Outer)
    (hq : p.fireAll k.behaviour now sigs e = some (q, e')) :
    (.inactive ∉ sigs ∧ L.Engaged q ∧ Quiet (.ofPipeline p e) (.ofPipeline q e')) ∨
      ∃ out, Concluded out (.ofPipeline p e) (.ofPipeline q e') := by
  induction sigs generalizing p e with
  | nil =>
    obtain ⟨rfl, rfl⟩ := Prod.mk.inj (Option.some.inj hq)
    exact .inl ⟨List.not_mem_nil, hp, .refl _⟩
  | cons s sigs ih =>
    obtain ⟨⟨p₁, e₁⟩, hp₁, hrest⟩ := Option.bind_eq_some_iff.1 hq
    obtain ⟨t, started, ht, hplaces⟩ := hp
    have hw₁ : p₁.WellFormed := hw.fire hp₁
    rcases fire_engaged hk hL hw hplaces (hsigs s List.mem_cons_self) (.inl ht) hp₁ with
      ⟨hne, hengaged, hquiet⟩ | ⟨out, hconcluded⟩
    · have hsigs' : ∀ x ∈ sigs, x.Outer := fun x hx => hsigs x (List.mem_cons_of_mem _ hx)
      rcases ih hw₁ hengaged hsigs' hrest with ⟨hnot, hengaged', hquiet'⟩ | ⟨out, hconcluded⟩
      · have hnot' : .inactive ∉ s :: sigs := List.not_mem_cons_of_ne_of_not_mem hne.symm hnot
        exact .inl ⟨hnot', hengaged', hquiet.trans hquiet'⟩
      · exact .inr ⟨out, hquiet.concluded hconcluded⟩
    · -- the observer has left, and the other signals find nothing to measure
      exact .inr ⟨out, hconcluded.spent (fireAll_spent hw₁ hconcluded.unwatched hrest)⟩

end Dispatches

end SecureGateway

import SecureGateway.Connection.Progress
import SecureGateway.Proofs.Connection.Provenance

namespace SecureGateway

section Dispatches

variable {σ η ξ ω : Type} {react : React σ σ ω} {now : Instant}

theorem Delivers.tail_eq {s s' : Scene σ ω} {hops : List Hop} {l : List (Happening σ ω)}
    (hd : Delivers react now s hops l s') : s'.ends.tail = s.ends.tail ++ arrivals l := by
  induction hd with
  | done s => exact (List.append_nil _).symm
  | @leave s s' hop hops l _ _ ih =>
    rw [ih]
    rcases hop with ⟨t, sig⟩ | ⟨t, _ | _ | _⟩
    · exact List.append_assoc s.ends.tail [sig] (arrivals l)
    · rfl
    · rfl
    · rfl
  | call _ _ _ _ _ _ ihin ihout =>
    rw [ihout, ihin, List.append_assoc]
    exact congrArg _ List.filterMap_append.symm

theorem ofStage_stages (row : List (Place σ)) :
    (row.filterMap Place.stage?).map Place.ofStage = row.filter Place.stands := by
  induction row with
  | nil => rfl
  | cons q row ih =>
    obtain ⟨id, name, handler⟩ := q
    cases handler with
    | none =>
      rw [List.filterMap_cons_none rfl, List.filter_cons_of_neg (by simp [Place.stands]), ih]
    | some h =>
      rw [List.filterMap_cons_some (f := Place.stage?) (b := ⟨id, name, some h⟩) rfl,
        List.filter_cons_of_pos rfl, List.map_cons, ih]
      rfl

def Barred (p : Pipeline (Occupant η ξ)) : Prop := ∃ near, Shut near (p.stages.map .ofStage)

theorem Shut.barred {s : Scene (Occupant η ξ) ω} {near : List Nat} (hs : Shut near s.places) :
    Barred s.pipeline := by
  obtain ⟨front, obs, back, hplaces, -, hname, hobs, hback⟩ := hs
  have hstands : obs.stands = true := Option.isSome_iff_ne_none.2 hobs
  refine ⟨_, front.filter Place.stands, obs, back.filter Place.stands, ?_, rfl, hname, hobs, ?_⟩
  · rw [Scene.pipeline, ofStage_stages, hplaces, List.filter_append,
      List.filter_cons_of_pos hstands]
  · exact fun q hq => hback q (List.mem_filter.1 hq).1

theorem Shut.entry {p : Pipeline (Occupant η ξ)} {near : List Nat}
    (hs : Shut near (p.stages.map .ofStage)) : ∃ id ∈ near, idAt p.stages 0 = some id := by
  obtain ⟨front, obs, back, hplaces, rfl, -⟩ := hs
  rw [idAt_zero, hplaces]
  cases front with
  | nil => exact ⟨obs.id, by simp, rfl⟩
  | cons q front => exact ⟨q.id, by simp, rfl⟩

theorem Fitted.pipeline {s : Scene (Occupant η ξ) ω} (hf : Fitted s.places) :
    Fitted (s.pipeline.stages.map .ofStage) := by
  have hs : (s.pipeline.stages.map .ofStage).Sublist s.places := by
    rw [Scene.pipeline, ofStage_stages]
    exact List.filter_sublist
  exact ⟨hf.ids.sublist (hs.map _), hf.names.sublist (hs.map _),
    fun q hq => hf.fits q (hs.mem hq)⟩

/-- What is known of a log: where its completions come from, and what the gate let through. -/
structure Vouched [Recorder ω] (k : StageKit η ξ ω)
    (log : List (Happening (Occupant η ξ) (Env ω))) : Prop where
  sourced : Sourced k log
  gated : Sealed log ∨ ∃ out, Decided out log

/-- The pipeline after everything in a log. -/
structure Overseen [Recorder ω] (k : StageKit η ξ ω)
    (log : List (Happening (Occupant η ξ) (Env ω))) (p : Pipeline (Occupant η ξ)) : Prop where
  wellFormed : p.WellFormed
  fitted : Fitted (p.stages.map .ofStage)
  sourced : Sourced k log
  gate : (Sealed log ∧ Barred p) ∨ ∃ out, Decided out log

variable [Recorder ω] {k : StageKit η ξ ω} {log : List (Happening (Occupant η ξ) (Env ω))}
  {p q : Pipeline (Occupant η ξ)} {e e' : Env ω} {sig : Inbound}

theorem Overseen.vouched (ho : Overseen k log p) : Vouched k log :=
  ⟨ho.sourced, ho.gate.imp And.left id⟩

theorem Vouched.isGated (hv : Vouched k log) : Gated log := by
  rcases hv.gated with hsealed | ⟨out, hdecided⟩
  · exact hsealed.gated
  · exact hdecided.gated

theorem Overseen.fire (ho : Overseen k log p) (hsig : ∀ out, .inbound sig ≠ completion out)
    (hq : p.fire k.behaviour now sig e = some (q, e')) :
    let l := p.history k.behaviour now (.inbound (idAt p.stages 0) sig) e
    Overseen k (log ++ l) q ∧ q.tail = p.tail ++ arrivals l := by
  intro l
  obtain ⟨s, hd, rfl, -⟩ := ho.wellFormed.delivers hq
  have hf : Fitted (Scene.ofPipeline p e).places := ho.fitted
  have hsourced := Delivers.sourced hd hf ho.sourced fun hop hhop out hout => by
    rw [List.mem_singleton.1 hhop] at hout
    exact absurd hout (hsig out)
  refine ⟨⟨ho.wellFormed.of_delivers hd, (Delivers.fitted hd hf).pipeline, hsourced, ?_⟩,
    hd.tail_eq⟩
  rcases ho.gate with ⟨hsealed, near, hshut⟩ | ⟨out, hdecided⟩
  · -- what comes from outside is aimed at the first stage, which is not behind the observer
    have hguard : ∀ hop ∈ [Hop.inbound (idAt p.stages 0) sig], hop.Guarded near := by
      intro hop hhop _
      rw [List.mem_singleton.1 hhop]
      exact hshut.entry
    rcases Delivers.gate hd hf hshut hguard with ⟨hl, hs⟩ | ⟨out, hl⟩
    · exact .inl ⟨hsealed.append hl, hs.barred⟩
    · exact .inr ⟨out, hsealed.decided hl⟩
  · exact .inr ⟨out, hdecided.append _⟩

theorem Overseen.congr (ho : Overseen k log p) (hs : q.stages = p.stages)
    (hid : q.nextId = p.nextId) : Overseen k log q where
  wellFormed := ho.wellFormed.of_sublist (by rw [hs]) hid (hs ▸ ho.wellFormed.full)
  fitted := hs ▸ ho.fitted
  sourced := ho.sourced
  gate := by
    rw [Barred, hs]
    exact ho.gate

end Dispatches

section Chain

variable {κ β η ξ ω : Type}

def securedChain (wiretap debug metrics : Bool) (h : η) :
    List (StageName × Option (Occupant η ξ)) :=
  (if wiretap && debug then [(.sslLogging, some (.logging .tls))] else []) ++
    (.ssl, some (.handshake h)) ::
    (if wiretap then [(.logging, some (.logging .wire))] else []) ++
    (.sslReader, some (.observer .unarmed)) ::
    (if metrics then [(.channelMetrics, some .metrics)] else [])

theorem assemble_spec [Timed η] [TlsContext κ η] {o : ConnectOptions κ β η}
    {ssl : SslConfiguration κ β η} {channel : Channel} {p : Pipeline (Occupant η ξ)}
    (hssl : o.ssl = some ssl) (hp : o.assemble channel = .ok p) :
    p.channel = channel ∧ p.tail = [] ∧ p.closeRequested = false ∧
      ∃ h, TlsContext.newHandler ssl.context.value
          (channel.remote.bind RemoteAddress.sniTarget?) = .ok h ∧
        p.stages.map (fun st => (st.name, st.slot)) =
          securedChain o.wiretap o.sslDebug o.metrics (ssl.configure h) := by
  obtain ⟨_, metrics, wiretap, debug, timeout⟩ := o
  obtain rfl := hssl
  cases hnew : TlsContext.newHandler ssl.context.value
      (channel.remote.bind RemoteAddress.sniTarget?) with
  | error e =>
    cases metrics <;> cases wiretap <;>
      simp [ConnectOptions.assemble, install, hnew, Pipeline.addAll, Pipeline.add,
        Pipeline.insertAt, Pipeline.contains, Pipeline.new, positionOf] at hp
  | ok h =>
    have hchain : p.channel = channel ∧ p.tail = [] ∧ p.closeRequested = false ∧
        p.stages.map (fun st => (st.name, st.slot)) =
          securedChain wiretap debug metrics (ssl.configure h) := by
      -- eight chains, each laid out by the additions one after the other
      cases metrics <;> cases wiretap <;> cases debug <;>
        simp [ConnectOptions.assemble, install, hnew, Pipeline.addAll, Pipeline.add,
          Pipeline.insertAt, Pipeline.contains, Pipeline.new, positionOf, securingStages,
          List.findIdx?_cons] at hp <;>
        subst hp <;> simp [securedChain]
    obtain ⟨hchannel, htail, hclose, hstages⟩ := hchain
    exact ⟨hchannel, htail, hclose, h, rfl, hstages⟩

theorem assemble_eq [Timed η] [TlsContext κ η] {o : ConnectOptions κ β η}
    {ssl : SslConfiguration κ β η} {channel : Channel} {p : Pipeline (Occupant η ξ)}
    (hssl : o.ssl = some ssl) (hp : o.assemble channel = .ok p) :
    p.tail = [] ∧ ∃ h, p.stages.map (fun st => (st.name, st.slot)) =
      securedChain o.wiretap o.sslDebug o.metrics h := by
  obtain ⟨-, htail, -, h, -, hstages⟩ := assemble_spec hssl hp
  exact ⟨htail, ssl.configure h, hstages⟩

/-- A chain is assembled by adding stages to an empty one. -/
theorem assemble_induction [Timed η] [TlsContext κ η] {o : ConnectOptions κ β η}
    {channel : Channel} {p : Pipeline (Occupant η ξ)} {P : Pipeline (Occupant η ξ) → Prop}
    (hnew : P (.new channel))
    (hadd : ∀ {p q : Pipeline (Occupant η ξ)} {entries : List (StagePlace × StageName × Occupant η ξ)}
      {e : Option PipelineError}, P p → p.addAll entries = (q, e) → P q)
    (hp : o.assemble channel = .ok p) : P p := by
  simp only [ConnectOptions.assemble] at hp
  split at hp
  · cases hp
  rename_i q hq
  have hq' : P q := hadd hnew hq
  split at hp
  · obtain rfl := Except.ok.inj hp
    exact hq'
  rename_i ssl _
  split at hp
  · cases hp
  rename_i r hr
  rw [← Except.ok.inj hp]
  rw [install] at hr
  split at hr
  · cases hr
  rename_i h _
  have hfst : (q.addAll (securingStages q (ssl.configure h) o.sslDebug)).1 = r :=
    congrArg Prod.fst hr
  exact hadd hq' (Prod.ext hfst rfl)

theorem assemble_wellFormed [Timed η] [TlsContext κ η] {o : ConnectOptions κ β η}
    {channel : Channel} {p : Pipeline (Occupant η ξ)} (hp : o.assemble channel = .ok p) :
    p.WellFormed := by
  have hbuilt : (Pipeline.new channel : Pipeline (Occupant η ξ)).Built Unit := .new channel
  exact assemble_induction hbuilt.wellFormed (fun hp hq => hp.addAll hq) hp

theorem securedChain_fits (wiretap debug metrics : Bool) (t : η) :
    ∀ x ∈ (securedChain wiretap debug metrics t : List (StageName × Option (Occupant η ξ))),
      ∀ h, x.2 = some h → h.Fits x.1 := by
  cases wiretap <;> cases debug <;> cases metrics <;>
    simp [securedChain, Occupant.Fits, Occupant.Relays]

theorem shut_of_map {places : List (Place (Occupant η ξ))}
    {front back : List (StageName × Option (Occupant η ξ))} {o : ObserverState}
    (h : places.map (fun q => (q.name, q.handler)) =
      front ++ (.sslReader, some (.observer o)) :: back)
    (hback : ∀ x ∈ back, x.1 ≠ .ssl ∧ x.2 ≠ none) : ∃ near, Shut near places := by
  obtain ⟨xs, ys, rfl, -, hys⟩ := List.map_eq_append_iff.1 h
  obtain ⟨obs, back', rfl, hobs, rfl⟩ := List.map_eq_cons_iff.1 hys
  obtain ⟨hname, hhandler⟩ := Prod.mk.inj hobs
  refine ⟨_, xs, obs, back', rfl, rfl, hname, by simp [hhandler], ?_⟩
  exact fun q hq => hback _ (List.mem_map_of_mem hq)

theorem overseen_of_assemble [Timed η] [TlsContext κ η] [Recorder ω] (k : StageKit η ξ ω)
    {o : ConnectOptions κ β η} {ssl : SslConfiguration κ β η} {channel : Channel}
    {p : Pipeline (Occupant η ξ)} (hssl : o.ssl = some ssl) (hp : o.assemble channel = .ok p) :
    Overseen k [] p := by
  obtain ⟨-, t, hstages⟩ := assemble_eq hssl hp
  have hw := assemble_wellFormed hp
  have hplaces : (p.stages.map Place.ofStage).map (fun q => (q.name, q.handler)) =
      securedChain o.wiretap o.sslDebug o.metrics t := by
    rw [← hstages, List.map_map]
    rfl
  refine ⟨hw, ⟨hw.ids_places, ?_, ?_⟩, sourced_nil, .inl ⟨by simp [Sealed], ?_⟩⟩
  · have hnames := hw.names
    rw [Pipeline.tags, List.map_map] at hnames
    rw [List.map_map]
    exact hnames
  · intro q hq h hh
    have hmem := List.mem_map_of_mem (f := fun q : Place (Occupant η ξ) => (q.name, q.handler)) hq
    rw [hplaces] at hmem
    exact securedChain_fits _ _ _ _ _ hmem h hh
  · rw [securedChain] at hplaces
    apply shut_of_map hplaces
    cases o.metrics <;> simp

end Chain

end SecureGateway

import SecureGateway.Proofs.Pipeline.Simulation

namespace SecureGateway

variable {σ ω : Type} {b : Behaviour σ ω} {now : Instant} {s s' : Scene σ ω}
  {d d' : Dispatch σ ω} {hops rest : List Hop} {l : List (Happening σ ω)}

namespace Dispatch

/-- What the next step does; an empty slot, which only passes its signal along, does nothing. -/
def happening? (now : Instant) (d : Dispatch σ ω) : Option (Happening σ ω) :=
  match d.queue with
  | [] => none
  | hop :: _ =>
    match hop.position? d.pipeline.stages d.departed with
    | none => some (.left hop.signal)
    | some i =>
      d.pipeline.stages[i]?.bind fun stage => stage.slot.map fun h =>
        .called ⟨⟨d.pipeline.channel, stage.name,
          d.pipeline.stages.set i { stage with slot := none }, now⟩, hop.signal, h, d.world⟩

def history (b : Behaviour σ ω) (now : Instant) : Nat → Dispatch σ ω → List (Happening σ ω)
  | limit, d =>
    if d.queue.isEmpty then []
    else
      match limit with
      | 0 => []
      | limit + 1 => (d.happening? now).toList ++ history b now limit (d.step b now)

theorem run_of_empty (hq : d.queue = []) (n : Nat) : d.run b now n = some d := by
  rw [run.eq_def]
  simp [hq]

theorem history_of_empty (hq : d.queue = []) (n : Nat) : d.history b now n = [] := by
  rw [history.eq_def]
  simp [hq]

theorem run_succ {hop : Hop} (hq : d.queue = hop :: rest) (n : Nat) :
    d.run b now (n + 1) = (d.step b now).run b now n := by
  rw [run.eq_def]
  simp [hq]

theorem history_succ {hop : Hop} (hq : d.queue = hop :: rest) (n : Nat) :
    d.history b now (n + 1) =
      (d.happening? now).toList ++ (d.step b now).history b now n := by
  rw [history.eq_def]
  simp [hq]

end Dispatch

namespace Mirrors

theorem happening_leave {hop : Hop} (m : Mirrors s d) (hq : d.queue = hop :: rest)
    (hland : hop.landing s.places = none) : d.happening? now = some (.left hop.signal) := by
  have hpos : hop.position? d.pipeline.stages d.departed = none := by
    rw [m.position_eq, hland, Option.bind_none]
  simp only [Dispatch.happening?, hq, hpos]

theorem happening_call {hop : Hop} {before after : List (Place σ)} {q : Place σ} {h : σ}
    (m : Mirrors s d) (hq : d.queue = hop :: rest) (hland : hop.landing s.places = some q)
    (hsplit : s.places = before ++ q :: after) (hh : q.handler = some h) :
    d.happening? now = some (.called (s.call now before q after hop.signal h)) := by
  have hends : d.pipeline.channel = s.ends.channel := by rw [m.pipeline]; rfl
  have hpos := m.position_of_landing hsplit hland hh
  simp only [Dispatch.happening?, hq, hpos]
  simp [m.stages_eq hsplit hh, hends, m.world, Scene.call]

/-- A dispatch that mirrors a scene makes the deliveries that the recursion makes, then goes on with
the rest of its queue. -/
theorem run_of_delivers (hd : Delivers b.react now s hops l s') (m : Mirrors s d)
    (hq : d.queue = hops ++ rest) :
    ∃ d', Mirrors s' d' ∧ d'.queue = rest ∧ ∀ n,
      d.run b now (l.length + n) = d'.run b now n ∧
      d.history b now (l.length + n) = l ++ d'.history b now n := by
  -- `rest` is free, since the hops of one call have those of all outer calls behind them
  induction hd generalizing d rest with
  | done s => exact ⟨d, m, hq, fun n => by simp⟩
  | @leave s s' hop hops l hland _ ih =>
    rw [List.cons_append] at hq
    obtain ⟨m₁, hq₁⟩ := m.step_leave b now hq hland
    obtain ⟨d', m', hq', hn⟩ := ih m₁ hq₁
    refine ⟨d', m', hq', fun n => ?_⟩
    have hlen : (Happening.left hop.signal :: l : List (Happening σ ω)).length + n =
        l.length + n + 1 := by rw [List.length_cons]; omega
    rw [hlen, Dispatch.run_succ hq, Dispatch.history_succ hq, m.happening_leave hq hland,
      (hn n).1, (hn n).2]
    exact ⟨rfl, rfl⟩
  | @call s s₁ s' hop hops inner outer before after q h c hland hsplit hh hc _ _ ihin ihout =>
    rw [List.cons_append] at hq
    obtain ⟨m₁, hq₁⟩ := m.step_call b now hq hland hsplit hh hc
    obtain ⟨d₁, m₂, hq₂, hin⟩ := ihin m₁ hq₁
    obtain ⟨d', m', hq', hout⟩ := ihout m₂ hq₂
    refine ⟨d', m', hq', fun n => ?_⟩
    have hlen : (Happening.called c :: (inner ++ outer)).length + n =
        inner.length + (outer.length + n) + 1 := by
      rw [List.length_cons, List.length_append]
      omega
    rw [hlen, Dispatch.run_succ hq, Dispatch.history_succ hq, m.happening_call hq hland hsplit hh,
      (hin _).1, (hin _).2, (hout n).1, (hout n).2, hc]
    exact ⟨rfl, by simp⟩

theorem delivers_of_run {n : Nat} (m : Mirrors s d) (hrun : d.run b now n = some d') :
    ∃ s', Delivers b.react now s d.queue (d.history b now n) s' ∧ Mirrors s' d' := by
  induction n generalizing s d with
  | zero =>
    cases hq : d.queue with
    | nil =>
      rw [Dispatch.run_of_empty hq] at hrun
      obtain rfl := Option.some.inj hrun
      exact ⟨s, by rw [Dispatch.history_of_empty hq]; exact .done s, m⟩
    | cons hop rest =>
      unfold Dispatch.run at hrun
      simp [hq] at hrun
  | succ n ih =>
    cases hq : d.queue with
    | nil =>
      rw [Dispatch.run_of_empty hq] at hrun
      obtain rfl := Option.some.inj hrun
      exact ⟨s, by rw [Dispatch.history_of_empty hq]; exact .done s, m⟩
    | cons hop rest =>
      rw [Dispatch.run_succ hq] at hrun
      rw [Dispatch.history_succ hq]
      cases hland : hop.landing s.places with
      | none =>
        obtain ⟨m₁, hq₁⟩ := m.step_leave b now hq hland
        obtain ⟨s', hd, m'⟩ := ih m₁ hrun
        rw [hq₁] at hd
        rw [m.happening_leave hq hland]
        exact ⟨s', .leave hland hd, m'⟩
      | some q =>
        obtain ⟨before, after, h, hsplit, hh⟩ := hop.exists_split_of_landing hland
        obtain ⟨m₁, hq₁⟩ := m.step_call b now hq hland hsplit hh rfl
        obtain ⟨s', hd, m'⟩ := ih m₁ hrun
        -- the queue has what follows from the call in front of what waited before
        rw [hq₁] at hd
        obtain ⟨inner, outer, s₁, hin, hout, hl⟩ := hd.split
        rw [m.happening_call hq hland hsplit hh, hl, Option.toList_some, List.singleton_append]
        exact ⟨s', .call hland hsplit hh rfl hin hout, m'⟩

end Mirrors

def Behaviour.within (b : Behaviour σ ω) (limit : Nat) : Behaviour σ ω := { b with limit }

namespace Pipeline

variable {p q : Pipeline σ} {w w' : ω} {hop : Hop}

def history (b : Behaviour σ ω) (now : Instant) (hop : Hop) (p : Pipeline σ) (w : ω) :
    List (Happening σ ω) :=
  (Dispatch.ofHop p w hop).history b now b.limit

def tags (stages : List (Stage σ)) : List (Nat × StageName) := stages.map fun st => (st.id, st.name)

/-- No stage shares its identifier or its name with another, and no slot is empty. -/
structure WellFormed (p : Pipeline σ) : Prop where
  ids : ((tags p.stages).map Prod.fst).Nodup
  names : ((tags p.stages).map Prod.snd).Nodup
  issued : ∀ t ∈ tags p.stages, t.1 < p.nextId
  full : ∀ st ∈ p.stages, ∃ h, st.slot = some h

/-- The pipelines that can be: made empty, then changed and used in any order, by handlers that
behave in any way. -/
inductive Built (ω : Type) : Pipeline σ → Prop
  | new (channel : Channel) : Built ω (.new channel)
  | add {p q : Pipeline σ} {place : StagePlace} {name : StageName} {h : σ} :
    Built ω p → p.add place name h = .ok q → Built ω q
  | remove {p : Pipeline σ} (name : StageName) : Built ω p → Built ω (p.remove name).2
  | dispatch {p q : Pipeline σ} {b : Behaviour σ ω} {now : Instant} {hop : Hop} {w w' : ω} :
    Built ω p → p.dispatch b now hop w = some (q, w') → Built ω q
  | takeInbound {p : Pipeline σ} : Built ω p → Built ω p.takeInbound.2
  | takeOutbound {p : Pipeline σ} : Built ω p → Built ω p.takeOutbound.2
  | takeReadRequest {p : Pipeline σ} : Built ω p → Built ω p.takeReadRequest.2

namespace WellFormed

theorem of_sublist (hp : p.WellFormed) (hs : (tags q.stages).Sublist (tags p.stages))
    (hid : q.nextId = p.nextId) (hfull : ∀ st ∈ q.stages, ∃ h, st.slot = some h) :
    q.WellFormed where
  ids := hp.ids.sublist (hs.map _)
  names := hp.names.sublist (hs.map _)
  issued t ht := hid ▸ hp.issued t (hs.mem ht)
  full := hfull

theorem insertAt {index : Nat} {name : StageName} {h : σ} (hp : p.WellFormed)
    (hq : p.insertAt index name h = .ok q) : q.WellFormed := by
  unfold Pipeline.insertAt at hq
  split at hq
  · cases hq
  rename_i hname
  obtain rfl := Except.ok.inj hq
  have hnew : name ∉ (tags p.stages).map Prod.snd := by
    intro hmem
    obtain ⟨t, ht, rfl⟩ := List.mem_map.1 hmem
    obtain ⟨st, hst, rfl⟩ := List.mem_map.1 ht
    apply hname
    rw [contains, positionOf, List.findIdx?_isSome]
    exact List.any_eq_true.2 ⟨st, hst, beq_self_eq_true _⟩
  -- past the end `insertIdx` changes nothing but the next identifier
  rcases Nat.lt_or_ge p.stages.length index with hlt | hle
  · rw [List.insertIdx_of_length_lt hlt]
    exact ⟨hp.ids, hp.names, fun t ht => Nat.lt_succ_of_lt (hp.issued t ht), hp.full⟩
  · have hperm := List.perm_insertIdx (⟨p.nextId, name, some h⟩ : Stage σ) p.stages hle
    have htags := hperm.map fun st => (st.id, st.name)
    refine ⟨?_, ?_, ?_, ?_⟩
    · refine ((htags.map Prod.fst).nodup_iff).2 (List.nodup_cons.2 ⟨?_, hp.ids⟩)
      intro hmem
      obtain ⟨t, ht, hid⟩ := List.mem_map.1 hmem
      exact absurd hid (Nat.ne_of_lt (hp.issued t ht))
    · exact ((htags.map Prod.snd).nodup_iff).2 (List.nodup_cons.2 ⟨hnew, hp.names⟩)
    · intro t ht
      rcases List.mem_cons.1 (htags.mem_iff.1 ht) with rfl | ht
      · exact Nat.lt_succ_self _
      · exact Nat.lt_succ_of_lt (hp.issued t ht)
    · intro st hst
      rcases List.mem_cons.1 (hperm.mem_iff.1 hst) with rfl | hst
      · exact ⟨h, rfl⟩
      · exact hp.full st hst

theorem add {place : StagePlace} {name : StageName} {h : σ} (hp : p.WellFormed)
    (hq : p.add place name h = .ok q) : q.WellFormed := by
  cases place with
  | first => exact hp.insertAt hq
  | last => exact hp.insertAt hq
  | after base =>
    simp only [Pipeline.add] at hq
    split at hq
    · exact hp.insertAt hq
    · cases hq
  | before base =>
    simp only [Pipeline.add] at hq
    split at hq
    · exact hp.insertAt hq
    · cases hq

theorem addAll {entries : List (StagePlace × StageName × σ)} {e : Option PipelineError}
    (hp : p.WellFormed) (hq : p.addAll entries = (q, e)) : q.WellFormed := by
  induction entries generalizing p with
  | nil =>
    obtain ⟨rfl, -⟩ := Prod.mk.inj hq
    exact hp
  | cons entry entries ih =>
    obtain ⟨place, name, h⟩ := entry
    unfold Pipeline.addAll at hq
    split at hq
    · rename_i hadd
      exact ih (hp.add hadd) hq
    · obtain ⟨rfl, -⟩ := Prod.mk.inj hq
      exact hp

theorem remove (hp : p.WellFormed) (name : StageName) : (p.remove name).2.WellFormed := by
  unfold Pipeline.remove
  split
  · rename_i i _
    have hs := List.eraseIdx_sublist p.stages i
    exact hp.of_sublist (hs.map _) rfl fun st hst => hp.full st (hs.mem hst)
  · exact hp

theorem ids_places (hp : p.WellFormed) : ((p.stages.map Place.ofStage).map (·.id)).Nodup := by
  have hids := hp.ids
  rw [tags, List.map_map] at hids
  rw [List.map_map]
  exact hids

theorem mirrors (hp : p.WellFormed) (w : ω) (hop : Hop) :
    Mirrors (.ofPipeline p w) (.ofHop p w hop) := by
  have hstand : ∀ x ∈ p.stages.map Place.ofStage, ∃ h, x.handler = some h := by
    intro x hx
    obtain ⟨st, hst, rfl⟩ := List.mem_map.1 hx
    exact hp.full st hst
  -- with no place vacant there is nothing to link
  have hlinked : ∀ row inbound, (∀ x ∈ row, x ∈ p.stages.map Place.ofStage) →
      Linked row [] inbound := by
    rintro row inbound hmem before x after rfl hx
    obtain ⟨h, hh⟩ := hstand x (hmem x (by simp))
    rw [hx] at hh
    cases hh
  have hstages : p.stages = (p.stages.map Place.ofStage).filterMap Place.stage? := by
    have hsome : ∀ st ∈ p.stages, (Place.stage? ∘ Place.ofStage) st = some st := by
      rintro ⟨id, name, slot⟩ hst
      obtain ⟨h, rfl⟩ := hp.full _ hst
      rfl
    rw [List.filterMap_map, List.filterMap_congr hsome, List.filterMap_some]
  refine ⟨hp.ids_places, ?_, rfl, nofun, ?_, ?_, ?_⟩
  · rw [Scene.pipeline, Scene.ofPipeline, ← hstages]
    rfl
  · exact hlinked _ _ fun x hx => hx
  · exact hlinked _ _ fun x hx => List.mem_reverse.1 hx
  · refine Nat.le_of_eq (List.countP_eq_zero.2 ?_)
    intro x hx
    obtain ⟨h, hh⟩ := hstand x hx
    simp [Place.stands, hh]

end WellFormed
end Pipeline

theorem Pipeline.arrive_nextId (p : Pipeline σ) (sig : Signal) :
    (p.arrive sig).nextId = p.nextId := by
  rcases sig with _ | _ | _ | _ <;> rfl

theorem Pipeline.arrive_channel (p : Pipeline σ) (sig : Signal) :
    (p.arrive sig).channel = p.channel := by
  rcases sig with _ | _ | _ | _ <;> rfl

theorem Delivers.places_eq {react : React σ σ ω} (hd : Delivers react now s hops l s') :
    s'.places.map (fun q => (q.id, q.name)) = s.places.map (fun q => (q.id, q.name)) ∧
      s'.ends.nextId = s.ends.nextId := by
  induction hd with
  | done s => exact ⟨rfl, rfl⟩
  | @leave s s' hop hops l _ _ ih =>
    exact ⟨ih.1, ih.2.trans (s.ends.arrive_nextId hop.signal)⟩
  | @call s s₁ s' hop hops inner outer before after q h c _ hsplit _ _ _ _ ihin ihout =>
    refine ⟨ihout.1.trans (ihin.1.trans ?_), ihout.2.trans ihin.2⟩
    rw [hsplit]
    simp [Scene.react]

theorem Scene.ids_react {before after : List (Place σ)} {q : Place σ}
    (hsplit : s.places = before ++ q :: after) (r : Reaction σ ω) :
    (s.react before q after r).places.map (·.id) = s.places.map (·.id) := by
  simp [Scene.react, hsplit]

theorem Delivers.ids_eq {react : React σ σ ω} (hd : Delivers react now s hops l s') :
    s'.places.map (·.id) = s.places.map (·.id) := by
  have hids := congrArg (List.map Prod.fst) hd.places_eq.1
  rwa [List.map_map, List.map_map] at hids

namespace Pipeline

variable {p q : Pipeline σ} {w w' : ω} {hop : Hop}

theorem tags_sublist (row : List (Place σ)) :
    (tags (row.filterMap Place.stage?)).Sublist (row.map fun x => (x.id, x.name)) := by
  induction row with
  | nil => exact .slnil
  | cons x row ih =>
    cases hx : x.handler with
    | none => simpa [Place.stage?, hx] using ih.cons (x.id, x.name)
    | some h => simpa [Place.stage?, hx, tags] using ih

theorem WellFormed.delivers (hp : p.WellFormed)
    (hq : p.dispatch b now hop w = some (q, w')) :
    ∃ s, Delivers b.react now (.ofPipeline p w) [hop] (p.history b now hop w) s ∧
      s.pipeline = q ∧ s.world = w' := by
  obtain ⟨d, hrun, hd⟩ := Option.map_eq_some_iff.1 hq
  obtain ⟨rfl, rfl⟩ := Prod.mk.inj hd
  obtain ⟨s, hs, m⟩ := (hp.mirrors w hop).delivers_of_run hrun
  exact ⟨s, hs, m.pipeline.symm, m.world.symm⟩

theorem WellFormed.of_places (hp : p.WellFormed)
    (hplaces : s.places.map (fun q => (q.id, q.name)) = tags p.stages)
    (hid : s.ends.nextId = p.nextId) : s.pipeline.WellFormed := by
  refine hp.of_sublist ?_ hid ?_
  · rw [← hplaces]
    exact tags_sublist s.places
  · intro st hst
    obtain ⟨x, -, hx⟩ := List.mem_filterMap.1 hst
    obtain ⟨h, -, rfl⟩ := Option.map_eq_some_iff.1 hx
    exact ⟨h, rfl⟩

theorem tags_eq_places (p : Pipeline σ) (w : ω) :
    (Scene.ofPipeline p w).places.map (fun q => (q.id, q.name)) = tags p.stages := by
  rw [Scene.ofPipeline, List.map_map]
  rfl

theorem WellFormed.of_delivers (hp : p.WellFormed)
    (hd : Delivers b.react now (.ofPipeline p w) hops l s) : s.pipeline.WellFormed :=
  hp.of_places (hd.places_eq.1.trans (tags_eq_places p w)) hd.places_eq.2

theorem Built.wellFormed (hp : p.Built ω) : p.WellFormed := by
  induction hp with
  | new channel => exact ⟨.nil, .nil, nofun, nofun⟩
  | add _ hq ih => exact ih.add hq
  | remove name _ ih => exact ih.remove name
  | dispatch _ hq ih =>
    obtain ⟨s, hd, rfl, -⟩ := ih.delivers hq
    exact ih.of_delivers hd
  | takeInbound _ ih => exact ih.of_sublist (.refl _) rfl ih.full
  | takeOutbound _ ih => exact ih.of_sublist (.refl _) rfl ih.full
  | takeReadRequest _ ih => exact ih.of_sublist (.refl _) rfl ih.full

theorem WellFormed.dispatch_of_delivers (hp : p.WellFormed)
    (hd : Delivers b.react now (.ofPipeline p w) [hop] l s) {n : Nat} (hn : l.length ≤ n) :
    p.dispatch (b.within n) now hop w = some (s.pipeline, s.world) ∧
      p.history (b.within n) now hop w = l := by
  have hqueue : (Dispatch.ofHop p w hop).queue = [hop] ++ [] := rfl
  obtain ⟨d, m, hq, hrun⟩ := (hp.mirrors w hop).run_of_delivers (b := b.within n) hd hqueue
  obtain ⟨extra, hextra⟩ := Nat.exists_eq_add_of_le hn
  obtain ⟨h₁, h₂⟩ := hrun extra
  rw [Dispatch.run_of_empty hq] at h₁
  rw [Dispatch.history_of_empty hq, List.append_nil] at h₂
  rw [← hextra] at h₁ h₂
  refine ⟨?_, h₂⟩
  rw [dispatch, ← m.pipeline, ← m.world]
  exact congrArg (Option.map fun d => (d.pipeline, d.world)) h₁

theorem WellFormed.delivers_unique (hp : p.WellFormed) {l' : List (Happening σ ω)}
    (hd : Delivers b.react now (.ofPipeline p w) [hop] l s)
    (hd' : Delivers b.react now (.ofPipeline p w) [hop] l' s') :
    l = l' ∧ s.pipeline = s'.pipeline ∧ s.world = s'.world := by
  obtain ⟨hend, hhistory⟩ := hp.dispatch_of_delivers hd (Nat.le_max_left l.length l'.length)
  obtain ⟨hend', hhistory'⟩ := hp.dispatch_of_delivers hd' (Nat.le_max_right l.length l'.length)
  rw [hend] at hend'
  obtain ⟨hpipeline, hworld⟩ := Prod.mk.inj (Option.some.inj hend')
  exact ⟨hhistory.symm.trans hhistory', hpipeline, hworld⟩

/-- A dispatch ends just when the recursion does, after the same calls and arrivals in the same
order, and with the same pipeline. -/
theorem dispatch_iff_delivers (hp : p.Built ω) (w : ω) (hop : Hop) (q : Pipeline σ) (w' : ω)
    (l : List (Happening σ ω)) :
    (∃ n, p.dispatch (b.within n) now hop w = some (q, w') ∧
        p.history (b.within n) now hop w = l) ↔
      ∃ s, Delivers b.react now (.ofPipeline p w) [hop] l s ∧ s.pipeline = q ∧ s.world = w' := by
  constructor
  · rintro ⟨n, hq, rfl⟩
    obtain ⟨s, hd, hs⟩ := hp.wellFormed.delivers hq
    exact ⟨s, hd, hs⟩
  · rintro ⟨s, hd, rfl, rfl⟩
    exact ⟨l.length, hp.wellFormed.dispatch_of_delivers hd (Nat.le_refl _)⟩

/-- A stage with `true` leaves in its first call and doubles the signal of that call. -/
def doubling : Behaviour Bool Unit where
  react _ sig h w := if h then ⟨h, [sig, sig], true, w⟩ else ⟨h, [sig], false, w⟩
  limit := 0

def doublingPair : Pipeline Bool :=
  ⟨⟨0, none⟩, [⟨0, .codec, some true⟩, ⟨1, .application, some false⟩], 2, [], [], false, false⟩

theorem doublingPair_built : doublingPair.Built Unit := by
  have hempty : (Pipeline.new ⟨0, none⟩ : Pipeline Bool).Built Unit := .new _
  have hone : (Pipeline.new ⟨0, none⟩).add .last .codec true =
      .ok ⟨⟨0, none⟩, [⟨0, .codec, some true⟩], 1, [], [], false, false⟩ := rfl
  have htwo : (⟨⟨0, none⟩, [⟨0, .codec, some true⟩], 1, [], [], false, false⟩ : Pipeline Bool).add
      .last .application false = .ok doublingPair := rfl
  exact (hempty.add hone).add htwo

theorem dispatch_iff_delivers_of_doubling :
    doublingPair.Built Unit ∧
      ∃ s, Delivers doubling.react 0 (.ofPipeline doublingPair ()) [.inbound (some 0) .registered]
          (doublingPair.history (doubling.within 5) 0 (.inbound (some 0) .registered) ()) s ∧
        s.pipeline = ⟨⟨0, none⟩, [⟨1, .application, some false⟩], 2, [.registered, .registered], [],
          false, false⟩ ∧ s.world = () :=
  ⟨doublingPair_built,
    (dispatch_iff_delivers (b := doubling) doublingPair_built () _ _ () _).1 ⟨5, rfl, rfl⟩⟩

end Pipeline
end SecureGateway

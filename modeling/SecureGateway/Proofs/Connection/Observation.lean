import SecureGateway.Proofs.Connection.Handshake
import SecureGateway.Proofs.Pipeline.Deliveries

namespace SecureGateway

variable {η ξ ω : Type}

namespace Happening

def visit? (x : Happening (Occupant η ξ) ω) : Option (Call (Occupant η ξ) ω) :=
  match x with
  | .called c =>
    match c.handler with
    | .observer _ => some c
    | _ => none
  | .left _ => none

end Happening

def visits (l : List (Delivery (Occupant η ξ) ω)) : List (Call (Occupant η ξ) ω) :=
  l.filterMap fun x => x.happening.visit?

def Incomplete (l : List (Delivery (Occupant η ξ) ω)) : Prop :=
  ∀ c ∈ visits l, ∀ out, c.signal ≠ completion out

/-- A registration reached the observer while there was something to measure with. -/
def Enrolled (l : List (Delivery (Occupant η ξ) ω)) : Prop :=
  ∃ c ∈ visits l, c.signal = .inbound .registered ∧ ObserverState.findsMetrics c.view = true

/-- Whether an observer that begins in this state records a completion after these deliveries. -/
def ObserverState.Records (l : List (Delivery (Occupant η ξ) ω)) : ObserverState → Prop
  | unarmed => Enrolled l
  | armed _ recording => recording = true
  | completed => False

/-- What the completion does that reaches the observer first: it is announced and sent on, the
observer leaves, and a measurement is made just when the observer was enrolled. -/
structure Announced [Recorder ω] (k : StageKit η ξ ω) (o : ObserverState)
    (early : List (Delivery (Occupant η ξ) (Env ω))) (c : Call (Occupant η ξ) (Env ω))
    (out : HandshakeOutcome) : Prop where
  first : Incomplete early
  signal : c.signal = completion out
  emitted : (c.reaction (Occupant.react k)).emitted =
    [.inbound (ObserverState.announce out), completion out]
  leaves : (c.reaction (Occupant.react k)).leaves = true
  recorded : o.Records early → ∃ elapsed, (c.reaction (Occupant.react k)).world.handshakes =
    c.world.handshakes ++
      [.handshake c.view.channel.peer elapsed (Record.statusOf out.isSuccess)]
  unrecorded : ¬o.Records early →
    (c.reaction (Occupant.react k)).world.handshakes = c.world.handshakes

section Visits

variable {l : List (Delivery (Occupant η ξ) ω)} {x : Delivery (Occupant η ξ) ω}
  {c : Call (Occupant η ξ) ω}

theorem Happening.eq_of_visit? {c' : Call (Occupant η ξ) ω}
    (hx : (Happening.called c').visit? = some c) : c' = c ∧ ∃ o, c.handler = .observer o := by
  obtain ⟨v, sig, h, e⟩ := c'
  cases h with
  | observer o =>
    obtain rfl := Option.some.inj hx
    exact ⟨rfl, o, rfl⟩
  | _ => cases hx

theorem Happening.handler_of_visit? {x : Happening (Occupant η ξ) ω} (hx : x.visit? = some c) :
    ∃ o, c.handler = .observer o := by
  cases x with
  | left sig => cases hx
  | called c' => exact (eq_of_visit? hx).2

theorem visits_cons_none (hx : x.happening.visit? = none) : visits (x :: l) = visits l :=
  List.filterMap_cons_none hx

theorem visits_cons_some (hx : x.happening.visit? = some c) : visits (x :: l) = c :: visits l :=
  List.filterMap_cons_some hx

theorem enrolled_cons_iff (hx : x.happening.visit? = some c) :
    Enrolled (x :: l) ↔ (c.signal = .inbound .registered ∧ ObserverState.findsMetrics c.view = true) ∨
      Enrolled l := by
  rw [Enrolled, visits_cons_some hx]
  simp only [List.mem_cons, exists_eq_or_imp]
  rfl

theorem ObserverState.records_cons_none (hx : x.happening.visit? = none) (o : ObserverState) :
    o.Records (x :: l) ↔ o.Records l := by
  cases o with
  | unarmed => simp only [Records, Enrolled, visits_cons_none hx]
  | _ => rfl

end Visits

/-- The observer's place, with the stages that were before and behind it at the beginning, or some of
them, on either side. No other stage is an observer. -/
structure Around (front back : List StageName) (id : Nat) (name : StageName)
    (slot : Option ObserverState) (places : List (Place (Occupant η ξ))) : Prop where
  ids : (places.map (·.id)).Nodup
  split : ∃ before after, places = before ++ ⟨id, name, slot.map .observer⟩ :: after ∧
    (before.map (·.name)).Sublist front ∧ (after.map (·.name)).Sublist back
  alone : ∀ q ∈ places, q.id ≠ id → ∀ o, q.handler ≠ some (.observer o)

def Metered (places : List (Place (Occupant η ξ))) : Prop :=
  ∃ q ∈ places, q.name = .channelMetrics ∧ q.handler = some .metrics

section Places

variable {front back : List StageName} {id : Nat} {name : StageName}
  {slot : Option ObserverState} {before after places : List (Place (Occupant η ξ))}
  {q : Place (Occupant η ξ)}

namespace Around

theorem eq_of_id (ha : Around front back id name slot places) (hq : q ∈ places) (hid : q.id = id) :
    q = ⟨id, name, slot.map .observer⟩ := by
  obtain ⟨xs, ys, rfl, -, -⟩ := ha.split
  exact eq_of_id_eq ha.ids hq (by simp) hid

theorem refill (ha : Around front back id name slot (before ++ q :: after)) (hid : q.id = id)
    (slot' : Option ObserverState) :
    Around front back id name slot'
      (before ++ { q with handler := slot'.map .observer } :: after) := by
  obtain rfl := ha.eq_of_id (by simp) hid
  obtain ⟨xs, ys, hsplit, hxs, hys⟩ := ha.split
  obtain ⟨rfl, rfl⟩ := split_unique ha.ids hsplit
  refine ⟨by simpa using ha.ids, ⟨before, after, rfl, hxs, hys⟩, ?_⟩
  intro x hx hne
  rcases List.mem_append.1 hx with hx | hx
  · exact ha.alone x (List.mem_append_left _ hx) hne
  · rcases List.mem_cons.1 hx with rfl | hx
    · exact absurd rfl hne
    · exact ha.alone x (List.mem_append_right _ (List.mem_cons_of_mem _ hx)) hne

theorem change {h : Option (Occupant η ξ)}
    (ha : Around front back id name slot (before ++ q :: after)) (hid : q.id ≠ id)
    (hh : ∀ o, h ≠ some (.observer o)) :
    Around front back id name slot (before ++ { q with handler := h } :: after) := by
  refine ⟨by simpa using ha.ids, ?_, ?_⟩
  · obtain ⟨xs, ys, hsplit, hxs, hys⟩ := ha.split
    rcases append_cons_cases hsplit with ⟨mid, rfl, rfl⟩ | ⟨-, rfl, -⟩ | ⟨mid, rfl, rfl⟩
    · exact ⟨before ++ { q with handler := h } :: mid, ys, by simp, by simpa using hxs, hys⟩
    · exact absurd rfl hid
    · exact ⟨xs, mid ++ { q with handler := h } :: after, by simp, hxs, by simpa using hys⟩
  · intro x hx hne
    rcases List.mem_append.1 hx with hx | hx
    · exact ha.alone x (List.mem_append_left _ hx) hne
    · rcases List.mem_cons.1 hx with rfl | hx
      · exact hh
      · exact ha.alone x (List.mem_append_right _ (List.mem_cons_of_mem _ hx)) hne

theorem stands {o : ObserverState} (ha : Around front back id name (some o) places) :
    Around front back id name (some o) (places.filter Place.stands) := by
  obtain ⟨xs, ys, rfl, hxs, hys⟩ := ha.split
  refine ⟨ha.ids.sublist (List.filter_sublist.map _), ⟨xs.filter Place.stands,
    ys.filter Place.stands, ?_, (List.filter_sublist.map _).trans hxs,
    (List.filter_sublist.map _).trans hys⟩, fun q hq => ha.alone q (List.mem_filter.1 hq).1⟩
  rw [List.filter_append, List.filter_cons_of_pos rfl]

theorem nodup_names (ha : Around front back id name slot places)
    (hn : (front ++ name :: back).Nodup) : (places.map (·.name)).Nodup := by
  obtain ⟨xs, ys, rfl, hxs, hys⟩ := ha.split
  rw [List.map_append, List.map_cons]
  exact hn.sublist (hxs.append (hys.cons_cons name))

end Around

end Places

section Places

variable [Recorder ω] {k : StageKit η ξ ω} {now : Instant} {front back : List StageName} {id : Nat}
  {name : StageName} {slot : Option ObserverState} {s s' : Scene (Occupant η ξ) (Env ω)}
  {hop : Hop} {hops rest : List Hop} {x : Delivery (Occupant η ξ) (Env ω)}
  {l : List (Delivery (Occupant η ξ) (Env ω))}

theorem Around.passes (ha : Around front back id name none s.places)
    (hn : (front ++ name :: back).Nodup) (h : s.Takes (Occupant.react k) now hop rest x s' hops)
    (htarget : hop.target = some id) : x.Passes front back := by
  obtain ⟨rfl, hstanding, hsignal, htaker⟩ := h.shows
  obtain ⟨before, after, hsplit, hbefore, hafter⟩ := ha.split
  have hnames := ha.nodup_names hn
  have hland := landing_vacant (hsplit ▸ ha.ids) rfl htarget
  rw [← hsplit] at hland
  refine ⟨hsignal, ?_⟩
  rw [htaker, hland, hstanding]
  obtain ⟨hfront, hback, hdisjoint⟩ := List.nodup_append.1 hn
  -- a stage that stands is on one side of the vacant place, and its name says on which
  have hplaces : ∀ q ∈ s.places, q.stands = true →
      (q ∈ before ∧ q.name ∈ front) ∨ (q ∈ after ∧ q.name ∈ back) := by
    intro q hq hstands
    rw [hsplit] at hq
    rcases List.mem_append.1 hq with hq | hq
    · exact .inl ⟨hq, hbefore.mem (List.mem_map_of_mem hq)⟩
    · rcases List.mem_cons.1 hq with rfl | hq
      · cases hstands
      · exact .inr ⟨hq, hafter.mem (List.mem_map_of_mem hq)⟩
  cases hsig : x.hop.signal with
  | inbound sig =>
    refine (Scene.find?_names hnames ?_ hafter (List.nodup_cons.1 hback).2 ?_).symm
    · intro q hq
      rw [hsplit]
      simp [hq]
    · intro q hq hstands hmem
      rcases hplaces q hq hstands with ⟨-, hname⟩ | ⟨hq, -⟩
      · exact absurd rfl (hdisjoint _ hname _ (List.mem_cons_of_mem _ hmem))
      · exact hq
  | outbound op =>
    refine (Scene.find?_names hnames ?_ ?_ (List.nodup_reverse.2 hfront) ?_).symm
    · intro q hq
      rw [hsplit]
      simp [List.mem_reverse.1 hq]
    · show (before.reverse.map (·.name)).Sublist front.reverse
      rw [List.map_reverse]
      exact hbefore.reverse
    · intro q hq hstands hmem
      rcases hplaces q hq hstands with ⟨hq, -⟩ | ⟨-, hname⟩
      · exact List.mem_reverse.2 hq
      · exact absurd rfl (hdisjoint _ (List.mem_reverse.1 hmem) _ (List.mem_cons_of_mem _ hname))

end Places

section Delivery

variable [Recorder ω] {k : StageKit η ξ ω} {now : Instant} {front back : List StageName} {id : Nat}
  {name : StageName} {slot : Option ObserverState} {s s' : Scene (Occupant η ξ) (Env ω)}
  {hop : Hop} {hops rest : List Hop} {x : Delivery (Occupant η ξ) (Env ω)}
  {before after : List (Place (Occupant η ξ))} {q : Place (Occupant η ξ)}
  {c : Call (Occupant η ξ) (Env ω)} {o : ObserverState}

theorem Happening.visit?_of_ne {ω : Type} {c : Call (Occupant η ξ) ω}
    (hc : ∀ o, c.handler ≠ .observer o) : (Happening.called c).visit? = none := by
  obtain ⟨v, sig, h, e⟩ := c
  cases h with
  | observer o => exact absurd rfl (hc o)
  | _ => rfl

theorem Call.metrics_of_reaction (hc : (c.reaction (Occupant.react k)).handler = .metrics) :
    c.handler = .metrics := by
  obtain ⟨v, sig, h, e⟩ := c
  cases h with
  | metrics => rfl
  | _ => cases hc

theorem Metered.of_takes (h : s.Takes (Occupant.react k) now hop rest x s' hops)
    (hm : Metered s'.places) : Metered s.places := by
  cases h with
  | leave => exact hm
  | @call before after q h c hland hsplit hq hc =>
    obtain ⟨y, hy, hname, hmetrics⟩ := hm
    rw [hsplit]
    rcases List.mem_append.1 hy with hy | hy
    · exact ⟨y, List.mem_append_left _ hy, hname, hmetrics⟩
    · rcases List.mem_cons.1 hy with rfl | hy
      · have hleaves : (if (c.reaction (Occupant.react k)).leaves then none
            else some (c.reaction (Occupant.react k)).handler) = some .metrics := hmetrics
        split at hleaves
        · cases hleaves
        · have hhandler : c.handler = h := by rw [hc]; rfl
          have hsame := Call.metrics_of_reaction (Option.some.inj hleaves)
          exact ⟨q, by simp, hname, by rw [hq, ← hhandler, hsame]⟩
      · exact ⟨y, List.mem_append_right _ (List.mem_cons_of_mem _ hy), hname, hmetrics⟩

omit [Recorder ω] in
theorem Metered.of_findsMetrics (hsplit : s.places = before ++ q :: after) {sig : Signal}
    {h : Occupant η ξ}
    (hfinds : ObserverState.findsMetrics (s.call now before q after sig h).view = true) :
    Metered s.places := by
  have hfound : (s.call now before q after sig h).view.get? .channelMetrics = some .metrics := by
    unfold ObserverState.findsMetrics at hfinds
    split at hfinds
    · assumption
    · cases hfinds
  obtain ⟨st, hst, hslot⟩ := Option.bind_eq_some_iff.1 hfound
  have hname : st.name = .channelMetrics := by simpa using List.find?_some hst
  have hrow : ∀ row : List (Place (Occupant η ξ)), (∀ q ∈ row, q ∈ s.places) →
      st ∈ row.filterMap Place.stage? → Metered s.places := by
    intro row hrow hmem
    obtain ⟨x, hx, hstage⟩ := List.mem_filterMap.1 hmem
    obtain ⟨h, hh, rfl⟩ := Option.map_eq_some_iff.1 hstage
    exact ⟨x, hrow x hx, hname, hh.trans hslot⟩
  rcases List.mem_append.1 (List.mem_of_find?_eq_some hst) with hmem | hmem
  · exact hrow before (fun x hx => by simp [hsplit, hx]) hmem
  · rcases List.mem_cons.1 hmem with rfl | hmem
    · cases hslot
    · exact hrow after (fun x hx => by simp [hsplit, hx]) hmem

omit [Recorder ω] in
theorem Metered.findsMetrics (hm : Metered s.places)
    (hsplit : s.places = before ++ ⟨id, name, some (.observer o)⟩ :: after)
    (hn : (s.places.map (·.name)).Nodup) (sig : Signal) (h : Occupant η ξ) :
    ObserverState.findsMetrics
      (s.call now before ⟨id, name, some (.observer o)⟩ after sig h).view = true := by
  obtain ⟨q, hq, hname, hh⟩ := hm
  let stages := before.filterMap Place.stage? ++ ⟨id, name, none⟩ :: after.filterMap Place.stage?
  have hstages : (stages.map (·.name)).Nodup := by
    have hsub : ∀ row : List (Place (Occupant η ξ)),
        ((row.filterMap Place.stage?).map (·.name)).Sublist (row.map (·.name)) := by
      intro row
      have h := (Pipeline.tags_sublist row).map Prod.snd
      rwa [Pipeline.tags, List.map_map, List.map_map] at h
    refine hn.sublist ?_
    rw [hsplit, List.map_append, List.map_append, List.map_cons, List.map_cons]
    exact (hsub before).append ((hsub after).cons_cons name)
  have hmem : (⟨q.id, q.name, some .metrics⟩ : Stage (Occupant η ξ)) ∈ stages := by
    have hrow : ∀ row : List (Place (Occupant η ξ)), q ∈ row →
        (⟨q.id, q.name, some .metrics⟩ : Stage (Occupant η ξ)) ∈ row.filterMap Place.stage? :=
      fun row hmem => List.mem_filterMap.2 ⟨q, hmem, by rw [Place.stage?, hh]; rfl⟩
    rw [hsplit] at hq
    rcases List.mem_append.1 hq with hq | hq
    · exact List.mem_append_left _ (hrow before hq)
    · rcases List.mem_cons.1 hq with rfl | hq
      · cases hh
      · exact List.mem_append_right _ (List.mem_cons_of_mem _ (hrow after hq))
  -- the name is used once, so the stage that is found is that one
  obtain ⟨st, hst⟩ := Option.isSome_iff_exists.1 (List.find?_isSome.2
    ⟨_, hmem, by simp [hname]⟩ : (stages.find? (·.name == .channelMetrics)).isSome = true)
  have hsame : st.name = q.name := by
    have hfound : st.name = .channelMetrics := by simpa using List.find?_some hst
    rw [hfound, hname]
  obtain rfl := List.inj_on_of_nodup_map hstages (List.mem_of_find?_eq_some hst) hmem hsame
  have hget : (s.call now before ⟨id, name, some (.observer o)⟩ after sig h).view.get?
      .channelMetrics = some .metrics := by
    show (stages.find? (·.name == .channelMetrics)).bind (·.slot) = some .metrics
    rw [hst]
    rfl
  rw [ObserverState.findsMetrics, hget]

/-- A delivery leaves the observer's place as it is, or calls the observer. -/
theorem Around.takes (ha : Around front back id name slot s.places)
    (h : s.Takes (Occupant.react k) now hop rest x s' hops) :
    (x.happening.visit? = none ∧ s'.world.handshakes = s.world.handshakes ∧
      Around front back id name slot s'.places) ∨
    ∃ before after o, slot = some o ∧
      s.places = before ++ ⟨id, name, some (.observer o)⟩ :: after ∧
      let c := s.call now before ⟨id, name, some (.observer o)⟩ after hop.signal (.observer o)
      x.happening = .called c ∧ s' = s.react before ⟨id, name, some (.observer o)⟩ after
        (c.reaction (Occupant.react k)) := by
  cases h with
  | leave => exact .inl ⟨rfl, rfl, ha⟩
  | @call before after q h c hland hsplit hq hc =>
    have hmem : q ∈ s.places := by simp [hsplit]
    by_cases hid : q.id = id
    · obtain rfl := ha.eq_of_id hmem hid
      obtain ⟨o, rfl, rfl⟩ := Option.map_eq_some_iff.1 hq
      subst hc
      exact .inr ⟨before, after, o, rfl, hsplit, rfl, rfl⟩
    · have hne : ∀ o, c.handler ≠ .observer o := by
        rintro o ho
        have hhandler : c.handler = h := by rw [hc]; rfl
        exact ha.alone q hmem hid o (by rw [hq, ← hhandler, ho])
      refine .inl ⟨Happening.visit?_of_ne hne, ?_, ?_⟩
      · show (c.reaction (Occupant.react k)).world.handshakes = _
        rw [Call.handshakes_reaction hne, hc]
        rfl
      · rw [hsplit] at ha
        refine ha.change hid fun o ho => ?_
        split at ho
        · cases ho
        · exact Call.reaction_ne_observer hne o (Option.some.inj ho)

theorem Unwatched.takes (hu : Unwatched s) (h : s.Takes (Occupant.react k) now hop rest x s' hops) :
    x.happening.visit? = none ∧ s'.world.handshakes = s.world.handshakes ∧ Unwatched s' := by
  cases h with
  | leave => exact ⟨rfl, rfl, hu⟩
  | @call before after q h c hland hsplit hq hc =>
    have hhandler : c.handler = h := by rw [hc]; rfl
    have hne : ∀ o, c.handler ≠ .observer o := fun o ho =>
      hu q (by simp [hsplit]) o (by rw [hq, ← hhandler, ho])
    refine ⟨Happening.visit?_of_ne hne, ?_, ?_⟩
    · show (c.reaction (Occupant.react k)).world.handshakes = _
      rw [Call.handshakes_reaction hne, hc]
      rfl
    · intro y hy o ho
      rcases mem_react hsplit hy with hy | hnew
      · exact hu y hy o ho
      · rw [hnew] at ho
        split at ho
        · cases ho
        · exact Call.reaction_ne_observer hne o (Option.some.inj ho)

theorem Call.observer_swallows (ho : c.handler = .observer o) (hsig : c.signal = .inbound .active) :
    (c.reaction (Occupant.react k)).emitted = [.outbound .read] ∧
      (c.reaction (Occupant.react k)).leaves = false := by
  obtain ⟨v, sig, h, e⟩ := c
  obtain rfl : h = .observer o := ho
  obtain rfl : sig = .inbound .active := hsig
  exact ⟨rfl, rfl⟩

/-- Until a completion the observer stays, and keeps in mind whether it was enrolled. -/
theorem Call.observer_waits (ho : c.handler = .observer o)
    (hsig : ∀ out, c.signal ≠ completion out) :
    ∃ o', (c.reaction (Occupant.react k)).handler = .observer o' ∧
      (c.reaction (Occupant.react k)).world = c.world ∧
      ∀ {x : Delivery (Occupant η ξ) (Env ω)} {l}, x.happening = .called c →
        (Enrolled l → ObserverState.findsMetrics c.view = true) →
          (o.Records (x :: l) ↔ o'.Records l) := by
  obtain ⟨v, sig, h, e⟩ := c
  obtain rfl : h = .observer o := ho
  have hcons : ∀ {x : Delivery (Occupant η ξ) (Env ω)} {l},
      x.happening = .called ⟨v, sig, .observer o, e⟩ → (Enrolled (x :: l) ↔
        (sig = .inbound .registered ∧ ObserverState.findsMetrics v = true) ∨ Enrolled l) :=
    fun hx => enrolled_cons_iff (by rw [hx]; rfl)
  by_cases hregistered : sig = .inbound .registered
  · subst hregistered
    cases o with
    | unarmed =>
      refine ⟨.armed v.now (ObserverState.findsMetrics v), rfl, rfl, fun hx hlater => ?_⟩
      exact (hcons hx).trans ⟨fun h => h.elim And.right hlater, fun h => .inl ⟨rfl, h⟩⟩
    | armed started recording => exact ⟨_, rfl, rfl, fun _ _ => Iff.rfl⟩
    | completed => exact ⟨_, rfl, rfl, fun _ _ => Iff.rfl⟩
  · -- only a registration changes the observer, and only a completion does more than pass
    refine ⟨o, ?_, ?_, fun hx _ => ?_⟩
    · cases sig with
      | outbound op => rfl
      | inbound s =>
        cases s with
        | registered => exact absurd rfl hregistered
        | event ev =>
          cases ev with
          | handshakeCompleted out => exact absurd rfl (hsig out)
          | closeNotifyReceived => rfl
        | _ => rfl
    · cases sig with
      | outbound op => rfl
      | inbound s =>
        cases s with
        | event ev =>
          cases ev with
          | handshakeCompleted out => exact absurd rfl (hsig out)
          | closeNotifyReceived => rfl
        | _ => rfl
    · cases o with
      | unarmed => exact (hcons hx).trans (or_iff_right fun h => hregistered h.1)
      | _ => exact Iff.rfl

theorem Call.announced {out : HandshakeOutcome} (ho : c.handler = .observer o)
    (hsig : c.signal = completion out) : Announced k o [] c out where
  first _ hmem := absurd hmem List.not_mem_nil
  signal := hsig
  emitted := observer_announces ho hsig
  leaves := by
    obtain ⟨v, sig, h, e⟩ := c
    obtain rfl : h = .observer o := ho
    obtain rfl : sig = completion out := hsig
    rfl
  recorded hrecords := by
    cases o with
    | unarmed =>
      obtain ⟨_, hmem, -⟩ : Enrolled [] := hrecords
      exact absurd hmem List.not_mem_nil
    | armed started recording =>
      obtain rfl : recording = true := hrecords
      rw [reaction_completion ho hsig, Env.handshakes_record]
      exact ⟨_, rfl⟩
    | completed => exact hrecords.elim
  unrecorded hrecords := by
    obtain ⟨v, sig, h, e⟩ := c
    obtain rfl : h = .observer o := ho
    obtain rfl : sig = completion out := hsig
    cases o with
    | armed started recording =>
      cases recording with
      | true => exact absurd rfl hrecords
      | false => rfl
    | _ => rfl

theorem Announced.cons {out : HandshakeOutcome} {o' : ObserverState}
    {early : List (Delivery (Occupant η ξ) (Env ω))} (h : Announced k o' early c out)
    (hx : Incomplete (x :: early)) (hrecords : o.Records (x :: early) ↔ o'.Records early) :
    Announced k o (x :: early) c out :=
  ⟨hx, h.signal, h.emitted, h.leaves, fun hr => h.recorded (hrecords.1 hr),
    fun hr => h.unrecorded fun hr' => hr (hrecords.2 hr')⟩

end Delivery

section Run

variable [Recorder ω] {k : StageKit η ξ ω} {now : Instant} {front back : List StageName} {id : Nat}
  {name : StageName} {s s' : Scene (Occupant η ξ) (Env ω)} {hops : List Hop}
  {l : List (Delivery (Occupant η ξ) (Env ω))} {o : ObserverState}

theorem Scene.places_enter {σ ω : Type} (s : Scene σ ω) (w : ω) :
    (Scene.ofPipeline s.pipeline w).places = s.places.filter Place.stands :=
  ofStage_stages s.places

def Vacated (front back : List StageName) (id : Nat) (name : StageName)
    (s : Scene (Occupant η ξ) (Env ω)) (hops : List Hop) : Prop :=
  Around front back id name none s.places ∨
    (Unwatched s ∧ (∀ q ∈ s.places, q.id ≠ id) ∧ s.Aimed hops)

theorem Vacated.proceeds (hv : Vacated front back id name s hops)
    (hn : (front ++ name :: back).Nodup) (h : Scene.Proceeds (Occupant.react k) now s hops l s') :
    (∀ x ∈ l, x.happening.visit? = none ∧ (x.hop.target = some id → x.Passes front back)) ∧
      s'.world.handshakes = s.world.handshakes ∧ ∀ st ∈ s'.pipeline.stages, st.id ≠ id := by
  induction h with
  | stop now s hops =>
    refine ⟨fun x hx => absurd hx List.not_mem_nil, rfl, ?_⟩
    intro st hst hid
    obtain ⟨q, hq, hstage⟩ := List.mem_filterMap.1 hst
    obtain ⟨h, hh, rfl⟩ := Option.map_eq_some_iff.1 hstage
    rcases hv with ha | ⟨-, habsent, -⟩
    · rw [ha.eq_of_id hq hid] at hh
      cases hh
    · exact habsent q hq hid
  | @take now s s₁ s' hop rest hops x l htakes _ ih =>
    obtain ⟨hhop, -⟩ := htakes.shows
    have hstep : (x.happening.visit? = none ∧ (x.hop.target = some id → x.Passes front back)) ∧
        s₁.world.handshakes = s.world.handshakes ∧ Vacated front back id name s₁ hops := by
      -- its vacant place is still there until the dispatch ends, and then no place has its
      -- identifier
      rcases hv with ha | ⟨hu, habsent, haimed⟩
      · rcases ha.takes htakes with ⟨hvisit, hsame, ha₁⟩ | ⟨_, _, _, hnone, -⟩
        · exact ⟨⟨hvisit, fun ht => ha.passes hn htakes (hhop ▸ ht)⟩, hsame, .inl ha₁⟩
        · cases hnone
      · obtain ⟨hvisit, hsame, hu₁⟩ := hu.takes htakes
        have hids : s₁.places.map (·.id) = s.places.map (·.id) := by
          have heq := congrArg (List.map Prod.fst) htakes.places_eq
          rwa [List.map_map, List.map_map] at heq
        have hne : id ∉ s.places.map (·.id) := fun hmem => by
          obtain ⟨q, hq, hid⟩ := List.mem_map.1 hmem
          exact habsent q hq hid
        refine ⟨⟨hvisit, fun ht => ?_⟩, hsame, .inr ⟨hu₁, fun q hq hid => ?_, haimed.takes htakes⟩⟩
        · exact absurd (haimed hop (by simp) id (hhop ▸ ht)) hne
        · exact hne (hids ▸ hid ▸ List.mem_map_of_mem hq)
    obtain ⟨hx, hsame, hv₁⟩ := hstep
    obtain ⟨hl, hsame', hgone⟩ := ih hv₁
    refine ⟨fun y hy => ?_, hsame'.trans hsame, hgone⟩
    rcases List.mem_cons.1 hy with rfl | hy
    · exact hx
    · exact hl y hy
  | @enter now later s s' l sig _ ih =>
    have habsent : ∀ q ∈ s.places, q.stands = true →
        q.id ≠ id ∧ ∀ o, q.handler ≠ some (.observer o) := by
      intro q hq hstands
      rcases hv with ha | ⟨hu, habsent, -⟩
      · have hid : q.id ≠ id := fun hid => by
          rw [ha.eq_of_id hq hid] at hstands
          cases hstands
        exact ⟨hid, ha.alone q hq hid⟩
      · exact ⟨habsent q hq, hu q hq⟩
    refine ih (.inr ⟨?_, ?_, Scene.aimed_entry _ _ sig⟩)
    · intro q hq
      rw [Scene.places_enter] at hq
      exact (habsent q (List.mem_filter.1 hq).1 (List.mem_filter.1 hq).2).2
    · intro q hq
      rw [Scene.places_enter] at hq
      exact (habsent q (List.mem_filter.1 hq).1 (List.mem_filter.1 hq).2).1

/-- How the deliveries go that begin with an observer in place: no completion reaches it, or one
does and is the last that it gets. -/
def Served (k : StageKit η ξ ω) (front back : List StageName) (id : Nat) (name : StageName)
    (o : ObserverState) (e : Env ω) (l : List (Delivery (Occupant η ξ) (Env ω)))
    (p : Pipeline (Occupant η ξ)) (e' : Env ω) : Prop :=
  (Incomplete l ∧ e'.handshakes = e.handshakes ∧
    ∃ o', ⟨id, name, some (.observer o')⟩ ∈ p.stages) ∨
  ∃ early x late c out, l = early ++ x :: late ∧ x.happening.visit? = some c ∧
    Announced k o early c out ∧ c.world.handshakes = e.handshakes ∧
    (∀ y ∈ late, y.happening.visit? = none ∧ (y.hop.target = some id → y.Passes front back)) ∧
    e'.handshakes = (c.reaction (Occupant.react k)).world.handshakes ∧
    ∀ st ∈ p.stages, st.id ≠ id

theorem Served.cons {x : Delivery (Occupant η ξ) (Env ω)} {o' : ObserverState} {e e₁ e' : Env ω}
    {p : Pipeline (Occupant η ξ)} (h : Served k front back id name o' e₁ l p e')
    (hx : ∀ c, x.happening.visit? = some c → ∀ out, c.signal ≠ completion out)
    (hsame : e₁.handshakes = e.handshakes)
    (hrecords : ∀ early late, l = early ++ late → (o.Records (x :: early) ↔ o'.Records early)) :
    Served k front back id name o e (x :: l) p e' := by
  have hincomplete : ∀ early, Incomplete early → Incomplete (x :: early) := by
    intro early hearly c hc
    obtain ⟨y, hy, hvisit⟩ := List.mem_filterMap.1 hc
    rcases List.mem_cons.1 hy with rfl | hy
    · exact hx c hvisit
    · exact hearly c (List.mem_filterMap.2 ⟨y, hy, hvisit⟩)
  rcases h with ⟨hl, hsame', hstays⟩ | ⟨early, y, late, c, out, rfl, hy, hc, hbefore, hrest⟩
  · exact .inl ⟨hincomplete l hl, hsame'.trans hsame, hstays⟩
  · exact .inr ⟨x :: early, y, late, c, out, rfl, hy,
      hc.cons (hincomplete early hc.first) (hrecords early _ rfl), hbefore.trans hsame, hrest⟩

omit [Recorder ω] in
theorem Enrolled.append {early : List (Delivery (Occupant η ξ) ω)} (h : Enrolled early)
    (late : List (Delivery (Occupant η ξ) ω)) : Enrolled (early ++ late) := by
  obtain ⟨c, hc, hregistered⟩ := h
  refine ⟨c, ?_, hregistered⟩
  rw [visits, List.filterMap_append]
  exact List.mem_append_left _ hc

theorem Metered.of_enrolled (h : Scene.Proceeds (Occupant.react k) now s hops l s')
    (hl : Enrolled l) : Metered s.places := by
  induction h with
  | stop => exact absurd hl.choose_spec.1 List.not_mem_nil
  | @take now s s₁ s' hop rest hops x l htakes _ ih =>
    cases hvisit : x.happening.visit? with
    | none =>
      obtain ⟨c, hc, hregistered⟩ := hl
      rw [visits_cons_none hvisit] at hc
      exact .of_takes htakes (ih ⟨c, hc, hregistered⟩)
    | some c =>
      rcases (enrolled_cons_iff hvisit).1 hl with ⟨-, hfinds⟩ | hl
      · cases htakes with
        | leave => cases hvisit
        | @call before after q h c' hland hsplit hq hc =>
          obtain ⟨rfl, -⟩ := Happening.eq_of_visit? hvisit
          rw [hc] at hfinds
          exact .of_findsMetrics hsplit hfinds
      · exact .of_takes htakes (ih hl)
  | @enter now later s s' l sig _ ih =>
    obtain ⟨q, hq, hmetrics⟩ := ih hl
    rw [Scene.places_enter] at hq
    exact ⟨q, (List.mem_filter.1 hq).1, hmetrics⟩

theorem Around.served (ha : Around front back id name (some o) s.places)
    (hn : (front ++ name :: back).Nodup) (h : Scene.Proceeds (Occupant.react k) now s hops l s') :
    Served k front back id name o s.world l s'.pipeline s'.world := by
  induction h generalizing o with
  | stop now s hops =>
    refine .inl ⟨fun c hmem => absurd hmem List.not_mem_nil, rfl, o, ?_⟩
    obtain ⟨before, after, hsplit, -, -⟩ := ha.split
    rw [Scene.pipeline, hsplit]
    simp [Place.stage?]
  | @take now s s₁ s' hop rest hops x l htakes hrest ih =>
    rcases ha.takes htakes with ⟨hvisit, hsame, ha₁⟩ | ⟨before, after, o', ho, hsplit, hx, rfl⟩
    · -- another stage is called, or a signal leaves the chain
      refine (ih ha₁).cons ?_ hsame fun early _ _ => o.records_cons_none hvisit
      intro c hc
      rw [hvisit] at hc
      cases hc
    · obtain rfl := Option.some.inj ho
      let c := s.call now before ⟨id, name, some (.observer o)⟩ after hop.signal (.observer o)
      have hx : x.happening = .called c := hx
      have hvisit : x.happening.visit? = some c := by rw [hx]; rfl
      have hplace : ∀ slot, Around front back id name slot
          (before ++ ⟨id, name, slot.map .observer⟩ :: after) :=
        fun slot => (hsplit ▸ ha).refill rfl slot
      -- the observer itself: a completion ends its part, anything else leaves it in place
      by_cases hsig : ∃ out, hop.signal = completion out
      · obtain ⟨out, hsig⟩ := hsig
        have hannounced : Announced k o [] c out := Call.announced rfl hsig
        have hvacated : Vacated front back id name (s.react before
            ⟨id, name, some (.observer o)⟩ after (c.reaction (Occupant.react k))) hops := by
          left
          show Around front back id name none (before ++ ⟨id, name, _⟩ :: after)
          rw [hannounced.leaves, if_pos rfl]
          exact hplace none
        obtain ⟨hlate, hsame, hgone⟩ := hvacated.proceeds hn hrest
        exact .inr ⟨[], x, l, c, out, rfl, hvisit, hannounced, rfl, hlate, hsame, hgone⟩
      · have hwaits : ∀ out, c.signal ≠ completion out := fun out h => hsig ⟨out, h⟩
        obtain ⟨o', hhandler, hworld, hrecords⟩ := Call.observer_waits (k := k) rfl hwaits
        have hstays : (c.reaction (Occupant.react k)).leaves = false :=
          Call.observer_stays rfl hwaits
        have ha₁ : Around front back id name (some o') (s.react before
            ⟨id, name, some (.observer o)⟩ after (c.reaction (Occupant.react k))).places := by
          show Around front back id name (some o') (before ++ ⟨id, name, _⟩ :: after)
          rw [hstays, if_neg Bool.false_ne_true, hhandler]
          exact hplace (some o')
        refine (ih ha₁).cons ?_ (by rw [Scene.react, hworld]; rfl) ?_
        · intro c' hc'
          obtain rfl := Option.some.inj (hvisit.symm.trans hc')
          exact hwaits
        · -- what is there later was there now
          rintro early late rfl
          refine hrecords hx fun hearly => Metered.findsMetrics ?_ hsplit (ha.nodup_names hn) _ _
          exact .of_takes htakes (.of_enrolled hrest (hearly.append late))
  | @enter now later s s' l sig _ ih =>
    -- a new signal from outside finds the places as they were left
    refine ih ?_
    rw [Scene.places_enter]
    exact ha.stands

end Run

namespace Pipeline

variable [Recorder ω] {k : StageKit η ξ ω} {p : Pipeline (Occupant η ξ)} {id : Nat}
  {name : StageName} {o : ObserverState} {front back : List (Stage (Occupant η ξ))}

omit [Recorder ω] in
theorem around_of_stages (hp : p.WellFormed)
    (hstages : p.stages = front ++ ⟨id, name, some (.observer o)⟩ :: back)
    (halone : ∀ st ∈ front ++ back, ∀ o', st.slot ≠ some (.observer o')) (e : Env ω) :
    Around (front.map (·.name)) (back.map (·.name)) id name (some o)
      (Scene.ofPipeline p e).places := by
  refine ⟨hp.ids_places, ⟨front.map .ofStage, back.map .ofStage, ?_, ?_, ?_⟩, ?_⟩
  · rw [Scene.ofPipeline, hstages, List.map_append, List.map_cons]
    rfl
  · rw [List.map_map]
    exact .refl _
  · rw [List.map_map]
    exact .refl _
  · intro q hq hid
    obtain ⟨st, hst, rfl⟩ := List.mem_map.1 hq
    rw [hstages] at hst
    refine halone st ?_
    rcases List.mem_append.1 hst with hst | hst
    · exact List.mem_append_left _ hst
    · rcases List.mem_cons.1 hst with rfl | hst
      · exact absurd rfl hid
      · exact List.mem_append_right _ hst

/-- The observer of the handshake acts once. In a chain with one observer, among stages that do what
they like, and whatever is sent into it: the observer makes one measurement at most; activity that
reaches it is turned into a request for a read. The first completion that reaches it is announced and
sent on, is measured just when a registration had reached the observer while there was a stage to
measure with, and is the last signal that the observer gets: it has left then, and what was on its
way to it is taken as it is by the next stage. -/
theorem observer_acts_once (hp : p.Built (Env ω))
    (hstages : p.stages = front ++ ⟨id, name, some (.observer o)⟩ :: back)
    (halone : ∀ st ∈ front ++ back, ∀ o', st.slot ≠ some (.observer o'))
    (calls : List (Instant × Signal)) (e : Env ω) :
    let r := p.operate k.behaviour calls e
    (∃ made, made.length ≤ 1 ∧ r.world.handshakes = e.handshakes ++ made) ∧
      (∀ c ∈ visits r.deliveries, c.signal = .inbound .active →
        (c.reaction (Occupant.react k)).emitted = [.outbound .read] ∧
          (c.reaction (Occupant.react k)).leaves = false) ∧
      Served k (front.map (·.name)) (back.map (·.name)) id name o e r.deliveries r.pipeline
        r.world := by
  intro r
  have hwell := hp.wellFormed
  obtain ⟨s, hproceeds, hpipeline, hworld⟩ := hwell.operate_proceeds (b := k.behaviour)
    (w := e) (hwell.pipeline_ofPipeline e) rfl calls 0
  have hnames : (front.map (·.name) ++ name :: back.map (·.name)).Nodup := by
    have h := hwell.names
    rwa [hstages, tags, List.map_map, List.map_append, List.map_cons] at h
  have hserved : Served k (front.map (·.name)) (back.map (·.name)) id name o e r.deliveries
      r.pipeline r.world := by
    rw [hpipeline, hworld]
    exact (around_of_stages hwell hstages halone e).served hnames hproceeds
  refine ⟨?_, ?_, hserved⟩
  · rcases hserved with ⟨-, hsame, -⟩ | ⟨early, x, late, c, out, -, -, hc, hbefore, -, hafter, -⟩
    · exact ⟨[], Nat.zero_le _, by rw [List.append_nil]; exact hsame⟩
    · rw [hafter, ← hbefore]
      by_cases hrecords : o.Records early
      · obtain ⟨elapsed, hmade⟩ := hc.recorded hrecords
        exact ⟨[_], Nat.le_refl 1, hmade⟩
      · exact ⟨[], Nat.zero_le _, by rw [List.append_nil]; exact hc.unrecorded hrecords⟩
  · intro c hc hactive
    obtain ⟨x, -, hvisit⟩ := List.mem_filterMap.1 hc
    obtain ⟨o', ho⟩ := Happening.handler_of_visit? hvisit
    exact Call.observer_swallows ho hactive

/-- With the first bytes a handshake is completed twice, and activity is reported in between. -/
def hasty : StageKit Empty Unit Unit where
  handshake _ _ h _ := h.elim
  custom _ sig x w :=
    match sig with
    | .inbound (.read _) => .emit x [completion .success, .inbound .active,
        completion (.failure (.other "late"))] w
    | _ => .pass x sig w
  limit := 40

def hastyChain : Pipeline (Occupant Empty Unit) :=
  ⟨⟨0, none⟩, [⟨0, .ssl, some (.custom ())⟩, ⟨1, .sslReader, some (.observer .unarmed)⟩,
    ⟨2, .channelMetrics, some .metrics⟩], 3, [], [], false, false⟩

theorem hastyChain_built : hastyChain.Built (Env Unit) := by
  have hssl : (Pipeline.new ⟨0, none⟩ : Pipeline (Occupant Empty Unit)).add .last .ssl
      (.custom ()) = .ok ⟨⟨0, none⟩, [⟨0, .ssl, some (.custom ())⟩], 1, [], [], false, false⟩ := rfl
  have hobserver : (⟨⟨0, none⟩, [⟨0, .ssl, some (.custom ())⟩], 1, [], [], false, false⟩ :
      Pipeline (Occupant Empty Unit)).add .last .sslReader (.observer .unarmed) =
        .ok ⟨⟨0, none⟩, [⟨0, .ssl, some (.custom ())⟩, ⟨1, .sslReader, some (.observer .unarmed)⟩],
          2, [], [], false, false⟩ := rfl
  exact (((Built.new _).add hssl).add hobserver).add
    (show Pipeline.add _ .last .channelMetrics .metrics = .ok hastyChain from rfl)

theorem observer_acts_once_of_hasty :
    let r := hastyChain.operate hasty.behaviour
      [(0, .inbound .registered), (1, .inbound .active), (5, .inbound (.read [1]))] ⟨[], ()⟩
    Served hasty [.ssl] [.channelMetrics] 1 .sslReader .unarmed ⟨[], ()⟩ r.deliveries r.pipeline
        r.world ∧
      r.world.handshakes = [.handshake (.opaqueName "unknown") ⟨5⟩ "success"] ∧
      r.pipeline.tail = [.registered, .active, .event (.handshakeCompleted .success), .active,
        .event (.handshakeCompleted (.failure (.other "late")))] := by
  intro r
  have hstages : hastyChain.stages = [⟨0, .ssl, some (.custom ())⟩] ++
      ⟨1, .sslReader, some (.observer .unarmed)⟩ :: [⟨2, .channelMetrics, some .metrics⟩] := rfl
  have hserved := (observer_acts_once (k := hasty) hastyChain_built hstages (by simp)
    [(0, .inbound .registered), (1, .inbound .active), (5, .inbound (.read [1]))] ⟨[], ()⟩).2.2
  exact ⟨hserved, by decide +kernel, by decide +kernel⟩

end Pipeline
end SecureGateway

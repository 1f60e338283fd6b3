import Mathlib.Algebra.BigOperators.Group.List.Basic
import Mathlib.Algebra.GroupWithZero.Nat
import SecureGateway.Proofs.Connection.Course
import SecureGateway.Proofs.Connection.Passage
import SecureGateway.Rehearsal.Recipe

namespace SecureGateway

variable {η ξ ω : Type}

def Record.received? : Record → Option (RemoteAddress × Nat)
  | received remote bytes => some (remote, bytes)
  | _ => none

def Record.sent? : Record → Option (RemoteAddress × Nat)
  | sent remote bytes => some (remote, bytes)
  | _ => none

def countFor (remote : RemoteAddress) (data : Bytes) : RemoteAddress × Nat := (remote, data.length)

theorem sum_countFor (remote : RemoteAddress) (chunks : List Bytes) :
    ((chunks.map (countFor remote)).map Prod.snd).sum = chunks.flatten.length := by
  rw [List.map_map, List.length_flatten]
  rfl

/-- From one point to another these chunks were counted, in either direction, and no others. -/
def Env.Counts (remote : RemoteAddress) (reads writes : List Bytes) (e e' : Env ω) : Prop :=
  ∃ new, e'.records = e.records ++ new ∧
    new.filterMap Record.received? = reads.map (countFor remote) ∧
    new.filterMap Record.sent? = writes.map (countFor remote)

namespace Env.Counts

variable {remote : RemoteAddress} {reads reads' writes writes' : List Bytes} {e e₁ e' : Env ω}

theorem of_same (h : e'.records = e.records) : e.Counts remote [] [] e' :=
  ⟨[], by rw [h, List.append_nil], rfl, rfl⟩

theorem trans (h₁ : e.Counts remote reads writes e₁) (h₂ : e₁.Counts remote reads' writes' e') :
    e.Counts remote (reads ++ reads') (writes ++ writes') e' := by
  obtain ⟨new₁, hnew₁, hreads₁, hwrites₁⟩ := h₁
  obtain ⟨new₂, hnew₂, hreads₂, hwrites₂⟩ := h₂
  refine ⟨new₁ ++ new₂, by rw [hnew₂, hnew₁, List.append_assoc], ?_, ?_⟩
  · rw [List.filterMap_append, hreads₁, hreads₂, List.map_append]
  · rw [List.filterMap_append, hwrites₁, hwrites₂, List.map_append]

end Env.Counts

section Calls

variable [Recorder ω] {k : StageKit η ξ ω} {remote : RemoteAddress} {c : Call (Occupant η ξ) (Env ω)}

theorem Occupant.countBytes_counts {v : View (Occupant η ξ)} (hv : v.channel.remote = some remote)
    (sig : Inbound) (e : Env ω) :
    e.Counts remote (chunks [sig]) [] (countBytes v (.inbound sig) e) := by
  unfold countBytes
  rw [hv]
  cases sig with
  | read data => exact ⟨[.received remote data.length], rfl, rfl, rfl⟩
  | _ => exact .of_same rfl

theorem Occupant.countBytes_counts_outbound {v : View (Occupant η ξ)}
    (hv : v.channel.remote = some remote) (op : Outbound) (e : Env ω) :
    e.Counts remote [] (Signal.outbound op).written (countBytes v (.outbound op) e) := by
  unfold countBytes
  rw [hv]
  cases op with
  | write data => exact ⟨[.sent remote data.length], rfl, rfl, rfl⟩
  | _ => exact .of_same rfl

/-- The observer measures handshakes, and no other stage but the counter measures anything. -/
theorem Call.counts_reaction (hc : c.handler ≠ .metrics) :
    c.world.Counts remote [] [] (c.reaction (Occupant.react k)).world := by
  obtain ⟨v, sig, h, e⟩ := c
  cases h with
  | metrics => exact absurd rfl hc
  | observer o =>
    have hmeasure : ∀ outcome, e.Counts remote [] [] (o.measure v outcome e) := by
      intro outcome
      unfold ObserverState.measure
      split
      · exact ⟨[_], rfl, rfl, rfl⟩
      · exact .of_same rfl
    show e.Counts remote [] [] (o.react v sig e).world
    unfold ObserverState.react
    split
    · exact .of_same rfl
    · exact .of_same rfl
    · exact .of_same rfl
    · exact hmeasure _
    · exact .of_same rfl
  | _ => exact .of_same rfl

theorem Call.reaction_ne_metrics (hc : c.handler ≠ .metrics) :
    (c.reaction (Occupant.react k)).handler ≠ .metrics := by
  obtain ⟨v, sig, h, e⟩ := c
  cases h with
  | metrics => exact absurd rfl hc
  | _ => nofun

end Calls

/-- The place `m` counts bytes. It is the last of its row, and no other counts. -/
structure MeterLast (m : Place (Occupant η ξ)) (places : List (Place (Occupant η ξ))) : Prop where
  unique : (places.map (·.id)).Nodup
  handler : m.handler = some .metrics
  last : ∃ front, places = front ++ [m] ∧ ∀ q ∈ front, q.handler ≠ some .metrics

/-- A signal on its way within a row: inbound to any of its places, outbound to any but the last. -/
inductive Hop.Within (ids : List Nat) (meter : Nat) : Hop → Prop
  | inbound {id : Nat} (s : Inbound) : id ∈ ids → Within ids meter (.inbound (some id) s)
  | outbound {target : Option Nat} (op : Outbound) : target ≠ some meter →
    Within ids meter (.outbound target op)

namespace MeterLast

variable {m q q' : Place (Occupant η ξ)} {places before after : List (Place (Occupant η ξ))}
  {hop : Hop}

theorem stands (hm : MeterLast m places) : m.stands = true := by
  rw [Place.stands, hm.handler, Option.isSome_some]

theorem split_cases (hm : MeterLast m (before ++ q :: after)) :
    (q = m ∧ after = []) ∨
      (q.id ≠ m.id ∧ q.handler ≠ some .metrics ∧ ∃ mid, after = mid ++ [m]) := by
  obtain ⟨front, hplaces, hfront⟩ := hm.last
  rcases append_cons_cases hplaces with ⟨mid, rfl, hnil⟩ | ⟨rfl, rfl, rfl⟩ | ⟨mid, rfl, hnil⟩
  · refine .inr ⟨?_, hfront q (by simp), mid, hnil⟩
    have hn := hm.unique
    rw [hnil, List.map_append, List.nodup_append] at hn
    have hn' := hn.2.1
    rw [List.map_cons, List.nodup_cons] at hn'
    exact fun hid => hn'.1 (by simp [hid])
  · exact .inl ⟨rfl, rfl⟩
  · cases mid <;> simp at hnil

theorem change (hm : MeterLast m (before ++ q :: after)) (hid : q'.id = q.id) (hne : q.id ≠ m.id)
    (hq' : q'.handler ≠ some .metrics) : MeterLast m (before ++ q' :: after) := by
  obtain ⟨front, hplaces, hfront⟩ := hm.last
  refine ⟨by simpa [hid] using hm.unique, hm.handler, ?_⟩
  rcases append_cons_cases hplaces with ⟨mid, rfl, hnil⟩ | ⟨rfl, rfl, rfl⟩ | ⟨mid, rfl, hnil⟩
  · refine ⟨before ++ q' :: mid, by simp [hnil], fun x hx => ?_⟩
    rcases List.mem_append.1 hx with hx | hx
    · exact hfront x (List.mem_append_left _ hx)
    · rcases List.mem_cons.1 hx with rfl | hx
      · exact hq'
      · exact hfront x (List.mem_append_right _ (List.mem_cons_of_mem _ hx))
  · exact absurd rfl hne
  · cases mid <;> simp at hnil

theorem leave_cases (hm : MeterLast m places) (hw : hop.Within (places.map (·.id)) m.id)
    (hland : hop.landing places = none) : ∃ op, hop.signal = .outbound op := by
  cases hw with
  | outbound op _ => exact ⟨op, rfl⟩
  | @inbound id s hid =>
    obtain ⟨front, hplaces, -⟩ := hm.last
    obtain ⟨q, hq, rfl⟩ := List.mem_map.1 hid
    obtain ⟨before, after, rfl⟩ := List.append_of_mem hq
    have hfind : ((before ++ q :: after).dropWhile (·.id != q.id)).find? Place.stands = none := hland
    rw [dropWhile_to hm.unique] at hfind
    have hmem : m ∈ q :: after := by
      have hlast := congrArg List.getLast? hplaces
      rw [List.getLast?_append_of_ne_nil _ (List.cons_ne_nil _ _), List.getLast?_concat] at hlast
      exact List.mem_of_getLast? hlast
    exact absurd hm.stands (List.find?_eq_none.1 hfind m hmem)

theorem landing_last (hm : MeterLast m places) (hw : hop.Within (places.map (·.id)) m.id)
    (hland : hop.landing places = some m) : ∃ s, hop.signal = .inbound s := by
  cases hw with
  | inbound s _ => exact ⟨s, rfl⟩
  | @outbound target op htarget =>
    obtain ⟨front, rfl, -⟩ := hm.last
    obtain ⟨id, rfl, hfind⟩ := Option.bind_eq_some_iff.1 hland
    have hne : m.id ≠ id := fun hid => htarget (congrArg some hid.symm)
    have hcourse : (Hop.outbound (some id) op).signal.course (front ++ [m]) = m :: front.reverse := by
      show (front ++ [m]).reverse = _
      simp
    rw [hcourse, List.dropWhile_cons_of_pos (by simpa using hne)] at hfind
    have hmem := (List.dropWhile_sublist _).mem (List.mem_of_find?_eq_some hfind)
    have hn := hm.unique
    rw [List.map_append, List.nodup_append] at hn
    exact absurd rfl (hn.2.2 m.id (List.mem_map_of_mem (List.mem_reverse.1 hmem)) m.id (by simp))

theorem nearest_ne (hm : MeterLast m (before ++ after)) (hmem : m ∈ after) :
    nearest before.reverse ≠ some m.id := by
  intro hnearest
  have hbefore := Scene.mem_of_nearest hnearest
  rw [List.map_reverse, List.mem_reverse] at hbefore
  have hn := hm.unique
  rw [List.map_append, List.nodup_append] at hn
  exact absurd rfl (hn.2.2 m.id hbefore m.id (List.mem_map_of_mem hmem))

theorem within_hopBetween (hm : MeterLast m (before ++ q :: after)) (hne : q.id ≠ m.id)
    (sig : Signal) :
    (sig.hopBetween before after).Within ((before ++ q :: after).map (·.id)) m.id := by
  obtain ⟨-, -, mid, rfl⟩ := hm.split_cases.resolve_left fun h => hne (congrArg (·.id) h.1)
  cases sig with
  | inbound s =>
    obtain ⟨x, hx⟩ : ∃ x, (mid ++ [m]).find? Place.stands = some x := by
      refine Option.isSome_iff_exists.1 (List.find?_isSome.2 ⟨m, by simp, hm.stands⟩)
    have hnearest : nearest (mid ++ [m]) = some x.id := by rw [nearest, hx, Option.map_some]
    rw [Signal.hopBetween, hnearest]
    have hmem := List.mem_of_find?_eq_some hx
    exact .inbound s (List.mem_map_of_mem
      (List.mem_append_right _ (List.mem_cons_of_mem _ hmem)))
  | outbound op => exact .outbound op (hm.nearest_ne (by simp))

end MeterLast

section Deliveries

variable [Recorder ω] {k : StageKit η ξ ω} {now : Instant} {remote : RemoteAddress}
  {m : Place (Occupant η ξ)} {s s' : Scene (Occupant η ξ) (Env ω)}
  {l : List (Happening (Occupant η ξ) (Env ω))}

/-- A chain whose last stage counts bytes, for a known peer. -/
structure Scene.Metered (remote : RemoteAddress) (m : Place (Occupant η ξ))
    (s : Scene (Occupant η ξ) (Env ω)) : Prop where
  meter : MeterLast m s.places
  remote : s.ends.channel.remote = some remote

omit [Recorder ω] in
theorem Scene.Metered.arrive (hs : s.Metered remote m) (sig : Signal) :
    (s.arrive sig).Metered remote m :=
  ⟨hs.meter, (congrArg Channel.remote (s.ends.arrive_channel sig)).trans hs.remote⟩

omit [Recorder ω] in
theorem Delivers.past_last {react : React (Occupant η ξ) (Occupant η ξ) (Env ω)} {sig : Inbound}
    (hd : Delivers react now s [.inbound none sig] l s') :
    l = [.left (.inbound sig)] ∧ s' = s.arrive (.inbound sig) := by
  rcases hd.cons_inv with ⟨-, l', rfl, hrest⟩ | ⟨_, _, _, _, _, _, _, hland, -⟩
  · cases hrest
    exact ⟨rfl, rfl⟩
  · cases hland

omit [Recorder ω] in
theorem chunks_arrivals_append (l₁ l₂ : List (Happening (Occupant η ξ) (Env ω))) :
    chunks (arrivals (l₁ ++ l₂)) = chunks (arrivals l₁) ++ chunks (arrivals l₂) := by
  rw [← chunks_append]
  exact congrArg chunks List.filterMap_append

theorem Scene.Metered.react_counter {before : List (Place (Occupant η ξ))}
    (hs : s.Metered remote m) (hsplit : s.places = before ++ [m]) (sig : Signal) :
    (s.react before m [] ((s.call now before m [] sig .metrics).reaction
      (Occupant.react k))).Metered remote m := by
  have hplaces : (s.react before m [] ((s.call now before m [] sig .metrics).reaction
      (Occupant.react k))).places = s.places := by
    have hkeeps : { m with handler := some Occupant.metrics } = m := by rw [← hs.meter.handler]
    rw [hsplit]
    exact congrArg (fun x => before ++ [x]) hkeeps
  exact ⟨hplaces.symm ▸ hs.meter, hs.remote⟩

theorem Delivers.counter {sig : Inbound} {before : List (Place (Occupant η ξ))}
    (hs : s.Metered remote m) (hsplit : s.places = before ++ [m])
    (hd : Delivers (Occupant.react k) now
      (s.react before m [] ((s.call now before m [] (.inbound sig) .metrics).reaction
        (Occupant.react k)))
      (((s.call now before m [] (.inbound sig) .metrics).reaction
        (Occupant.react k)).emitted.map (Signal.hopBetween before [])) l s') :
    s'.Metered remote m ∧ s.world.Counts remote (chunks (arrivals l)) [] s'.world := by
  obtain ⟨rfl, rfl⟩ := Delivers.past_last hd
  exact ⟨(hs.react_counter hsplit _).arrive _, Occupant.countBytes_counts
    (v := (s.call now before m [] (.inbound sig) .metrics).view) hs.remote sig s.world⟩

theorem Scene.Metered.react {before after : List (Place (Occupant η ξ))} {q : Place (Occupant η ξ)}
    {h : Occupant η ξ} {c : Call (Occupant η ξ) (Env ω)} {sig : Signal} (hs : s.Metered remote m)
    (hsplit : s.places = before ++ q :: after) (hc : c = s.call now before q after sig h)
    (hid : q.id ≠ m.id) (hne : h ≠ .metrics) :
    (s.react before q after (c.reaction (Occupant.react k))).Metered remote m ∧
      s.world.Counts remote [] [] (c.reaction (Occupant.react k)).world := by
  have hhandler : c.handler ≠ .metrics := by rw [hc]; exact hne
  have hworld : c.world = s.world := by rw [hc]; rfl
  refine ⟨⟨?_, hs.remote⟩, hworld ▸ Call.counts_reaction hhandler⟩
  refine (hsplit ▸ hs.meter).change rfl hid ?_
  cases (c.reaction (Occupant.react k)).leaves with
  | true => nofun
  | false => exact fun heq => Call.reaction_ne_metrics hhandler (Option.some.inj heq)

/-- Of what goes on within a chain just the chunks that leave it at the tail are counted. -/
theorem Delivers.counts {hops : List Hop} (hd : Delivers (Occupant.react k) now s hops l s')
    (hs : s.Metered remote m) (hhops : ∀ hop ∈ hops, hop.Within (s.places.map (·.id)) m.id) :
    s'.Metered remote m ∧ s.world.Counts remote (chunks (arrivals l)) [] s'.world := by
  induction hd with
  | done s => exact ⟨hs, .of_same rfl⟩
  | @leave s s' hop hops l hland _ ih =>
    obtain ⟨op, hop⟩ := hs.meter.leave_cases (hhops hop List.mem_cons_self) hland
    rw [hop]
    exact ih (hs.arrive _) fun x hx => hhops x (List.mem_cons_of_mem _ hx)
  | @call s s₁ s' hop hops inner outer before after q h c hland hsplit hh hc hin _ ihin ihout =>
    -- places keep their identifiers, so what was on its way within the row still is
    have hids := hin.ids_eq.trans (Scene.ids_react hsplit _)
    have hinner : s₁.Metered remote m ∧
        s.world.Counts remote (chunks (arrivals inner)) [] s₁.world := by
      have hmeter := hs.meter
      rw [hsplit] at hmeter
      rcases hmeter.split_cases with ⟨rfl, rfl⟩ | ⟨hid, hne, -⟩
      · -- the counter itself, which only an inbound signal can have come to
        obtain ⟨sig, hsig⟩ := hs.meter.landing_last (hhops hop List.mem_cons_self) hland
        obtain rfl := Option.some.inj (hh.symm.trans hmeter.handler)
        rw [hc, hsig] at hin
        exact hin.counter hs hsplit
      · obtain ⟨hs', hnone⟩ := hs.react (k := k) hsplit hc hid fun heq => hne (heq ▸ hh)
        obtain ⟨hs₁, hcounts⟩ := ihin hs' fun x hx => by
          obtain ⟨sig, -, rfl⟩ := List.mem_map.1 hx
          rw [Scene.ids_react hsplit, hsplit]
          exact hmeter.within_hopBetween hid sig
        exact ⟨hs₁, hnone.trans hcounts⟩
    obtain ⟨hs', houter⟩ := ihout hinner.1 fun x hx => hids ▸ hhops x (List.mem_cons_of_mem _ hx)
    refine ⟨hs', ?_⟩
    have hl : chunks (arrivals (.called c :: (inner ++ outer))) =
        chunks (arrivals inner) ++ chunks (arrivals outer) := chunks_arrivals_append inner outer
    rw [hl]
    exact hinner.2.trans houter

/-- A write that enters the chain is counted first, and then goes on within it. -/
theorem Delivers.counts_submit {op : Outbound}
    (hd : Delivers (Occupant.react k) now s [.outbound (some m.id) op] l s')
    (hs : s.Metered remote m) :
    s'.Metered remote m ∧
      s.world.Counts remote (chunks (arrivals l)) (Signal.outbound op).written s'.world := by
  obtain ⟨front, hplaces, -⟩ := hs.meter.last
  have hreverse : s.places.reverse = m :: front.reverse := by rw [hplaces]; simp
  have hland : (Hop.outbound (some m.id) op).landing s.places = some m := by
    show (s.places.reverse.dropWhile (·.id != m.id)).find? Place.stands = some m
    rw [hreverse, List.dropWhile_cons_of_neg (by simp), List.find?_cons_of_pos hs.meter.stands]
  rcases hd.cons_inv with ⟨hnone, -⟩ | ⟨before, q, after, h, inner, outer, s₁, hland', hsplit, hh,
    rfl, hin, hout⟩
  · cases hnone.symm.trans hland
  · cases hout
    -- the counter is called, and hands the operation to the stages in front of it
    obtain rfl := Option.some.inj (hland.symm.trans hland')
    have hmeter := hs.meter
    rw [hsplit] at hmeter
    obtain ⟨-, rfl⟩ := hmeter.split_cases.resolve_right fun hne => hne.1 rfl
    obtain rfl := Option.some.inj (hh.symm.trans hs.meter.handler)
    have hcounted := Occupant.countBytes_counts_outbound
      (v := (s.call now before m [] (.outbound op) .metrics).view) hs.remote op s.world
    obtain ⟨hs', hcounts⟩ := hin.counts (hs.react_counter hsplit _) fun hop hhop => by
      obtain rfl := List.mem_singleton.1 hhop
      exact .outbound op (hmeter.nearest_ne List.mem_cons_self)
    rw [List.append_nil]
    have hboth := hcounted.trans hcounts
    rw [List.append_nil] at hboth
    exact ⟨hs', hboth⟩

end Deliveries

namespace MeterLast

variable {m : Place (Occupant η ξ)} {places : List (Place (Occupant η ξ))}

theorem filter_stands (hm : MeterLast m places) : MeterLast m (places.filter Place.stands) := by
  obtain ⟨front, rfl, hfront⟩ := hm.last
  refine ⟨hm.unique.sublist (List.filter_sublist.map _), hm.handler, front.filter Place.stands, ?_,
    fun q hq => hfront q (List.mem_filter.1 hq).1⟩
  rw [List.filter_append, List.filter_cons_of_pos hm.stands, List.filter_nil]

theorem of_map {front : List (StageName × Option (Occupant η ξ))}
    (hids : (places.map (·.id)).Nodup)
    (h : places.map (fun q => (q.name, q.handler)) = front ++ [(.channelMetrics, some .metrics)])
    (hfront : ∀ x ∈ front, x.2 ≠ some .metrics) : ∃ m, MeterLast m places := by
  obtain ⟨row, last, rfl, hrow, hlast⟩ := List.map_eq_append_iff.1 h
  obtain ⟨m, rfl, hm⟩ := List.map_eq_singleton_iff.1 hlast
  refine ⟨m, hids, (Prod.mk.inj hm).2, row, rfl, fun q hq => ?_⟩
  exact hfront (q.name, q.handler) (hrow ▸ List.mem_map_of_mem hq)

end MeterLast

/-- A pipeline that counts the bytes of a known peer at its end. -/
structure Pipeline.Metered (remote : RemoteAddress) (p : Pipeline (Occupant η ξ)) : Prop where
  wellFormed : p.WellFormed
  meter : ∃ m, MeterLast m (p.stages.map .ofStage)
  remote : p.channel.remote = some remote

namespace Pipeline.Metered

variable {remote : RemoteAddress} {p q : Pipeline (Occupant η ξ)}

theorem of_same (hp : p.Metered remote) (hstages : q.stages = p.stages) (hid : q.nextId = p.nextId)
    (hchannel : q.channel = p.channel) : q.Metered remote where
  wellFormed := hp.wellFormed.of_sublist (hstages ▸ .refl _) hid (hstages ▸ hp.wellFormed.full)
  meter := hstages ▸ hp.meter
  remote := hchannel ▸ hp.remote

theorem perform [Recorder ω] {k : StageKit η ξ ω} {now : Instant} {sig : Signal} {e e' : Env ω}
    (hp : p.Metered remote) (h : p.perform k.behaviour now sig e = some (q, e')) :
    q.Metered remote ∧ e.Counts remote
      (chunks (arrivals (p.history k.behaviour now (p.entry sig) e))) sig.written e' := by
  rw [perform_eq] at h
  obtain ⟨s, hd, rfl, rfl⟩ := hp.wellFormed.delivers h
  obtain ⟨m, hm⟩ := hp.meter
  have hs : (Scene.ofPipeline p e).Metered remote m := ⟨hm, hp.remote⟩
  obtain ⟨front, hplaces, -⟩ := hm.last
  have hcounts : s.Metered remote m ∧ e.Counts remote
      (chunks (arrivals (p.history k.behaviour now (p.entry sig) e))) sig.written s.world := by
    -- an inbound signal starts at the head of the chain, an operation at the counter itself
    cases sig with
    | inbound sig =>
      obtain ⟨x, rest, hfirst⟩ := List.exists_cons_of_ne_nil
        (show p.stages.map Place.ofStage ≠ [] by simp [hplaces])
      have hentry : p.entry (.inbound sig) = .inbound (some x.id) sig := by
        rw [entry, idAt_zero, hfirst, List.head?_cons, Option.map_some]
      rw [hentry] at hd ⊢
      refine hd.counts hs fun hop hhop => ?_
      obtain rfl := List.mem_singleton.1 hhop
      refine .inbound sig (List.mem_map_of_mem ?_)
      show x ∈ p.stages.map Place.ofStage
      rw [hfirst]
      exact List.mem_cons_self
    | outbound op =>
      have hlast : p.stages.getLast?.map (·.id) = some m.id := by
        have h := congrArg (fun places => places.getLast?.map (·.id)) hplaces
        rwa [List.getLast?_map, Option.map_map, List.getLast?_concat] at h
      have hentry : p.entry (.outbound op) = .outbound (some m.id) op := by
        have h := idBefore_append p.stages []
        rw [List.append_nil, hlast] at h
        rw [entry, h]
      rw [hentry] at hd ⊢
      exact hd.counts_submit hs
  refine ⟨⟨hp.wellFormed.of_delivers hd, ⟨m, ?_⟩, hcounts.1.remote⟩, hcounts.2⟩
  rw [Scene.pipeline, ofStage_stages]
  exact hcounts.1.meter.filter_stands

end Pipeline.Metered

section Chain

variable {κ β : Type} [Timed η] [TlsContext κ η] {o : ConnectOptions κ β η} {channel : Channel}
  {p : Pipeline (Occupant η ξ)}

theorem assemble_bare (hssl : o.ssl = none) (hp : o.assemble channel = .ok p) :
    p.channel = channel ∧ p.stages.map (fun st => (st.name, st.slot)) =
      (if o.wiretap then [(.logging, some (.logging .wire))] else []) ++
        if o.metrics then [(.channelMetrics, some .metrics)] else [] := by
  obtain ⟨_, metrics, wiretap, debug, timeout⟩ := o
  obtain rfl := hssl
  cases metrics <;> cases wiretap <;>
    simp [ConnectOptions.assemble, Pipeline.addAll, Pipeline.add, Pipeline.insertAt,
      Pipeline.contains, Pipeline.new, positionOf, List.findIdx?_cons] at hp <;>
    subst hp <;> simp

theorem metered_of_assemble {id : Nat} {remote : RemoteAddress} (hmetrics : o.metrics = true)
    (hp : o.assemble ⟨id, some remote⟩ = .ok p) : p.Metered remote := by
  have hw : p.WellFormed := assemble_wellFormed hp
  obtain ⟨hchannel, front, hstages, hfront⟩ : p.channel = ⟨id, some remote⟩ ∧
      ∃ front, p.stages.map (fun st => (st.name, st.slot)) =
        front ++ [(.channelMetrics, some .metrics)] ∧ ∀ x ∈ front, x.2 ≠ some .metrics := by
    cases hssl : o.ssl with
    | none =>
      obtain ⟨hchannel, hstages⟩ := assemble_bare hssl hp
      rw [hmetrics, if_pos rfl] at hstages
      refine ⟨hchannel, _, hstages, ?_⟩
      cases o.wiretap <;> simp
    | some ssl =>
      obtain ⟨hchannel, -, -, h, -, hstages⟩ := assemble_spec hssl hp
      rw [hmetrics, securedChain, if_pos rfl, List.append_cons] at hstages
      refine ⟨hchannel, _, hstages, ?_⟩
      cases o.wiretap <;> cases o.sslDebug <;> simp
  have hplaces : (p.stages.map Place.ofStage).map (fun q => (q.name, q.handler)) =
      front ++ [(.channelMetrics, some .metrics)] := by
    rw [← hstages, List.map_map]
    rfl
  exact ⟨hw, MeterLast.of_map hw.ids_places hplaces hfront, by rw [hchannel]⟩

end Chain

section Run

variable [Recorder ω] {k : StageKit η ξ ω} {now : Instant} {remote : RemoteAddress}

theorem Connection.Conveys.counts {c c' : Connection η ξ ω} {writes : List Bytes}
    {l : List (Happening (Occupant η ξ) (Env ω))} (h : Conveys k now c writes l c')
    (hc : c.pipeline.Metered remote) :
    c'.pipeline.Metered remote ∧ c.env.Counts remote (chunks (arrivals l)) writes c'.env := by
  induction h with
  | same hkeeps =>
    exact ⟨hc.of_same hkeeps.stages hkeeps.nextId hkeeps.channel,
      .of_same (congrArg Env.records hkeeps.env)⟩
  | perform hperform => exact hc.perform hperform
  | trans _ _ ih₁ ih₂ =>
    obtain ⟨hc₁, hcounts₁⟩ := ih₁ hc
    obtain ⟨hc', hcounts₂⟩ := ih₂ hc₁
    rw [chunks_arrivals_append]
    exact ⟨hc', hcounts₁.trans hcounts₂⟩

variable [Secured η]

/-- The data of the writes among some moves that got past the check for a failure. -/
def Connection.acceptedAlong (k : StageKit η ξ ω) :
    List (Instant × Move) → Connection η ξ ω → List Bytes
  | [], _ => []
  | (now, m) :: moves, c =>
    c.accepted m ++
      match c.move k now m with
      | some a => a.1.acceptedAlong k moves
      | none => []

theorem Talk.play_counts {moves : List (Instant × Move)} {t t' : Talk η ξ ω}
    (ht : t.connection.pipeline.Metered remote) (h : t.play k moves = some t') :
    ∃ later, t'.history = t.history ++ later ∧ t.connection.env.Counts remote
      (chunks (arrivals later)) (t.connection.acceptedAlong k moves) t'.connection.env := by
  induction moves generalizing t with
  | nil =>
    obtain rfl := Option.some.inj h
    exact ⟨[], (List.append_nil _).symm, .of_same rfl⟩
  | cons x moves ih =>
    obtain ⟨now, m⟩ := x
    obtain ⟨a, hmove, hrest⟩ := Option.bind_eq_some_iff.1 h
    obtain ⟨ha, hcounts⟩ := (Connection.move_conveys hmove).counts ht
    obtain ⟨later, hhistory, hlater⟩ := ih (t := t.after k now m a) ha hrest
    refine ⟨t.connection.moveHistory k now m ++ later, ?_, ?_⟩
    · rw [hhistory, ← List.append_assoc]
      rfl
    · rw [chunks_arrivals_append, Connection.acceptedAlong, hmove]
      exact hcounts.trans hlater

namespace Connection

def acceptedIn (k : StageKit η ξ ω) (now : Instant) (moves : List (Instant × Move))
    (c : Connection η ξ ω) : List Bytes :=
  match c.opened k now with
  | some a => a.1.acceptedAlong k moves
  | none => []

/-- Whatever the handshake does, wherever the other stages stand, and however operations are mixed,
fail or are dropped, the counts of a connection are those of application data: of the chunks that
leave the pipeline at its tail, and of the writes that got past the check for a failure, chunk by
chunk and for its own peer. Nothing that the securing stages exchange with the peer is counted. -/
theorem bytes_counted {κ β : Type} [Timed η] [TlsContext κ η] {o : ConnectOptions κ β η} {id : Nat}
    {p : Pipeline (Occupant η ξ)} {env : Env ω} {moves : List (Instant × Move)} {t : Talk η ξ ω}
    (hmetrics : o.metrics = true) (hp : o.assemble ⟨id, some remote⟩ = .ok p)
    (h : (start now o remote p env).converse k now moves = some t) :
    ∃ new, t.connection.env.records = env.records ++ new ∧
      new.filterMap Record.received? = (chunks (arrivals t.history)).map (countFor remote) ∧
      new.filterMap Record.sent? =
        ((start now o remote p env).acceptedIn k now moves).map (countFor remote) ∧
      ((new.filterMap Record.received?).map Prod.snd).sum =
        (chunks (arrivals t.history)).flatten.length ∧
      ((new.filterMap Record.sent?).map Prod.snd).sum =
        ((start now o remote p env).acceptedIn k now moves).flatten.length := by
  obtain ⟨a, hopened, hplay⟩ := Option.bind_eq_some_iff.1 h
  have hmetered : (start now o remote p env).pipeline.Metered remote :=
    metered_of_assemble hmetrics hp
  -- first the opening, then the moves
  obtain ⟨ha, hopening⟩ := (opened_conveys hopened).counts hmetered
  obtain ⟨later, hhistory, hlater⟩ := Talk.play_counts ha hplay
  obtain ⟨new, hnew, hreads, hwrites⟩ := hopening.trans hlater
  rw [← chunks_arrivals_append] at hreads
  have hreads' : new.filterMap Record.received? =
      (chunks (arrivals t.history)).map (countFor remote) := by
    rw [hreads, hhistory]
    rfl
  have hwrites' : new.filterMap Record.sent? =
      ((start now o remote p env).acceptedIn k now moves).map (countFor remote) := by
    rw [hwrites, acceptedIn, hopened]
    rfl
  exact ⟨new, hnew, hreads', hwrites', by rw [hreads', sum_countFor],
    by rw [hwrites', sum_countFor]⟩

end Connection
end Run

def guardedOptions : ConnectOptions ClearContext Recipe ClearStage where
  ssl := some ⟨⟨0, ⟨"", false⟩⟩, none, none, .none, [], ⟨.prebuilt 0, none, .none, none⟩⟩
  metrics := true
  wiretap := true
  sslDebug := true

def guardedChain : Pipeline (Occupant ClearStage Empty) :=
  ⟨⟨0, some (.opaqueName "peer")⟩,
    [⟨4, .sslLogging, some (.logging .tls)⟩, ⟨2, .ssl, some (.handshake .new)⟩,
      ⟨1, .logging, some (.logging .wire)⟩, ⟨3, .sslReader, some (.observer .unarmed)⟩,
      ⟨0, .channelMetrics, some .metrics⟩], 5, [], [], false, false⟩

def guardedConnection : Connection ClearStage Empty Unit :=
  .start 0 guardedOptions (.opaqueName "peer") guardedChain ⟨[], ()⟩

def guardedMoves : List (Instant × Move) :=
  [(1, .socket (.sent 5)), (2, .socket (.received (.ofText "ok"))), (3, .write [1, 2, 3]),
    (4, .socket (.sent 5)), (5, .read), (6, .socket (.received [7, 8])), (7, .close),
    (8, .socket (.sent 3))]

/-- Of the 13 bytes that the socket takes 3 are counted, and of the 4 that it gives 2. -/
theorem Connection.bytes_counted_of_guarded :
    ∃ t, guardedConnection.converse (.closed ClearStage.react) 0 guardedMoves = some t ∧
      t.taken.length = 13 ∧
      ((t.connection.env.records.filterMap Record.sent?).map Prod.snd).sum = 3 ∧
      ((t.connection.env.records.filterMap Record.received?).map Prod.snd).sum = 2 := by
  have hassemble :
      guardedOptions.assemble ⟨0, some (.opaqueName "peer")⟩ = .ok guardedChain := rfl
  have hrun : (guardedConnection.converse (.closed ClearStage.react) 0 guardedMoves).map
      (fun t => (t.taken.length, chunks (arrivals t.history))) = some (13, [[7, 8]]) := by
    decide +kernel
  have haccepted : guardedConnection.acceptedIn (.closed ClearStage.react) 0 guardedMoves =
      [[1, 2, 3]] := by
    decide +kernel
  obtain ⟨t, h, ht⟩ := Option.map_eq_some_iff.1 hrun
  obtain ⟨htaken, harrivals⟩ := Prod.mk.inj ht
  obtain ⟨new, hnew, -, -, hreceived, hsent⟩ := bytes_counted rfl hassemble h
  rw [harrivals] at hreceived
  rw [← guardedConnection, haccepted] at hsent
  rw [List.nil_append] at hnew
  exact ⟨t, h, htaken, hnew ▸ hsent, hnew ▸ hreceived⟩

end SecureGateway

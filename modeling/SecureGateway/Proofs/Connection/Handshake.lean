import SecureGateway.Proofs.Connection.Activation
import SecureGateway.Proofs.Connection.Course
import SecureGateway.Proofs.Tls.Call

namespace SecureGateway

open Connection (decideOpening)

/-- Signals that a chain passes on and that settle nothing. -/
inductive Inbound.Calm : Inbound → Prop
  | registered : Calm .registered
  | read (data : Bytes) : Calm (.read data)
  | readComplete : Calm .readComplete
  | goodbye : Calm (.event .closeNotifyReceived)
  | tick (now : Instant) : Calm (.tick now)

theorem Inbound.Calm.decideOpening_singleton {s : Inbound} (h : s.Calm) :
    decideOpening [s] = none := by
  cases h <;> rfl

/-- The places of a secured chain: relays around a handshake stage and its observer. -/
structure Layout (η ξ : Type) where
  front : List (Place (Occupant η ξ))
  stageId : Nat
  mid : List (Place (Occupant η ξ))
  observerId : Nat
  back : List (Place (Occupant η ξ))

namespace Layout

variable {η ξ ω : Type}

def stage (L : Layout η ξ) (t : η) : Place (Occupant η ξ) := ⟨L.stageId, .ssl, some (.handshake t)⟩

def observer (L : Layout η ξ) (o : ObserverState) : Place (Occupant η ξ) :=
  ⟨L.observerId, .sslReader, some (.observer o)⟩

def places (L : Layout η ξ) (t : η) (o : ObserverState) : List (Place (Occupant η ξ)) :=
  L.front ++ L.stage t :: (L.mid ++ L.observer o :: L.back)

def ids (L : Layout η ξ) : List Nat :=
  L.front.map (·.id) ++ L.stageId :: (L.mid.map (·.id) ++ L.observerId :: L.back.map (·.id))

/-- All but the two are relays, and the byte counts are behind the observer. -/
structure Sound (L : Layout η ξ) : Prop where
  front : ∀ q ∈ L.front, ∃ h, q.handler = some h ∧ h.Relays
  mid : ∀ q ∈ L.mid, ∃ h, q.handler = some h ∧ h.Relays
  back : ∀ q ∈ L.back, ∃ h, q.handler = some h ∧ h.Relays
  ids : L.ids.Nodup
  unmetered : ∀ q ∈ L.front ++ L.mid, q.name ≠ .channelMetrics
  metered : findHandler (L.back.filterMap Place.stage?) .channelMetrics = some .metrics

theorem ids_places (L : Layout η ξ) (t : η) (o : ObserverState) :
    (L.places t o).map (·.id) = L.ids := by
  simp [places, ids, stage, observer]

theorem Sound.nodup {L : Layout η ξ} (hL : L.Sound) {s : Scene (Occupant η ξ) (Env ω)} {t : η}
    {o : ObserverState} (hs : s.places = L.places t o) : (s.places.map (·.id)).Nodup := by
  rw [hs, L.ids_places]
  exact hL.ids

theorem places_at_observer (L : Layout η ξ) (t : η) (o : ObserverState) :
    L.places t o = (L.front ++ L.stage t :: L.mid) ++ L.observer o :: L.back := by
  simp [places]

def toObserver (L : Layout η ξ) : Option Nat := some ((nearest L.mid).getD L.observerId)

def toStage (L : Layout η ξ) : Option Nat := some ((nearest L.mid.reverse).getD L.stageId)

theorem nearest_append_cons {q : Place (Occupant η ξ)} {h : Occupant η ξ}
    (hq : q.handler = some h) (row rest : List (Place (Occupant η ξ))) :
    nearest (row ++ q :: rest) = some ((nearest row).getD q.id) := by
  rw [nearest, List.find?_append]
  cases hfind : row.find? Place.stands with
  | none =>
    have hrow : nearest row = none := by rw [nearest, hfind]; rfl
    rw [hrow, Option.none_or]
    exact nearest_cons_of_stands hq rest
  | some x =>
    have hrow : nearest row = some x.id := by rw [nearest, hfind]; rfl
    rw [hrow]
    rfl

theorem nearest_to_observer (L : Layout η ξ) (o : ObserverState) :
    nearest (L.mid ++ L.observer o :: L.back) = L.toObserver :=
  nearest_append_cons rfl L.mid L.back

theorem nearest_to_stage (L : Layout η ξ) (t : η) :
    nearest (L.mid.reverse ++ L.stage t :: L.front.reverse) = L.toStage :=
  nearest_append_cons rfl L.mid.reverse L.front.reverse

theorem hopBetween_inbound (L : Layout η ξ) (o : ObserverState) (s : Inbound) :
    Signal.hopBetween L.front (L.mid ++ L.observer o :: L.back) (.inbound s) =
      .inbound L.toObserver s := by
  rw [← L.nearest_to_observer o]
  rfl

/-- The hops that go round while nothing comes of the handshake. -/
inductive Echo (L : Layout η ξ) : Hop → Prop
  | observer {s : Inbound} : s.Calm ∨ s = .active → s ≠ .registered →
    Echo L (.inbound L.toObserver s)
  | tail {s : Inbound} : s.Calm → Echo L (.inbound (nearest L.back) s)
  | stage : Echo L (.outbound L.toStage .read)
  | head {op : Outbound} : op ≠ .close → Echo L (.outbound (nearest L.front.reverse) op)

end Layout

variable {η ξ ω : Type}

theorem places_react {before after : List (Place (Occupant η ξ))} {q : Place (Occupant η ξ)}
    {h : Occupant η ξ} {r : Reaction (Occupant η ξ) ω}
    {s : Scene (Occupant η ξ) ω}
    (hsplit : s.places = before ++ q :: after) (hq : q.handler = some h) (hr : r.handler = h)
    (hstays : r.leaves = false) : (s.react before q after r).places = s.places := by
  rw [hsplit, Scene.react, hstays, hr, if_neg Bool.false_ne_true, ← hq]

theorem mem_react {before after : List (Place (Occupant η ξ))} {q x : Place (Occupant η ξ)}
    {r : Reaction (Occupant η ξ) ω} {s : Scene (Occupant η ξ) ω}
    (hsplit : s.places = before ++ q :: after) (hx : x ∈ (s.react before q after r).places) :
    x ∈ s.places ∨ x.handler = if r.leaves then none else some r.handler := by
  rcases List.mem_append.1 hx with hx | hx
  · exact .inl (hsplit ▸ List.mem_append_left _ hx)
  · rcases List.mem_cons.1 hx with rfl | hx
    · exact .inr rfl
    · exact .inl (hsplit ▸ List.mem_append_right _ (List.mem_cons_of_mem _ hx))

/-- From one scene to another nothing has come of the handshake. -/
structure Quiet (s s' : Scene (Occupant η ξ) (Env ω)) : Prop where
  channel : s'.ends.channel = s.ends.channel
  tail : ∃ xs, s'.ends.tail = s.ends.tail ++ xs ∧ decideOpening xs = none
  close : s'.ends.closeRequested = s.ends.closeRequested
  handshakes : s'.world.handshakes = s.world.handshakes

namespace Quiet

variable {s s₁ s' : Scene (Occupant η ξ) (Env ω)}

theorem refl (s : Scene (Occupant η ξ) (Env ω)) : Quiet s s :=
  ⟨rfl, ⟨[], (List.append_nil _).symm, rfl⟩, rfl, rfl⟩

theorem trans (h₁ : Quiet s s₁) (h₂ : Quiet s₁ s') : Quiet s s' := by
  obtain ⟨xs, htail₁, hxs⟩ := h₁.tail
  obtain ⟨ys, htail₂, hys⟩ := h₂.tail
  refine ⟨h₂.channel.trans h₁.channel, ⟨xs ++ ys, ?_, ?_⟩, h₂.close.trans h₁.close,
    h₂.handshakes.trans h₁.handshakes⟩
  · rw [htail₂, htail₁, List.append_assoc]
  · rw [Connection.decideOpening_append, hxs]
    exact hys

theorem of_beside (h : s.Beside s₁) : Quiet s s₁ := by
  obtain ⟨-, hends, hworld⟩ := h
  exact ⟨by rw [hends], ⟨[], by rw [hends, List.append_nil], rfl⟩, by rw [hends], hworld⟩

theorem of_react {before after : List (Place (Occupant η ξ))} {q : Place (Occupant η ξ)}
    {r : Reaction (Occupant η ξ) (Env ω)} (hr : r.world.handshakes = s.world.handshakes) :
    Quiet s (s.react before q after r) :=
  ⟨rfl, ⟨[], (List.append_nil _).symm, rfl⟩, rfl, hr⟩

theorem arrive_inbound {sig : Inbound} (h : decideOpening [sig] = none) :
    Quiet s (s.arrive (.inbound sig)) :=
  ⟨rfl, ⟨[sig], rfl, h⟩, rfl, rfl⟩

theorem arrive_outbound {op : Outbound} (h : op ≠ .close) : Quiet s (s.arrive (.outbound op)) := by
  cases op with
  | write data => exact ⟨rfl, ⟨[], (List.append_nil _).symm, rfl⟩, rfl, rfl⟩
  | read => exact ⟨rfl, ⟨[], (List.append_nil _).symm, rfl⟩, rfl, rfl⟩
  | close => exact absurd rfl h

end Quiet

/-- The observer has left. -/
def Unwatched (s : Scene (Occupant η ξ) (Env ω)) : Prop :=
  ∀ q ∈ s.places, ∀ o, q.handler ≠ some (.observer o)

def Channel.peer (c : Channel) : RemoteAddress := c.remote.getD (.opaqueName "unknown")

/-- From one scene to another the handshake was completed: it was measured once, the observer has
left, and nothing that settles an opening left the chain ahead of its announcement. -/
structure Concluded (out : HandshakeOutcome) (s s' : Scene (Occupant η ξ) (Env ω)) : Prop where
  channel : s'.ends.channel = s.ends.channel
  tail : ∃ xs ys, s'.ends.tail = s.ends.tail ++ (xs ++ ObserverState.announce out :: ys) ∧
    decideOpening xs = none
  handshakes : ∃ elapsed, s'.world.handshakes = s.world.handshakes ++
    [.handshake s.ends.channel.peer elapsed (Record.statusOf out.isSuccess)]
  unwatched : Unwatched s'

theorem ne_observer_of_relays {row : List (Place (Occupant η ξ))}
    (hrow : ∀ q ∈ row, ∃ h, q.handler = some h ∧ h.Relays) :
    ∀ q ∈ row, ∀ o, q.handler ≠ some (.observer o) := by
  intro q hq o ho
  obtain ⟨h, hh, hr⟩ := hrow q hq
  exact hr.ne_observer o (Option.some.inj (hh.symm.trans ho))

theorem Quiet.concluded {s s₁ s' : Scene (Occupant η ξ) (Env ω)} {out : HandshakeOutcome}
    (h₁ : Quiet s s₁) (h₂ : Concluded out s₁ s') : Concluded out s s' := by
  obtain ⟨xs, htail₁, hxs⟩ := h₁.tail
  obtain ⟨ys, zs, htail₂, hys⟩ := h₂.tail
  obtain ⟨elapsed, hrecords⟩ := h₂.handshakes
  refine ⟨h₂.channel.trans h₁.channel, ⟨xs ++ ys, zs, ?_, ?_⟩, ⟨elapsed, ?_⟩, h₂.unwatched⟩
  · rw [htail₂, htail₁]
    simp
  · rw [Connection.decideOpening_append, hxs]
    exact hys
  · rw [hrecords, h₁.handshakes, h₁.channel]

section Delivery

variable [Recorder ω] {k : StageKit η ξ ω} {now : Instant} {hops : List Hop}
  {s s' : Scene (Occupant η ξ) (Env ω)} {l : List (Happening (Occupant η ξ) (Env ω))}
  {L : Layout η ξ} {t : η} {o : ObserverState}

theorem Delivers.to_observer {sig : Inbound}
    (hd : Delivers (Occupant.react k) now s (.inbound L.toObserver sig :: hops) l s') (hL : L.Sound)
    (hs : s.places = L.places t o) :
    ∃ s₁ l₁, s.Beside s₁ ∧ l₁.length < l.length ∧
      let r := (s₁.call now (L.front ++ L.stage t :: L.mid) (L.observer o) L.back (.inbound sig)
        (.observer o)).reaction (Occupant.react k)
      Delivers (Occupant.react k) now
        (s₁.react (L.front ++ L.stage t :: L.mid) (L.observer o) L.back r)
        (r.emitted.map (Signal.hopBetween (L.front ++ L.stage t :: L.mid) L.back) ++ hops) l₁ s' := by
  rw [← L.nearest_to_observer o] at hd
  have hcourse : (Signal.inbound sig).course s.places =
      (L.front ++ [L.stage t]) ++ (L.mid ++ L.observer o :: L.back) := by
    rw [hs]
    simp [Layout.places, Signal.course]
  obtain ⟨s₁, l₁, hle, hbeside, hd₁⟩ :=
    Delivers.through (.inbound sig) hd hcourse (hL.nodup hs) hL.mid
  have hs₁ : s₁.places = L.places t o := hbeside.1.trans hs
  have hsplit := hs₁.trans (L.places_at_observer t o)
  have hcourse₁ : (Signal.inbound sig).course s₁.places =
      (L.front ++ L.stage t :: L.mid) ++ L.observer o :: L.back := hsplit
  obtain ⟨l₂, hlt, hd₂⟩ := hd₁.at_stage hsplit rfl hcourse₁ (hL.nodup hs₁)
  exact ⟨s₁, l₂, hbeside, by omega, hd₂⟩

theorem Delivers.to_stage {op : Outbound}
    (hd : Delivers (Occupant.react k) now s (.outbound L.toStage op :: hops) l s') (hL : L.Sound)
    (hs : s.places = L.places t o) :
    ∃ s₁ l₁, s.Beside s₁ ∧ l₁.length < l.length ∧
      let r := (s₁.call now L.front (L.stage t) (L.mid ++ L.observer o :: L.back) (.outbound op)
        (.handshake t)).reaction (Occupant.react k)
      Delivers (Occupant.react k) now
        (s₁.react L.front (L.stage t) (L.mid ++ L.observer o :: L.back) r)
        (r.emitted.map (Signal.hopBetween L.front (L.mid ++ L.observer o :: L.back)) ++ hops) l₁
        s' := by
  rw [← L.nearest_to_stage t] at hd
  -- an operation sees the chain from its end: the counter, the observer, the relays, the stage
  have hreverse : (L.places t o).reverse =
      (L.back.reverse ++ [L.observer o]) ++ (L.mid.reverse ++ L.stage t :: L.front.reverse) := by
    simp [Layout.places]
  have hcourse : (Signal.outbound op).course s.places =
      (L.back.reverse ++ [L.observer o]) ++ (L.mid.reverse ++ L.stage t :: L.front.reverse) := by
    rw [hs]
    exact hreverse
  have hmid : ∀ q ∈ L.mid.reverse, ∃ h, q.handler = some h ∧ h.Relays := fun q hq =>
    hL.mid q (List.mem_reverse.1 hq)
  obtain ⟨s₁, l₁, hle, hbeside, hd₁⟩ :=
    Delivers.through (.outbound op) hd hcourse (hL.nodup hs) hmid
  have hs₁ : s₁.places = L.places t o := hbeside.1.trans hs
  have hcourse₁ : (Signal.outbound op).course s₁.places =
      ((L.back.reverse ++ [L.observer o]) ++ L.mid.reverse) ++ L.stage t :: L.front.reverse := by
    rw [hs₁, List.append_assoc]
    exact hreverse
  obtain ⟨l₂, hlt, hd₂⟩ := hd₁.at_stage hs₁ rfl hcourse₁ (hL.nodup hs₁)
  exact ⟨s₁, l₂, hbeside, by omega, hd₂⟩

theorem Delivers.enter {sig : Inbound} {first : Option Nat}
    (hd : Delivers (Occupant.react k) now s (.inbound first sig :: hops) l s') (hL : L.Sound)
    (hs : s.places = L.places t o) (hfirst : first = nearest (L.places t o)) :
    ∃ s₁ l₁, s.Beside s₁ ∧
      let r := (s₁.call now L.front (L.stage t) (L.mid ++ L.observer o :: L.back) (.inbound sig)
        (.handshake t)).reaction (Occupant.react k)
      Delivers (Occupant.react k) now
        (s₁.react L.front (L.stage t) (L.mid ++ L.observer o :: L.back) r)
        (r.emitted.map (Signal.hopBetween L.front (L.mid ++ L.observer o :: L.back)) ++ hops) l₁
        s' := by
  rw [hfirst] at hd
  have hcourse : (Signal.inbound sig).course s.places =
      [] ++ (L.front ++ L.stage t :: (L.mid ++ L.observer o :: L.back)) := hs
  obtain ⟨s₁, l₁, -, hbeside, hd₁⟩ :=
    Delivers.through (.inbound sig) hd hcourse (hL.nodup hs) hL.front
  have hs₁ : s₁.places = L.places t o := hbeside.1.trans hs
  obtain ⟨l₂, -, hd₂⟩ := hd₁.at_stage hs₁ rfl hs₁ (hL.nodup hs₁)
  exact ⟨s₁, l₂, hbeside, hd₂⟩

theorem Delivers.to_tail {sig : Inbound} {ahead : List (Place (Occupant η ξ))}
    (hd : Delivers (Occupant.react k) now s (.inbound (nearest L.back) sig :: hops) l s')
    (hL : L.Sound) (hs : s.places = ahead ++ L.back) (hn : (s.places.map (·.id)).Nodup) :
    ∃ s₁ l₁, s.Beside s₁ ∧ l₁.length < l.length ∧
      Delivers (Occupant.react k) now (s₁.arrive (.inbound sig)) hops l₁ s' := by
  rw [← List.append_nil L.back] at hd
  have hcourse : (Signal.inbound sig).course s.places = ahead ++ (L.back ++ []) := by
    rw [hs, List.append_nil]
    rfl
  obtain ⟨s₁, l₁, hle, hbeside, hd₁⟩ :=
    Delivers.through (.inbound sig) hd hcourse hn hL.back
  obtain ⟨l₂, hlt, hd₂⟩ := hd₁.past_end
  exact ⟨s₁, l₂, hbeside, by omega, hd₂⟩

theorem Delivers.to_head (op : Outbound)
    (hd : Delivers (Occupant.react k) now s (.outbound (nearest L.front.reverse) op :: hops) l s')
    (hL : L.Sound) (hs : s.places = L.places t o) :
    ∃ s₁ l₁, s.Beside s₁ ∧ l₁.length < l.length ∧
      Delivers (Occupant.react k) now (s₁.arrive (.outbound op)) hops l₁ s' := by
  rw [← List.append_nil L.front.reverse] at hd
  have hcourse : (Signal.outbound op).course s.places =
      (L.stage t :: (L.mid ++ L.observer o :: L.back)).reverse ++ (L.front.reverse ++ []) := by
    rw [hs]
    simp [Signal.course, Layout.places]
  have hfront : ∀ q ∈ L.front.reverse, ∃ h, q.handler = some h ∧ h.Relays := fun q hq =>
    hL.front q (List.mem_reverse.1 hq)
  obtain ⟨s₁, l₁, hle, hbeside, hd₁⟩ :=
    Delivers.through (.outbound op) hd hcourse (hL.nodup hs) hfront
  obtain ⟨l₂, hlt, hd₂⟩ := hd₁.past_end
  exact ⟨s₁, l₂, hbeside, by omega, hd₂⟩

theorem Call.observer_calm {c : Call (Occupant η ξ) (Env ω)} {sig : Inbound}
    (ho : c.handler = .observer o) (hsig : c.signal = .inbound sig) (hcalm : sig.Calm ∨ sig = .active)
    (hne : sig ≠ .registered) :
    let r := c.reaction (Occupant.react k)
    r.handler = .observer o ∧ r.leaves = false ∧ r.world = c.world ∧
      ∀ x ∈ r.emitted, x = .outbound .read ∨ ∃ s, s.Calm ∧ x = .inbound s := by
  obtain ⟨v, sig', h, e⟩ := c
  obtain rfl : h = .observer o := ho
  obtain rfl : sig' = .inbound sig := hsig
  have hpass : sig.Calm → ∀ x ∈ [Signal.inbound sig],
      x = .outbound .read ∨ ∃ s, s.Calm ∧ x = .inbound s := by
    intro hcalm x hx
    exact .inr ⟨sig, hcalm, List.mem_singleton.1 hx⟩
  rcases hcalm with hcalm | rfl
  · have hpass := hpass hcalm
    cases hcalm with
    | registered => exact absurd rfl hne
    | readComplete =>
      refine ⟨rfl, rfl, rfl, ?_⟩
      intro x hx
      have hmem : x ∈ [.outbound .read, .inbound .readComplete] := by
        cases o with
        | completed => exact List.mem_cons_of_mem _ hx
        | _ => exact hx
      rcases List.mem_cons.1 hmem with hx | hx
      · exact .inl hx
      · exact hpass x hx
    | _ => exact ⟨rfl, rfl, rfl, hpass⟩
  · refine ⟨rfl, rfl, rfl, ?_⟩
    intro x hx
    exact .inl (List.mem_singleton.1 hx)

/-- The delivery goes on, quietly and with the stages as they were, with hops of the same kind. -/
def Layout.GoesOn (L : Layout η ξ) (k : StageKit η ξ ω) (now : Instant)
    (s : Scene (Occupant η ξ) (Env ω)) (hops : List Hop)
    (l : List (Happening (Occupant η ξ) (Env ω))) (s' : Scene (Occupant η ξ) (Env ω)) : Prop :=
  ∃ s₁ more l₁, s₁.places = s.places ∧ Quiet s s₁ ∧ (∀ hop ∈ more, L.Echo hop) ∧
    l₁.length < l.length ∧ Delivers (Occupant.react k) now s₁ (more ++ hops) l₁ s'

theorem Delivers.echo_observer {sig : Inbound}
    (hd : Delivers (Occupant.react k) now s (.inbound L.toObserver sig :: hops) l s') (hL : L.Sound)
    (hs : s.places = L.places t o) (hcalm : sig.Calm ∨ sig = .active) (hne : sig ≠ .registered) :
    L.GoesOn k now s hops l s' := by
  obtain ⟨s₁, l₁, hbeside, hlt, hd₁⟩ := hd.to_observer hL hs
  have hs₁ : s₁.places = L.places t o := hbeside.1.trans hs
  generalize hc : s₁.call now (L.front ++ L.stage t :: L.mid) (L.observer o) L.back
    (.inbound sig) (.observer o) = c at hd₁
  have hhandler : c.handler = .observer o := hc ▸ rfl
  have hsignal : c.signal = .inbound sig := hc ▸ rfl
  have hworld : c.world = s₁.world := hc ▸ rfl
  -- the observer stays as it is, and what it emits ends at the stage or at the tail
  obtain ⟨hsame, hstays, hw, hemitted⟩ := Call.observer_calm (k := k) hhandler hsignal hcalm hne
  have hplaces := places_react (hs₁.trans (L.places_at_observer t o)) rfl hsame hstays
  refine ⟨_, _, l₁, hplaces.trans hbeside.1, (Quiet.of_beside hbeside).trans
    (.of_react (congrArg Env.handshakes (hw.trans hworld))), ?_, hlt, hd₁⟩
  intro x hx
  obtain ⟨sig', hsig', rfl⟩ := List.mem_map.1 hx
  rcases hemitted sig' hsig' with rfl | ⟨s', hcalm', rfl⟩
  · have haim : Signal.hopBetween (L.front ++ L.stage t :: L.mid) L.back (.outbound .read) =
        .outbound L.toStage .read := by
      rw [← L.nearest_to_stage t]
      simp [Signal.hopBetween]
    rw [haim]
    exact .stage
  · exact .tail hcalm'

theorem Delivers.echo_tail {sig : Inbound}
    (hd : Delivers (Occupant.react k) now s (.inbound (nearest L.back) sig :: hops) l s')
    (hL : L.Sound) (hs : s.places = L.places t o) (hcalm : sig.Calm) :
    L.GoesOn k now s hops l s' := by
  have hback : s.places = (L.front ++ L.stage t :: (L.mid ++ [L.observer o])) ++ L.back := by
    rw [hs]
    simp [Layout.places]
  obtain ⟨s₁, l₁, hbeside, hlt, hd₁⟩ := hd.to_tail hL hback (hL.nodup hs)
  have hleft : Quiet s₁ (s₁.arrive (.inbound sig)) :=
    .arrive_inbound hcalm.decideOpening_singleton
  exact ⟨s₁.arrive (.inbound sig), [], l₁, hbeside.1, (Quiet.of_beside hbeside).trans hleft,
    List.forall_mem_nil _, hlt, hd₁⟩

theorem Delivers.echo_head {op : Outbound}
    (hd : Delivers (Occupant.react k) now s (.outbound (nearest L.front.reverse) op :: hops) l s')
    (hL : L.Sound) (hs : s.places = L.places t o) (hop : op ≠ .close) :
    L.GoesOn k now s hops l s' := by
  obtain ⟨s₁, l₁, hbeside, hlt, hd₁⟩ := hd.to_head op hL hs
  have hleft : Quiet s₁ (s₁.arrive (.outbound op)) := .arrive_outbound hop
  exact ⟨s₁.arrive (.outbound op), [], l₁, hbeside.1, (Quiet.of_beside hbeside).trans hleft,
    List.forall_mem_nil _, hlt, hd₁⟩

theorem Call.reaction_ne_observer {c : Call (Occupant η ξ) (Env ω)}
    (hc : ∀ o, c.handler ≠ .observer o) (o : ObserverState) :
    (c.reaction (Occupant.react k)).handler ≠ .observer o := by
  obtain ⟨v, sig, h, e⟩ := c
  cases h with
  | observer o' => exact absurd rfl (hc o')
  | _ => nofun

theorem Delivers.channel_eq (hd : Delivers (Occupant.react k) now s hops l s') :
    s'.ends.channel = s.ends.channel := by
  induction hd with
  | done s => rfl
  | @leave s s' hop hops l _ _ ih => exact ih.trans (s.ends.arrive_channel hop.signal)
  | call _ _ _ _ _ _ ihin ihout => exact ihout.trans ihin

theorem Delivers.unwatched (hd : Delivers (Occupant.react k) now s hops l s') (hs : Unwatched s) :
    Unwatched s' ∧ s'.world.handshakes = s.world.handshakes := by
  induction hd with
  | done s => exact ⟨hs, rfl⟩
  | leave _ _ ih => exact ih hs
  | @call s s₁ s' hop hops inner outer before after q h c _ hsplit hh hc _ _ ihin ihout =>
    have hne : ∀ o, c.handler ≠ .observer o := by
      intro o ho
      have hq : q ∈ s.places := by simp [hsplit]
      have hhandler : h = c.handler := by rw [hc]; rfl
      exact hs q hq o (by rw [hh, hhandler, ho])
    -- no stage turns into an observer when it is called
    have hreact : Unwatched (s.react before q after (c.reaction (Occupant.react k))) := by
      intro x hx o ho
      rcases mem_react hsplit hx with hx | hhandler
      · exact hs x hx o ho
      · rw [hhandler] at ho
        cases hl : (c.reaction (Occupant.react k)).leaves with
        | true => simp [hl] at ho
        | false =>
          rw [hl, if_neg Bool.false_ne_true] at ho
          exact Call.reaction_ne_observer hne o (Option.some.inj ho)
    obtain ⟨hs₁, hw₁⟩ := ihin hreact
    obtain ⟨hs', hw'⟩ := ihout hs₁
    have hw : (c.reaction (Occupant.react k)).world.handshakes = s.world.handshakes := by
      rw [Call.handshakes_reaction hne, hc]
      rfl
    exact ⟨hs', hw'.trans (hw₁.trans hw)⟩

theorem Call.reaction_completion {c : Call (Occupant η ξ) (Env ω)} {started : Instant}
    {out : HandshakeOutcome} (ho : c.handler = .observer (.armed started true))
    (hsig : c.signal = completion out) :
    c.reaction (Occupant.react k) = ⟨.observer .completed,
      [.inbound (ObserverState.announce out), completion out], true,
      c.world.record (.handshake c.view.channel.peer ⟨c.view.now - started⟩
        (Record.statusOf out.isSuccess))⟩ := by
  obtain ⟨v, sig, h, e⟩ := c
  obtain rfl : h = .observer (.armed started true) := ho
  obtain rfl : sig = completion out := hsig
  rfl

theorem Delivers.completes {started : Instant} {out : HandshakeOutcome}
    (hd : Delivers (Occupant.react k) now s
      (.inbound L.toObserver (.event (.handshakeCompleted out)) :: hops) l s')
    (hL : L.Sound) (hs : s.places = L.places t (.armed started true)) : Concluded out s s' := by
  obtain ⟨s₁, l₁, hbeside, -, hd₁⟩ := hd.to_observer hL hs
  have hs₁ : s₁.places = L.places t (.armed started true) := hbeside.1.trans hs
  rw [Call.reaction_completion rfl rfl] at hd₁
  -- the observer's place is vacant when its announcement goes on
  let w := s₁.world.record (.handshake s₁.ends.channel.peer ⟨now - started⟩
    (Record.statusOf out.isSuccess))
  let s₂ : Scene (Occupant η ξ) (Env ω) := ⟨(L.front ++ L.stage t :: L.mid) ++
    ⟨L.observerId, .sslReader, none⟩ :: L.back, s₁.ends, w⟩
  have hd₂ : Delivers (Occupant.react k) now s₂ (.inbound (nearest L.back) (ObserverState.announce out)
    :: .inbound (nearest L.back) (.event (.handshakeCompleted out)) :: hops) l₁ s' := hd₁
  have hplaces : s₂.places = ((L.front ++ L.stage t :: L.mid) ++
      [⟨L.observerId, .sslReader, none⟩]) ++ L.back := List.append_cons _ _ _
  have hids : s₂.places.map (·.id) = L.ids := by simp [s₂, Layout.ids, Layout.stage]
  obtain ⟨s₃, l₂, ⟨hp, he, hw⟩, -, hd₃⟩ := hd₂.to_tail hL hplaces (hids ▸ hL.ids)
  have hleft : Unwatched (s₃.arrive (.inbound (ObserverState.announce out))) := by
    intro q hq o ho
    have hmem : q ∈ s₃.places := hq
    rw [hp] at hmem
    have hq' : q ∈ (L.front ++ L.stage t :: L.mid) ++ ⟨L.observerId, .sslReader, none⟩ :: L.back :=
      hmem
    simp only [List.mem_append, List.mem_cons] at hq'
    rcases hq' with (hq | rfl | hq) | rfl | hq
    · exact ne_observer_of_relays hL.front q hq o ho
    · cases ho
    · exact ne_observer_of_relays hL.mid q hq o ho
    · cases ho
    · exact ne_observer_of_relays hL.back q hq o ho
  obtain ⟨hs', hrecords⟩ := hd₃.unwatched hleft
  have htail : s'.ends.tail = (s₃.ends.tail ++ [ObserverState.announce out]) ++ arrivals l₂ :=
    hd₃.tail_eq
  have hchannel : s'.ends.channel = s₃.ends.channel := hd₃.channel_eq
  have hends : s₃.ends = s.ends := he.trans hbeside.2.1
  refine ⟨by rw [hchannel, hends], ⟨[], arrivals l₂, ?_, rfl⟩, ⟨⟨now - started⟩, ?_⟩, hs'⟩
  · rw [htail, hends]
    simp
  · have hmeasured : w.handshakes = s₁.world.handshakes ++ [.handshake s₁.ends.channel.peer
        ⟨now - started⟩ (Record.statusOf out.isSuccess)] := Env.handshakes_record _ _
    have hworld : (s₃.arrive (.inbound (ObserverState.announce out))).world.handshakes =
        w.handshakes := hw
    rw [hrecords, hworld, hmeasured, hbeside.2.2, hbeside.2.1]

/-- What the stage writes goes out ahead of the completion. -/
theorem Delivers.concludes {ws : List Signal} {started : Instant} {out : HandshakeOutcome}
    (hws : Writes ws)
    (hd : Delivers (Occupant.react k) now s
      (ws.map (Signal.hopBetween L.front (L.mid ++ L.observer (.armed started true) :: L.back)) ++
        .inbound L.toObserver (.event (.handshakeCompleted out)) :: hops) l s')
    (hL : L.Sound) (hs : s.places = L.places t (.armed started true)) : Concluded out s s' := by
  induction ws generalizing s l with
  | nil => exact hd.completes hL hs
  | cons x ws ih =>
    obtain ⟨data, rfl⟩ := hws x List.mem_cons_self
    obtain ⟨s₁, l₁, hbeside, -, hd₁⟩ := Delivers.to_head (.write data) hd hL hs
    have hrest := ih (fun x hx => hws x (List.mem_cons_of_mem _ hx)) hd₁ (hbeside.1.trans hs)
    have hleft : Quiet s₁ (s₁.arrive (.outbound (.write data))) := .arrive_outbound nofun
    exact ((Quiet.of_beside hbeside).trans hleft).concluded hrest

end Delivery

section Staged

variable [Recorder ω] {ε : Type} {m : EngineModel ε} {k : StageKit (TlsStage ε) ξ ω}
  {now : Instant} {hops : List Hop} {s s' : Scene (Occupant (TlsStage ε) ξ) (Env ω)}
  {l : List (Happening (Occupant (TlsStage ε) ξ) (Env ω))}
  {L : Layout (TlsStage ε) ξ} {t : TlsStage ε} {o : ObserverState}

theorem Call.reaction_stage {c : Call (Occupant (TlsStage ε) ξ) (Env ω)}
    (hk : k.handshake = TlsStage.react m) (hc : c.handler = .handshake t) :
    c.reaction (Occupant.react k) = ⟨.handshake (t.step m c.view.now c.signal).1,
      (t.step m c.view.now c.signal).2, false, c.world⟩ := by
  obtain ⟨v, sig, h, e⟩ := c
  obtain rfl : h = .handshake t := hc
  simp only [Call.reaction, Occupant.react, hk]
  rfl

theorem Delivers.echo_stage (hk : k.handshake = TlsStage.react m)
    (hd : Delivers (Occupant.react k) now s (.outbound L.toStage .read :: hops) l s') (hL : L.Sound)
    (hs : s.places = L.places t o) : L.GoesOn k now s hops l s' := by
  obtain ⟨s₁, l₁, hbeside, hlt, hd₁⟩ := hd.to_stage hL hs
  rw [Call.reaction_stage hk rfl] at hd₁
  have hplaces := places_react (r := ⟨.handshake t, [.outbound .read], false, s₁.world⟩)
    (hbeside.1.trans hs) rfl rfl rfl
  refine ⟨_, _, l₁, hplaces.trans hbeside.1, (Quiet.of_beside hbeside).trans (.of_react rfl), ?_, hlt,
    hd₁⟩
  intro x hx
  rw [List.mem_singleton.1 hx]
  exact .head nofun

/-- Hops that go round settle nothing and leave every stage as it is. -/
theorem Delivers.echo (hk : k.handshake = TlsStage.react m) (hL : L.Sound)
    (hd : Delivers (Occupant.react k) now s hops l s') (hs : s.places = L.places t o)
    (hhops : ∀ hop ∈ hops, L.Echo hop) : s'.places = L.places t o ∧ Quiet s s' := by
  -- every hop makes a call or leaves, so the rest of the log is shorter
  induction hn : l.length using Nat.strongRecOn generalizing s hops l with
  | ind n ih =>
  subst hn
  cases hops with
  | nil =>
    cases hd with
    | done => exact ⟨hs, .refl _⟩
  | cons hop hops =>
    have hon : L.GoesOn k now s hops l s' := by
      cases hhops hop List.mem_cons_self with
      | observer hcalm hne => exact hd.echo_observer hL hs hcalm hne
      | tail hcalm => exact hd.echo_tail hL hs hcalm
      | stage => exact hd.echo_stage hk hL hs
      | head hop => exact hd.echo_head hL hs hop
    obtain ⟨s₁, more, l₁, hplaces, hquiet, hmore, hlt, hd₁⟩ := hon
    have hhops₁ : ∀ hop ∈ more ++ hops, L.Echo hop := by
      intro x hx
      rcases List.mem_append.1 hx with hx | hx
      · exact hmore x hx
      · exact hhops x (List.mem_cons_of_mem _ hx)
    obtain ⟨hs', hquiet'⟩ := ih _ hlt hd₁ (hplaces.trans hs) hhops₁ rfl
    exact ⟨hs', hquiet.trans hquiet'⟩

theorem findsMetrics_of_sound (hL : L.Sound) (channel : Channel) (now : Instant) :
    ObserverState.findsMetrics ⟨channel, .sslReader,
      (L.front ++ L.stage t :: L.mid).filterMap Place.stage? ++
        ⟨L.observerId, .sslReader, none⟩ :: L.back.filterMap Place.stage?, now⟩ = true := by
  have hbefore : ∀ st ∈ (L.front ++ L.stage t :: L.mid).filterMap Place.stage?,
      ¬(st.name == .channelMetrics) = true := by
    intro st hst
    obtain ⟨q, hq, hstage⟩ := List.mem_filterMap.1 hst
    obtain ⟨h, -, rfl⟩ := Option.map_eq_some_iff.1 hstage
    have hname : q.name ≠ .channelMetrics := by
      rcases List.mem_append.1 hq with hq | hq
      · exact hL.unmetered q (List.mem_append_left _ hq)
      · rcases List.mem_cons.1 hq with rfl | hq
        · nofun
        · exact hL.unmetered q (List.mem_append_right _ hq)
    simpa using hname
  have hfind : findHandler ((L.front ++ L.stage t :: L.mid).filterMap Place.stage? ++
      ⟨L.observerId, .sslReader, none⟩ :: L.back.filterMap Place.stage?) .channelMetrics =
        some .metrics := by
    rw [findHandler, List.find?_append, List.find?_eq_none.2 hbefore, Option.none_or,
      List.find?_cons_of_neg Bool.false_ne_true]
    exact hL.metered
  simp only [ObserverState.findsMetrics, View.get?, hfind]

theorem Delivers.registers (hk : k.handshake = TlsStage.react m) (hL : L.Sound)
    (hd : Delivers (Occupant.react k) now s [.inbound (nearest (L.places t .unarmed)) .registered] l
      s') (hs : s.places = L.places t .unarmed) :
    s'.places = L.places t (.armed now true) ∧ Quiet s s' := by
  obtain ⟨s₁, l₁, hbeside, hd₁⟩ := hd.enter hL hs rfl
  rw [Call.reaction_stage hk rfl] at hd₁
  have hs₁ : s₁.places = L.places t .unarmed := hbeside.1.trans hs
  -- the stage passes the signal on to the observer
  let s₂ := s₁.react L.front (L.stage t) (L.mid ++ L.observer .unarmed :: L.back)
    ⟨.handshake t, [.inbound .registered], false, s₁.world⟩
  have hs₂ : s₂.places = L.places t .unarmed := (places_react hs₁ rfl rfl rfl).trans hs₁
  have hd₂ : Delivers (Occupant.react k) now s₂ [.inbound L.toObserver .registered] l₁ s' := by
    rw [← L.hopBetween_inbound .unarmed]
    exact hd₁
  obtain ⟨s₃, l₂, hbeside₃, -, hd₃⟩ := hd₂.to_observer hL hs₂
  have hs₃ : s₃.places = L.places t .unarmed := hbeside₃.1.trans hs₂
  have hreaction : (s₃.call now (L.front ++ L.stage t :: L.mid) (L.observer .unarmed) L.back
      (.inbound .registered) (.observer .unarmed)).reaction (Occupant.react k) =
        ⟨.observer (.armed now true), [.inbound .registered], false, s₃.world⟩ := by
    have hfinds := findsMetrics_of_sound (t := t) hL s₃.ends.channel now
    simp only [Call.reaction, Scene.call, Occupant.react, ObserverState.react, Layout.observer,
      hfinds]
    rfl
  rw [hreaction] at hd₃
  let s₄ : Scene (Occupant (TlsStage ε) ξ) (Env ω) :=
    ⟨(L.front ++ L.stage t :: L.mid) ++ L.observer (.armed now true) :: L.back, s₃.ends, s₃.world⟩
  have hd₄ : Delivers (Occupant.react k) now s₄ [.inbound (nearest L.back) .registered] l₂ s' := hd₃
  have hs₄ : s₄.places = L.places t (.armed now true) := (L.places_at_observer t _).symm
  obtain ⟨hs', hquiet⟩ := hd₄.echo hk hL hs₄ fun x hx => by
    rw [List.mem_singleton.1 hx]
    exact .tail .registered
  have hq₁ : Quiet s₁ s₂ := .of_react rfl
  have hq₃ : Quiet s₃ s₄ := ⟨rfl, ⟨[], (List.append_nil _).symm, rfl⟩, rfl, rfl⟩
  exact ⟨hs', (Quiet.of_beside hbeside).trans (hq₁.trans ((Quiet.of_beside hbeside₃).trans
    (hq₃.trans hquiet)))⟩

inductive Inbound.Outer : Inbound → Prop
  | active : Outer .active
  | inactive : Outer .inactive
  | read (data : Bytes) : Outer (.read data)
  | readComplete : Outer .readComplete
  | tick (now : Instant) : Outer (.tick now)

theorem Inbound.Outer.calm {sig : Inbound} (h : sig.Outer) (hne : sig ≠ .inactive) :
    (sig.Calm ∨ sig = .active) ∧ sig ≠ .registered := by
  cases h with
  | active => exact ⟨.inr rfl, nofun⟩
  | inactive => exact absurd rfl hne
  | read data => exact ⟨.inl (.read data), nofun⟩
  | readComplete => exact ⟨.inl .readComplete, nofun⟩
  | tick now => exact ⟨.inl (.tick now), nofun⟩

theorem Layout.echo_of_routine {x : Signal} (hx : x.Routine) :
    L.Echo (x.hopBetween L.front (L.mid ++ L.observer o :: L.back)) := by
  cases hx with
  | write data => exact .head nofun
  | request => exact .head nofun
  | read data =>
    rw [L.hopBetween_inbound]
    exact .observer (.inl (.read data)) nofun
  | goodbye =>
    rw [L.hopBetween_inbound]
    exact .observer (.inl .goodbye) nofun

theorem Delivers.routine {out : List Signal} (hk : k.handshake = TlsStage.react m) (hL : L.Sound)
    (hd : Delivers (Occupant.react k) now s
      (out.map (Signal.hopBetween L.front (L.mid ++ L.observer o :: L.back))) l s')
    (hs : s.places = L.places t o)
    (hout : ∀ x ∈ out, x.Routine ∨ ∃ sig, x = .inbound sig ∧ (sig.Calm ∨ sig = .active) ∧
      sig ≠ .registered) : s'.places = L.places t o ∧ Quiet s s' := by
  refine Delivers.echo hk hL hd hs fun hop hhop => ?_
  obtain ⟨x, hx, rfl⟩ := List.mem_map.1 hhop
  rcases hout x hx with hroutine | ⟨sig, rfl, hcalm, hne⟩
  · exact L.echo_of_routine hroutine
  · rw [L.hopBetween_inbound]
    exact .observer hcalm hne

/-- The handshake is under way, or begins with this signal. -/
def TlsStage.Engaged (t : TlsStage ε) (sig : Inbound) : Prop :=
  t.isHandshaking = true ∨ t.state = .idle ∧ sig = .active

theorem TlsStage.Engaged.of_not_stirred {sig : Inbound} (ht : t.Engaged sig)
    (hs : ¬t.Stirred (.inbound sig)) : sig ≠ .inactive ∧ t.isHandshaking = true := by
  rcases ht with hhandshaking | ⟨hidle, rfl⟩
  · refine ⟨?_, hhandshaking⟩
    rintro rfl
    exact hs (.inr ⟨rfl, hhandshaking⟩)
  · exact absurd (.inl ⟨rfl, hidle⟩) hs

theorem Delivers.stepped {sig : Inbound} (hk : k.handshake = TlsStage.react m) (hL : L.Sound)
    (hd : Delivers (Occupant.react k) now s [.inbound (nearest (L.places t o)) sig] l s')
    (hs : s.places = L.places t o) :
    ∃ u out s₁ l₁, TlsStage.Did m t (.inbound sig) u out ∧ s₁.places = L.places u o ∧ Quiet s s₁ ∧
      Delivers (Occupant.react k) now s₁
        (out.map (Signal.hopBetween L.front (L.mid ++ L.observer o :: L.back))) l₁ s' := by
  obtain ⟨s₁, l₁, hbeside, hd₁⟩ := hd.enter hL hs rfl
  rw [Call.reaction_stage hk rfl] at hd₁
  have hquiet : Quiet s (s₁.react L.front (L.stage t) (L.mid ++ L.observer o :: L.back)
      ⟨.handshake (t.step m now (.inbound sig)).1, (t.step m now (.inbound sig)).2, false,
        s₁.world⟩) :=
    (Quiet.of_beside hbeside).trans (.of_react rfl)
  have hd₂ : Delivers (Occupant.react k) now
      (s₁.react L.front (L.stage t) (L.mid ++ L.observer o :: L.back)
        ⟨.handshake (t.step m now (.inbound sig)).1, (t.step m now (.inbound sig)).2, false,
          s₁.world⟩)
      ((t.step m now (.inbound sig)).2.map
        (Signal.hopBetween L.front (L.mid ++ L.observer o :: L.back)) ++ []) l₁ s' := hd₁
  rw [List.append_nil] at hd₂
  exact ⟨_, _, _, l₁, TlsStage.did_step m now (.inbound sig) t, rfl, hquiet, hd₂⟩

/-- A signal from outside goes round, and the handshake goes on; or it completes the handshake, as
the end of the stream always does. -/
theorem Delivers.engaged {sig : Inbound} {started : Instant} (hk : k.handshake = TlsStage.react m)
    (hL : L.Sound)
    (hd : Delivers (Occupant.react k) now s
      [.inbound (nearest (L.places t (.armed started true))) sig] l s')
    (hs : s.places = L.places t (.armed started true)) (hsig : sig.Outer) (ht : t.Engaged sig) :
    (sig ≠ .inactive ∧ ∃ u : TlsStage ε, u.isHandshaking = true ∧
      s'.places = L.places u (.armed started true) ∧ Quiet s s') ∨ ∃ out, Concluded out s s' := by
  obtain ⟨u, out, s₁, l₁, hdid, hs₁, hq₁, hd₁⟩ := hd.stepped hk hL hs
  -- either the handshake goes on, with nothing of importance said, or it has its outcome
  cases hdid with
  | kept hstate hws _ hstirred hout =>
    obtain ⟨hne, hu⟩ := ht.of_not_stirred hstirred
    obtain ⟨hcalm, hregistered⟩ := hsig.calm hne
    obtain ⟨hs', hquiet⟩ := Delivers.routine hk hL hd₁ hs₁ fun x hx => by
      rcases hout with rfl | rfl
      · exact .inl (hws x hx)
      · rcases List.mem_append.1 hx with hx | hx
        · exact .inl (hws x hx)
        · exact .inr ⟨sig, List.mem_singleton.1 hx, hcalm, hregistered⟩
    have hhandshaking : u.isHandshaking = true := by
      rw [TlsStage.isHandshaking_congr hstate]
      exact hu
    exact .inl ⟨hne, u, hhandshaking, hs', hq₁.trans hquiet⟩
  | begun hidle hactive hstate hws =>
    obtain ⟨hs', hquiet⟩ := Delivers.routine hk hL hd₁ hs₁ fun x hx => by
      rcases List.mem_append.1 hx with hx | hx
      · exact .inl (Writes.routine hws x hx)
      · exact .inr ⟨.active, List.mem_singleton.1 hx, .inr rfl, nofun⟩
    have hhandshaking : u.isHandshaking = true := by rw [TlsStage.isHandshaking, hstate]
    have hne : sig ≠ .inactive := by
      rintro rfl
      cases hactive
    exact .inl ⟨hne, u, hhandshaking, hs', hq₁.trans hquiet⟩
  | finished hh hread hengine hstate hws hrest =>
    rw [List.map_append, List.map_cons, L.hopBetween_inbound] at hd₁
    exact .inr ⟨_, hq₁.concluded (Delivers.concludes hws hd₁ hL hs₁)⟩
  | broken err hopen hstate houtcome hws hrest =>
    rw [List.map_append, List.map_cons, L.hopBetween_inbound] at hd₁
    exact .inr ⟨_, hq₁.concluded (Delivers.concludes hws hd₁ hL hs₁)⟩
  | spoiled err hh hactive houtcome hstate hws =>
    rcases ht with hhandshaking | ⟨-, rfl⟩
    · cases hh.symm.trans hhandshaking
    · exact absurd rfl hactive

end Staged
end SecureGateway

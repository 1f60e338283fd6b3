import SecureGateway.Proofs.Connection.Gate

namespace SecureGateway

variable {η ξ ω : Type} {now : Instant} {hop : Hop} {hops : List Hop} {sig : Signal}
  {places ahead rest before after : List (Place (Occupant η ξ))} {q : Place (Occupant η ξ)}
  {h : Occupant η ξ}

theorem Signal.nodup_ids_course (hn : (places.map (·.id)).Nodup) (sig : Signal) :
    ((sig.course places).map (·.id)).Nodup :=
  Signal.course_map sig _ places ▸ sig.nodup_course hn

theorem nearest_cons_of_stands (hq : q.handler = some h) (rest : List (Place (Occupant η ξ))) :
    nearest (q :: rest) = some q.id := by
  have hstands : q.stands = true := Option.isSome_iff_exists.2 ⟨h, hq⟩
  rw [nearest, List.find?_cons_of_pos hstands, Option.map_some]

theorem landing_aimedAt (hcourse : sig.course places = ahead ++ q :: rest)
    (hn : (places.map (·.id)).Nodup) (hq : q.handler = some h) :
    (sig.aimedAt (nearest (q :: rest))).landing places = some q := by
  have hstands : q.stands = true := Option.isSome_iff_exists.2 ⟨h, hq⟩
  have hids := Signal.nodup_ids_course hn sig
  rw [hcourse] at hids
  have hlanding : (sig.aimedAt (some q.id)).landing places =
      ((sig.course places).dropWhile (·.id != q.id)).find? Place.stands := by
    cases sig <;> rfl
  rw [nearest_cons_of_stands hq, hlanding, hcourse, dropWhile_to hids,
    List.find?_cons_of_pos hstands]

theorem hopBetween_eq (hn : ((before ++ q :: after).map (·.id)).Nodup)
    (hcourse : sig.course (before ++ q :: after) = ahead ++ q :: rest) :
    sig.hopBetween before after = sig.aimedAt (nearest rest) := by
  have hids := Signal.nodup_ids_course hn sig
  cases sig with
  | inbound s =>
    obtain ⟨-, rfl⟩ := split_unique hn hcourse
    rfl
  | outbound op =>
    have hreverse : (before ++ q :: after).reverse = after.reverse ++ q :: before.reverse := by simp
    have hids' : ((after.reverse ++ q :: before.reverse).map (·.id)).Nodup := hreverse ▸ hids
    obtain ⟨-, rfl⟩ := split_unique hids' (hreverse.symm.trans hcourse)
    rfl

def Record.isHandshake : Record → Bool
  | handshake _ _ _ => true
  | _ => false

def Env.handshakes (e : Env ω) : List Record := e.records.filter Record.isHandshake

section Delivery

variable [Recorder ω] {k : StageKit η ξ ω} {s s' : Scene (Occupant η ξ) (Env ω)}
  {l : List (Happening (Occupant η ξ) (Env ω))}

theorem Env.handshakes_record (r : Record) (e : Env ω) :
    (e.record r).handshakes = e.handshakes ++ [r].filter Record.isHandshake := by
  rw [handshakes, records_record, List.filter_append]
  rfl

theorem Occupant.handshakes_countBytes (v : View (Occupant η ξ)) (sig : Signal) (e : Env ω) :
    (countBytes v sig e).handshakes = e.handshakes := by
  unfold countBytes
  split <;> simp [Env.handshakes_record, Record.isHandshake]

theorem Call.handshakes_reaction {c : Call (Occupant η ξ) (Env ω)}
    (hc : ∀ o, c.handler ≠ .observer o) :
    (c.reaction (Occupant.react k)).world.handshakes = c.world.handshakes := by
  obtain ⟨v, sig, h, e⟩ := c
  cases h with
  | metrics => exact Occupant.handshakes_countBytes v sig e
  | observer o => exact absurd rfl (hc o)
  | _ => rfl

theorem Occupant.Relays.ne_observer (hr : h.Relays) (o : ObserverState) : h ≠ .observer o := by
  rintro rfl
  exact hr

theorem Delivers.flatten (hd : Delivers (Occupant.react k) now s (hop :: hops) l s') :
    (hop.landing s.places = none ∧ ∃ l', l = .left hop.signal :: l' ∧
      Delivers (Occupant.react k) now (s.arrive hop.signal) hops l' s') ∨
    ∃ before q after h l', hop.landing s.places = some q ∧ s.places = before ++ q :: after ∧
      q.handler = some h ∧ l = .called (s.call now before q after hop.signal h) :: l' ∧
      Delivers (Occupant.react k) now
        (s.react before q after
          ((s.call now before q after hop.signal h).reaction (Occupant.react k)))
        (((s.call now before q after hop.signal h).reaction (Occupant.react k)).emitted.map
          (Signal.hopBetween before after) ++ hops) l' s' := by
  rcases hd.cons_inv with hleft |
    ⟨before, q, after, h, inner, outer, s₁, hland, hsplit, hh, hl, hin, hout⟩
  · exact .inl hleft
  · exact .inr ⟨before, q, after, h, inner ++ outer, hland, hsplit, hh, hl, hin.append hout⟩

theorem Delivers.past_end (hd : Delivers (Occupant.react k) now s (sig.aimedAt none :: hops) l s') :
    ∃ l', l'.length < l.length ∧ Delivers (Occupant.react k) now (s.arrive sig) hops l' s' := by
  have hland : (sig.aimedAt none).landing s.places = none := by cases sig <;> rfl
  have hsig : (sig.aimedAt none).signal = sig := by cases sig <;> rfl
  rcases hd.flatten with ⟨-, l', rfl, hd'⟩ | ⟨_, q, _, _, _, hland', -⟩
  · rw [hsig] at hd'
    exact ⟨l', by simp, hd'⟩
  · cases hland.symm.trans hland'

/-- A hop that is aimed at a stage that stands makes the call there, and it is the first. -/
theorem Delivers.calls_stage
    (hd : Delivers (Occupant.react k) now s (sig.aimedAt (nearest (q :: rest)) :: hops) l s')
    (hsplit : s.places = before ++ q :: after) (hq : q.handler = some h)
    (hcourse : sig.course s.places = ahead ++ q :: rest) (hn : (s.places.map (·.id)).Nodup) :
    let c := s.call now before q after sig h
    let r := c.reaction (Occupant.react k)
    ∃ l', l = .called c :: l' ∧ Delivers (Occupant.react k) now (s.react before q after r)
      (r.emitted.map (Signal.hopBetween before after) ++ hops) l' s' := by
  have hland := landing_aimedAt hcourse hn hq
  have hsig : (sig.aimedAt (nearest (q :: rest))).signal = sig := by cases sig <;> rfl
  rcases hd.flatten with ⟨hnone, -⟩ | ⟨before', q', after', h', l', hland', hsplit', hq', rfl, hd'⟩
  · cases hland.symm.trans hnone
  · obtain rfl := Option.some.inj (hland.symm.trans hland')
    rw [hsplit] at hn
    obtain ⟨rfl, rfl⟩ := split_unique hn (hsplit.symm.trans hsplit')
    obtain rfl := Option.some.inj (hq.symm.trans hq')
    rw [hsig] at hd' ⊢
    exact ⟨l', rfl, hd'⟩

theorem Delivers.at_stage
    (hd : Delivers (Occupant.react k) now s (sig.aimedAt (nearest (q :: rest)) :: hops) l s')
    (hsplit : s.places = before ++ q :: after) (hq : q.handler = some h)
    (hcourse : sig.course s.places = ahead ++ q :: rest) (hn : (s.places.map (·.id)).Nodup) :
    let r := (s.call now before q after sig h).reaction (Occupant.react k)
    ∃ l', l'.length < l.length ∧ Delivers (Occupant.react k) now (s.react before q after r)
      (r.emitted.map (Signal.hopBetween before after) ++ hops) l' s' := by
  obtain ⟨l', rfl, hd'⟩ := hd.calls_stage hsplit hq hcourse hn
  exact ⟨l', by simp, hd'⟩

/-- The surroundings after some stages that do not measure handshakes. -/
def Scene.Beside (s s₁ : Scene (Occupant η ξ) (Env ω)) : Prop :=
  s₁.places = s.places ∧ s₁.ends = s.ends ∧ s₁.world.handshakes = s.world.handshakes

/-- A row of relays is passed, and what happens afterwards is left. -/
theorem Delivers.passes (sig : Signal) {row : List (Place (Occupant η ξ))}
    (hd : Delivers (Occupant.react k) now s (sig.aimedAt (nearest (row ++ rest)) :: hops) l s')
    (hcourse : sig.course s.places = ahead ++ (row ++ rest)) (hn : (s.places.map (·.id)).Nodup)
    (hrow : ∀ q ∈ row, ∃ h, q.handler = some h ∧ h.Relays) :
    ∃ s₁ l₁, l₁ <:+ l ∧ s.Beside s₁ ∧
      Delivers (Occupant.react k) now s₁ (sig.aimedAt (nearest rest) :: hops) l₁ s' := by
  induction row generalizing ahead s l with
  | nil => exact ⟨s, l, List.suffix_rfl, ⟨rfl, rfl, rfl⟩, hd⟩
  | cons q row ih =>
    obtain ⟨h, hq, hr⟩ := hrow q List.mem_cons_self
    have hmem : q ∈ s.places := by
      have hmem' : q ∈ sig.course s.places := by rw [hcourse]; simp
      cases sig with
      | inbound => exact hmem'
      | outbound => exact List.mem_reverse.1 hmem'
    obtain ⟨before, after, hsplit⟩ := List.append_of_mem hmem
    obtain ⟨l₁, rfl, hd₁⟩ := hd.calls_stage hsplit hq hcourse hn
    obtain ⟨hsame, hemitted, hstays⟩ := Call.reaction_of_relays (k := k)
      (c := s.call now before q after sig h) hr
    -- a relay changes nothing, so the places are the same for the rest of the row
    have hplaces : (s.react before q after
        ((s.call now before q after sig h).reaction (Occupant.react k))).places = s.places := by
      have hhandler : (s.call now before q after sig h).handler = h := rfl
      rw [hsplit, Scene.react, hstays, hsame, hhandler, if_neg Bool.false_ne_true, ← hq]
    have hworld := Call.handshakes_reaction (k := k) (c := s.call now before q after sig h)
      hr.ne_observer
    have hcall : (s.call now before q after sig h).signal = sig := rfl
    have hhop : sig.hopBetween before after = sig.aimedAt (nearest (row ++ rest)) := by
      rw [hsplit] at hn hcourse
      exact hopBetween_eq hn hcourse
    rw [hemitted, hcall, List.map_singleton, hhop, List.singleton_append] at hd₁
    have hcourse₁ : sig.course (s.react before q after
        ((s.call now before q after sig h).reaction (Occupant.react k))).places =
        (ahead ++ [q]) ++ (row ++ rest) := by
      rw [hplaces, hcourse]
      simp
    obtain ⟨s₁, l₂, hsuffix, ⟨hp, he, hw⟩, hd₂⟩ := ih hd₁ hcourse₁ (hplaces ▸ hn)
      fun x hx => hrow x (List.mem_cons_of_mem _ hx)
    exact ⟨s₁, l₂, hsuffix.trans (List.suffix_cons _ _),
      ⟨hp.trans hplaces, he, hw.trans hworld⟩, hd₂⟩

theorem Delivers.through (sig : Signal) {row : List (Place (Occupant η ξ))}
    (hd : Delivers (Occupant.react k) now s (sig.aimedAt (nearest (row ++ rest)) :: hops) l s')
    (hcourse : sig.course s.places = ahead ++ (row ++ rest)) (hn : (s.places.map (·.id)).Nodup)
    (hrow : ∀ q ∈ row, ∃ h, q.handler = some h ∧ h.Relays) :
    ∃ s₁ l₁, l₁.length ≤ l.length ∧ s.Beside s₁ ∧
      Delivers (Occupant.react k) now s₁ (sig.aimedAt (nearest rest) :: hops) l₁ s' := by
  obtain ⟨s₁, l₁, hsuffix, h⟩ := Delivers.passes sig hd hcourse hn hrow
  exact ⟨s₁, l₁, hsuffix.length_le, h⟩

end Delivery
end SecureGateway

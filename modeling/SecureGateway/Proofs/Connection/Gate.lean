import SecureGateway.Pipeline.Occupant
import SecureGateway.Proofs.Pipeline.DepthFirst

namespace SecureGateway

variable {η ξ ω : Type}

def completion (out : HandshakeOutcome) : Signal := .inbound (.event (.handshakeCompleted out))

namespace Happening

def completion? (x : Happening (Occupant η ξ) ω) : Option HandshakeOutcome :=
  match x with
  | .called ⟨⟨_, .sslReader, _, _⟩, .inbound (.event (.handshakeCompleted out)), _, _⟩ => some out
  | _ => none

def arrival? {σ : Type} : Happening σ ω → Option Inbound
  | .left (.inbound s) => some s
  | _ => none

end Happening

def firstCompletion (l : List (Happening (Occupant η ξ) ω)) : Option HandshakeOutcome :=
  l.findSome? Happening.completion?

def arrivals {σ : Type} (l : List (Happening σ ω)) : List Inbound := l.filterMap Happening.arrival?

/-- Nothing was completed, and no activity got through. -/
def Sealed (l : List (Happening (Occupant η ξ) ω)) : Prop :=
  ∀ x ∈ l, x.completion? = none ∧ x.arrival? ≠ some .active

/-- The gate was opened by the first completion, or a failure got through before any activity. -/
def Decided (out : HandshakeOutcome) (l : List (Happening (Occupant η ξ) ω)) : Prop :=
  ∃ early x late, l = early ++ x :: late ∧ Sealed early ∧ x.completion? = some out ∧
    ∀ cause, out = .failure cause → ∃ mid rest,
      late = mid ++ .left (.inbound (.exception cause)) :: rest ∧ ∀ y ∈ mid, y.arrival? = none

/-- Activity leaves the chain only after a completion reached the observer, and where the first one
was a failure, only after that failure left. -/
structure Gated (l : List (Happening (Occupant η ξ) ω)) : Prop where
  active : ∀ early late, l = early ++ .left (.inbound .active) :: late →
    ∃ out, firstCompletion early = some out ∧
      ∀ cause, out = .failure cause → .left (.inbound (.exception cause)) ∈ early
  failure : ∀ cause, firstCompletion l = some (.failure cause) →
    .left (.inbound (.exception cause)) ∈ l

section Logs

variable {l₁ l₂ : List (Happening (Occupant η ξ) ω)} {out : HandshakeOutcome}

theorem Sealed.append (h₁ : Sealed l₁) (h₂ : Sealed l₂) : Sealed (l₁ ++ l₂) := by
  intro x hx
  rcases List.mem_append.1 hx with hx | hx
  · exact h₁ x hx
  · exact h₂ x hx

theorem Sealed.decided (h₁ : Sealed l₁) (h₂ : Decided out l₂) : Decided out (l₁ ++ l₂) := by
  obtain ⟨early, x, late, rfl, hearly, hx, hlate⟩ := h₂
  exact ⟨l₁ ++ early, x, late, by simp, h₁.append hearly, hx, hlate⟩

theorem Decided.append (h₁ : Decided out l₁) (l₂ : List (Happening (Occupant η ξ) ω)) :
    Decided out (l₁ ++ l₂) := by
  obtain ⟨early, x, late, rfl, hearly, hx, hlate⟩ := h₁
  refine ⟨early, x, late ++ l₂, by simp, hearly, hx, ?_⟩
  intro cause hcause
  obtain ⟨mid, rest, rfl, hmid⟩ := hlate cause hcause
  exact ⟨mid, rest ++ l₂, by simp, hmid⟩

theorem Decided.firstCompletion_eq {l : List (Happening (Occupant η ξ) ω)} (h : Decided out l) :
    firstCompletion l = some out := by
  obtain ⟨early, x, late, rfl, hearly, hx, -⟩ := h
  have hnone : early.findSome? Happening.completion? = none :=
    List.findSome?_eq_none_iff.2 fun y hy => (hearly y hy).1
  rw [firstCompletion, List.findSome?_append, hnone, Option.none_or, List.findSome?_cons, hx]

theorem Sealed.no_activity {l : List (Happening (Occupant η ξ) ω)} (h : Sealed l) :
    .active ∉ arrivals l := by
  intro hmem
  obtain ⟨x, hx, harrival⟩ := List.mem_filterMap.1 hmem
  exact (h x hx).2 harrival

theorem Decided.arrivals_eq {l : List (Happening (Occupant η ξ) ω)} {cause : Cause}
    (h : Decided (.failure cause) l) :
    ∃ xs ys, arrivals l = xs ++ .exception cause :: ys ∧ .active ∉ xs := by
  obtain ⟨early, x, late, rfl, hearly, hx, hlate⟩ := h
  obtain ⟨mid, rest, rfl, hmid⟩ := hlate cause rfl
  refine ⟨arrivals early, arrivals rest, ?_, hearly.no_activity⟩
  have hx' : x.arrival? = none := by
    cases x with
    | called c => rfl
    | left sig => cases hx
  have hmid' : arrivals mid = [] := List.filterMap_eq_nil_iff.2 hmid
  have hexception : arrivals (.left (.inbound (.exception cause)) :: rest :
      List (Happening (Occupant η ξ) ω)) = .exception cause :: arrivals rest := rfl
  rw [arrivals, List.filterMap_append, List.filterMap_cons_none hx', List.filterMap_append,
    ← arrivals, ← arrivals, ← arrivals, hmid', hexception]
  rfl

theorem Sealed.firstCompletion_eq {l : List (Happening (Occupant η ξ) ω)} (h : Sealed l) :
    firstCompletion l = none :=
  List.findSome?_eq_none_iff.2 fun x hx => (h x hx).1

theorem Sealed.gated {l : List (Happening (Occupant η ξ) ω)} (h : Sealed l) : Gated l where
  active early late hl := absurd rfl (h (.left (.inbound .active)) (by simp [hl])).2
  failure cause hcause := by
    rw [h.firstCompletion_eq] at hcause
    cases hcause

theorem Decided.gated {l : List (Happening (Occupant η ξ) ω)} (h : Decided out l) : Gated l where
  active front back hl := by
    obtain ⟨early, x, late, rfl, hearly, hx, hlate⟩ := h
    rcases append_cons_cases hl with ⟨mid', rfl, rfl⟩ | ⟨-, rfl, -⟩ | ⟨mid', rfl, -⟩
    · have hdecided : firstCompletion (early ++ x :: mid') = some out := by
        rw [firstCompletion, List.findSome?_append, ← firstCompletion, hearly.firstCompletion_eq,
          Option.none_or, List.findSome?_cons, hx]
      refine ⟨out, hdecided, fun cause hcause => ?_⟩
      obtain ⟨mid, rest, hsplit, hmid⟩ := hlate cause hcause
      rcases append_cons_cases hsplit with ⟨_, rfl, -⟩ | ⟨-, heq, -⟩ | ⟨_, rfl, -⟩
      · exact absurd (hmid _ (List.mem_append_right _ (List.mem_cons_self ..))) nofun
      · cases heq
      · simp
    · cases hx
    · exact absurd rfl (hearly (.left (.inbound .active)) (by simp)).2
  failure cause hcause := by
    rw [h.firstCompletion_eq] at hcause
    obtain rfl := Option.some.inj hcause
    obtain ⟨early, x, late, rfl, -, -, hlate⟩ := h
    obtain ⟨mid, rest, rfl, -⟩ := hlate cause rfl
    simp

end Logs

namespace Occupant

/-- The stages that pass everything on. -/
def Relays : Occupant η ξ → Prop
  | plain => True
  | logging _ => True
  | metrics => True
  | _ => False

def Fits : StageName → Occupant η ξ → Prop
  | .ssl, h => ∃ t, h = handshake t
  | .sslReader, h => ∃ o, h = observer o
  | _, h => h.Relays

theorem Fits.relays {name : StageName} {h : Occupant η ξ} (hf : h.Fits name) (hssl : name ≠ .ssl)
    (hreader : name ≠ .sslReader) : h.Relays := by
  cases name with
  | ssl => exact absurd rfl hssl
  | sslReader => exact absurd rfl hreader
  | _ => exact hf

end Occupant

namespace Call

variable [Recorder ω] {k : StageKit η ξ ω} {c : Call (Occupant η ξ) (Env ω)}

theorem reaction_of_relays (hr : c.handler.Relays) :
    (c.reaction (Occupant.react k)).handler = c.handler ∧
      (c.reaction (Occupant.react k)).emitted = [c.signal] ∧
      (c.reaction (Occupant.react k)).leaves = false := by
  obtain ⟨v, sig, h, e⟩ := c
  cases h with
  | plain => exact ⟨rfl, rfl, rfl⟩
  | logging layer => exact ⟨rfl, rfl, rfl⟩
  | metrics => exact ⟨rfl, rfl, rfl⟩
  | observer o => exact hr.elim
  | handshake t => exact hr.elim
  | custom x => exact hr.elim

theorem reaction_fits {name : StageName} (hf : c.handler.Fits name) :
    (c.reaction (Occupant.react k)).handler.Fits name := by
  obtain ⟨v, sig, h, e⟩ := c
  by_cases hssl : name = .ssl
  · subst hssl
    obtain ⟨t, rfl⟩ := hf
    exact ⟨_, rfl⟩
  · by_cases hreader : name = .sslReader
    · subst hreader
      obtain ⟨o, rfl⟩ := hf
      exact ⟨_, rfl⟩
    · have hr := hf.relays hssl hreader
      rw [(reaction_of_relays hr).1]
      exact hf

theorem observer_stays {o : ObserverState} (ho : c.handler = .observer o)
    (hsig : ∀ out, c.signal ≠ completion out) : (c.reaction (Occupant.react k)).leaves = false := by
  obtain ⟨v, sig, h, e⟩ := c
  obtain rfl : h = .observer o := ho
  rw [Call.reaction]
  cases sig with
  | outbound op => rfl
  | inbound s =>
    cases s with
    | event ev =>
      cases ev with
      | handshakeCompleted out => exact absurd rfl (hsig out)
      | closeNotifyReceived => rfl
    | _ => rfl

/-- The observer asks for reads, announces completions, and lets everything but activity pass. -/
theorem observer_emits {o : ObserverState} (ho : c.handler = .observer o) {x : Signal}
    (hx : x ∈ (c.reaction (Occupant.react k)).emitted) :
    x = .outbound .read ∨ (x = c.signal ∧ x ≠ .inbound .active) ∨
      ∃ out, c.signal = completion out ∧ x = .inbound (ObserverState.announce out) := by
  obtain ⟨v, sig, h, e⟩ := c
  obtain rfl : h = .observer o := ho
  unfold Call.reaction at hx
  cases sig with
  | outbound op => exact .inr (.inl ⟨List.mem_singleton.1 hx, by simp [List.mem_singleton.1 hx]⟩)
  | inbound s =>
    cases s with
    | active => exact .inl (List.mem_singleton.1 hx)
    | readComplete =>
      have hmem : x ∈ [.outbound .read, .inbound .readComplete] := by
        cases o with
        | completed => exact List.mem_cons_of_mem _ hx
        | _ => exact hx
      rcases List.mem_cons.1 hmem with hx | hx
      · exact .inl hx
      · exact .inr (.inl ⟨List.mem_singleton.1 hx, by simp [List.mem_singleton.1 hx]⟩)
    | event ev =>
      cases ev with
      | handshakeCompleted out =>
        rcases List.mem_cons.1 hx with hx | hx
        · exact .inr (.inr ⟨out, rfl, hx⟩)
        · exact .inr (.inl ⟨List.mem_singleton.1 hx, by simp [List.mem_singleton.1 hx]⟩)
      | closeNotifyReceived =>
        exact .inr (.inl ⟨List.mem_singleton.1 hx, by simp [List.mem_singleton.1 hx]⟩)
    | _ => exact .inr (.inl ⟨List.mem_singleton.1 hx, by simp [List.mem_singleton.1 hx]⟩)

theorem observer_announces {o : ObserverState} {out : HandshakeOutcome}
    (ho : c.handler = .observer o) (hsig : c.signal = completion out) :
    (c.reaction (Occupant.react k)).emitted =
      [.inbound (ObserverState.announce out), completion out] := by
  obtain ⟨v, sig, h, e⟩ := c
  obtain rfl : h = .observer o := ho
  obtain rfl : sig = _ := hsig
  rfl

end Call

structure Fitted (places : List (Place (Occupant η ξ))) : Prop where
  ids : (places.map (·.id)).Nodup
  names : (places.map (·.name)).Nodup
  fits : ∀ q ∈ places, ∀ h, q.handler = some h → h.Fits q.name

/-- The observer stands, with the handshake stage on its near side only, and everything on its far
side stands too. The identifiers are those of the near side and of the observer. -/
def Shut (near : List Nat) (places : List (Place (Occupant η ξ))) : Prop :=
  ∃ front obs back, places = front ++ obs :: back ∧ (front ++ [obs]).map (·.id) = near ∧
    obs.name = .sslReader ∧ obs.handler ≠ none ∧
    ∀ q ∈ back, q.name ≠ .ssl ∧ q.handler ≠ none

/-- Activity is aimed at the near side of the gate. -/
def Hop.Guarded (near : List Nat) (hop : Hop) : Prop :=
  hop.signal = .inbound .active → ∃ id ∈ near, hop.target = some id

section Places

variable {places front back before after : List (Place (Occupant η ξ))}
  {obs q q' : Place (Occupant η ξ)} {h : Occupant η ξ} {near : List Nat}

theorem Fitted.relays (hf : Fitted (front ++ obs :: back)) (hobs : obs.name = .sslReader)
    (hback : ∀ q ∈ back, q.name ≠ .ssl ∧ q.handler ≠ none) :
    ∀ q ∈ back, ∃ h, q.handler = some h ∧ h.Relays := by
  intro q hq
  obtain ⟨h, hh⟩ := Option.ne_none_iff_exists'.1 (hback q hq).2
  have hname : q.name ≠ .sslReader := by
    have hn := hf.names
    rw [List.map_append, List.map_cons, List.nodup_append, List.nodup_cons] at hn
    intro heq
    exact hn.2.1.1 (hobs ▸ heq ▸ List.mem_map_of_mem hq)
  exact ⟨h, hh, (hf.fits q (by simp [hq]) h hh).relays (hback q hq).1 hname⟩

theorem Fitted.change (hf : Fitted (before ++ q :: after)) (hid : q'.id = q.id)
    (hname : q'.name = q.name) (hfits : ∀ h, q'.handler = some h → h.Fits q'.name) :
    Fitted (before ++ q' :: after) where
  ids := by simpa [hid] using hf.ids
  names := by simpa [hname] using hf.names
  fits x hx h hh := by
    rcases List.mem_append.1 hx with hx | hx
    · exact hf.fits x (List.mem_append_left _ hx) h hh
    · rcases List.mem_cons.1 hx with rfl | hx
      · exact hfits h hh
      · exact hf.fits x (by simp [hx]) h hh

theorem split_unique (hn : ((front ++ q :: back).map (·.id)).Nodup)
    (h : front ++ q :: back = before ++ q :: after) : front = before ∧ back = after := by
  rw [List.map_append, List.map_cons, List.nodup_append, List.nodup_cons] at hn
  rcases append_cons_cases h with ⟨mid, rfl, rfl⟩ | ⟨rfl, -, rfl⟩ | ⟨mid, rfl, rfl⟩
  · exact absurd (List.mem_map_of_mem (by simp)) hn.2.1.1
  · exact ⟨rfl, rfl⟩
  · exact absurd rfl (hn.2.2 q.id (List.mem_map_of_mem (by simp)) q.id (by simp))

theorem Shut.landing (hs : Shut near places) (hn : (places.map (·.id)).Nodup) {id : Nat}
    (hid : id ∈ near) (sig : Inbound) :
    ∃ q, (Hop.inbound (some id) sig).landing places = some q ∧ q.id ∈ near := by
  obtain ⟨front, obs, back, rfl, rfl, -, hobs, -⟩ := hs
  have hstands : obs.stands = true := Option.isSome_iff_ne_none.2 hobs
  show ∃ q, ((front ++ obs :: back).dropWhile (·.id != id)).find? Place.stands = some q ∧
    q.id ∈ (front ++ [obs]).map (·.id)
  -- the target is in front of the observer, or is the observer
  rw [List.map_append, List.mem_append] at hid
  rcases hid with hid | hid
  · obtain ⟨x, hx, rfl⟩ := List.mem_map.1 hid
    obtain ⟨xs, ys, rfl⟩ := List.append_of_mem hx
    rw [List.append_assoc, List.cons_append] at hn ⊢
    rw [dropWhile_to hn, ← List.cons_append, List.find?_append]
    cases hfind : (x :: ys).find? Place.stands with
    | none =>
      exact ⟨obs, by rw [Option.none_or, List.find?_cons_of_pos hstands], by simp⟩
    | some q =>
      have hq := List.mem_of_find?_eq_some hfind
      exact ⟨q, rfl, List.mem_map_of_mem (List.mem_append_left _ (List.mem_append_right _ hq))⟩
  · obtain rfl : id = obs.id := by simpa using hid
    exact ⟨obs, by rw [dropWhile_to hn, List.find?_cons_of_pos hstands], by simp⟩

theorem Hop.Guarded.landing {hop : Hop} (hg : hop.Guarded near) (hs : Shut near places)
    (hn : (places.map (·.id)).Nodup) (hactive : hop.signal = .inbound .active) :
    ∃ q, hop.landing places = some q ∧ q.id ∈ near := by
  obtain ⟨id, hid, htarget⟩ := hg hactive
  cases hop with
  | inbound t sig =>
    obtain rfl : t = some id := htarget
    exact hs.landing hn hid sig
  | outbound t op => cases hactive

theorem sealed_left {hop : Hop} (hg : hop.Guarded near) (hs : Shut near places)
    (hn : (places.map (·.id)).Nodup) (hland : hop.landing places = none) :
    Sealed ([.left hop.signal] : List (Happening (Occupant η ξ) ω)) := by
  intro x hx
  rw [List.mem_singleton.1 hx]
  refine ⟨rfl, ?_⟩
  intro harrival
  have hactive : hop.signal = .inbound .active := by
    cases hop with
    | inbound t sig => exact congrArg Signal.inbound (Option.some.inj harrival)
    | outbound t op => cases harrival
  obtain ⟨q, hq, -⟩ := hg.landing hs hn hactive
  rw [hland] at hq
  cases hq

end Places

theorem called_completion_iff {c : Call (Occupant η ξ) ω} {out : HandshakeOutcome} :
    (Happening.called c).completion? = some out ↔
      c.view.name = .sslReader ∧ c.signal = completion out := by
  obtain ⟨⟨channel, name, stages, t⟩, sig, handler, w⟩ := c
  constructor
  · intro h
    rw [Happening.completion?.eq_def] at h
    split at h
    · rename_i heq
      cases heq
      exact ⟨rfl, congrArg completion (Option.some.inj h)⟩
    · cases h
  · rintro ⟨hname, hsig⟩
    obtain rfl : name = _ := hname
    obtain rfl : sig = _ := hsig
    rfl

theorem called_completion_none {c : Call (Occupant η ξ) ω}
    (h : c.view.name ≠ .sslReader ∨ ∀ out, c.signal ≠ completion out) :
    (Happening.called c).completion? = none := by
  rw [Option.eq_none_iff_forall_ne_some]
  intro out hout
  obtain ⟨hname, hsig⟩ := called_completion_iff.1 hout
  rcases h with h | h
  · exact h hname
  · exact h out hsig

section Delivery

variable [Recorder ω] {k : StageKit η ξ ω} {now : Instant}
  {s s' : Scene (Occupant η ξ) (Env ω)} {hops : List Hop}
  {l : List (Happening (Occupant η ξ) (Env ω))}
  {front back before after : List (Place (Occupant η ξ))} {q : Place (Occupant η ξ)}

theorem Delivers.relayed {sig : Inbound}
    (hd : Delivers (Occupant.react k) now s (.inbound (nearest back) sig :: hops) l s')
    (hplaces : s.places = front ++ back) (hn : (s.places.map (·.id)).Nodup)
    (hback : ∀ q ∈ back, ∃ h, q.handler = some h ∧ h.Relays) :
    ∃ mid rest, l = mid ++ .left (.inbound sig) :: rest ∧ ∀ y ∈ mid, y.arrival? = none := by
  induction back generalizing front s hops l s' with
  | nil =>
    rcases hd.cons_inv with ⟨-, l, rfl, -⟩ | ⟨_, q, _, _, _, _, _, hland, -⟩
    · exact ⟨[], l, rfl, by simp⟩
    · cases hland
  | cons q back ih =>
    obtain ⟨h, hh, hr⟩ := hback q (by simp)
    rw [hplaces] at hn
    have hstands : q.stands = true := by simp [Place.stands, hh]
    have hland : (Hop.inbound (nearest (q :: back)) sig).landing s.places = some q := by
      have htarget : nearest (q :: back) = some q.id := by
        rw [nearest, List.find?_cons_of_pos hstands, Option.map_some]
      rw [htarget, hplaces]
      show ((front ++ q :: back).dropWhile (·.id != q.id)).find? Place.stands = some q
      rw [dropWhile_to hn, List.find?_cons_of_pos hstands]
    rcases hd.cons_inv with ⟨hland', -⟩ | ⟨xs, q', ys, h', inner, outer, s₁, hland', hsplit, hh',
      rfl, hin, hout⟩
    · rw [hland] at hland'
      cases hland'
    · obtain rfl : q = q' := by simpa [hland] using hland'
      obtain ⟨rfl, rfl⟩ := split_unique hn (hplaces.symm.trans hsplit)
      obtain rfl : h = h' := by simpa [hh] using hh'
      have hemitted := (Call.reaction_of_relays (k := k)
        (c := s.call now front q back (.inbound sig) h) hr).2.1
      simp only [Hop.signal] at hin
      rw [hemitted] at hin
      -- the relay leaves the chain as it is, so the rest of the row is passed in the same way
      obtain ⟨mid, rest, rfl, hmid⟩ := ih hin (List.append_cons front _ back) (by
          simp only [Scene.react]
          simpa using hn) fun x hx => hback x (by simp [hx])
      refine ⟨_ :: mid, rest ++ outer, by simp; rfl, ?_⟩
      intro y hy
      rcases List.mem_cons.1 hy with rfl | hy
      · rfl
      · exact hmid y hy

variable {h : Occupant η ξ} {near : List Nat} {hop : Hop} {c : Call (Occupant η ξ) (Env ω)}

theorem Fitted.react (hf : Fitted s.places) (hsplit : s.places = before ++ q :: after)
    (hh : q.handler = some h) (hc : c.handler = h) :
    Fitted (s.react before q after (c.reaction (Occupant.react k))).places := by
  have hfits : c.handler.Fits q.name := hc ▸ hf.fits q (by simp [hsplit]) h hh
  rw [hsplit] at hf
  refine hf.change rfl rfl ?_
  intro h' hh'
  cases hl : (c.reaction (Occupant.react k)).leaves with
  | true => simp [hl] at hh'
  | false =>
    obtain rfl : _ = h' := by simpa [hl] using hh'
    exact Call.reaction_fits hfits

theorem Delivers.fitted (hd : Delivers (Occupant.react k) now s hops l s')
    (hf : Fitted s.places) : Fitted s'.places := by
  induction hd with
  | done s => exact hf
  | leave _ _ ih => exact ih hf
  | call _ hsplit hh hc _ _ ihin ihout =>
    subst hc
    exact ihout (ihin (hf.react hsplit hh rfl))

theorem Delivers.calls_fit (hd : Delivers (Occupant.react k) now s hops l s')
    (hf : Fitted s.places) (hmem : .called c ∈ l) : c.handler.Fits c.view.name := by
  induction hd with
  | done s => cases hmem
  | leave _ _ ih => exact ih hf (by simpa using hmem)
  | @call s s₁ s' hop hops inner outer before after q h c' _ hsplit hh hc hin _ ihin ihout =>
    subst hc
    have hf₁ := hf.react (k := k) (c := s.call now before q after hop.signal h) hsplit hh rfl
    rcases List.mem_cons.1 hmem with hcall | hrest
    · obtain rfl := Happening.called.inj hcall
      exact hf.fits q (by simp [hsplit]) h hh
    · exact (List.mem_append.1 hrest).elim (ihin hf₁) (ihout (hin.fitted hf₁))

theorem nearest_before (mid after : List (Place (Occupant η ξ))) (hq : q.handler ≠ none) :
    ∃ id ∈ (mid ++ [q]).map (·.id), nearest (mid ++ q :: after) = some id := by
  have hstands : q.stands = true := Option.isSome_iff_ne_none.2 hq
  rw [nearest, List.find?_append]
  cases hfind : mid.find? Place.stands with
  | none => exact ⟨q.id, by simp, by rw [Option.none_or, List.find?_cons_of_pos hstands]; rfl⟩
  | some x =>
    have hx := List.mem_of_find?_eq_some hfind
    exact ⟨x.id, List.mem_map_of_mem (List.mem_append_left _ hx), rfl⟩

theorem guarded_of_ne {sig : Signal} (hsig : sig ≠ .inbound .active) :
    (Signal.hopBetween before after sig).Guarded near := by
  intro hactive
  cases sig with
  | inbound s => exact absurd hactive hsig
  | outbound op => cases hactive

/-- A call that leaves the gate shut: no completion reached the observer, and no activity that comes
of the call is aimed past it. -/
structure KeepsShut (k : StageKit η ξ ω) (near : List Nat) (s : Scene (Occupant η ξ) (Env ω))
    (before : List (Place (Occupant η ξ))) (q : Place (Occupant η ξ))
    (after : List (Place (Occupant η ξ))) (c : Call (Occupant η ξ) (Env ω)) : Prop where
  incomplete : (Happening.called c).completion? = none
  shut : Shut near (s.react before q after (c.reaction (Occupant.react k))).places
  guarded : ∀ x ∈ (c.reaction (Occupant.react k)).emitted.map (Signal.hopBetween before after),
    x.Guarded near

variable {obs : Place (Occupant η ξ)} {mid : List (Place (Occupant η ξ))}

theorem keepsShut_near (hnames : ((before ++ q :: (mid ++ obs :: back)).map (·.name)).Nodup)
    (hname : obs.name = .sslReader) (hobs : obs.handler ≠ none)
    (hback : ∀ x ∈ back, x.name ≠ .ssl ∧ x.handler ≠ none) (hview : c.view.name = q.name) :
    KeepsShut k ((before ++ q :: mid ++ [obs]).map (·.id)) s before q (mid ++ obs :: back) c where
  incomplete := by
    apply called_completion_none
    left
    rw [List.map_append, List.map_cons, List.map_append, List.nodup_append,
      List.nodup_cons] at hnames
    rw [hview, ← hname]
    exact fun hq => hnames.2.1.1 (by simp [hq])
  shut := ⟨before ++ _ :: mid, obs, back, by simp [Scene.react]; rfl, by simp, hname, hobs, hback⟩
  guarded := by
    intro x hx
    obtain ⟨sig, -, rfl⟩ := List.mem_map.1 hx
    by_cases hsig : sig = .inbound .active
    · intro _
      obtain ⟨id, hid, hnext⟩ := nearest_before mid back hobs
      refine ⟨id, ?_, by rw [hsig]; exact hnext⟩
      rw [List.append_assoc, List.cons_append, List.map_append, List.map_cons]
      exact List.mem_append_right _ (List.mem_cons_of_mem _ hid)
    · exact guarded_of_ne hsig

theorem keepsShut_observer {o : ObserverState} (ho : c.handler = .observer o)
    (hname : q.name = .sslReader) (hback : ∀ x ∈ after, x.name ≠ .ssl ∧ x.handler ≠ none)
    (hsig : ∀ out, c.signal ≠ completion out) :
    KeepsShut k ((before ++ [q]).map (·.id)) s before q after c where
  incomplete := called_completion_none (.inr hsig)
  shut := by
    have hstays := Call.observer_stays (k := k) ho hsig
    exact ⟨before, _, after, rfl, by simp, hname, by rw [hstays]; simp, hback⟩
  guarded := by
    intro x hx
    obtain ⟨sig, hmem, rfl⟩ := List.mem_map.1 hx
    apply guarded_of_ne
    rcases Call.observer_emits ho hmem with rfl | ⟨-, hactive⟩ | ⟨out, hcompletion, -⟩
    · simp
    · exact hactive
    · exact absurd hcompletion (hsig out)

theorem keepsShut_far (hnames : ((front ++ obs :: (mid ++ q :: after)).map (·.name)).Nodup)
    (hname : obs.name = .sslReader) (hobs : obs.handler ≠ none)
    (hback : ∀ x ∈ mid ++ q :: after, x.name ≠ .ssl ∧ x.handler ≠ none)
    (hview : c.view.name = q.name) (hr : c.handler.Relays) (hsig : c.signal ≠ .inbound .active) :
    KeepsShut k ((front ++ [obs]).map (·.id)) s (front ++ obs :: mid) q after c := by
  obtain ⟨-, hemitted, hstays⟩ := Call.reaction_of_relays (k := k) hr
  refine ⟨?_, ⟨front, obs, mid ++ _ :: after, by simp [Scene.react]; rfl, rfl, hname, hobs, ?_⟩, ?_⟩
  · apply called_completion_none
    left
    rw [List.map_append, List.map_cons, List.nodup_append, List.nodup_cons] at hnames
    rw [hview, ← hname]
    exact fun hq => hnames.2.1.1 (by simp [← hq])
  · intro x hx
    rcases List.mem_append.1 hx with hx | hx
    · exact hback x (List.mem_append_left _ hx)
    · rcases List.mem_cons.1 hx with rfl | hx
      · exact ⟨(hback q (by simp)).1, by rw [hstays]; simp⟩
      · exact hback x (by simp [hx])
  · intro x hx
    rw [hemitted] at hx
    rw [List.mem_singleton.1 hx]
    exact guarded_of_ne hsig

theorem gate_call (hf : Fitted s.places) (hs : Shut near s.places) (hg : hop.Guarded near)
    (hland : hop.landing s.places = some q) (hsplit : s.places = before ++ q :: after)
    (hh : q.handler = some h) (hc : c = s.call now before q after hop.signal h) :
    KeepsShut k near s before q after c ∨
    ∃ out o, c.signal = completion out ∧ c.view.name = .sslReader ∧
      h = .observer o ∧ ∀ x ∈ after, ∃ h, x.handler = some h ∧ h.Relays := by
  have hfits := hf.fits q (by simp [hsplit]) h hh
  have hids := hf.ids
  have hnames := hf.names
  have hguard : hop.signal = .inbound .active → q.id ∈ near := by
    intro hactive
    obtain ⟨x, hx, hnear⟩ := hg.landing hs hids hactive
    rw [hland] at hx
    rwa [Option.some.inj hx]
  obtain ⟨front, obs, back, hplaces, rfl, hname, hobs, hback⟩ := hs
  rw [hplaces] at hf hids hnames
  have hrelays := hf.relays hname hback
  -- the called place is in front of the observer, is the observer's, or is behind it
  rcases append_cons_cases (hsplit.symm.trans hplaces) with ⟨mid, rfl, rfl⟩ | ⟨rfl, rfl, rfl⟩ |
    ⟨mid, rfl, rfl⟩
  · left
    rw [List.append_assoc] at hnames
    exact keepsShut_near hnames hname hobs hback (by rw [hc]; rfl)
  · obtain ⟨o, rfl⟩ : ∃ o, h = .observer o := by
      rw [hname] at hfits
      exact hfits
    by_cases hout : ∃ out, c.signal = completion out
    · obtain ⟨out, hout⟩ := hout
      exact .inr ⟨out, o, hout, by rw [hc]; exact hname, rfl, hrelays⟩
    · exact .inl (keepsShut_observer (by rw [hc]; rfl) hname hback fun out h => hout ⟨out, h⟩)
  · left
    obtain ⟨h', hh', hr⟩ := hrelays q (by simp)
    obtain rfl : h = h' := by simpa [hh] using hh'
    apply keepsShut_far hnames hname hobs hback (by rw [hc]; rfl) (by rw [hc]; exact hr)
    rw [hc]
    intro hactive
    obtain ⟨x, hx, hid⟩ := List.mem_map.1 (hguard hactive)
    rw [List.append_cons, List.map_append, List.nodup_append] at hids
    exact hids.2.2 x.id (List.mem_map_of_mem hx) q.id (by simp) hid

theorem Delivers.announces {o : ObserverState} {out : HandshakeOutcome}
    (hd : Delivers (Occupant.react k) now (s.react before q after (c.reaction (Occupant.react k)))
      ((c.reaction (Occupant.react k)).emitted.map (Signal.hopBetween before after)) l s')
    (hf : Fitted (s.react before q after (c.reaction (Occupant.react k))).places)
    (ho : c.handler = .observer o) (hsig : c.signal = completion out)
    (hafter : ∀ x ∈ after, ∃ h, x.handler = some h ∧ h.Relays) :
    ∃ mid rest, l = mid ++ .left (.inbound (ObserverState.announce out)) :: rest ∧
      ∀ y ∈ mid, y.arrival? = none := by
  rw [Call.observer_announces (k := k) ho hsig] at hd
  have hplaces := List.append_cons before ({ q with
    handler := if (c.reaction (Occupant.react k)).leaves then none
      else some (c.reaction (Occupant.react k)).handler }) after
  exact hd.relayed hplaces hf.ids hafter

theorem Delivers.decided {o : ObserverState} {out : HandshakeOutcome}
    (hd : Delivers (Occupant.react k) now (s.react before q after (c.reaction (Occupant.react k)))
      ((c.reaction (Occupant.react k)).emitted.map (Signal.hopBetween before after)) l s')
    (hf : Fitted (s.react before q after (c.reaction (Occupant.react k))).places)
    (ho : c.handler = .observer o) (hname : c.view.name = .sslReader)
    (hsig : c.signal = completion out) (hafter : ∀ x ∈ after, ∃ h, x.handler = some h ∧ h.Relays) :
    Decided out (.called c :: l) := by
  refine ⟨[], .called c, l, rfl, by simp [Sealed], called_completion_iff.2 ⟨hname, hsig⟩, ?_⟩
  intro cause hcause
  have hannounced := hd.announces hf ho hsig hafter
  rwa [hcause] at hannounced

/-- A dispatch that starts in front of the shut gate leaves it shut, or decides. -/
theorem Delivers.gate (hd : Delivers (Occupant.react k) now s hops l s') (hf : Fitted s.places)
    (hs : Shut near s.places) (hg : ∀ hop ∈ hops, hop.Guarded near) :
    (Sealed l ∧ Shut near s'.places) ∨ ∃ out, Decided out l := by
  induction hd with
  | done s => exact .inl ⟨by simp [Sealed], hs⟩
  | @leave s s' hop hops l hland _ ih =>
    have hsealed := sealed_left (ω := Env ω) (hg hop (by simp)) hs hf.ids hland
    rcases ih hf hs (fun x hx => hg x (by simp [hx])) with ⟨hl, hs'⟩ | ⟨out, hl⟩
    · exact .inl ⟨hsealed.append hl, hs'⟩
    · exact .inr ⟨out, hsealed.decided hl⟩
  | @call s s₁ s' hop hops inner outer before after q h c hland hsplit hh hc hin hout ihin ihout =>
    have hf₁ : Fitted (s.react before q after (c.reaction (Occupant.react k))).places :=
      hf.react hsplit hh (by rw [hc]; rfl)
    rcases gate_call (k := k) hf hs (hg hop (by simp)) hland hsplit hh hc with
      hkeeps | ⟨out, o, hsig, hname, rfl, hafter⟩
    · have hsealed : Sealed [Happening.called c] := by
        intro x hx
        rw [List.mem_singleton.1 hx]
        exact ⟨hkeeps.incomplete, by simp [Happening.arrival?]⟩
      -- what follows from the call decides, or the hops that waited meanwhile find the gate shut
      rcases ihin hf₁ hkeeps.shut hkeeps.guarded with ⟨hl, hs₂⟩ | ⟨out, hl⟩
      · have hearly : Sealed (.called c :: inner) := hsealed.append hl
        rcases ihout (hin.fitted hf₁) hs₂ (fun x hx => hg x (by simp [hx])) with
          ⟨hl', hs'⟩ | ⟨out, hl'⟩
        · exact .inl ⟨hearly.append hl', hs'⟩
        · exact .inr ⟨out, hearly.decided hl'⟩
      · exact .inr ⟨out, hsealed.decided (hl.append outer)⟩
    · right
      exact ⟨out, (hin.decided hf₁ (by rw [hc]; rfl) hname hsig hafter).append outer⟩

end Delivery
end SecureGateway

import SecureGateway.Proofs.Connection.Measurement

namespace SecureGateway

variable {η ξ ω : Type}

/-- The signals that make a standing observer act: it asks for a read, or announces a completion. -/
inductive Inbound.Rouses : Inbound → Prop
  | active : Rouses .active
  | readComplete : Rouses .readComplete
  | completed (out : HandshakeOutcome) : Rouses (.event (.handshakeCompleted out))

def Hop.Rousing (near : List Nat) (hop : Hop) : Prop :=
  ∃ sig : Inbound, sig.Rouses ∧ ∃ id ∈ near, hop = .inbound (some id) sig

def Vigilant (places : List (Place (Occupant η ξ))) : Prop :=
  ∀ q ∈ places, ∀ o, q.handler = some (.observer o) → o.isCompleted = false

/-- The gate is shut, and its observer waits for the first completion. -/
structure Watched (near : List Nat) (places : List (Place (Occupant η ξ))) : Prop where
  fitted : Fitted places
  shut : Shut near places
  vigilant : Vigilant places

theorem Occupant.Fits.handshake_or_relays {name : StageName} {h : Occupant η ξ} (hf : h.Fits name)
    (hname : name ≠ .sslReader) : (∃ t, h = .handshake t) ∨ h.Relays := by
  by_cases hssl : name = .ssl
  · subst hssl
    exact .inl hf
  · exact .inr (hf.relays hssl hname)

section Places

variable {places before after : List (Place (Occupant η ξ))} {q : Place (Occupant η ξ)}
  {near : List Nat}

theorem Shut.next (hs : Shut near places) (hn : (places.map (·.id)).Nodup)
    (hsplit : places = before ++ q :: after) (hq : q.id ∈ near) (hname : q.name ≠ .sslReader) :
    ∃ id ∈ near, nearest after = some id := by
  obtain ⟨front, obs, back, hplaces, rfl, hreader, hobs, -⟩ := hs
  rcases append_cons_cases (hsplit.symm.trans hplaces) with ⟨mid, rfl, rfl⟩ | ⟨-, rfl, -⟩ |
    ⟨mid, rfl, rfl⟩
  · obtain ⟨id, hid, hnext⟩ := nearest_before mid back hobs
    refine ⟨id, ?_, hnext⟩
    rw [List.append_assoc, List.cons_append, List.map_append, List.map_cons]
    exact List.mem_append_right _ (List.mem_cons_of_mem _ hid)
  · exact absurd hreader hname
  · -- what is behind the observer is not near
    obtain ⟨x, hx, hid⟩ := List.mem_map.1 hq
    rw [hplaces, List.append_cons, List.map_append, List.nodup_append] at hn
    exact absurd hid (hn.2.2 x.id (List.mem_map_of_mem hx) q.id (by simp))

end Places

section Requests

variable {σ : Type} {react : React σ σ ω} {now : Instant} {s s' : Scene σ ω} {hops : List Hop}
  {l : List (Happening σ ω)}

/-- No stage keeps a request for a read to itself. -/
def PassesReads (react : React σ σ ω) (l : List (Happening σ ω)) : Prop :=
  ∀ c, .called c ∈ l → c.signal = .outbound .read → .outbound .read ∈ (c.reaction react).emitted

theorem PassesReads.sublist {l' : List (Happening σ ω)} (h : PassesReads react l)
    (hl : l'.Sublist l) : PassesReads react l' :=
  fun c hc => h c (hl.subset hc)

theorem Delivers.readRequested_iff (hd : Delivers react now s hops l s') :
    s'.ends.readRequested = true ↔ s.ends.readRequested = true ∨ .left (.outbound .read) ∈ l := by
  induction hd with
  | done s => simp
  | @leave s s' hop hops l _ _ ih =>
    rw [ih]
    rcases hop with ⟨t, sig⟩ | ⟨t, _ | _ | _⟩ <;>
      simp [Scene.arrive, Pipeline.arrive, Hop.signal]
  | call _ _ _ _ _ _ ihin ihout =>
    rw [ihout, ihin]
    simp [Scene.react, or_assoc]

theorem Delivers.solicits (hd : Delivers react now s hops l s') (hpass : PassesReads react l)
    (hhop : ∃ hop ∈ hops, hop.signal = .outbound .read) : .left (.outbound .read) ∈ l := by
  induction hd with
  | done s => exact absurd hhop (by simp)
  | @leave s s' hop hops l _ _ ih =>
    obtain ⟨x, hx, hread⟩ := hhop
    rcases List.mem_cons.1 hx with rfl | hx
    · exact hread ▸ List.mem_cons_self
    · exact List.mem_cons_of_mem _ (ih (hpass.sublist (List.sublist_cons_self _ _)) ⟨x, hx, hread⟩)
  | @call s s₁ s' hop hops inner outer before after q h c _ _ _ hc _ _ ihin ihout =>
    have hrest : PassesReads react (inner ++ outer) := hpass.sublist (List.sublist_cons_self _ _)
    obtain ⟨x, hx, hread⟩ := hhop
    refine List.mem_cons_of_mem _ (List.mem_append.2 ?_)
    rcases List.mem_cons.1 hx with rfl | hx
    · have hemitted := hpass c List.mem_cons_self (by rw [hc]; exact hread)
      exact .inl (ihin (hrest.sublist (List.sublist_append_left _ _))
        ⟨_, List.mem_map_of_mem hemitted, rfl⟩)
    · exact .inr (ihout (hrest.sublist (List.sublist_append_right _ _)) ⟨x, hx, hread⟩)

end Requests

section Calls

variable [Recorder ω] {k : StageKit η ξ ω} {c : Call (Occupant η ξ) (Env ω)} {o : ObserverState}

theorem Call.observer_incomplete {o' : ObserverState} (ho : c.handler = .observer o)
    (hopen : o.isCompleted = false) (hstays : (c.reaction (Occupant.react k)).leaves = false)
    (hafter : (c.reaction (Occupant.react k)).handler = .observer o') : o'.isCompleted = false := by
  obtain ⟨v, sig, h, e⟩ := c
  obtain rfl : h = .observer o := ho
  have hsame : (o.react v sig e).handler = o' := Occupant.observer.inj hafter
  have hleaves : (o.react v sig e).leaves = false := hstays
  rw [← hsame]
  unfold ObserverState.react at hleaves ⊢
  split
  · cases o with
    | unarmed => rfl
    | armed started recording => rfl
    | completed => exact hopen
  · exact hopen
  · exact hopen
  · simp at hleaves
  · exact hopen

theorem Call.observer_roused {sig : Inbound} (ho : c.handler = .observer o)
    (hopen : o.isCompleted = false) (hsig : c.signal = .inbound sig) (hrouses : sig.Rouses)
    (hout : ∀ out, c.signal ≠ completion out) :
    .outbound .read ∈ (c.reaction (Occupant.react k)).emitted := by
  obtain ⟨v, sig', h, e⟩ := c
  obtain rfl : h = .observer o := ho
  obtain rfl : sig' = .inbound sig := hsig
  cases hrouses with
  | active => exact List.mem_singleton.2 rfl
  | readComplete =>
    show Signal.outbound .read ∈ (if o.isCompleted then [.inbound .readComplete] else
      [.outbound .read, .inbound .readComplete])
    rw [hopen]
    exact List.mem_cons_self
  | completed out => exact absurd rfl (hout out)

end Calls

section Staged

variable [Recorder ω] {ε : Type} {m : EngineModel ε} {k : StageKit (TlsStage ε) ξ ω}
  {now : Instant} {s s' : Scene (Occupant (TlsStage ε) ξ) (Env ω)} {hops : List Hop}
  {l : List (Happening (Occupant (TlsStage ε) ξ) (Env ω))} {near : List Nat} {name : StageName}
  {c : Call (Occupant (TlsStage ε) ξ) (Env ω)}

theorem Call.forwards_request (hk : k.handshake = TlsStage.react m) (hf : c.handler.Fits name)
    (hsig : c.signal = .outbound .read) :
    .outbound .read ∈ (c.reaction (Occupant.react k)).emitted := by
  by_cases hname : name = .sslReader
  · subst hname
    obtain ⟨o, ho⟩ := hf
    obtain ⟨v, sig, h, e⟩ := c
    obtain rfl : h = .observer o := ho
    obtain rfl : sig = .outbound .read := hsig
    exact List.mem_singleton.2 rfl
  rcases hf.handshake_or_relays hname with ⟨t, ht⟩ | hr
  · rw [Call.reaction_stage hk ht, hsig]
    exact List.mem_singleton.2 rfl
  · rw [(Call.reaction_of_relays hr).2.1, hsig]
    exact List.mem_singleton.2 rfl

theorem TlsStage.onActive_rouses (m : EngineModel ε) (now : Instant) (t : TlsStage ε) :
    ∃ sig : Inbound, sig.Rouses ∧ .inbound sig ∈ (t.onActive m now).2 := by
  unfold TlsStage.onActive
  split
  · generalize (if t.timing.handshake.isZero = true then none
      else some (now.after t.timing.handshake)) = deadline
    have hstate := flush_state m { t with state := .handshaking deadline }
    simp only
    split
    · exact ⟨_, .active, by simp⟩
    · rename_i err u hflush
      rw [hflush] at hstate
      obtain ⟨ws, -, hout⟩ := u.fail_emitted m (.io err)
      have hh : u.isHandshaking = true := by rw [TlsStage.isHandshaking, hstate]
      rw [hout, TlsStage.report, if_pos hh]
      exact ⟨_, .completed (.failure (.tls (.io err))), by simp⟩
  · exact ⟨_, .active, List.mem_singleton.2 rfl⟩

theorem Call.forwards_rousing {sig : Inbound} (hk : k.handshake = TlsStage.react m)
    (hf : c.handler.Fits name) (hname : name ≠ .sslReader) (hsig : c.signal = .inbound sig)
    (hrouses : sig.Rouses) :
    ∃ sig' : Inbound, sig'.Rouses ∧ .inbound sig' ∈ (c.reaction (Occupant.react k)).emitted := by
  rcases hf.handshake_or_relays hname with ⟨t, ht⟩ | hr
  · rw [Call.reaction_stage hk ht, hsig]
    cases hrouses with
    | active => exact TlsStage.onActive_rouses m c.view.now t
    | readComplete => exact ⟨_, .readComplete, List.mem_singleton.2 rfl⟩
    | completed out => exact ⟨_, .completed out, List.mem_singleton.2 rfl⟩
  · rw [(Call.reaction_of_relays hr).2.1, hsig]
    exact ⟨sig, hrouses, List.mem_singleton.2 rfl⟩

theorem Vigilant.react {before after : List (Place (Occupant η ξ))} {q : Place (Occupant η ξ)}
    {k : StageKit η ξ ω} {s : Scene (Occupant η ξ) (Env ω)} {c : Call (Occupant η ξ) (Env ω)}
    (hv : Vigilant s.places) (hsplit : s.places = before ++ q :: after)
    (hq : q.handler = some c.handler) :
    Vigilant (s.react before q after (c.reaction (Occupant.react k))).places := by
  intro x hx o ho
  rcases mem_react hsplit hx with hx | hhandler
  · exact hv x hx o ho
  · rw [hhandler] at ho
    cases hl : (c.reaction (Occupant.react k)).leaves with
    | true => simp [hl] at ho
    | false =>
      rw [hl, if_neg Bool.false_ne_true] at ho
      have hafter := Option.some.inj ho
      by_cases hc : ∃ o', c.handler = .observer o'
      · obtain ⟨o', ho'⟩ := hc
        have hmem : q ∈ s.places := by simp [hsplit]
        exact Call.observer_incomplete ho' (hv q hmem o' (by rw [hq, ho'])) hl hafter
      · exact absurd hafter (Call.reaction_ne_observer (fun o' ho' => hc ⟨o', ho'⟩) o)

theorem Delivers.keeps_request (hd : Delivers (Occupant.react k) now s hops l s')
    (hs : s.ends.readRequested = true) : s'.ends.readRequested = true :=
  hd.readRequested_iff.2 (.inl hs)

theorem Delivers.requests (hk : k.handshake = TlsStage.react m)
    (hd : Delivers (Occupant.react k) now s hops l s') (hf : Fitted s.places)
    (hhop : ∃ hop ∈ hops, hop.signal = .outbound .read) : s'.ends.readRequested = true := by
  refine hd.readRequested_iff.2 (.inr (hd.solicits (fun c hc hsig => ?_) hhop))
  exact Call.forwards_request hk (hd.calls_fit hf hc) hsig

/-- What came of some signals while the gate was watched: the completion was announced; or the gate
is watched still, and a read is asked for where one of them could rouse the observer. -/
def Heeded (near : List Nat) (roused : Prop) (l : List (Happening (Occupant η ξ) (Env ω)))
    (s' : Scene (Occupant η ξ) (Env ω)) : Prop :=
  (∃ out, .left (.inbound (ObserverState.announce out)) ∈ l) ∨
    Watched near s'.places ∧ (roused → s'.ends.readRequested = true)

theorem Watched.rouse {before after : List (Place (Occupant (TlsStage ε) ξ))}
    {q : Place (Occupant (TlsStage ε) ξ)} {hop : Hop} (hk : k.handshake = TlsStage.react m)
    (hw : Watched near s.places) (hland : hop.landing s.places = some q)
    (hsplit : s.places = before ++ q :: after) (hq : q.handler = some c.handler)
    (hsig : c.signal = hop.signal) (hout : (Happening.called c).completion? = none)
    (hname : c.view.name = q.name) (hhop : hop.Rousing near) :
    (∃ x ∈ (c.reaction (Occupant.react k)).emitted.map (Signal.hopBetween before after),
        x.Rousing near) ∨
      .outbound .read ∈ (c.reaction (Occupant.react k)).emitted := by
  obtain ⟨sig, hrouses, id, hid, rfl⟩ := hhop
  obtain ⟨q', hland', hnear⟩ := hw.shut.landing hw.fitted.ids hid sig
  obtain rfl := Option.some.inj (hland.symm.trans hland')
  have hmem : q ∈ s.places := by simp [hsplit]
  have hfits := hw.fitted.fits q hmem c.handler hq
  -- the observer answers by a request, every other stage hands the signal on
  by_cases hreader : q.name = .sslReader
  · right
    rw [hreader] at hfits
    obtain ⟨o, ho⟩ := hfits
    refine Call.observer_roused ho (hw.vigilant q hmem o (by rw [hq, ho])) hsig hrouses ?_
    intro out hcompletion
    rw [called_completion_iff.2 ⟨hname.trans hreader, hcompletion⟩] at hout
    cases hout
  · left
    obtain ⟨sig', hrouses', hemitted⟩ := Call.forwards_rousing hk hfits hreader hsig hrouses
    obtain ⟨id', hid', hnext⟩ := hw.shut.next hw.fitted.ids hsplit hnear hreader
    exact ⟨_, List.mem_map_of_mem hemitted, sig', hrouses', id', hid', by
      rw [Signal.hopBetween, hnext]⟩

/-- What rouses the observer of a watched gate has a read asked for, unless the handshake is over
with this dispatch. -/
theorem Delivers.heeds (hk : k.handshake = TlsStage.react m)
    (hd : Delivers (Occupant.react k) now s hops l s') (hw : Watched near s.places)
    (hg : ∀ hop ∈ hops, hop.Guarded near) :
    Heeded near (∃ hop ∈ hops, hop.Rousing near) l s' := by
  induction hd with
  | done s => exact .inr ⟨hw, by simp⟩
  | @leave s s' hop hops l hland _ ih =>
    rcases ih hw (fun x hx => hg x (by simp [hx])) with ⟨out, hl⟩ | ⟨hw', hread⟩
    · exact .inl ⟨out, List.mem_cons_of_mem _ hl⟩
    · refine .inr ⟨hw', fun ⟨x, hx, hrousing⟩ => hread ⟨x, ?_, hrousing⟩⟩
      refine (List.mem_cons.1 hx).resolve_left ?_
      -- a hop that is aimed at the near side does not leave the chain
      rintro rfl
      obtain ⟨sig, -, id, hid, rfl⟩ := hrousing
      obtain ⟨q, hq, -⟩ := hw.shut.landing hw.fitted.ids hid sig
      cases hland.symm.trans hq
  | @call s s₁ s' hop hops inner outer before after q h c hland hsplit hh hc hin hout ihin ihout =>
    have hq : q.handler = some c.handler := by rw [hh, hc]; rfl
    have hsig : c.signal = hop.signal := by rw [hc]; rfl
    have hname : c.view.name = q.name := by rw [hc]; rfl
    have hf₁ : Fitted (s.react before q after (c.reaction (Occupant.react k))).places :=
      hw.fitted.react hsplit hh (by rw [hc]; rfl)
    rcases gate_call (k := k) hw.fitted hw.shut (hg hop (by simp)) hland hsplit hh hc with
      hkeeps | ⟨out, o, hcompletion, -, rfl, hafter⟩
    · have hw₁ : Watched near (s.react before q after (c.reaction (Occupant.react k))).places :=
        ⟨hf₁, hkeeps.shut, hw.vigilant.react hsplit hq⟩
      rcases ihin hw₁ hkeeps.guarded with ⟨out, hl⟩ | ⟨hw₂, hread⟩
      · exact .inl ⟨out, List.mem_cons_of_mem _ (List.mem_append_left _ hl)⟩
      rcases ihout hw₂ (fun x hx => hg x (by simp [hx])) with ⟨out, hl⟩ | ⟨hw', hread'⟩
      · exact .inl ⟨out, List.mem_cons_of_mem _ (List.mem_append_right _ hl)⟩
      refine .inr ⟨hw', fun ⟨x, hx, hrousing⟩ => ?_⟩
      rcases List.mem_cons.1 hx with rfl | hx
      · apply hout.keeps_request
        rcases hw.rouse hk hland hsplit hq hsig hkeeps.incomplete hname hrousing with
          hinner | hemitted
        · exact hread hinner
        · exact hin.requests hk hf₁ ⟨_, List.mem_map_of_mem hemitted, rfl⟩
      · exact hread' ⟨x, hx, hrousing⟩
    · -- the observer announces the completion and is gone
      obtain ⟨mid, rest, rfl, -⟩ := hin.announces hf₁ (by rw [hc]; rfl) hcompletion hafter
      exact .inl ⟨out, by simp⟩

end Staged

/-- The completion of the handshake was announced, at the end of the pipeline or in what was taken
from there; or the observer waits for it, and a read is asked for if it has to be. -/
structure Expectant (needed : Prop) (pending : List Inbound) (p : Pipeline (Occupant η ξ)) :
    Prop where
  wellFormed : p.WellFormed
  gate : (∃ out, ObserverState.announce out ∈ pending ++ p.tail) ∨
    (∃ near, Watched near (p.stages.map .ofStage)) ∧ (needed → p.readRequested = true)

theorem Watched.settle {s : Scene (Occupant η ξ) ω} {near : List Nat} (hw : Watched near s.places) :
    ∃ near, Watched near (s.pipeline.stages.map .ofStage) := by
  obtain ⟨near', hs⟩ := hw.shut.barred
  refine ⟨near', hw.fitted.pipeline, hs, fun q hq => hw.vigilant q ?_⟩
  rw [Scene.pipeline, ofStage_stages] at hq
  exact (List.mem_filter.1 hq).1

namespace Expectant

variable {needed needed' : Prop} {pending : List Inbound} {p q : Pipeline (Occupant η ξ)}

theorem mono (h : Expectant needed pending p) (hneeded : needed' → needed) :
    Expectant needed' pending p :=
  ⟨h.wellFormed, h.gate.imp id fun ⟨hw, hread⟩ => ⟨hw, fun hn => hread (hneeded hn)⟩⟩

theorem congr (h : Expectant needed pending p) (hstages : q.stages = p.stages)
    (hid : q.nextId = p.nextId) (htail : q.tail = p.tail)
    (hread : q.readRequested = p.readRequested) : Expectant needed pending q where
  wellFormed := h.wellFormed.of_sublist (by rw [hstages]) hid (hstages ▸ h.wellFormed.full)
  gate := by
    rw [hstages, htail, hread]
    exact h.gate

section Fire

variable [Recorder ω] {ε : Type} {m : EngineModel ε} {k : StageKit (TlsStage ε) ξ ω}
  {now : Instant} {p q : Pipeline (Occupant (TlsStage ε) ξ)} {e e' : Env ω} {sig : Inbound}
  {sigs : List Inbound}

theorem fire (hk : k.handshake = TlsStage.react m) (h : Expectant needed pending p)
    (hq : p.fire k.behaviour now sig e = some (q, e')) :
    Expectant (needed ∨ sig.Rouses) pending q := by
  obtain ⟨s, hd, rfl, -⟩ := h.wellFormed.delivers hq
  have hd' : Delivers (Occupant.react k) now (.ofPipeline p e)
    [.inbound (idAt p.stages 0) sig] _ s := hd
  have htail : s.pipeline.tail = p.tail ++ arrivals _ := hd'.tail_eq
  refine ⟨h.wellFormed.of_delivers hd, ?_⟩
  rcases h.gate with ⟨out, hout⟩ | ⟨⟨near, hw⟩, hread⟩
  · left
    rw [htail, ← List.append_assoc]
    exact ⟨out, List.mem_append_left _ hout⟩
  obtain ⟨id, hid, hentry⟩ := hw.shut.entry
  have hguard : ∀ hop ∈ [Hop.inbound (idAt p.stages 0) sig], hop.Guarded near := by
    intro hop hhop _
    rw [List.mem_singleton.1 hhop]
    exact ⟨id, hid, hentry⟩
  -- the handshake is settled in this dispatch, or whatever it roused the observer with was asked
  -- for
  rcases hd'.heeds hk hw hguard with ⟨out, hout⟩ | ⟨hw', hroused⟩
  · left
    refine ⟨out, ?_⟩
    rw [htail]
    exact List.mem_append_right _ (List.mem_append_right _ (List.mem_filterMap.2 ⟨_, hout, rfl⟩))
  · refine .inr ⟨hw'.settle, ?_⟩
    rintro (hneeded | hrouses)
    · exact hd'.keeps_request (hread hneeded)
    · exact hroused ⟨_, List.mem_singleton.2 rfl, sig, hrouses, id, hid, by rw [hentry]⟩

theorem fireAll (hk : k.handshake = TlsStage.react m) (h : Expectant needed pending p)
    (hq : p.fireAll k.behaviour now sigs e = some (q, e')) :
    Expectant (needed ∨ ∃ s ∈ sigs, s.Rouses) pending q := by
  induction sigs generalizing p e needed with
  | nil =>
    obtain ⟨rfl, rfl⟩ := Prod.mk.inj (Option.some.inj hq)
    exact h.mono (by simp)
  | cons s sigs ih =>
    obtain ⟨⟨p₁, e₁⟩, hp₁, hrest⟩ := Option.bind_eq_some_iff.1 hq
    refine (ih (h.fire hk hp₁) hrest).mono ?_
    rintro (hneeded | ⟨x, hx, hrouses⟩)
    · exact .inl (.inl hneeded)
    · rcases List.mem_cons.1 hx with rfl | hx
      · exact .inl (.inr hrouses)
      · exact .inr ⟨x, hx, hrouses⟩

end Fire
end Expectant

section Assembly

variable {κ β : Type} [Timed η] [TlsContext κ η] {o : ConnectOptions κ β η}
  {ssl : SslConfiguration κ β η} {channel : Channel} {p : Pipeline (Occupant η ξ)}

theorem vigilant_of_assemble (hssl : o.ssl = some ssl) (hp : o.assemble channel = .ok p) :
    Vigilant (p.stages.map .ofStage) := by
  obtain ⟨-, t, hstages⟩ := assemble_eq hssl hp
  intro q hq o' ho
  obtain ⟨st, hst, rfl⟩ := List.mem_map.1 hq
  have hmem := List.mem_map_of_mem (f := fun st : Stage (Occupant η ξ) => (st.name, st.slot)) hst
  have hslot : st.slot = some (.observer o') := ho
  rw [hstages, hslot] at hmem
  have hunarmed : o' = .unarmed := by
    revert hmem
    cases o.wiretap <;> cases o.sslDebug <;> cases o.metrics <;> simp [securedChain]
  rw [hunarmed]
  rfl

theorem expectant_of_assemble [Recorder ω] (k : StageKit η ξ ω) (hssl : o.ssl = some ssl)
    (hp : o.assemble channel = .ok p) : Expectant False [] p := by
  have ho := overseen_of_assemble k hssl hp
  refine ⟨ho.wellFormed, .inr ⟨?_, False.elim⟩⟩
  rcases ho.gate with ⟨-, near, hs⟩ | ⟨out, early, x, late, hsplit, -⟩
  · exact ⟨near, ho.fitted, hs, vigilant_of_assemble hssl hp⟩
  · exact absurd hsplit (by simp)

end Assembly

namespace Connection

theorem decideOpening_of_announce {xs : List Inbound} {out : HandshakeOutcome}
    (h : ObserverState.announce out ∈ xs) : decideOpening xs ≠ none := by
  obtain ⟨as, bs, rfl⟩ := List.append_of_mem h
  cases hdecide : decideOpening as with
  | none =>
    obtain ⟨r, hr, -⟩ := Attempt.decideOpening_announce hdecide out bs
    simp [hr]
  | some x => simp [decideOpening_append, hdecide]

/-- A read is under way or asked for, unless there is nothing more to read. -/
def Attentive (c : Connection η ξ ω) : Prop :=
  Expectant (c.readPending = false ∧ c.endOfStream = false) c.pending c.pipeline

/-- What an opening that is not settled waits for: the socket takes bytes, or gives some. -/
inductive Waits (c : Connection η ξ ω) : Prop
  | sending {chunk : Bytes} {rest : List Bytes} : c.job = .sending .opening (chunk :: rest) →
    chunk ≠ [] → Waits c
  | reading : c.job = .awaitingActive → c.pending ++ c.pipeline.tail = [] →
    c.pipeline.closeRequested = false → c.endOfStream = false → c.readPending = true → Waits c

def Unstalled : Advance η ξ ω → Prop
  | (c, none) => c.Attentive ∧ c.Waits
  | (_, some _) => True

variable {c c' : Connection η ξ ω} {a a' : Advance η ξ ω} {now : Instant}

theorem Attentive.continueOpening (hc : c.Attentive) : Unstalled c.continueOpening := by
  have hpending : c.collect.pending = c.pending ++ c.pipeline.tail := rfl
  unfold Connection.continueOpening
  simp only [hpending]
  split
  · trivial
  · trivial
  · rename_i hnone
    split
    · trivial
    rename_i hopen
    have hgate := hc.gate.resolve_left fun ⟨out, hout⟩ => decideOpening_of_announce hout hnone
    obtain ⟨hclose, hend⟩ : c.pipeline.closeRequested = false ∧ c.endOfStream = false := by
      simpa [collect, Pipeline.takeInbound] using hopen
    -- the request that the pipeline noted is taken over
    have hread : (c.readPending || c.pipeline.readRequested) = true := by
      cases hpending : c.readPending with
      | true => rfl
      | false => exact hgate.2 ⟨hpending, hend⟩
    refine ⟨⟨?_, .inr ⟨hgate.1, fun ⟨hno, _⟩ => ?_⟩⟩, .reading rfl rfl hclose hend hread⟩
    · exact hc.wellFormed.of_sublist (.refl _) rfl hc.wellFormed.full
    · cases hread.symm.trans hno

theorem Attentive.congr (hc : c.Attentive) (hp : c'.pipeline = c.pipeline)
    (hpending : c'.pending = c.pending) (hread : c'.readPending = c.readPending)
    (hend : c'.endOfStream = c.endOfStream) : c'.Attentive := by
  rw [Attentive, hp, hpending, hread, hend]
  exact hc

section Sending

variable [Recorder ω] [Secured η] {k : StageKit η ξ ω}

theorem Attentive.sendRest {unsent : List Bytes} (hc : c.Attentive)
    (h : c.sendRest k now .opening unsent = some a) : Unstalled a := by
  rcases sendRest_opening h with rfl | ⟨chunk, rest, hchunk, rfl⟩
  · exact hc.continueOpening
  · exact ⟨hc.congr rfl rfl rfl rfl, .sending rfl hchunk⟩

theorem Attentive.flush (hc : c.Attentive) (h : c.flush k now .opening = some a) : Unstalled a := by
  have hc' : ({ c with pipeline := c.pipeline.takeOutbound.2 } : Connection η ξ ω).Attentive :=
    Expectant.congr hc rfl rfl rfl rfl
  exact hc'.sendRest h

end Sending

section Opening

variable [Recorder ω] {ε : Type} {m : EngineModel ε} {k : StageKit (TlsStage ε) ξ ω}
  {c c' : Connection (TlsStage ε) ξ ω} {a a' : Advance (TlsStage ε) ξ ω}
  {events : List (Instant × SocketEvent)}

theorem Attentive.accept {data : Bytes} (hk : k.handshake = TlsStage.react m) (hc : c.Attentive)
    (h : c.accept k now data = some c') : c'.Attentive := by
  rw [accept_eq] at h
  obtain ⟨⟨q, e⟩, hq, rfl⟩ := Option.map_eq_some_iff.1 h
  refine (Expectant.fireAll hk hc hq).mono fun ⟨_, hend⟩ => .inr ?_
  -- unless the stream has ended, the observer hears that everything was read
  obtain ⟨-, hdata⟩ := Bool.or_eq_false_iff.1 hend
  refine ⟨.readComplete, ?_, .readComplete⟩
  simp [incoming, hdata]

variable [Secured (TlsStage ε)]

theorem Attentive.tick (hk : k.handshake = TlsStage.react m) (hc : c.Attentive)
    (hjob : c.job = .awaitingActive) (h : c.tick k now = some a) : Unstalled a := by
  simp only [Connection.tick, hjob] at h
  obtain ⟨c₁, hfire, hflush⟩ := Option.bind_eq_some_iff.1 h
  obtain ⟨⟨q, e⟩, hq, rfl⟩ := Option.map_eq_some_iff.1 hfire
  refine Attentive.flush ?_ hflush
  exact (Expectant.fire hk hc hq).mono .inl

theorem Unstalled.respond {ev : SocketEvent} (hk : k.handshake = TlsStage.react m)
    (hc : Unstalled (c, none)) (h : c.respond k now ev = some a) : Unstalled a := by
  obtain ⟨hattentive, hwaits⟩ := hc
  cases hwaits with
  | @sending chunk rest hjob hchunk =>
    obtain ⟨hprompted, hresponse⟩ := respond_sending hjob h
    cases hresponse with
    | ignored _ => exact ⟨hattentive, .sending hjob hchunk⟩
    | refused e _ _ _ => trivial
    | resumed unsent hrest => exact hattentive.sendRest hrest
    | flushed hflush => exact hattentive.flush hflush
  | reading hjob hpending hclose hend hread =>
    cases ev with
    | sent n =>
      simp only [Connection.respond, sent, hjob] at h
      rw [← Option.some.inj h]
      exact ⟨hattentive, .reading hjob hpending hclose hend hread⟩
    -- a read is pending, so whatever the socket gives is taken
    | received data =>
      simp only [Connection.respond, received, hjob, hread, if_true] at h
      obtain ⟨c₁, haccept, hflush⟩ := Option.bind_eq_some_iff.1 h
      exact (hattentive.accept hk haccept).flush hflush
    | failed e =>
      simp only [Connection.respond, socketFailed, hjob, onSocketError] at h
      rw [← Option.some.inj h]
      trivial
    | ticked => exact hattentive.tick hk hjob h
    | expired =>
      simp only [Connection.respond, expire, hjob] at h
      rw [← Option.some.inj h]
      trivial

theorem Unstalled.follow (hk : k.handshake = TlsStage.react m) (ha : Unstalled a)
    (h : follow k events a = some a') : Unstalled a' :=
  follow_induction (P := fun _ a => Unstalled a) (fun _ ha h => ha.respond hk h) [] ha h

variable {κ β : Type} [TlsContext κ (TlsStage ε)] {o : ConnectOptions κ β (TlsStage ε)} {id : Nat}
  {remote : RemoteAddress} {env : Env ω} {ssl : SslConfiguration κ β (TlsStage ε)}

theorem unstalled_of_establish (hk : k.handshake = TlsStage.react m) (hssl : o.ssl = some ssl)
    (h : establish k now o id remote env = some a) : Unstalled a := by
  unfold establish at h
  split at h
  · rename_i p hp
    rw [opened_eq] at h
    obtain ⟨⟨q, e⟩, hq, hflush⟩ := Option.bind_eq_some_iff.1 h
    refine Attentive.flush ?_ hflush
    -- the activity at the end rouses the observer for the first time
    have hfired := (expectant_of_assemble k hssl hp).fireAll hk hq
    exact hfired.mono fun _ => .inr ⟨.active, by simp, .active⟩
  · rw [← Option.some.inj h]
    trivial

/-- An opening never stalls for lack of a read. Over whatever engine the handshake is driven, in
whatever order the socket and the clock act: an opening that is not settled waits for the socket to
take bytes; or nothing is pending, no close was requested and the stream has not ended, and then a
read is under way, so that whatever bytes come go into the pipeline. -/
theorem reads_until_settled (hk : k.handshake = TlsStage.react m) (hssl : o.ssl = some ssl)
    (h : opening k now o id remote env events = some (c, none)) :
    (∃ chunk rest, c.job = .sending .opening (chunk :: rest) ∧ chunk ≠ []) ∨
      (c.job = .awaitingActive ∧ c.pending ++ c.pipeline.tail = [] ∧
        c.pipeline.closeRequested = false ∧ c.endOfStream = false ∧ c.readPending = true ∧
        ∀ later data, c.prompted later (.received data) = incoming data) := by
  obtain ⟨a₁, hestablish, hfollow⟩ := Option.bind_eq_some_iff.1 h
  obtain ⟨-, hwaits⟩ := (unstalled_of_establish hk hssl hestablish).follow hk hfollow
  cases hwaits with
  | @sending chunk rest hjob hchunk => exact .inl ⟨chunk, rest, hjob, hchunk⟩
  | reading hjob hpending hclose hend hread =>
    refine .inr ⟨hjob, hpending, hclose, hend, hread, fun later data => ?_⟩
    simp only [prompted, hjob, hread, if_true]

/-- A server of the built-in engine has heard the beginning of a record and a tick. -/
theorem reads_until_settled_of_record_header :
    ∃ c, opening (.closed (TlsStage.react sessionEngine)) 0 bareServer 0 (.opaqueName "peer")
        (⟨[], ()⟩ : Env Unit) [(1, .received [22, 3, 1]), (2, .ticked)] = some (c, none) ∧
      c.job = .awaitingActive ∧ c.readPending = true := by
  have hrun : (opening (.closed (TlsStage.react sessionEngine)) 0 bareServer 0 (.opaqueName "peer")
      (⟨[], ()⟩ : Env Unit) [(1, .received [22, 3, 1]), (2, .ticked)]).map
        (fun a => (a.1.job, a.2)) = some (.awaitingActive, none) := by
    decide +kernel
  obtain ⟨⟨c, r⟩, h, hr⟩ := Option.map_eq_some_iff.1 hrun
  obtain ⟨hjob, rfl⟩ := Prod.mk.inj hr
  rcases reads_until_settled rfl rfl h with ⟨chunk, rest, hsending, -⟩ | ⟨-, -, -, -, hread, -⟩
  · cases hjob.symm.trans hsending
  · exact ⟨c, h, hjob, hread⟩

end Opening
end Connection
end SecureGateway

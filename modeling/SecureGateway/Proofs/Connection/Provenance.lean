import SecureGateway.Proofs.Connection.Gate

namespace SecureGateway

variable {η ξ ω : Type} [Recorder ω] {k : StageKit η ξ ω} {now : Instant}
  {s s' : Scene (Occupant η ξ) (Env ω)} {hops : List Hop}
  {l log : List (Happening (Occupant η ξ) (Env ω))} {out : HandshakeOutcome}

def Completed (k : StageKit η ξ ω) (log : List (Happening (Occupant η ξ) (Env ω)))
    (out : HandshakeOutcome) : Prop :=
  ∃ c, .called c ∈ log ∧ c.view.name = .ssl ∧
    completion out ∈ (c.reaction (Occupant.react k)).emitted

/-- Every completion that reached the observer was emitted by the handshake stage earlier. -/
def Sourced (k : StageKit η ξ ω) (log : List (Happening (Occupant η ξ) (Env ω))) : Prop :=
  ∀ early x late out, log = early ++ x :: late → x.completion? = some out → Completed k early out

theorem Completed.append (h : Completed k log out) (l : List (Happening (Occupant η ξ) (Env ω))) :
    Completed k (log ++ l) out := by
  obtain ⟨c, hc, hname, hout⟩ := h
  exact ⟨c, List.mem_append_left _ hc, hname, hout⟩

theorem sourced_nil : Sourced k [] := by
  intro early x late out h
  exact absurd h.symm (by simp)

theorem Sourced.concat {x : Happening (Occupant η ξ) (Env ω)} (h : Sourced k log)
    (hx : ∀ out, x.completion? = some out → Completed k log out) : Sourced k (log ++ [x]) := by
  intro early y late out hsplit hy
  rcases append_cons_cases hsplit with ⟨mid, rfl, hmid⟩ | ⟨rfl, rfl, -⟩ | ⟨mid, rfl, -⟩
  · simp at hmid
  · exact hx out hy
  · exact h early y mid out rfl hy

/-- A completion that a handler emits came to it, or the handler is the handshake stage. -/
theorem Call.emits_completion {c : Call (Occupant η ξ) (Env ω)} {name : StageName}
    (hf : c.handler.Fits name) (hout : completion out ∈ (c.reaction (Occupant.react k)).emitted) :
    name = .ssl ∨ c.signal = completion out := by
  by_cases hssl : name = .ssl
  · exact .inl hssl
  right
  by_cases hreader : name = .sslReader
  · subst hreader
    obtain ⟨o, ho⟩ := hf
    rcases Call.observer_emits ho hout with h | ⟨h, -⟩ | ⟨out', -, h⟩
    · cases h
    · exact h.symm
    · cases out' <;> cases h
  · rw [(Call.reaction_of_relays (hf.relays hssl hreader)).2.1] at hout
    exact (List.mem_singleton.1 hout).symm

theorem Delivers.sourced (hd : Delivers (Occupant.react k) now s hops l s') (hf : Fitted s.places)
    (hl : Sourced k log)
    (hhops : ∀ hop ∈ hops, ∀ out, hop.signal = completion out → Completed k log out) :
    Sourced k (log ++ l) := by
  induction hd generalizing log with
  | done s => rwa [List.append_nil]
  | @leave s s' hop hops l _ _ ih =>
    rw [List.append_cons]
    refine ih hf (hl.concat ?_) fun x hx out hout => (hhops x (by simp [hx]) out hout).append _
    intro out hout
    cases hout
  | @call s s₁ s' hop hops inner outer before after q h c hland hsplit hh hc hin hout ihin ihout =>
    have hfits : c.handler.Fits c.view.name := by
      rw [hc]
      exact hf.fits q (by simp [hsplit]) h hh
    have hf₁ : Fitted (s.react before q after (c.reaction (Occupant.react k))).places :=
      hf.react hsplit hh (by rw [hc]; rfl)
    have hcalled : Sourced k (log ++ [.called c]) := by
      refine hl.concat fun out hcompletion => hhops hop (by simp) out ?_
      have hsig := (called_completion_iff.1 hcompletion).2
      rwa [hc] at hsig
    -- a completion among the emitted signals is the handshake stage's own, or came with the call
    have hinner : Sourced k (log ++ [.called c] ++ inner) := by
      refine ihin hf₁ hcalled ?_
      intro x hx out hout
      obtain ⟨sig, hsig, rfl⟩ := List.mem_map.1 hx
      obtain rfl : sig = completion out := by cases sig <;> exact hout
      rcases Call.emits_completion hfits hsig with hname | hcall
      · exact ⟨c, by simp, hname, hsig⟩
      · rw [hc] at hcall
        exact (hhops hop (by simp) out hcall).append _
    have houter := ihout (hin.fitted hf₁) hinner fun x hx out hout => by
      rw [List.append_assoc]
      exact (hhops x (by simp [hx]) out hout).append _
    simpa using houter

end SecureGateway

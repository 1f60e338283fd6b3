import SecureGateway.Proofs.Tls.Call

namespace SecureGateway
namespace TlsStage

variable {ε : Type} {m : EngineModel ε} {t u : TlsStage ε} {s : Signal} {out : List Signal}

inductive Moves : HandshakeState → HandshakeState → Prop
  | stays (a : HandshakeState) : Moves a a
  | begins (deadline : Option Instant) : Moves .idle (.handshaking deadline)
  | establishes (deadline : Option Instant) : Moves (.handshaking deadline) .established
  | fails (a : HandshakeState) : Moves a .failed

structure Turn (ε : Type) where
  before : TlsStage ε
  signal : Signal
  emitted : List Signal
  after : TlsStage ε

def turns (m : EngineModel ε) : List (Instant × Signal) → TlsStage ε → List (Turn ε)
  | [], _ => []
  | (now, s) :: calls, t =>
    let (u, emitted) := t.step m now s
    ⟨t, s, emitted, u⟩ :: turns m calls u

theorem turns_cons (m : EngineModel ε) (now : Instant) (s : Signal) (calls : List (Instant × Signal))
    (t : TlsStage ε) : t.turns m ((now, s) :: calls) =
      ⟨t, s, (t.step m now s).2, (t.step m now s).1⟩ :: (t.step m now s).1.turns m calls :=
  rfl

namespace Turn

/-- The outcomes that the stage reports; one that it was given and passes on is not its own. -/
def outcomes (x : Turn ε) : List HandshakeOutcome :=
  (x.emitted.erase x.signal).filterMap Signal.outcome?

structure Lawful (m : EngineModel ε) (x : Turn ε) : Prop where
  moves : Moves x.before.state x.after.state
  /-- A success is reported in a read that ends a handshake. -/
  success : .success ∈ x.outcomes → (∃ cipher, x.signal = .inbound (.read cipher)) ∧
    (∃ deadline, x.before.state = .handshaking deadline) ∧ m.isHandshaking x.after.engine = false
  /-- A failure is reported ahead of a close. -/
  failure : ∀ cause early late,
    x.emitted = early ++ .inbound (.event (.handshakeCompleted (.failure cause))) :: late →
      x.signal = .inbound (.event (.handshakeCompleted (.failure cause))) ∨
        .outbound .close ∈ late

/-- Nothing comes of the handshake any more. -/
structure Silent (x : Turn ε) : Prop where
  failed : x.after.state = .failed
  outcomes : x.outcomes = []
  reads : ∀ data, .inbound (.read data) ∉ x.emitted

end Turn

theorem filterMap_outcome?_of_routine {l : List Signal} (h : ∀ x ∈ l, x.Routine) :
    l.filterMap Signal.outcome? = [] :=
  List.filterMap_eq_nil_iff.2 fun x hx => (h x hx).outcome?_eq

theorem filterMap_outcome?_completed (o : HandshakeOutcome) (l : List Signal) :
    (Signal.inbound (.event (.handshakeCompleted o)) :: l).filterMap Signal.outcome? =
      o :: l.filterMap Signal.outcome? :=
  rfl

theorem filterMap_erase {β : Type} {f : Signal → Option β} (hs : f s = none) (l : List Signal) :
    (l.erase s).filterMap f = l.filterMap f := by
  induction l with
  | nil => rfl
  | cons x l ih =>
    by_cases hx : x = s
    · subst hx
      rw [List.erase_cons_head, List.filterMap_cons_none hs]
    · rw [List.erase_cons_tail (by simpa using hx), List.filterMap_cons, List.filterMap_cons, ih]

theorem filterMap_outcome?_kept {ws : List Signal} (hws : ∀ x ∈ ws, x.Routine)
    (hout : out = ws ∨ out = ws ++ [s]) : (out.erase s).filterMap Signal.outcome? = [] := by
  cases hs : s.outcome? with
  | none =>
    rw [filterMap_erase hs]
    rcases hout with rfl | rfl
    · exact filterMap_outcome?_of_routine hws
    · rw [List.filterMap_append, filterMap_outcome?_of_routine hws, List.filterMap_cons_none hs]
      rfl
  | some o =>
    -- the signal reports an outcome, so it is none of the stage's own
    have hmem : s ∉ ws := fun h => by simp [(hws s h).outcome?_eq] at hs
    have herase : out.erase s = ws := by
      rcases hout with rfl | rfl
      · exact List.erase_of_not_mem hmem
      · rw [List.erase_append_right _ hmem, List.erase_cons_head, List.append_nil]
    rw [herase, filterMap_outcome?_of_routine hws]

/-- How many outcomes a stage has still to report. -/
def unsettled (t : TlsStage ε) : Nat :=
  match t.state with
  | .idle | .handshaking _ => 1
  | .established | .failed => 0

theorem unsettled_congr (h : u.state = t.state) : u.unsettled = t.unsettled := by
  rw [unsettled, unsettled, h]

theorem isHandshaking_iff : t.isHandshaking = true ↔ ∃ deadline, t.state = .handshaking deadline := by
  unfold isHandshaking
  cases t.state <;> simp

theorem unsettled_of_isHandshaking (h : t.isHandshaking = true) : t.unsettled = 1 := by
  obtain ⟨_, h⟩ := isHandshaking_iff.1 h
  rw [unsettled, h]

theorem unsettled_of_failed (h : u.state = .failed) : u.unsettled = 0 := by
  rw [unsettled, h]

inductive Added (m : EngineModel ε) (t : TlsStage ε) (s : Signal) (u : TlsStage ε) :
    List HandshakeOutcome → Prop
  | nothing : u.unsettled ≤ t.unsettled → Added m t s u []
  | success {cipher : Bytes} : t.isHandshaking = true → s = .inbound (.read cipher) →
    u.state = .established → m.isHandshaking u.engine = false → Added m t s u [.success]
  | failure (cause : Cause) : t.unsettled = 1 → u.state = .failed → Added m t s u [.failure cause]

theorem Did.added (h : Did m t s u out) :
    Added m t s u ((out.erase s).filterMap Signal.outcome?) := by
  cases h with
  | kept hstate hws _ _ hout =>
    rw [filterMap_outcome?_kept hws hout]
    exact .nothing (Nat.le_of_eq (unsettled_congr hstate))
  | begun hidle hs hstate hws =>
    rw [filterMap_outcome?_kept hws.routine (.inr (by rw [hs]))]
    exact .nothing (by simp [unsettled, hidle, hstate])
  | finished hh hs hengine hstate hws hrest =>
    rw [filterMap_erase (by rw [hs]; rfl), List.filterMap_append,
      filterMap_outcome?_of_routine hws.routine, filterMap_outcome?_completed,
      filterMap_outcome?_of_routine hrest]
    exact .success hh hs hstate hengine
  | broken err hopen hstate hs hws hrest =>
    rename_i ws rest
    have hquiet : (Signal.outbound .close :: rest).filterMap Signal.outcome? = [] := by
      rcases hrest with rfl | rfl
      · rfl
      · rw [List.filterMap_cons_none rfl, List.filterMap_cons_none hs]
        rfl
    rw [filterMap_erase hs, List.filterMap_append,
      filterMap_outcome?_of_routine hws.routine, filterMap_outcome?_completed, hquiet]
    refine .failure _ ?_ hstate
    rcases hopen with hh | ⟨hidle, _⟩
    · exact unsettled_of_isHandshaking hh
    · rw [unsettled, hidle]
  | spoiled err _ _ hs hstate hws =>
    rw [filterMap_erase hs, List.filterMap_append,
      filterMap_outcome?_of_routine hws.routine]
    exact .nothing (by rw [unsettled_of_failed hstate]; exact Nat.zero_le _)

theorem Did.moves (h : Did m t s u out) : Moves t.state u.state := by
  cases h with
  | kept hstate => exact hstate ▸ .stays _
  | begun hidle _ hstate => exact hidle ▸ hstate ▸ .begins _
  | finished hh _ _ hstate =>
    obtain ⟨deadline, hh⟩ := isHandshaking_iff.1 hh
    exact hh ▸ hstate ▸ .establishes deadline
  | broken _ _ hstate => exact hstate ▸ .fails _
  | spoiled _ _ _ _ hstate => exact hstate ▸ .fails _

theorem Signal.Routine.not_mem_of_outcome? {ws : List Signal} {o : HandshakeOutcome}
    (hws : ∀ x ∈ ws, x.Routine) : .inbound (.event (.handshakeCompleted o)) ∉ ws :=
  fun h => nomatch (hws _ h).outcome?_eq

theorem late_eq_or_mem {x y : Signal} {ws rest early late : List Signal} (hws : x ∉ ws)
    (h : ws ++ y :: rest = early ++ x :: late) : late = rest ∨ x ∈ rest := by
  induction ws generalizing early with
  | nil =>
    cases early with
    | nil => exact .inl (List.cons.inj h).2.symm
    | cons e early =>
      rw [(List.cons.inj h).2]
      exact .inr (List.mem_append_right _ List.mem_cons_self)
  | cons w ws ih =>
    cases early with
    | nil => exact absurd ((List.cons.inj h).1 ▸ List.mem_cons_self) hws
    | cons e early => exact ih (fun hx => hws (List.mem_cons_of_mem _ hx)) (List.cons.inj h).2

theorem Did.failure (h : Did m t s u out) (cause : Cause) (early late : List Signal)
    (hout : out = early ++ .inbound (.event (.handshakeCompleted (.failure cause))) :: late) :
    s = .inbound (.event (.handshakeCompleted (.failure cause))) ∨ .outbound .close ∈ late := by
  have hmem : Signal.inbound (.event (.handshakeCompleted (.failure cause))) ∈ out := by simp [hout]
  cases h with
  | kept _ hws _ _ hkept =>
    rcases hkept with rfl | rfl
    · exact absurd hmem (Signal.Routine.not_mem_of_outcome? hws)
    · rcases List.mem_append.1 hmem with h | h
      · exact absurd h (Signal.Routine.not_mem_of_outcome? hws)
      · exact .inl (List.mem_singleton.1 h).symm
  | begun _ _ _ hws =>
    rcases List.mem_append.1 hmem with h | h
    · exact absurd h (Signal.Routine.not_mem_of_outcome? (Writes.routine hws))
    · cases List.mem_singleton.1 h
  | finished _ _ _ _ hws hrest =>
    rcases List.mem_append.1 hmem with h | h
    · exact absurd h (Signal.Routine.not_mem_of_outcome? (Writes.routine hws))
    · rcases List.mem_cons.1 h with h | h
      · cases h
      · exact absurd h (Signal.Routine.not_mem_of_outcome? hrest)
  | broken err _ _ hs hws hrest =>
    rename_i ws rest
    have hnot := Signal.Routine.not_mem_of_outcome? (o := .failure cause) (Writes.routine hws)
    refine .inr ?_
    rcases late_eq_or_mem hnot hout with rfl | h
    · exact List.mem_cons_self
    · rcases List.mem_cons.1 h with h | h
      · cases h
      · rcases hrest with rfl | rfl
        · cases h
        · rw [← List.mem_singleton.1 h] at hs
          cases hs
  | spoiled _ _ _ _ _ hws =>
    rcases List.mem_append.1 hmem with h | h
    · exact absurd h (Signal.Routine.not_mem_of_outcome? (Writes.routine hws))
    · cases List.mem_singleton.1 h

theorem Did.failed_stays (h : Did m t s u out) (ht : t.state = .failed) :
    u.state = .failed ∧ ∀ data, .inbound (.read data) ∉ out := by
  have hh : t.isHandshaking = false := by rw [isHandshaking, ht]
  cases h with
  | kept hstate _ hreads => exact ⟨hstate.trans ht, hreads ht⟩
  | begun hidle => cases hidle.symm.trans ht
  | finished hopen => cases hopen.symm.trans hh
  | broken _ hopen =>
    rcases hopen with hopen | ⟨hidle, _⟩
    · cases hopen.symm.trans hh
    · cases hidle.symm.trans ht
  | spoiled _ _ _ _ hstate hws =>
    refine ⟨hstate, fun data hmem => ?_⟩
    rcases List.mem_append.1 hmem with h | h
    · obtain ⟨_, h⟩ := hws _ h
      cases h
    · cases List.mem_singleton.1 h

theorem lawful_step (m : EngineModel ε) (now : Instant) (s : Signal) (t : TlsStage ε) :
    Turn.Lawful m ⟨t, s, (t.step m now s).2, (t.step m now s).1⟩ where
  moves := (did_step m now s t).moves
  success := by
    intro hmem
    have hadded := (did_step m now s t).added
    unfold Turn.outcomes at hmem
    generalize (List.erase _ _).filterMap Signal.outcome? = l at hadded hmem
    cases hadded with
    | nothing => cases hmem
    | success hh hs _ hengine => exact ⟨⟨_, hs⟩, isHandshaking_iff.1 hh, hengine⟩
    | failure => cases List.mem_singleton.1 hmem
  failure := (did_step m now s t).failure

theorem silent_step (m : EngineModel ε) (now : Instant) (s : Signal) (ht : t.state = .failed) :
    Turn.Silent ⟨t, s, (t.step m now s).2, (t.step m now s).1⟩ := by
  have hdid := did_step m now s t
  obtain ⟨hfailed, hreads⟩ := hdid.failed_stays ht
  refine ⟨hfailed, ?_, hreads⟩
  have hadded := hdid.added
  have hzero := unsettled_of_failed ht
  have hh : t.isHandshaking = false := by rw [isHandshaking, ht]
  unfold Turn.outcomes
  generalize (List.erase _ _).filterMap Signal.outcome? = l at hadded ⊢
  cases hadded with
  | nothing => rfl
  | success hopen => cases hopen.symm.trans hh
  | failure _ hone => cases hone.symm.trans hzero

theorem length_outcomes_step (m : EngineModel ε) (now : Instant) (s : Signal) (t : TlsStage ε) :
    (Turn.outcomes ⟨t, s, (t.step m now s).2, (t.step m now s).1⟩).length +
      (t.step m now s).1.unsettled ≤ t.unsettled := by
  have hadded := (did_step m now s t).added
  unfold Turn.outcomes
  generalize (List.erase _ _).filterMap Signal.outcome? = l at hadded ⊢
  cases hadded with
  | nothing hle => simpa using hle
  | success hh _ hstate =>
    have hzero : (t.step m now s).1.unsettled = 0 := by rw [unsettled, hstate]
    rw [hzero, unsettled_of_isHandshaking hh]
    exact Nat.le_refl 1
  | failure _ hone hstate =>
    rw [unsettled_of_failed hstate, hone]
    exact Nat.le_refl 1

theorem lawful_turns (m : EngineModel ε) (calls : List (Instant × Signal)) (t : TlsStage ε) :
    ∀ x ∈ t.turns m calls, x.Lawful m := by
  induction calls generalizing t with
  | nil => exact List.forall_mem_nil _
  | cons call calls ih =>
    rw [turns_cons]
    exact List.forall_mem_cons.2 ⟨lawful_step m call.1 call.2 t, ih _⟩

theorem silent_turns (m : EngineModel ε) (calls : List (Instant × Signal))
    (ht : t.state = .failed) : ∀ x ∈ t.turns m calls, x.Silent := by
  induction calls generalizing t with
  | nil => exact List.forall_mem_nil _
  | cons call calls ih =>
    have hstep := silent_step m call.1 call.2 ht
    rw [turns_cons]
    exact List.forall_mem_cons.2 ⟨hstep, ih hstep.failed⟩

theorem pairwise_turns (m : EngineModel ε) (calls : List (Instant × Signal)) (t : TlsStage ε) :
    (t.turns m calls).Pairwise fun x y => x.after.state = .failed → y.Silent := by
  induction calls generalizing t with
  | nil => exact .nil
  | cons call calls ih =>
    rw [turns_cons]
    exact List.pairwise_cons.2 ⟨fun y hy hfailed => silent_turns m calls hfailed y hy, ih _⟩

theorem length_outcomes_turns (m : EngineModel ε) (calls : List (Instant × Signal))
    (t : TlsStage ε) : ((t.turns m calls).flatMap Turn.outcomes).length ≤ t.unsettled := by
  induction calls generalizing t with
  | nil => exact Nat.zero_le _
  | cons call calls ih =>
    have hstep := length_outcomes_step m call.1 call.2 t
    have hrest := ih (t.step m call.1 call.2).1
    rw [turns_cons, List.flatMap_cons, List.length_append]
    omega

theorem unsettled_le_one (t : TlsStage ε) : t.unsettled ≤ 1 := by
  unfold unsettled
  split <;> decide

/-- A stage moves forward only and reports one outcome at most: a success when a read ends the
handshake, a failure ahead of a close. Once it has failed it gives neither outcomes nor plaintext. -/
theorem handshake_settled_once (m : EngineModel ε) (calls : List (Instant × Signal))
    (t : TlsStage ε) :
    (∀ x ∈ t.turns m calls, x.Lawful m) ∧
      ((t.turns m calls).flatMap Turn.outcomes).length ≤ 1 ∧
      (t.turns m calls).Pairwise fun x y => x.after.state = .failed → y.Silent :=
  ⟨lawful_turns m calls t,
    Nat.le_trans (length_outcomes_turns m calls t) (unsettled_le_one t),
    pairwise_turns m calls t⟩

end TlsStage
end SecureGateway

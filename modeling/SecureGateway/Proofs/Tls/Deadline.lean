import SecureGateway.Proofs.Tls.Lifecycle
import SecureGateway.Session.Engine

namespace SecureGateway
namespace TlsStage

variable {ε : Type} {m : EngineModel ε} {t u : TlsStage ε} {s : Signal} {out : List Signal}

theorem flush_timing (m : EngineModel ε) (t : TlsStage ε) : (t.flush m).2.timing = t.timing := by
  unfold flush
  split <;> rfl

theorem flushBestEffort_timing (m : EngineModel ε) (t : TlsStage ε) :
    (t.flushBestEffort m).1.timing = t.timing := by
  have hflush := t.flush_timing m
  unfold flushBestEffort
  split <;> rename_i h <;> rw [h] at hflush <;> exact hflush

theorem fail_timing (m : EngineModel ε) (err : TlsError) (t : TlsStage ε) :
    (t.fail m err).1.timing = t.timing :=
  t.flushBestEffort_timing m

theorem ingest_timing (m : EngineModel ε) (fuel : Nat) (cipher plain : Bytes) (t : TlsStage ε) :
    (t.ingest m fuel cipher plain).2.timing = t.timing := by
  induction fuel generalizing cipher plain t with
  | zero => rfl
  | succ fuel ih =>
    unfold ingest
    (repeat' split) <;> first | rfl | exact ih _ _ _

theorem afterRead_timing (m : EngineModel ε) (plain : Bytes) (had : Bool) (t : TlsStage ε) :
    (t.afterRead m plain had).1.timing = t.timing := by
  unfold afterRead
  cases t.isHandshaking
  · rfl
  · cases m.isHandshaking t.engine <;> rfl

theorem onActive_timing (m : EngineModel ε) (now : Instant) (t : TlsStage ε) :
    (t.onActive m now).1.timing = t.timing := by
  unfold onActive
  split
  · generalize (if t.timing.handshake.isZero = true then none
      else some (now.after t.timing.handshake)) = deadline
    have hflush := flush_timing m { t with state := .handshaking deadline }
    simp only
    split <;> rename_i u h <;> rw [h] at hflush
    · exact hflush
    · exact (fail_timing m _ _).trans hflush
  · rfl

theorem onTick_timing (m : EngineModel ε) (now : Instant) (t : TlsStage ε) :
    (t.onTick m now).1.timing = t.timing := by
  unfold onTick
  cases t.state with
  | handshaking deadline? =>
    cases deadline? with
    | none => rfl
    | some deadline =>
      by_cases hdue : deadline ≤ now
      · simp only [if_pos hdue]
        exact fail_timing m _ t
      · simp only [if_neg hdue]
  | _ => rfl

theorem onInactive_timing (m : EngineModel ε) (t : TlsStage ε) :
    (t.onInactive m).1.timing = t.timing := by
  unfold onInactive
  cases t.isHandshaking
  · rfl
  · exact fail_timing m .closedDuringHandshake t

theorem onClose_timing (m : EngineModel ε) (t : TlsStage ε) :
    (t.onClose m).1.timing = t.timing := by
  unfold onClose
  cases t.isEstablished
  · rfl
  · exact flushBestEffort_timing m { t with engine := m.sendCloseNotify t.engine }

theorem onRead_timing (m : EngineModel ε) (cipher : Bytes) (t : TlsStage ε) :
    (t.onRead m cipher).1.timing = t.timing := by
  have hingest := t.ingest_timing m cipher.length cipher []
  unfold onRead
  split
  · rfl
  · split
    · rename_i err u hu
      rw [hu] at hingest
      exact (u.fail_timing m err).trans hingest
    · rename_i plain u hu
      rw [hu] at hingest
      have hflush := u.flush_timing m
      split <;> rename_i v hv <;> rw [hv] at hflush
      · exact (fail_timing m _ _).trans (hflush.trans hingest)
      · exact (v.afterRead_timing m plain t.closeNotifyReceived).trans (hflush.trans hingest)

theorem onWrite_timing (m : EngineModel ε) (plain : Bytes) (t : TlsStage ε) :
    (t.onWrite m plain).1.timing = t.timing := by
  unfold onWrite
  split
  · exact fail_timing m _ _
  · rename_i e _
    have hflush := flush_timing m { t with engine := e }
    split <;> rename_i u hu <;> rw [hu] at hflush
    · exact (fail_timing m _ _).trans hflush
    · exact hflush

theorem step_timing (m : EngineModel ε) (now : Instant) (s : Signal) (t : TlsStage ε) :
    (t.step m now s).1.timing = t.timing := by
  unfold step
  split
  · exact t.onActive_timing m now
  · exact t.onRead_timing m _
  · exact t.onInactive_timing m
  · exact t.onTick_timing m _
  · exact t.onWrite_timing m _
  · exact t.onClose_timing m
  · rfl

def turn (m : EngineModel ε) (now : Instant) (s : Signal) (t : TlsStage ε) : Turn ε :=
  ⟨t, s, (t.step m now s).2, (t.step m now s).1⟩

def followed (m : EngineModel ε) (calls : List (Instant × Signal)) (t : TlsStage ε) : TlsStage ε :=
  calls.foldl (fun t call => (t.step m call.1 call.2).1) t

theorem followed_timing (m : EngineModel ε) (calls : List (Instant × Signal)) (t : TlsStage ε) :
    (t.followed m calls).timing = t.timing := by
  induction calls generalizing t with
  | nil => rfl
  | cons call calls ih => exact (ih _).trans (t.step_timing m call.1 call.2)

def overdue (limit : Span) : Signal :=
  .inbound (.event (.handshakeCompleted (.failure (.tls (.handshakeTimeout limit)))))

namespace Turn

structure Passes (now : Instant) (x : Turn ε) : Prop where
  emitted : x.emitted = [.inbound (.tick now)]
  after : x.after = x.before

/-- A tick that ends the handshake: with what the engine has still to send the failure is reported and
the connection is closed, and the tick goes on as any other. -/
structure Ends (limit : Span) (now : Instant) (x : Turn ε) : Prop where
  emitted : ∃ ws, Writes ws ∧
    x.emitted = ws ++ [overdue limit, .outbound .close, .inbound (.tick now)]
  after : x.after.state = .failed

/-- What a tick does to a stage that was activated at `started`, when these calls have been made
since. -/
structure Punctual (limit : Span) (started now : Instant) (past : List (Turn ε)) (x : Turn ε) :
    Prop where
  /-- The limit is reported where there is one, when it has been reached, and once. -/
  due : overdue limit ∈ x.emitted ↔
    0 < limit.nanos ∧ started.after limit ≤ now ∧ past.flatMap outcomes = []
  ends : overdue limit ∈ x.emitted → x.Ends limit now
  passes : overdue limit ∉ x.emitted → x.Passes now

end Turn

def deadline? (limit : Span) (started : Instant) : Option Instant :=
  if limit.isZero then none else some (started.after limit)

theorem onTick_passes (m : EngineModel ε) (now : Instant) {t : TlsStage ε}
    (h : ∀ deadline, t.state = .handshaking (some deadline) → now < deadline) :
    t.onTick m now = (t, [.inbound (.tick now)]) := by
  unfold onTick
  cases hstate : t.state with
  | handshaking deadline? =>
    cases deadline? with
    | none => rfl
    | some deadline =>
      simp only [if_neg (Nat.not_le.2 (h deadline hstate))]
      rfl
  | _ => rfl

theorem onTick_ends (m : EngineModel ε) {now deadline : Instant}
    (ht : t.state = .handshaking (some deadline)) (hdue : deadline ≤ now) :
    ∃ ws, Writes ws ∧ (t.onTick m now).2 =
        ws ++ [overdue t.timing.handshake, .outbound .close, .inbound (.tick now)] ∧
      (t.onTick m now).1.state = .failed := by
  obtain ⟨ws, hws, hout⟩ := t.fail_emitted m (.handshakeTimeout t.timing.handshake)
  have hh : t.isHandshaking = true := isHandshaking_iff.2 ⟨_, ht⟩
  have htick : t.onTick m now = ((t.fail m (.handshakeTimeout t.timing.handshake)).1,
      (t.fail m (.handshakeTimeout t.timing.handshake)).2 ++ [.inbound (.tick now)]) := by
    unfold onTick
    simp only [ht, if_pos hdue]
  refine ⟨ws, hws, ?_, by rw [htick]; rfl⟩
  rw [htick, hout, report, if_pos hh, List.append_assoc]
  rfl

/-- A call leaves the handshake under way and reports no outcome, or it reports one and ends it. -/
theorem Did.underway (h : Did m t s u out)
    (ht : t.isHandshaking = true ∨ t.state = .idle ∧ s = .inbound .active) :
    ((out.erase s).filterMap Signal.outcome? = [] ∧ u.isHandshaking = true ∧
        (t.isHandshaking = true → u.state = t.state)) ∨
      ((out.erase s).filterMap Signal.outcome? ≠ [] ∧ u.unsettled = 0) := by
  cases h with
  | kept hstate hws _ hstirred hout =>
    have hopen : t.isHandshaking = true :=
      ht.resolve_right fun hidle => hstirred (.inl hidle.symm)
    refine .inl ⟨filterMap_outcome?_kept hws hout, ?_, fun _ => hstate⟩
    rw [isHandshaking_congr hstate, hopen]
  | begun hidle hs hstate hws =>
    refine .inl ⟨filterMap_outcome?_kept hws.routine (.inr (by rw [hs])),
      isHandshaking_iff.2 ⟨_, hstate⟩, fun hopen => ?_⟩
    rw [isHandshaking, hidle] at hopen
    cases hopen
  | finished _ hs _ hstate hws =>
    refine .inr ⟨?_, by rw [unsettled, hstate]⟩
    rw [filterMap_erase (by rw [hs]; rfl), List.filterMap_append, filterMap_outcome?_completed]
    exact List.append_ne_nil_of_right_ne_nil _ (List.cons_ne_nil _ _)
  | broken err _ hstate hs hws =>
    refine .inr ⟨?_, unsettled_of_failed hstate⟩
    rw [filterMap_erase hs, List.filterMap_append, filterMap_outcome?_completed]
    exact List.append_ne_nil_of_right_ne_nil _ (List.cons_ne_nil _ _)
  -- this needs a stage whose handshake is over
  | spoiled _ hclosed hactive =>
    rcases ht with hopen | ⟨-, rfl⟩
    · cases hclosed.symm.trans hopen
    · exact absurd rfl hactive

/-- Where a stage stands that was activated at `started`, after these calls: the deadline is still
ahead of it, or there has been an outcome. -/
inductive Stands (limit : Span) (started : Instant) (past : List (Turn ε)) (t : TlsStage ε) : Prop
  | underway : t.state = .handshaking (deadline? limit started) → past.flatMap Turn.outcomes = [] →
    Stands limit started past t
  | settled : t.unsettled = 0 → past.flatMap Turn.outcomes ≠ [] → Stands limit started past t

variable {limit : Span} {started now : Instant} {past : List (Turn ε)}

theorem onActive_state (m : EngineModel ε) (now : Instant) (ht : t.state = .idle) :
    (t.onActive m now).1.state = .handshaking (deadline? t.timing.handshake now) ∨
      (t.onActive m now).1.state = .failed := by
  have hflush := flush_state m
    { t with state := .handshaking (deadline? t.timing.handshake now) }
  rw [deadline?] at hflush
  unfold onActive
  rw [ht]
  simp only
  split <;> rename_i u h <;> rw [h] at hflush
  · exact .inl hflush
  · exact .inr rfl

theorem flatMap_outcomes_turn (m : EngineModel ε) (now : Instant) (s : Signal) (t : TlsStage ε)
    (past : List (Turn ε)) : (past ++ [t.turn m now s]).flatMap Turn.outcomes =
      past.flatMap Turn.outcomes ++ ((t.step m now s).2.erase s).filterMap Signal.outcome? := by
  rw [List.flatMap_append]
  exact congrArg _ (List.append_nil _)

theorem stands_of_activation (m : EngineModel ε) (started : Instant) (ht : t.state = .idle) :
    Stands t.timing.handshake started [t.turn m started (.inbound .active)]
      (t.onActive m started).1 := by
  have hpast := flatMap_outcomes_turn m started (.inbound .active) t []
  rw [List.nil_append] at hpast
  rcases (did_onActive m started t).underway (.inr ⟨ht, rfl⟩) with ⟨hnone, hopen, -⟩ | ⟨hsome, hzero⟩
  · refine .underway ((onActive_state m started ht).resolve_right fun hfailed => ?_)
      (hpast.trans hnone)
    rw [isHandshaking, hfailed] at hopen
    cases hopen
  · exact .settled hzero (hpast ▸ hsome)

theorem Stands.step (h : Stands limit started past t) (m : EngineModel ε) (now : Instant)
    (s : Signal) : Stands limit started (past ++ [t.turn m now s]) (t.step m now s).1 := by
  have hpast := flatMap_outcomes_turn m now s t past
  cases h with
  | underway hstate hnone =>
    have hopen : t.isHandshaking = true := isHandshaking_iff.2 ⟨_, hstate⟩
    rcases (did_step m now s t).underway (.inl hopen) with ⟨hown, -, hkept⟩ | ⟨hown, hzero⟩
    · exact .underway ((hkept hopen).trans hstate) (by rw [hpast, hnone, hown]; rfl)
    · refine .settled hzero ?_
      rw [hpast]
      exact List.append_ne_nil_of_right_ne_nil _ hown
  | settled hzero hsome =>
    -- a stage without an outcome to come has none to come after any call
    have hstep := length_outcomes_step m now s t
    refine .settled (by omega) ?_
    rw [hpast]
    exact List.append_ne_nil_of_left_ne_nil hsome _

theorem Stands.followed (h : Stands limit started past t) (m : EngineModel ε)
    (calls : List (Instant × Signal)) :
    Stands limit started (past ++ t.turns m calls) (t.followed m calls) := by
  induction calls generalizing t past with
  | nil => rwa [turns, List.append_nil]
  | cons call calls ih =>
    have hnext := ih (h.step m call.1 call.2)
    rwa [List.append_assoc] at hnext

theorem Stands.deadline_iff (h : Stands limit started past t) {deadline : Instant} :
    t.state = .handshaking (some deadline) ↔
      0 < limit.nanos ∧ deadline = started.after limit ∧ past.flatMap Turn.outcomes = [] := by
  cases h with
  | underway hstate hnone =>
    rw [hstate, HandshakeState.handshaking.injEq, deadline?, Span.isZero, hnone]
    by_cases hzero : limit.nanos = 0
    · simp [hzero]
    · rw [if_neg (by simpa using hzero), Option.some.injEq]
      exact ⟨fun h => ⟨Nat.pos_of_ne_zero hzero, h.symm, rfl⟩, fun h => h.2.1.symm⟩
  | settled hzero hsome =>
    refine iff_of_false (fun hstate => ?_) fun hnone => hsome hnone.2.2
    have hopen := unsettled_of_isHandshaking (isHandshaking_iff.2 ⟨_, hstate⟩)
    omega

theorem overdue_not_mem_tick : overdue limit ∉ [Signal.inbound (.tick now)] := by
  rw [List.mem_singleton]
  nofun

theorem Stands.punctual (h : Stands limit started past t) (m : EngineModel ε) (clock now : Instant)
    (hlimit : t.timing.handshake = limit) :
    (t.turn m clock (.inbound (.tick now))).Punctual limit started now past := by
  -- the three conditions hold together just when a deadline is in force and has been reached
  by_cases hdue : 0 < limit.nanos ∧ started.after limit ≤ now ∧ past.flatMap Turn.outcomes = []
  · have hstate := h.deadline_iff.2 ⟨hdue.1, rfl, hdue.2.2⟩
    obtain ⟨ws, hws, hout, hfailed⟩ := onTick_ends m hstate hdue.2.1
    rw [hlimit] at hout
    have hmem : overdue limit ∈ (t.onTick m now).2 := by
      rw [hout]
      exact List.mem_append_right _ List.mem_cons_self
    exact ⟨iff_of_true hmem hdue, fun _ => ⟨⟨ws, hws, hout⟩, hfailed⟩, fun hnot => absurd hmem hnot⟩
  · have hpasses := onTick_passes m (t := t) now fun deadline hstate => by
      obtain ⟨hpos, rfl, hnone⟩ := h.deadline_iff.1 hstate
      exact Nat.lt_of_not_le fun hreached => hdue ⟨hpos, hreached, hnone⟩
    have hturn : t.turn m clock (.inbound (.tick now)) =
        ⟨t, .inbound (.tick now), [.inbound (.tick now)], t⟩ := by
      rw [turn, TlsStage.step, hpasses]
    rw [hturn]
    exact ⟨iff_of_false overdue_not_mem_tick hdue, fun hmem => absurd hmem overdue_not_mem_tick,
      fun _ => ⟨rfl, rfl⟩⟩

/-- The time limit is kept to the instant. A stage that is idle until it is activated at `started`
lets a tick pass until then. Afterwards, whatever it has been called with and however often it was
activated again, a tick reports the limit just when there is one, the deadline has been reached, and
there was no outcome before. That tick also closes the connection; every other leaves the stage as it
was, and all of them go on. -/
theorem timeout_reported_when_due (m : EngineModel ε) (t : TlsStage ε)
    (before calls : List (Instant × Signal)) (started clock now : Instant)
    (hidle : (t.followed m before).state = .idle) :
    let u := t.followed m before
    let since := (started, .inbound .active) :: calls
    (u.turn m clock (.inbound (.tick now))).Passes now ∧
      ((u.followed m since).turn m clock (.inbound (.tick now))).Punctual t.timing.handshake started
        now (u.turns m since) := by
  intro u since
  have hlimit : u.timing = t.timing := t.followed_timing m before
  have hstands := (stands_of_activation m started hidle).followed m calls
  rw [show (t.followed m before).timing = t.timing from hlimit] at hstands
  refine ⟨?_, hstands.punctual m clock now ?_⟩
  · have hpasses := onTick_passes m (t := u) now fun deadline hstate => by
      cases hidle.symm.trans hstate
    exact ⟨congrArg Prod.snd hpasses, congrArg Prod.fst hpasses⟩
  · exact congrArg TimingPolicy.handshake ((u.followed_timing m since).trans hlimit)

def patientServer : TlsStage Session :=
  withTiming ⟨.ofMillis 100, .zero, .zero⟩ (.new (.server ⟨[], [], [], ⟨.ed25519, []⟩⟩))

/-- The peer says nothing; a tick comes early, and the server is activated once more. -/
def silence : List (Instant × Signal) := [(6, .inbound (.tick 100_000_004)), (7, .inbound .active)]

theorem timeout_reported_when_due_of_silence :
    let u := patientServer.followed sessionEngine [(0, .inbound (.tick 900_000_000))]
    let since := (5, .inbound .active) :: silence
    u.state = .idle ∧ (u.turns sessionEngine since).flatMap Turn.outcomes = [] ∧
      ((u.followed sessionEngine since).turn sessionEngine 8 (.inbound (.tick 100_000_005))).Ends
        (.ofMillis 100) 100_000_005 := by
  intro u since
  have hidle : u.state = .idle := by decide +kernel
  have hnone : (u.turns sessionEngine since).flatMap Turn.outcomes = [] := by decide +kernel
  have hpunctual := (timeout_reported_when_due sessionEngine patientServer
    [(0, .inbound (.tick 900_000_000))] silence 5 8 100_000_005 hidle).2
  exact ⟨hidle, hnone, hpunctual.ends (hpunctual.due.2 ⟨by decide, by decide, hnone⟩)⟩

end TlsStage
end SecureGateway

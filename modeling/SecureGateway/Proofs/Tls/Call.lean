import SecureGateway.Tls.Stage

namespace SecureGateway

namespace Signal

def outcome? : Signal → Option HandshakeOutcome
  | inbound (.event (.handshakeCompleted out)) => some out
  | _ => none

def failure? : Signal → Option Cause
  | inbound (.exception cause) => some cause
  | inbound (.event (.handshakeCompleted (.failure cause))) => some cause
  | _ => none

/-- The signals of a session that goes on. -/
inductive Routine : Signal → Prop
  | write (data : Bytes) : Routine (outbound (.write data))
  | request : Routine (outbound .read)
  | read (data : Bytes) : Routine (inbound (.read data))
  | goodbye : Routine (inbound (.event .closeNotifyReceived))

theorem Routine.outcome?_eq {s : Signal} (h : s.Routine) : s.outcome? = none := by
  cases h <;> rfl

theorem Routine.failure?_eq {s : Signal} (h : s.Routine) : s.failure? = none := by
  cases h <;> rfl

end Signal

def Writes (l : List Signal) : Prop := ∀ x ∈ l, ∃ data, x = .outbound (.write data)

theorem Writes.routine {l : List Signal} (h : Writes l) : ∀ x ∈ l, x.Routine := by
  intro x hx
  obtain ⟨data, rfl⟩ := h x hx
  exact .write data

theorem writes_nil : Writes [] := nofun

namespace TlsStage

variable {ε : Type} {m : EngineModel ε} {t u : TlsStage ε} {s : Signal} {out : List Signal}

theorem flush_state (m : EngineModel ε) (t : TlsStage ε) : (t.flush m).2.state = t.state := by
  unfold flush
  split <;> rfl

theorem writes_of_flush (h : (t.flush m).1 = .ok out) : Writes out := by
  unfold flush at h
  split at h
  · rename_i bytes e _
    obtain rfl := Except.ok.inj h
    cases bytes.isEmpty
    · exact fun x hx => ⟨bytes, List.mem_singleton.1 hx⟩
    · exact writes_nil
  · cases h

theorem flushBestEffort_state (m : EngineModel ε) (t : TlsStage ε) :
    (t.flushBestEffort m).1.state = t.state := by
  have hflush := t.flush_state m
  unfold flushBestEffort
  split <;> rename_i h <;> rw [h] at hflush <;> exact hflush

theorem writes_of_flushBestEffort (m : EngineModel ε) (t : TlsStage ε) :
    Writes (t.flushBestEffort m).2 := by
  unfold flushBestEffort
  split
  · rename_i h
    exact writes_of_flush (congrArg Prod.fst h)
  · exact writes_nil

theorem ingest_state (m : EngineModel ε) (fuel : Nat) (cipher plain : Bytes) (t : TlsStage ε) :
    (t.ingest m fuel cipher plain).2.state = t.state := by
  induction fuel generalizing cipher plain t with
  | zero => rfl
  | succ fuel ih =>
    unfold ingest
    (repeat' split) <;> first | rfl | exact ih _ _ _

def report (err : TlsError) (t : TlsStage ε) : List Signal :=
  if t.isHandshaking then
    [.inbound (.event (.handshakeCompleted (.failure (.tls err)))), .outbound .close]
  else [.inbound (.exception (.tls err))]

theorem isHandshaking_congr (h : u.state = t.state) : u.isHandshaking = t.isHandshaking := by
  unfold isHandshaking
  rw [h]

theorem fail_emitted (m : EngineModel ε) (err : TlsError) (t : TlsStage ε) :
    ∃ ws, Writes ws ∧ (t.fail m err).2 = ws ++ t.report err := by
  refine ⟨(t.flushBestEffort m).2, writes_of_flushBestEffort m t, ?_⟩
  rw [report, ← isHandshaking_congr (t.flushBestEffort_state m)]
  rfl

/-- A stage does not stay as it is when its connection begins, or ends during the handshake. -/
def Stirred (t : TlsStage ε) (s : Signal) : Prop :=
  s = .inbound .active ∧ t.state = .idle ∨ s = .inbound .inactive ∧ t.isHandshaking = true

/-- What a call with the signal `s` does to a stage `t`, and what it emits. -/
inductive Did (m : EngineModel ε) (t : TlsStage ε) (s : Signal) :
    TlsStage ε → List Signal → Prop
  | kept {u : TlsStage ε} {ws out : List Signal} : u.state = t.state → (∀ x ∈ ws, x.Routine) →
    (t.state = .failed → ∀ data, .inbound (.read data) ∉ out) → ¬t.Stirred s →
    out = ws ∨ out = ws ++ [s] → Did m t s u out
  | begun {u : TlsStage ε} {ws : List Signal} {deadline : Option Instant} : t.state = .idle →
    s = .inbound .active → u.state = .handshaking deadline → Writes ws →
    Did m t s u (ws ++ [.inbound .active])
  | finished {u : TlsStage ε} {ws rest : List Signal} {cipher : Bytes} : t.isHandshaking = true →
    s = .inbound (.read cipher) → m.isHandshaking u.engine = false → u.state = .established →
    Writes ws → (∀ x ∈ rest, x.Routine) →
    Did m t s u (ws ++ .inbound (.event (.handshakeCompleted .success)) :: rest)
  /-- The handshake fails, be it in the call that begins it. -/
  | broken {u : TlsStage ε} {ws rest : List Signal} (err : TlsError) :
    t.isHandshaking = true ∨ t.state = .idle ∧ s = .inbound .active → u.state = .failed →
    s.outcome? = none → Writes ws → rest = [] ∨ rest = [s] →
    Did m t s u (ws ++ .inbound (.event (.handshakeCompleted (.failure (.tls err)))) ::
      .outbound .close :: rest)
  | spoiled {u : TlsStage ε} {ws : List Signal} (err : TlsError) : t.isHandshaking = false →
    s ≠ .inbound .active → s.outcome? = none → u.state = .failed → Writes ws →
    Did m t s u (ws ++ [.inbound (.exception (.tls err))])

theorem not_stirred (hactive : s ≠ .inbound .active) (hinactive : s ≠ .inbound .inactive) :
    ¬t.Stirred s := by
  rintro (⟨h, -⟩ | ⟨h, -⟩)
  · exact hactive h
  · exact hinactive h

theorem Did.pass (h : u.state = t.state) (hread : ∀ data, s ≠ .inbound (.read data))
    (hs : ¬t.Stirred s) : Did m t s u [s] := by
  have hnone : ∀ x ∈ ([] : List Signal), x.Routine := List.forall_mem_nil _
  refine .kept h hnone ?_ hs (.inr rfl)
  intro _ data hmem
  exact hread data (List.mem_singleton.1 hmem).symm

theorem Did.swallow (hs : ¬t.Stirred s) : Did m t s t [] := by
  have hnone : ∀ x ∈ ([] : List Signal), x.Routine := List.forall_mem_nil _
  exact .kept rfl hnone (fun _ _ => List.not_mem_nil) hs (.inl rfl)

/-- A failure in a part `v` of the call, and what comes after it. -/
theorem Did.of_fail {v : TlsStage ε} {rest : List Signal} (err : TlsError)
    (hv : v.state = t.state) (hactive : s ≠ .inbound .active) (hs : s.outcome? = none)
    (hrest : rest = [] ∨ rest = [s] ∧ t.isHandshaking = true) :
    Did m t s (v.fail m err).1 ((v.fail m err).2 ++ rest) := by
  obtain ⟨ws, hws, hout⟩ := v.fail_emitted m err
  rw [hout, report, isHandshaking_congr hv]
  cases hh : t.isHandshaking with
  | true =>
    rw [if_pos rfl, List.append_assoc]
    exact .broken err (.inl hh) rfl hs hws (hrest.imp id And.left)
  | false =>
    obtain rfl : rest = [] := hrest.resolve_right fun h => by simp [hh] at h
    rw [if_neg Bool.false_ne_true, List.append_nil]
    exact .spoiled err hh hactive hs rfl hws

theorem Did.of_fail_alone {v : TlsStage ε} (err : TlsError) (hv : v.state = t.state)
    (hactive : s ≠ .inbound .active) (hs : s.outcome? = none) :
    Did m t s (v.fail m err).1 (v.fail m err).2 := by
  have h := Did.of_fail (m := m) err hv hactive hs (.inl rfl)
  rwa [List.append_nil] at h

theorem did_onActive (m : EngineModel ε) (now : Instant) (t : TlsStage ε) :
    Did m t (.inbound .active) (t.onActive m now).1 (t.onActive m now).2 := by
  unfold onActive
  split
  · rename_i hidle
    -- the handshake has begun when the first flight is written, so an error there breaks it
    generalize (if t.timing.handshake.isZero = true then none
      else some (now.after t.timing.handshake)) = deadline
    have hstate := flush_state m { t with state := .handshaking deadline }
    simp only
    split
    · rename_i out u hflush
      rw [hflush] at hstate
      exact .begun hidle rfl hstate (writes_of_flush (congrArg Prod.fst hflush))
    · rename_i err u hflush
      rw [hflush] at hstate
      obtain ⟨ws, hws, hout⟩ := u.fail_emitted m (.io err)
      have hh : u.isHandshaking = true := by
        unfold isHandshaking
        rw [hstate]
      rw [hout, report, if_pos hh]
      exact .broken _ (.inr ⟨hidle, rfl⟩) rfl rfl hws (.inl rfl)
  · rename_i hne
    refine .pass rfl nofun ?_
    rintro (⟨-, hidle⟩ | ⟨h, -⟩)
    · exact hne hidle
    · cases h

theorem did_afterRead (cipher plain : Bytes) (had : Bool) {ws : List Signal}
    (hstate : u.state = t.state) (hlive : t.state ≠ .failed) (hws : Writes ws) :
    Did m t (.inbound (.read cipher)) (u.afterRead m plain had).1
      (ws ++ (u.afterRead m plain had).2) := by
  have hh := isHandshaking_congr hstate
  have hrest (v : TlsStage ε) : ∀ x ∈ (if plain.isEmpty then [] else
        [Signal.inbound (.read plain)]) ++
      (if v.closeNotifyReceived && !had then [.inbound (.event .closeNotifyReceived)] else []),
      x.Routine := by
    intro x hx
    rcases List.mem_append.1 hx with hx | hx <;> split at hx
    · cases hx
    · exact List.mem_singleton.1 hx ▸ .read plain
    · exact List.mem_singleton.1 hx ▸ .goodbye
    · cases hx
  unfold afterRead
  cases hhandshaking : u.isHandshaking with
  | false =>
    refine .kept hstate ?_ (fun h => absurd h hlive) (not_stirred nofun nofun) (.inl rfl)
    intro x hx
    rcases List.mem_append.1 hx with hx | hx
    · exact hws.routine x hx
    · exact hrest u x hx
  | true =>
    rw [hhandshaking] at hh
    -- the engine is done with the handshake, or asks for another read
    cases hengine : m.isHandshaking u.engine with
    | false => exact .finished hh.symm rfl hengine rfl hws (hrest _)
    | true =>
      refine .kept hstate ?_ (fun h => absurd h hlive) (not_stirred nofun nofun) (.inl rfl)
      intro x hx
      rcases List.mem_append.1 hx with hx | hx
      · exact hws.routine x hx
      · rcases List.mem_cons.1 hx with rfl | hx
        · exact .request
        · exact hrest u x hx

theorem did_onRead (m : EngineModel ε) (cipher : Bytes) (t : TlsStage ε) :
    Did m t (.inbound (.read cipher)) (t.onRead m cipher).1 (t.onRead m cipher).2 := by
  have hingest := t.ingest_state m cipher.length cipher []
  unfold onRead
  split
  · exact .swallow (not_stirred nofun nofun)
  · rename_i hlive
    have hlive' : t.state ≠ .failed := by simpa using hlive
    split
    · rename_i err u h
      rw [h] at hingest
      exact .of_fail_alone err hingest nofun rfl
    · rename_i plain u h
      rw [h] at hingest
      have hflush := u.flush_state m
      split
      · rename_i err v hv
        rw [hv] at hflush
        exact .of_fail_alone (.io err) (hflush.trans hingest) nofun rfl
      · rename_i out v hv
        rw [hv] at hflush
        exact did_afterRead cipher plain _ (hflush.trans hingest) hlive'
          (writes_of_flush (congrArg Prod.fst hv))

theorem did_onInactive (m : EngineModel ε) (t : TlsStage ε) :
    Did m t (.inbound .inactive) (t.onInactive m).1 (t.onInactive m).2 := by
  unfold onInactive
  cases hh : t.isHandshaking with
  | true => exact Did.of_fail _ rfl nofun rfl (.inr ⟨rfl, hh⟩)
  | false =>
    refine .pass rfl nofun ?_
    rintro (⟨h, -⟩ | ⟨-, h⟩)
    · cases h
    · cases hh.symm.trans h

theorem did_onTick (m : EngineModel ε) (now : Instant) (t : TlsStage ε) :
    Did m t (.inbound (.tick now)) (t.onTick m now).1 (t.onTick m now).2 := by
  unfold onTick
  cases hstate : t.state with
  | handshaking deadline? =>
    have hh : t.isHandshaking = true := by rw [isHandshaking, hstate]
    cases deadline? with
    | none => exact .pass rfl nofun (not_stirred nofun nofun)
    | some deadline =>
      simp only
      cases hlate : decide (deadline ≤ now) with
      | true =>
        rw [if_pos (of_decide_eq_true hlate)]
        exact Did.of_fail _ rfl nofun rfl (.inr ⟨rfl, hh⟩)
      | false =>
        rw [if_neg (of_decide_eq_false hlate)]
        exact .pass rfl nofun (not_stirred nofun nofun)
  | _ => exact .pass rfl nofun (not_stirred nofun nofun)

theorem did_onWrite (m : EngineModel ε) (plain : Bytes) (t : TlsStage ε) :
    Did m t (.outbound (.write plain)) (t.onWrite m plain).1 (t.onWrite m plain).2 := by
  unfold onWrite
  split
  · exact .of_fail_alone _ rfl nofun rfl
  · rename_i e _
    have hflush := flush_state m { t with engine := e }
    split
    · rename_i err v hv
      rw [hv] at hflush
      exact .of_fail_alone (.io err) hflush nofun rfl
    · rename_i out v hv
      rw [hv] at hflush
      have hws := writes_of_flush (congrArg Prod.fst hv)
      refine .kept hflush hws.routine ?_ (not_stirred nofun nofun) (.inl rfl)
      intro _ data hmem
      obtain ⟨_, h⟩ := hws _ hmem
      cases h

theorem did_onClose (m : EngineModel ε) (t : TlsStage ε) :
    Did m t (.outbound .close) (t.onClose m).1 (t.onClose m).2 := by
  unfold onClose
  cases t.isEstablished with
  | true =>
    have hws := writes_of_flushBestEffort m { t with engine := m.sendCloseNotify t.engine }
    refine .kept (flushBestEffort_state m { t with engine := m.sendCloseNotify t.engine })
      hws.routine ?_ (not_stirred nofun nofun) (.inr rfl)
    intro _ data hmem
    rcases List.mem_append.1 hmem with hmem | hmem
    · obtain ⟨_, h⟩ := hws _ hmem
      cases h
    · cases List.mem_singleton.1 hmem
  | false => exact .pass rfl nofun (not_stirred nofun nofun)

theorem did_step (m : EngineModel ε) (now : Instant) (s : Signal) (t : TlsStage ε) :
    Did m t s (t.step m now s).1 (t.step m now s).2 := by
  cases s with
  | inbound s =>
    cases s with
    | active => exact did_onActive m now t
    | read cipher => exact did_onRead m cipher t
    | inactive => exact did_onInactive m t
    | tick at' => exact did_onTick m at' t
    | _ => exact .pass rfl nofun (not_stirred nofun nofun)
  | outbound op =>
    cases op with
    | write plain => exact did_onWrite m plain t
    | close => exact did_onClose m t
    | read => exact .pass rfl nofun (not_stirred nofun nofun)

end TlsStage
end SecureGateway

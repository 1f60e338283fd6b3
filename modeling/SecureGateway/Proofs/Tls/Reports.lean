import SecureGateway.Proofs.Tls.Lifecycle
import SecureGateway.Session.Engine

namespace SecureGateway

namespace TlsStage

variable {ε : Type} {m : EngineModel ε} {t u : TlsStage ε} {s : Signal} {out : List Signal}

/-- Whether the engine fails to take these bytes, or to send what comes of them. -/
def refuses (m : EngineModel ε) (plain : Bytes) (t : TlsStage ε) : Bool :=
  match m.writePlain plain t.engine with
  | (.error _, _) => true
  | (.ok (), e) => !(flush m { t with engine := e }).1.isOk

namespace Turn

/-- The failures that the stage reports; one that it was given and passes on is not its own. -/
def failures (x : Turn ε) : List Cause := (x.emitted.erase x.signal).filterMap Signal.failure?

/-- A write to a stage that has failed, which its engine refuses. -/
def late (m : EngineModel ε) (x : Turn ε) : Bool :=
  x.before.state == .failed &&
    match x.signal with
    | .outbound (.write plain) => x.before.refuses m plain
    | _ => false

structure Told (m : EngineModel ε) (x : Turn ε) : Prop where
  once : x.failures.length ≤ 1
  failed : x.failures ≠ [] → x.after.state = .failed
  /-- A stage that has failed reports again when its engine refuses a write, and only then. -/
  again : x.before.state = .failed → (x.failures ≠ [] ↔ x.late m = true)

end Turn

theorem filterMap_failure?_of_routine {l : List Signal} (h : ∀ x ∈ l, x.Routine) :
    l.filterMap Signal.failure? = [] :=
  List.filterMap_eq_nil_iff.2 fun x hx => (h x hx).failure?_eq

theorem filterMap_failure?_report (err : TlsError) (t : TlsStage ε) :
    (t.report err).filterMap Signal.failure? = [.tls err] := by
  unfold report
  cases t.isHandshaking <;> rfl

theorem step_of_failure? (m : EngineModel ε) (now : Instant) (t : TlsStage ε)
    (hs : s.failure? ≠ none) : t.step m now s = (t, [s]) := by
  unfold Signal.failure? at hs
  split at hs
  · rfl
  · rfl
  · exact absurd rfl hs

/-- How many failures a stage has still to report. -/
def intact (t : TlsStage ε) : Nat := if t.state = .failed then 0 else 1

theorem intact_of_failed (h : t.state = .failed) : t.intact = 0 := if_pos h

theorem intact_of_live (h : t.state ≠ .failed) : t.intact = 1 := if_neg h

theorem Did.failures (h : Did m t s u out) (hs : s.failure? = none) :
    ((out.erase s).filterMap Signal.failure? = [] ∧ u.intact = t.intact) ∨
      ∃ err, (out.erase s).filterMap Signal.failure? = [.tls err] ∧ u.state = .failed := by
  have hlone : ∀ l : List Signal, l = [] ∨ l = [s] → l.filterMap Signal.failure? = [] := by
    rintro l (rfl | rfl)
    · rfl
    · exact List.filterMap_cons_none hs
  rw [filterMap_erase hs]
  cases h with
  | kept hstate hws _ _ hout =>
    refine .inl ⟨?_, by rw [intact, intact, hstate]⟩
    rcases hout with rfl | rfl
    · exact filterMap_failure?_of_routine hws
    · rw [List.filterMap_append, filterMap_failure?_of_routine hws, hlone [s] (.inr rfl)]
      rfl
  | begun hidle _ hstate hws =>
    refine .inl ⟨?_, by rw [intact_of_live (by simp [hstate]), intact_of_live (by simp [hidle])]⟩
    rw [List.filterMap_append, filterMap_failure?_of_routine hws.routine]
    rfl
  | finished hh _ _ hstate hws hrest =>
    obtain ⟨deadline, hh⟩ := isHandshaking_iff.1 hh
    refine .inl ⟨?_, by rw [intact_of_live (by simp [hstate]), intact_of_live (by simp [hh])]⟩
    rw [List.filterMap_append, filterMap_failure?_of_routine hws.routine,
      List.filterMap_cons_none rfl, filterMap_failure?_of_routine hrest]
    rfl
  | broken err _ hstate _ hws hrest =>
    refine .inr ⟨err, ?_, hstate⟩
    rw [List.filterMap_append, filterMap_failure?_of_routine hws.routine]
    exact congrArg (Cause.tls err :: ·) ((List.filterMap_cons_none rfl).trans (hlone _ hrest))
  | spoiled err _ _ _ hstate hws =>
    refine .inr ⟨err, ?_, hstate⟩
    rw [List.filterMap_append, filterMap_failure?_of_routine hws.routine]
    rfl

theorem step_of_failed (m : EngineModel ε) (now : Instant) (ht : t.state = .failed)
    (hs : ∀ plain, s ≠ .outbound (.write plain)) :
    t.step m now s = (t, []) ∨ t.step m now s = (t, [s]) := by
  have hh : t.isHandshaking = false := by rw [isHandshaking, ht]
  cases s with
  | inbound s =>
    cases s with
    | active => exact .inr (by rw [step, onActive, ht])
    | read cipher => exact .inl (if_pos (by rw [ht]; rfl))
    | inactive => exact .inr (by rw [step, onInactive, hh]; rfl)
    | tick now' => exact .inr (by rw [step, onTick, ht]; rfl)
    | registered | readComplete | event | exception => exact .inr rfl
  | outbound op =>
    cases op with
    | write plain => exact absurd rfl (hs plain)
    | read => exact .inr rfl
    | close =>
      have hestablished : t.isEstablished = false := by rw [isEstablished, ht]; rfl
      exact .inr (by rw [step, onClose, hestablished]; rfl)

theorem failures_of_write (m : EngineModel ε) (plain : Bytes) (t : TlsStage ε) :
    ((t.onWrite m plain).2.filterMap Signal.failure? ≠ []) ↔ t.refuses m plain = true := by
  have hfail : ∀ (err : TlsError) (v : TlsStage ε),
      (v.fail m err).2.filterMap Signal.failure? ≠ [] := by
    intro err v
    obtain ⟨ws, hws, hout⟩ := v.fail_emitted m err
    rw [hout, List.filterMap_append, filterMap_failure?_of_routine hws.routine,
      filterMap_failure?_report]
    exact List.cons_ne_nil _ _
  rw [onWrite, refuses]
  rcases m.writePlain plain t.engine with ⟨err | ⟨⟩, e⟩
  · exact iff_of_true (hfail _ _) rfl
  · dsimp only
    cases hflush : flush m { t with engine := e } with
    | mk r v =>
      cases r with
      | error err => exact iff_of_true (hfail _ _) rfl
      | ok out =>
        have hws := writes_of_flush (congrArg Prod.fst hflush)
        exact iff_of_false (not_not_intro (filterMap_failure?_of_routine hws.routine))
          Bool.false_ne_true

theorem failures_of_passed {x : Turn ε} (h : x.emitted = [] ∨ x.emitted = [x.signal]) :
    x.failures = [] := by
  rw [Turn.failures]
  rcases h with h | h
  · rw [h]
    rfl
  · rw [h, List.erase_cons_head]
    rfl

theorem late_of_other {x : Turn ε} (h : ∀ plain, x.signal ≠ .outbound (.write plain)) :
    x.late m = false := by
  rw [Turn.late]
  split
  · rename_i plain hplain
    exact absurd hplain (h plain)
  · exact Bool.and_false _

theorem again_step (m : EngineModel ε) (now : Instant) (s : Signal) (ht : t.state = .failed) :
    let x : Turn ε := ⟨t, s, (t.step m now s).2, (t.step m now s).1⟩
    x.failures ≠ [] ↔ x.late m = true := by
  intro x
  by_cases hwrite : ∃ plain, s = .outbound (.write plain)
  · obtain ⟨plain, rfl⟩ := hwrite
    have hlate : x.late m = t.refuses m plain := by
      show (t.state == .failed && t.refuses m plain) = _
      rw [ht]
      rfl
    rw [hlate, Turn.failures, filterMap_erase rfl]
    exact failures_of_write m plain t
  · have hother : ∀ plain, s ≠ .outbound (.write plain) := fun plain h => hwrite ⟨plain, h⟩
    have hpassed := (step_of_failed m now ht hother).imp (congrArg Prod.snd) (congrArg Prod.snd)
    rw [failures_of_passed hpassed, late_of_other hother]
    exact iff_of_false (not_not_intro rfl) Bool.false_ne_true

theorem failures_step (m : EngineModel ε) (now : Instant) (s : Signal) (t : TlsStage ε) :
    let x : Turn ε := ⟨t, s, (t.step m now s).2, (t.step m now s).1⟩
    (x.failures = [] ∧ x.after.intact = t.intact) ∨
      ∃ err, x.failures = [.tls err] ∧ x.after.state = .failed := by
  intro x
  cases hs : s.failure? with
  | none => exact (did_step m now s t).failures hs
  | some cause =>
    have hstep := step_of_failure? m now t (hs ▸ Option.some_ne_none cause)
    exact .inl ⟨failures_of_passed (.inr (congrArg Prod.snd hstep)),
      congrArg (fun y => intact y.1) hstep⟩

theorem told_step (m : EngineModel ε) (now : Instant) (s : Signal) (t : TlsStage ε) :
    Turn.Told m ⟨t, s, (t.step m now s).2, (t.step m now s).1⟩ := by
  rcases failures_step m now s t with ⟨hnone, -⟩ | ⟨err, hone, hfailed⟩
  · exact ⟨by rw [hnone]; exact Nat.zero_le 1, fun h => absurd hnone h, again_step m now s⟩
  · exact ⟨by rw [hone]; exact Nat.le_refl 1, fun _ => hfailed, again_step m now s⟩

/-- A report that is not brought by a late write is the only one that the stage has to make. -/
theorem length_failures_step (m : EngineModel ε) (now : Instant) (s : Signal) (t : TlsStage ε)
    (hlate : Turn.late m ⟨t, s, (t.step m now s).2, (t.step m now s).1⟩ = false) :
    (Turn.failures ⟨t, s, (t.step m now s).2, (t.step m now s).1⟩).length +
      (t.step m now s).1.intact ≤ t.intact := by
  rcases failures_step m now s t with ⟨hnone, hintact⟩ | ⟨err, hone, hfailed⟩
  · rw [hnone, List.length_nil, Nat.zero_add]
    exact Nat.le_of_eq hintact
  · have hlive : t.state ≠ .failed := fun ht => by
      have hagain := (again_step m now s ht).1 (hone ▸ List.cons_ne_nil _ _)
      exact Bool.false_ne_true (hlate.symm.trans hagain)
    rw [hone, intact_of_failed hfailed, intact_of_live hlive]
    exact Nat.le_refl 1

theorem intact_step_le (m : EngineModel ε) (now : Instant) (s : Signal) (t : TlsStage ε) :
    (t.step m now s).1.intact ≤ t.intact := by
  rcases failures_step m now s t with ⟨-, hintact⟩ | ⟨err, -, hfailed⟩
  · exact Nat.le_of_eq hintact
  · rw [intact_of_failed hfailed]
    exact Nat.zero_le _

theorem told_turns (m : EngineModel ε) (calls : List (Instant × Signal)) (t : TlsStage ε) :
    ∀ x ∈ t.turns m calls, x.Told m := by
  induction calls generalizing t with
  | nil => exact List.forall_mem_nil _
  | cons call calls ih =>
    rw [turns_cons]
    exact List.forall_mem_cons.2 ⟨told_step m call.1 call.2 t, ih _⟩

theorem length_failures_turns (m : EngineModel ε) (calls : List (Instant × Signal))
    (t : TlsStage ε) :
    (((t.turns m calls).filter fun x => !x.late m).flatMap Turn.failures).length ≤ t.intact := by
  induction calls generalizing t with
  | nil => exact Nat.zero_le _
  | cons call calls ih =>
    obtain ⟨now, s⟩ := call
    have hrest := ih (t.step m now s).1
    rw [turns_cons]
    cases hlate : Turn.late m ⟨t, s, (t.step m now s).2, (t.step m now s).1⟩ with
    | true =>
      rw [List.filter_cons_of_neg (by simp [hlate])]
      exact Nat.le_trans hrest (intact_step_le m now s t)
    | false =>
      have hstep := length_failures_step m now s t hlate
      rw [List.filter_cons_of_pos (by simp [hlate]), List.flatMap_cons, List.length_append]
      omega

theorem intact_le_one (t : TlsStage ε) : t.intact ≤ 1 := by
  unfold intact
  split <;> decide

/-- A stage reports one failure at most in a call, and one in all its calls but for writes that its
engine refuses once it has failed: each of those brings a report of its own. -/
theorem failures_reported_once (m : EngineModel ε) (calls : List (Instant × Signal))
    (t : TlsStage ε) :
    (∀ x ∈ t.turns m calls, x.Told m) ∧
      (((t.turns m calls).filter fun x => !x.late m).flatMap Turn.failures).length ≤ 1 :=
  ⟨told_turns m calls t, Nat.le_trans (length_failures_turns m calls t) (intact_le_one t)⟩

def bareServer : TlsStage Session := .new (.server ⟨[], [], [], ⟨.ed25519, []⟩⟩)

/-- A server is given what is no record at all, and then bytes to send: it reports that the
handshake failed, and the same failure again as an exception. -/
theorem failure_reported_again :
    let reports := (bareServer.turns sessionEngine [(0, .inbound .active),
      (1, .inbound (.read [0x47, 0x45, 0x54])), (2, .outbound (.write [1]))]).flatMap Turn.failures
    reports = [.tls (.handshake (.corrupt .invalidContentType)),
        .tls (.io (.custom "received corrupt message of type InvalidContentType"))] ∧
      ¬reports.length ≤ 1 := by
  decide +kernel

end TlsStage
end SecureGateway

import SecureGateway.Proofs.Tls.Call

namespace SecureGateway

variable {ε κ : Type}

/-- What an engine makes of its input, one byte at a time. -/
structure Receiver (κ : Type) where
  absorb : κ → UInt8 → Except EngineError (κ × Bytes)
  closed : κ → Bool
  handshaking : κ → Bool
  absorb_closed : ∀ {v}, closed v = true → ∀ b, absorb v b = .ok (v, [])
  absorb_done : ∀ {v b v' plain}, handshaking v = false → absorb v b = .ok (v', plain) →
    handshaking v' = false

/-- What comes of some bytes, up to a failure. -/
structure Intake (κ : Type) where
  state : κ
  plain : Bytes
  error : Option EngineError

namespace Receiver

variable {r : Receiver κ} {v : κ} {a b : Bytes} {err : EngineError}

def intake (r : Receiver κ) : Bytes → κ → Intake κ
  | [], v => ⟨v, [], none⟩
  | b :: s, v =>
    match r.absorb v b with
    | .error err => ⟨v, [], some err⟩
    | .ok (v', plain) => ⟨(r.intake s v').state, plain ++ (r.intake s v').plain, (r.intake s v').error⟩

theorem intake_cons_error {x : UInt8} (h : r.absorb v x = .error err) (s : Bytes) :
    r.intake (x :: s) v = ⟨v, [], some err⟩ := by
  rw [intake, h]

theorem intake_cons_ok {x : UInt8} {v' : κ} {plain : Bytes} (h : r.absorb v x = .ok (v', plain))
    (s : Bytes) : r.intake (x :: s) v =
      ⟨(r.intake s v').state, plain ++ (r.intake s v').plain, (r.intake s v').error⟩ := by
  rw [intake, h]

theorem intake_append (h : (r.intake a v).error = none) (b : Bytes) :
    r.intake (a ++ b) v = ⟨(r.intake b (r.intake a v).state).state,
      (r.intake a v).plain ++ (r.intake b (r.intake a v).state).plain,
      (r.intake b (r.intake a v).state).error⟩ := by
  induction a generalizing v with
  | nil => rfl
  | cons x a ih =>
    rw [List.cons_append]
    cases hx : r.absorb v x with
    | error err =>
      rw [intake_cons_error hx] at h
      cases h
    | ok y =>
      rw [intake_cons_ok hx] at h ⊢
      rw [intake_cons_ok hx, ih h]
      simp only [List.append_assoc]

theorem intake_append_of_error (h : (r.intake a v).error = some err) (b : Bytes) :
    r.intake (a ++ b) v = r.intake a v := by
  induction a generalizing v with
  | nil => cases h
  | cons x a ih =>
    rw [List.cons_append]
    cases hx : r.absorb v x with
    | error err => rw [intake_cons_error hx, intake_cons_error hx]
    | ok y =>
      rw [intake_cons_ok hx] at h ⊢
      rw [intake_cons_ok hx, ih h]

theorem intake_closed (h : r.closed v = true) (s : Bytes) : r.intake s v = ⟨v, [], none⟩ := by
  induction s with
  | nil => rfl
  | cons b s ih =>
    rw [intake_cons_ok (r.absorb_closed h b), ih]
    rfl

theorem intake_done (h : r.handshaking v = false) (s : Bytes) :
    r.handshaking (r.intake s v).state = false := by
  induction s generalizing v with
  | nil => exact h
  | cons b s ih =>
    cases hb : r.absorb v b with
    | error err =>
      rw [intake_cons_error hb]
      exact h
    | ok y =>
      rw [intake_cons_ok hb]
      exact ih (r.absorb_done h hb)

theorem exists_failing {pieces : List Bytes} (h : (r.intake pieces.flatten v).error = some err) :
    ∃ ps y qs, pieces = ps ++ y :: qs ∧ (r.intake ps.flatten v).error = none ∧
      (r.intake (ps.flatten ++ y) v).error = some err := by
  induction pieces generalizing v with
  | nil => cases h
  | cons x pieces ih =>
    cases hx : (r.intake x v).error with
    | some err' =>
      rw [List.flatten_cons, intake_append_of_error hx, hx] at h
      exact ⟨[], x, pieces, rfl, rfl, hx.trans h⟩
    | none =>
      rw [List.flatten_cons, intake_append hx] at h
      obtain ⟨ps, y, qs, rfl, hps, hy⟩ := ih h
      refine ⟨x :: ps, y, qs, rfl, ?_, ?_⟩
      · rw [List.flatten_cons, intake_append hx]
        exact hps
      · rw [List.flatten_cons, List.append_assoc, intake_append hx]
        exact hy

/-- Where a piece is rejected, nothing came of it before: no plaintext, and not the end of a
handshake. -/
def Tidy (r : Receiver κ) (v : κ) (pieces : List Bytes) : Prop :=
  ∀ ps y qs, pieces = ps ++ y :: qs → (r.intake ps.flatten v).error = none →
    (r.intake (ps.flatten ++ y) v).error ≠ none →
      (r.intake ps.flatten v).plain = (r.intake pieces.flatten v).plain ∧
        (r.handshaking (r.intake pieces.flatten v).state = false →
          ps ≠ [] ∧ r.handshaking (r.intake ps.flatten v).state = false)

end Receiver

namespace EngineModel

def HandsOut (m : EngineModel ε) : List Bytes → Bool → ε → ε → Prop
  | [], ended, e, e' => m.readPlain e = (if ended then .endOfStream else .wouldBlock, e')
  | piece :: pieces, ended, e, e' =>
    ∃ e₁, m.readPlain e = (.data piece, e₁) ∧ m.HandsOut pieces ended e₁ e'

/-- The engine makes of what it has taken what a receiver makes of it. -/
def Works (m : EngineModel ε) (view : ε → κ) (r : Receiver κ) (x : Intake κ) (e : ε) : Prop :=
  match x.error with
  | some err => ∃ e', m.process e = (.error err, e')
  | none => ∃ e₁ pieces e', m.process e = (.ok (), e₁) ∧
      m.HandsOut pieces (r.closed x.state) e₁ e' ∧ pieces.length < m.limit ∧
      pieces.flatten = x.plain ∧ view e' = x.state

/-- To the engine only the bytes matter. It takes as many at a time as it pleases, and makes of them
what the receiver makes of them one by one; sending is no concern of what it receives. -/
structure Bytewise (m : EngineModel ε) (view : ε → κ) (r : Receiver κ) : Prop where
  handshaking : ∀ e, m.isHandshaking e = r.handshaking (view e)
  sends : ∀ e, m.wantsWrite e = true → ∃ out e', m.writeTls e = (.ok out, e') ∧ view e' = view e
  refuses : ∀ e cipher, r.closed (view e) = true →
    ∃ e', m.readTls cipher e = (.ok 0, e') ∧ view e' = view e
  takes : ∀ e cipher, r.closed (view e) = false → cipher ≠ [] →
    ∃ n e', 0 < n ∧ n ≤ cipher.length ∧ m.readTls cipher e = (.ok n, e') ∧
      m.Works view r (r.intake (cipher.take n) (view e)) e'

variable {m : EngineModel ε} {view : ε → κ} {r : Receiver κ}

theorem takePlain_of_handsOut {pieces : List Bytes} {ended : Bool} {e e' : ε} {limit : Nat}
    (h : m.HandsOut pieces ended e e') (hlimit : pieces.length < limit) :
    m.takePlain limit e = (.ok (pieces.flatten, ended), e') := by
  induction pieces generalizing e limit with
  | nil =>
    have hstop : m.readPlain e = (if ended then .endOfStream else .wouldBlock, e') := h
    cases limit with
    | zero => cases hlimit
    | succ limit => cases ended <;> simp only [takePlain, hstop] <;> rfl
  | cons piece pieces ih =>
    obtain ⟨e₁, hpiece, hrest⟩ := h
    cases limit with
    | zero => cases hlimit
    | succ limit =>
      simp only [takePlain, hpiece, ih hrest (Nat.lt_of_succ_lt_succ hlimit), List.flatten_cons]

theorem Bytewise.takeOutput (hm : m.Bytewise view r) (limit : Nat) (e : ε) :
    ∃ out e', m.takeOutput limit e = (.ok out, e') ∧ view e' = view e := by
  induction limit generalizing e with
  | zero => exact ⟨[], e, rfl, rfl⟩
  | succ limit ih =>
    cases hwants : m.wantsWrite e with
    | false => exact ⟨[], e, by rw [EngineModel.takeOutput, hwants]; rfl, rfl⟩
    | true =>
      obtain ⟨out, e₁, hwrite, hview₁⟩ := hm.sends e hwants
      obtain ⟨more, e₂, hmore, hview₂⟩ := ih e₁
      refine ⟨out ++ more, e₂, ?_, hview₂.trans hview₁⟩
      rw [EngineModel.takeOutput, hwants, if_pos rfl, hwrite]
      simp only [hmore]

end EngineModel

def Signal.plain? : Signal → Option Bytes
  | .inbound (.read data) => some data
  | _ => none

/-- What there is to learn from some signals. -/
structure Notice where
  plain : Bytes
  outcomes : List HandshakeOutcome
  failures : List Cause
  deriving DecidableEq

def notice (l : List Signal) : Notice :=
  ⟨(l.filterMap Signal.plain?).flatten, l.filterMap Signal.outcome?, l.filterMap Signal.failure?⟩

theorem notice_append (l₁ l₂ : List Signal) : notice (l₁ ++ l₂) =
    ⟨(notice l₁).plain ++ (notice l₂).plain, (notice l₁).outcomes ++ (notice l₂).outcomes,
      (notice l₁).failures ++ (notice l₂).failures⟩ := by
  simp only [notice, List.filterMap_append, List.flatten_append]

theorem notice_of_writes {ws : List Signal} (h : Writes ws) (l : List Signal) :
    notice (ws ++ l) = notice l := by
  have hnone : ∀ {α : Type} {f : Signal → Option α}, (∀ data, f (.outbound (.write data)) = none) →
      ws.filterMap f = [] := by
    intro α f hf
    refine List.filterMap_eq_nil_iff.2 fun x hx => ?_
    obtain ⟨data, rfl⟩ := h x hx
    exact hf data
  have hws : notice ws = ⟨[], [], []⟩ := by
    rw [notice, hnone fun _ => rfl, hnone fun _ => rfl, hnone fun _ => rfl]
    rfl
  rw [notice_append, hws]
  rfl

namespace TlsStage

variable {m : EngineModel ε} {view : ε → κ} {r : Receiver κ} {t : TlsStage ε} {cipher plain : Bytes}
  {err : EngineError}

theorem flush_of_bytewise (hm : m.Bytewise view r) (t : TlsStage ε) :
    ∃ out u, t.flush m = (.ok out, u) ∧ u.state = t.state ∧ view u.engine = view t.engine ∧
      Writes out := by
  obtain ⟨out, e', houtput, hview⟩ := hm.takeOutput m.limit t.engine
  have hflush : t.flush m = (.ok (if out.isEmpty then [] else [.outbound (.write out)]),
      { t with engine := e' }) := by
    rw [flush, houtput]
  exact ⟨_, _, hflush, rfl, hview, writes_of_flush (congrArg Prod.fst hflush)⟩

theorem ingest_step (hm : m.Bytewise view r) (fuel : Nat) (plain : Bytes) (hcipher : cipher ≠ [])
    (hopen : r.closed (view t.engine) = false) : ∃ n, 0 < n ∧ n ≤ cipher.length ∧
      match (r.intake (cipher.take n) (view t.engine)).error with
      | some err => ∃ u : TlsStage ε,
          t.ingest m (fuel + 1) cipher plain = (.error (.handshake err), u) ∧
          u.state = t.state
      | none => ∃ u : TlsStage ε, t.ingest m (fuel + 1) cipher plain =
          u.ingest m fuel (cipher.drop n) (plain ++ (r.intake (cipher.take n) (view t.engine)).plain) ∧
          u.state = t.state ∧
          view u.engine = (r.intake (cipher.take n) (view t.engine)).state := by
  obtain ⟨n, e₁, hpos, hn, hread, hworks⟩ := hm.takes t.engine cipher hopen hcipher
  refine ⟨n, hpos, hn, ?_⟩
  obtain ⟨n, rfl⟩ := Nat.exists_eq_succ_of_ne_zero (Nat.ne_of_gt hpos)
  have hempty : cipher.isEmpty = false := by simpa using hcipher
  -- the loop does one round on the part that the engine took
  unfold EngineModel.Works at hworks
  split at hworks
  · rename_i err herr
    obtain ⟨e₂, hprocess⟩ := hworks
    refine ⟨{ t with engine := e₂ }, ?_, rfl⟩
    simp only [ingest, hempty, hread, hprocess]
    rfl
  · obtain ⟨e₂, pieces, e₃, hprocess, hout, hlimit, hpieces, hview⟩ := hworks
    have hplain := EngineModel.takePlain_of_handsOut hout hlimit
    rw [← hview] at hplain
    refine ⟨{ t with
      engine := e₃
      closeNotifyReceived := t.closeNotifyReceived || r.closed (view e₃) }, ?_, rfl, hview⟩
    simp only [ingest, hempty, hread, hprocess, hplain, hpieces]
    rfl

theorem ingest_of_bytewise (hm : m.Bytewise view r) (cipher plain : Bytes) (t : TlsStage ε)
    {fuel : Nat} (hfuel : cipher.length ≤ fuel) :
    match (r.intake cipher (view t.engine)).error with
    | some err => ∃ u : TlsStage ε, t.ingest m fuel cipher plain = (.error (.handshake err), u) ∧
        u.state = t.state
    | none => ∃ u : TlsStage ε, t.ingest m fuel cipher plain =
        (.ok (plain ++ (r.intake cipher (view t.engine)).plain), u) ∧ u.state = t.state ∧
        view u.engine = (r.intake cipher (view t.engine)).state := by
  induction fuel generalizing cipher plain t with
  | zero =>
    obtain rfl := List.length_eq_zero_iff.1 (Nat.le_zero.1 hfuel)
    exact ⟨t, by rw [ingest, Receiver.intake, List.append_nil], rfl, rfl⟩
  | succ fuel ih =>
    by_cases hcipher : cipher = []
    · subst hcipher
      exact ⟨t, by rw [ingest, Receiver.intake, List.append_nil]; rfl, rfl, rfl⟩
    cases hclosed : r.closed (view t.engine) with
    | true =>
      obtain ⟨e', hread, hview⟩ := hm.refuses t.engine cipher hclosed
      have hempty : cipher.isEmpty = false := by simpa using hcipher
      rw [Receiver.intake_closed hclosed]
      refine ⟨{ t with engine := e' }, ?_, rfl, hview⟩
      simp only [ingest, hempty, hread, List.append_nil]
      rfl
    | false =>
      -- the engine takes a first part of its own choice; the rest is shorter
      obtain ⟨n, hpos, hn, hstep⟩ := ingest_step hm fuel plain hcipher hclosed
      have hsplit : cipher = cipher.take n ++ cipher.drop n := (List.take_append_drop n cipher).symm
      cases herror : (r.intake (cipher.take n) (view t.engine)).error with
      | some err =>
        have hall := Receiver.intake_append_of_error herror (cipher.drop n)
        rw [List.take_append_drop] at hall
        rw [herror] at hstep
        rw [hall, herror]
        exact hstep
      | none =>
        have hall := Receiver.intake_append herror (cipher.drop n)
        rw [List.take_append_drop] at hall
        rw [herror] at hstep
        obtain ⟨u, hu, hstate, hview⟩ := hstep
        have hrest := ih (cipher.drop n)
          (plain ++ (r.intake (cipher.take n) (view t.engine)).plain) u
          (by rw [List.length_drop]; omega)
        rw [hview] at hrest
        rw [hu, hall]
        simp only
        split at hrest
        · obtain ⟨w, hw, hsame⟩ := hrest
          exact ⟨w, hw, hsame.trans hstate⟩
        · obtain ⟨w, hw, hsame, hview'⟩ := hrest
          exact ⟨w, by rw [hw, List.append_assoc], hsame.trans hstate, hview'⟩

def completes (r : Receiver κ) (v : κ) (t : TlsStage ε) : Bool :=
  t.isHandshaking && !r.handshaking v

theorem isHandshaking_of_completes {u : TlsStage ε} {v : κ}
    (h : u.state = if t.completes r v then .established else t.state) :
    u.isHandshaking = (t.isHandshaking && r.handshaking v) := by
  cases hcompletes : t.completes r v with
  | true =>
    rw [hcompletes, if_pos rfl] at h
    have hover : r.handshaking v = false := by simpa using (Bool.and_eq_true_iff.1 hcompletes).2
    rw [isHandshaking, h, hover, Bool.and_false]
  | false =>
    rw [hcompletes, if_neg Bool.false_ne_true] at h
    rw [isHandshaking_congr h]
    cases hh : t.isHandshaking with
    | false => rfl
    | true =>
      rw [completes, hh, Bool.true_and] at hcompletes
      have hunder : r.handshaking v = true := by simpa using hcompletes
      rw [hunder]
      rfl

theorem notice_afterRead (hm : m.Bytewise view r) (plain : Bytes) (had : Bool) (t : TlsStage ε) :
    (t.afterRead m plain had).1.engine = t.engine ∧
      (t.afterRead m plain had).1.state =
        (if t.completes r (view t.engine) then .established else t.state) ∧
      notice (t.afterRead m plain had).2 =
        ⟨plain, if t.completes r (view t.engine) then [.success] else [], []⟩ := by
  have hrest (b : Bool) : notice ((if plain.isEmpty then [] else [.inbound (.read plain)]) ++
      (if b then [.inbound (.event .closeNotifyReceived)] else [])) = ⟨plain, [], []⟩ := by
    cases plain with
    | nil => cases b <;> rfl
    | cons x plain => cases b <;> simp [notice, Signal.plain?, Signal.outcome?, Signal.failure?]
  have hwhole (s : Signal) (b : Bool) : notice ([s] ++ (if plain.isEmpty then [] else
      [.inbound (.read plain)]) ++ (if b then [.inbound (.event .closeNotifyReceived)] else [])) =
        ⟨(notice [s]).plain ++ plain, (notice [s]).outcomes ++ [], (notice [s]).failures ++ []⟩ := by
    rw [List.append_assoc, notice_append, hrest]
  unfold afterRead completes
  cases hh : t.isHandshaking with
  | false => exact ⟨rfl, rfl, hrest _⟩
  | true =>
    rw [← hm.handshaking]
    cases hengine : m.isHandshaking t.engine with
    | true => exact ⟨rfl, rfl, hwhole _ _⟩
    | false => exact ⟨rfl, rfl, hwhole _ _⟩

theorem onRead_accepted (hm : m.Bytewise view r) (hlive : t.state ≠ .failed)
    (h : (r.intake cipher (view t.engine)).error = none) :
    view (t.onRead m cipher).1.engine = (r.intake cipher (view t.engine)).state ∧
      (t.onRead m cipher).1.state =
        (if t.completes r (r.intake cipher (view t.engine)).state then .established else t.state) ∧
      notice (t.onRead m cipher).2 = ⟨(r.intake cipher (view t.engine)).plain,
        if t.completes r (r.intake cipher (view t.engine)).state then [.success] else [], []⟩ := by
  have hingest := ingest_of_bytewise hm cipher [] t (Nat.le_refl _)
  rw [h] at hingest
  obtain ⟨u, hu, hstate, hview⟩ := hingest
  -- the answer to the peer goes out before anything is told
  obtain ⟨out, w, hflush, hstate', hview', hwrites⟩ := flush_of_bytewise hm u
  have hread : t.onRead m cipher = ((w.afterRead m (r.intake cipher (view t.engine)).plain
      t.closeNotifyReceived).1, out ++ (w.afterRead m (r.intake cipher (view t.engine)).plain
      t.closeNotifyReceived).2) := by
    have hlive' : (t.state == .failed) = false := by simpa using hlive
    simp only [onRead, hlive', hu, hflush, List.nil_append]
    rfl
  obtain ⟨hengine, hafter, hnotice⟩ := notice_afterRead hm (r.intake cipher (view t.engine)).plain
    t.closeNotifyReceived w
  have hcompletes (v : κ) : w.completes r v = t.completes r v := by
    rw [completes, completes, isHandshaking_congr (hstate'.trans hstate)]
  rw [hcompletes, hview', hview] at hafter hnotice
  rw [hread, notice_of_writes hwrites]
  exact ⟨by rw [hengine, hview', hview], by rw [hafter, hstate', hstate], hnotice⟩

/-- A read of bytes that the engine rejects. What it had accepted of them is not told. -/
theorem onRead_rejected (hm : m.Bytewise view r) (hlive : t.state ≠ .failed)
    (h : (r.intake cipher (view t.engine)).error = some err) :
    (t.onRead m cipher).1.state = .failed ∧
      notice (t.onRead m cipher).2 = ⟨[],
        if t.isHandshaking then [.failure (.tls (.handshake err))] else [],
        [.tls (.handshake err)]⟩ := by
  have hingest := ingest_of_bytewise hm cipher [] t (Nat.le_refl _)
  rw [h] at hingest
  obtain ⟨u, hu, hstate⟩ := hingest
  have hread : t.onRead m cipher = u.fail m (.handshake err) := by
    have hlive' : (t.state == .failed) = false := by simpa using hlive
    simp only [onRead, hlive', hu]
    rfl
  obtain ⟨ws, hws, hout⟩ := u.fail_emitted m (.handshake err)
  rw [hread, hout, notice_of_writes hws, report, isHandshaking_congr hstate]
  refine ⟨rfl, ?_⟩
  cases t.isHandshaking <;> rfl

def reads (m : EngineModel ε) : List Bytes → TlsStage ε → Step ε
  | [], t => (t, [])
  | cipher :: pieces, t =>
    (((t.onRead m cipher).1.reads m pieces).1,
      (t.onRead m cipher).2 ++ ((t.onRead m cipher).1.reads m pieces).2)

theorem reads_append (m : EngineModel ε) (ps qs : List Bytes) (t : TlsStage ε) :
    t.reads m (ps ++ qs) = (((t.reads m ps).1.reads m qs).1,
      (t.reads m ps).2 ++ ((t.reads m ps).1.reads m qs).2) := by
  induction ps generalizing t with
  | nil => rfl
  | cons cipher ps ih =>
    rw [List.cons_append, reads, ih, reads, List.append_assoc]

theorem reads_of_failed (m : EngineModel ε) (h : t.state = .failed) (pieces : List Bytes) :
    t.reads m pieces = (t, []) := by
  induction pieces with
  | nil => rfl
  | cons cipher pieces ih =>
    have hread : t.onRead m cipher = (t, []) := by
      rw [onRead, h]
      rfl
    rw [reads, hread, ih]
    rfl

/-- Pieces that the engine accepts. The handshake is completed by the first of them that leaves the
engine with none under way. -/
theorem reads_accepted (hm : m.Bytewise view r) {pieces : List Bytes} (hlive : t.state ≠ .failed)
    (h : (r.intake pieces.flatten (view t.engine)).error = none) :
    let x := r.intake pieces.flatten (view t.engine)
    view (t.reads m pieces).1.engine = x.state ∧ (t.reads m pieces).1.state ≠ .failed ∧
      (t.reads m pieces).1.isHandshaking =
        (t.isHandshaking && !(!pieces.isEmpty && t.completes r x.state)) ∧
      notice (t.reads m pieces).2 =
        ⟨x.plain, if !pieces.isEmpty && t.completes r x.state then [.success] else [], []⟩ := by
  induction pieces generalizing t with
  | nil => exact ⟨rfl, hlive, by simp [reads], rfl⟩
  | cons cipher pieces ih =>
    intro x
    have hfirst : (r.intake cipher (view t.engine)).error = none := by
      cases herror : (r.intake cipher (view t.engine)).error with
      | none => rfl
      | some err =>
        rw [List.flatten_cons, Receiver.intake_append_of_error herror, herror] at h
        cases h
    have hall : x = _ := Receiver.intake_append hfirst pieces.flatten
    obtain ⟨hview, hstate, hnotice⟩ := onRead_accepted hm hlive hfirst
    rw [List.flatten_cons, Receiver.intake_append hfirst, ← hview] at h
    have hlive' : (t.onRead m cipher).1.state ≠ .failed := by
      rw [hstate]
      split
      · nofun
      · exact hlive
    obtain ⟨hview', hlast, hhandshaking, hnotice'⟩ := ih hlive' h
    rw [hview] at hview' hhandshaking hnotice'
    -- whether the handshake is over after the first piece, and after all of them
    have hdone : r.handshaking (r.intake cipher (view t.engine)).state = false →
        r.handshaking x.state = false := by
      intro hfalse
      rw [hall]
      exact Receiver.intake_done hfalse pieces.flatten
    have hsingle : pieces = [] → x.state = (r.intake cipher (view t.engine)).state := by
      rintro rfl
      rw [hall]
      rfl
    have hbetween : (t.onRead m cipher).1.isHandshaking =
        (t.isHandshaking && r.handshaking (r.intake cipher (view t.engine)).state) :=
      isHandshaking_of_completes hstate
    have hstate' : x.state = (r.intake pieces.flatten
        (r.intake cipher (view t.engine)).state).state := by rw [hall]
    rw [← hstate'] at hview' hhandshaking hnotice'
    refine ⟨by rw [reads, hview'], hlast, ?_, ?_⟩
    · rw [reads, hhandshaking, completes, completes, hbetween]
      cases t.isHandshaking with
      | false => rfl
      | true =>
        cases hh : r.handshaking (r.intake cipher (view t.engine)).state with
        | false => simp [hdone hh]
        | true =>
          cases pieces with
          | nil => simp [hsingle rfl, hh]
          | cons y pieces => rfl
    · rw [reads, notice_append, hnotice, hnotice', completes, completes, completes, hbetween]
      have hplain : x.plain = (r.intake cipher (view t.engine)).plain ++
          (r.intake pieces.flatten (r.intake cipher (view t.engine)).state).plain := by rw [hall]
      rw [hplain]
      cases t.isHandshaking with
      | false => simp
      | true =>
        cases hh : r.handshaking (r.intake cipher (view t.engine)).state with
        | false => simp [hdone hh]
        | true =>
          cases pieces with
          | nil => simp [hsingle rfl, hh]
          | cons y pieces => simp

/-- Pieces of which the engine rejects one. What the others before it bring is told, and then the
failure; the outcome of a handshake is a failure unless one of those others completed it. -/
theorem reads_rejected (hm : m.Bytewise view r) {pieces : List Bytes} (hlive : t.state ≠ .failed)
    (h : (r.intake pieces.flatten (view t.engine)).error = some err) :
    ∃ ps y qs, pieces = ps ++ y :: qs ∧ (r.intake ps.flatten (view t.engine)).error = none ∧
      (r.intake (ps.flatten ++ y) (view t.engine)).error = some err ∧
      notice (t.reads m pieces).2 = ⟨(r.intake ps.flatten (view t.engine)).plain,
        if !t.isHandshaking then []
        else if !ps.isEmpty && !r.handshaking (r.intake ps.flatten (view t.engine)).state then
          [.success]
        else [.failure (.tls (.handshake err))], [.tls (.handshake err)]⟩ := by
  obtain ⟨ps, y, qs, rfl, hps, hy⟩ := Receiver.exists_failing h
  refine ⟨ps, y, qs, rfl, hps, hy, ?_⟩
  obtain ⟨hview, hlive', hhandshaking, hnotice⟩ := reads_accepted hm hlive hps
  rw [Receiver.intake_append hps, ← hview] at hy
  obtain ⟨hfailed, hnotice'⟩ := onRead_rejected hm hlive' hy
  rw [reads_append, reads, reads_of_failed m hfailed, List.append_nil, notice_append, hnotice,
    hnotice', hhandshaking, completes, List.append_nil]
  cases t.isHandshaking with
  | false => simp
  | true =>
    cases hover : (!ps.isEmpty && !r.handshaking (r.intake ps.flatten (view t.engine)).state) <;>
      simp [hover]

/-- Nothing is lost where the piece that the engine rejects had brought nothing. -/
theorem reads_tidy (hm : m.Bytewise view r) {pieces : List Bytes} (hlive : t.state ≠ .failed)
    (htidy : r.Tidy (view t.engine) pieces)
    (h : (r.intake pieces.flatten (view t.engine)).error = some err) :
    notice (t.reads m pieces).2 = ⟨(r.intake pieces.flatten (view t.engine)).plain,
      if !t.isHandshaking then []
      else if r.handshaking (r.intake pieces.flatten (view t.engine)).state then
        [.failure (.tls (.handshake err))]
      else [.success], [.tls (.handshake err)]⟩ := by
  obtain ⟨ps, y, qs, hcut, hps, hy, hnotice⟩ := reads_rejected hm hlive h
  obtain ⟨hplain, hover⟩ := htidy ps y qs hcut hps (by rw [hy]; nofun)
  rw [hnotice, hplain]
  cases hstate : r.handshaking (r.intake pieces.flatten (view t.engine)).state with
  | true =>
    -- the handshake was not over with the pieces before either
    have hunder : r.handshaking (r.intake ps.flatten (view t.engine)).state = true := by
      cases hdone : r.handshaking (r.intake ps.flatten (view t.engine)).state with
      | true => rfl
      | false =>
        have hlater := Receiver.intake_done hdone (y :: qs).flatten
        rw [hcut, List.flatten_append, Receiver.intake_append hps, hlater] at hstate
        cases hstate
    rw [hunder, Bool.not_true, Bool.and_false]
    rfl
  | false =>
    obtain ⟨hne, hdone⟩ := hover hstate
    have hsome : ps.isEmpty = false := by simpa using hne
    rw [hdone, hsome]
    rfl

theorem isEmpty_flatten {pieces : List Bytes} (h : [] ∉ pieces) :
    pieces.flatten.isEmpty = pieces.isEmpty := by
  cases pieces with
  | nil => rfl
  | cons y pieces =>
    cases y with
    | nil => exact absurd List.mem_cons_self h
    | cons b y => rfl

theorem failures_of_bytewise (hm : m.Bytewise view r) (hlive : t.state ≠ .failed)
    (pieces : List Bytes) : (notice (t.reads m pieces).2).failures =
      (r.intake pieces.flatten (view t.engine)).error.toList.map fun err =>
        .tls (.handshake err) := by
  cases herror : (r.intake pieces.flatten (view t.engine)).error with
  | none =>
    obtain ⟨-, -, -, hnotice⟩ := reads_accepted hm hlive herror
    rw [hnotice]
    rfl
  | some err =>
    obtain ⟨ps, y, qs, -, -, -, hnotice⟩ := reads_rejected hm hlive herror
    rw [hnotice]
    rfl

theorem plain_prefix (hm : m.Bytewise view r) (hlive : t.state ≠ .failed) (pieces : List Bytes) :
    (notice (t.reads m pieces).2).plain <+: (r.intake pieces.flatten (view t.engine)).plain := by
  cases herror : (r.intake pieces.flatten (view t.engine)).error with
  | none =>
    obtain ⟨-, -, -, hnotice⟩ := reads_accepted hm hlive herror
    simp only [hnotice, List.prefix_refl]
  | some err =>
    obtain ⟨ps, y, qs, rfl, hps, -, hnotice⟩ := reads_rejected hm hlive herror
    rw [hnotice, List.flatten_append, Receiver.intake_append hps]
    exact List.prefix_append _ _

/-- How the ciphertext is cut is of little account. Over an engine to which only the bytes matter, two
ways to cut the same bytes into reads bring the same failure, if any; and where the engine accepts
all of them, or made nothing of the piece that it rejects before it did, the same plaintext and the
same outcomes of a handshake. In any case the plaintext is a first part of what the engine accepts. -/
theorem segments_agree (hm : m.Bytewise view r) (t : TlsStage ε) {ps qs : List Bytes}
    (hps : [] ∉ ps) (hqs : [] ∉ qs) (hsame : ps.flatten = qs.flatten) :
    let x := r.intake ps.flatten (view t.engine)
    (notice (t.reads m ps).2).failures = (notice (t.reads m qs).2).failures ∧
      (t.state ≠ .failed →
        (notice (t.reads m ps).2).failures = x.error.toList.map fun err => .tls (.handshake err)) ∧
      (x.error = none ∨ r.Tidy (view t.engine) ps ∧ r.Tidy (view t.engine) qs →
        notice (t.reads m ps).2 = notice (t.reads m qs).2) ∧
      (notice (t.reads m ps).2).plain <+: x.plain := by
  intro x
  by_cases hfailed : t.state = .failed
  · rw [reads_of_failed m hfailed, reads_of_failed m hfailed]
    exact ⟨rfl, fun hlive => absurd hfailed hlive, fun _ => rfl, List.nil_prefix⟩
  have hx : x = r.intake qs.flatten (view t.engine) := by rw [← hsame]
  refine ⟨?_, fun hlive => failures_of_bytewise hm hlive ps, ?_, plain_prefix hm hfailed ps⟩
  · rw [failures_of_bytewise hm hfailed ps, failures_of_bytewise hm hfailed qs, hsame]
  · intro hgood
    cases herror : x.error with
    | none =>
      obtain ⟨-, -, -, hnotice₁⟩ := reads_accepted hm hfailed herror
      rw [hx] at herror
      obtain ⟨-, -, -, hnotice₂⟩ := reads_accepted hm hfailed herror
      rw [hnotice₁, hnotice₂, ← isEmpty_flatten hps, ← isEmpty_flatten hqs, hsame]
    -- in neither cut anything is lost with the piece that the engine rejects
    | some err =>
      obtain ⟨htidy₁, htidy₂⟩ := hgood.resolve_left (by rw [herror]; nofun)
      have hnotice₁ := reads_tidy hm hfailed htidy₁ herror
      rw [hx] at herror
      rw [hnotice₁, reads_tidy hm hfailed htidy₂ herror, hsame]

end TlsStage

/-- An engine that hands back what it takes, one byte at a time, and rejects a zero. Its handshake is
over with the first byte. -/
structure EchoEngine where
  taken : Bytes
  plain : Bytes
  done : Bool

namespace EchoEngine

def model : EngineModel EchoEngine where
  readTls cipher e := (.ok (cipher.take 1).length, { e with taken := cipher.take 1 })
  process e :=
    if e.taken = [0] then (.error .decryptFailed, e) else (.ok (), ⟨[], e.plain ++ e.taken, true⟩)
  readPlain e := if e.plain.isEmpty then (.wouldBlock, e) else (.data e.plain, { e with plain := [] })
  writePlain _ e := (.ok (), e)
  wantsWrite _ := false
  writeTls e := (.ok [], e)
  isHandshaking e := !e.done
  sendCloseNotify e := e
  alpn _ := none
  version _ := none
  suite _ := none
  limit := 2

def view (e : EchoEngine) : Bytes × Bool := (e.plain, e.done)

def receiver : Receiver (Bytes × Bool) where
  absorb v b := if b = 0 then .error .decryptFailed else .ok (([], true), v.1 ++ [b])
  closed _ := false
  handshaking v := !v.2
  absorb_closed h := nomatch h
  absorb_done := by
    intro v b v' plain _ hb
    split at hb
    · cases hb
    · obtain ⟨rfl, -⟩ := Prod.mk.inj (Except.ok.inj hb)
      rfl

theorem bytewise : model.Bytewise view receiver where
  handshaking _ := rfl
  sends _ h := nomatch h
  refuses _ _ h := nomatch h
  takes := by
    intro e cipher _ hcipher
    obtain ⟨b, rest, rfl⟩ := List.exists_cons_of_ne_nil hcipher
    refine ⟨1, { e with taken := [b] }, Nat.one_pos, Nat.le_add_left 1 _, rfl, ?_⟩
    show model.Works view receiver (receiver.intake [b] (view e)) _
    by_cases hb : b = 0
    · subst hb
      exact ⟨_, rfl⟩
    · have habsorb : receiver.absorb (view e) b = .ok (([], true), e.plain ++ [b]) := if_neg hb
      rw [Receiver.intake_cons_ok habsorb]
      refine ⟨⟨[], e.plain ++ [b], true⟩, [e.plain ++ [b]], ⟨[], [], true⟩, ?_, ?_, ?_, ?_, rfl⟩
      · exact if_neg (by simpa using hb)
      · exact ⟨⟨[], [], true⟩, if_neg (by simp), rfl⟩
      · exact Nat.one_lt_two
      · rfl

def begun : TlsStage EchoEngine := ⟨⟨[], [], false⟩, .handshaking none, .none, false⟩

end EchoEngine

namespace TlsStage

open EchoEngine in
theorem segments_agree_of_echo :
    notice (begun.reads model [[1, 2], [3]]).2 = notice (begun.reads model [[1], [2, 3]]).2 ∧
      notice (begun.reads model [[1, 2], [3]]).2 = ⟨[1, 2, 3], [.success], []⟩ :=
  ⟨(segments_agree bytewise begun (by decide) (by decide) rfl).2.2.1 (.inl (by decide)), by decide⟩

open EchoEngine in
/-- What the engine accepted of a piece is lost when it rejects the rest: the plaintext, and that the
handshake was over. -/
theorem segments_differ :
    model.Bytewise view receiver ∧ [[1], [0]].flatten = [[1, 0]].flatten ∧
      notice (begun.reads model [[1], [0]]).2 =
        ⟨[1], [.success], [.tls (.handshake .decryptFailed)]⟩ ∧
      notice (begun.reads model [[1, 0]]).2 =
        ⟨[], [.failure (.tls (.handshake .decryptFailed))], [.tls (.handshake .decryptFailed)]⟩ ∧
      notice (begun.reads model [[1], [0]]).2 ≠ notice (begun.reads model [[1, 0]]).2 :=
  ⟨bytewise, rfl, by decide, by decide, by decide⟩

end TlsStage
end SecureGateway

import SecureGateway.Proofs.Connection.Conservation

namespace SecureGateway

inductive Move where
  | write (data : Bytes)
  | read
  | close
  /-- The caller drops its operation; to drop a close or an opening is to drop the connection. -/
  | drop
  | socket (ev : SocketEvent)
  /-- The socket takes all that is in hand, and the flush of it is not over. -/
  | swallow
  | flushed

namespace Connection

variable {η ξ ω : Type}

def taken (m : Move) (c : Connection η ξ ω) : Bytes :=
  match m, c.job with
  | .socket (.sent n), .sending _ (chunk :: _) => chunk.take n
  | .swallow, .sending _ unsent => unsent.flatten
  | _, _ => []

/-- The bytes in hand for the socket that a move does not give up. -/
def kept (m : Move) (c : Connection η ξ ω) : Bytes :=
  match m, c.job with
  | .drop, _ => []
  | .socket (.failed _), _ => []
  | .socket .expired, .sending errand unsent => if errand.stretch = .open then unsent.flatten else []
  | _, job => job.held

def hearsEnd (m : Move) (c : Connection η ξ ω) : Bool :=
  match m, c.job with
  | .socket (.received data), .awaitingActive => c.readPending && data.isEmpty
  | .socket (.received data), .receiving _ => data.isEmpty
  | _, _ => false

def given (m : Move) (c : Connection η ξ ω) : Option Bytes :=
  match m, c.job with
  | .socket (.received data), .awaitingActive => if c.readPending then some data else none
  | .socket (.received data), .receiving _ => some data
  | _, _ => none

/-- The data of a move that gets past the check for a failure. -/
def accepted (m : Move) (c : Connection η ξ ω) : List Bytes :=
  match m, c.job with
  | .write data, .idle => if c.checkFailed.2.isOk then [data] else []
  | _, _ => []

/-- What the caller's current operation is, or the one that a move starts. -/
def errand? (m : Move) (c : Connection η ξ ω) : Option Errand :=
  match m, c.job with
  | .write _, .idle => some .writing
  | .read, .idle => some .reading
  | .close, .idle => some .closing
  | _, .sending errand _ | _, .receiving errand => some errand
  | _, .awaitingActive => some .opening
  | _, _ => none

def stretch (m : Move) (c : Connection η ξ ω) : Errand.Stretch :=
  match m, c.job with
  | .close, .idle => .closing
  | .drop, job => if job.stretch = .open then .open else .ended
  | _, job => job.stretch

variable [Recorder ω] [Secured η]

def respondHistory (k : StageKit η ξ ω) (now : Instant) (ev : SocketEvent)
    (c : Connection η ξ ω) : List (Happening (Occupant η ξ) (Env ω)) :=
  match ev, c.job with
  | .sent n, .sending errand (chunk :: rest) => c.sendRestHistory k now errand (chunk.drop n :: rest)
  | .received data, .awaitingActive =>
    if c.readPending then c.acceptHistory k now data .opening else []
  | .received data, .receiving errand => c.acceptHistory k now data errand
  | .failed _, .sending errand _ => c.errorHistory k now errand
  | .failed _, .receiving errand => { c with readPending := false }.errorHistory k now errand
  | .ticked, .awaitingActive => c.tickHistory k now
  | .expired, .sending .closing _ => { c with deadline := none }.closingHistory k now
  | _, _ => []

def move (k : StageKit η ξ ω) (now : Instant) (m : Move) (c : Connection η ξ ω) :
    Option (Advance η ξ ω) :=
  match m, c.job with
  | .write data, .idle => c.write k now data
  | .read, .idle => c.read k now
  | .close, .idle => c.close k now
  | .drop, job =>
    if job.stretch = .open then some (c.abandon, none) else some ({ c with job := .ended }, none)
  | .socket ev, _ => c.respond k now ev
  | .swallow, .sending errand _ => some (c.wait (.sending errand []))
  | .flushed, .sending errand [] => c.afterFlush k now errand
  | _, _ => some (c, none)

def moveHistory (k : StageKit η ξ ω) (now : Instant) (m : Move) (c : Connection η ξ ω) :
    List (Happening (Occupant η ξ) (Env ω)) :=
  match m, c.job with
  | .write data, .idle =>
    match c.checkFailed with
    | (_, .error _) => []
    | (c, .ok ()) => c.submittedHistory k now (.write data) .writing
  | .read, .idle => c.readingHistory k now
  | .close, .idle => c.submittedHistory k now .close .closing
  | .socket ev, _ => c.respondHistory k now ev
  | .flushed, .sending errand [] => c.afterFlushHistory k now errand
  | _, _ => []

variable {k : StageKit η ξ ω} {now : Instant} {c : Connection η ξ ω} {a : Advance η ξ ω}

/-- A move is accounted for: what happens in the pipeline, what the operation looks at, and what the
socket takes. Bytes in hand are gone where an operation is cut short. -/
def Accounts (k : StageKit η ξ ω) (now : Instant) (m : Move) (c : Connection η ξ ω)
    (a : Advance η ξ ω) : Prop :=
  ∃ seen, Carries (c.moveHistory k now m) seen (c.taken m) (c.hearsEnd m) (c.kept m) c a.1.job.held
    a.1 ∧ Told seen a (c.stretch m)

/-- What a move comes to, by the errand of the caller, the stretch that it belongs to, and what was
looked at. -/
inductive Comes (c : Connection η ξ ω) :
    Option Errand → Errand.Stretch → List Inbound → Bool → Advance η ξ ω → Prop
  | stays {errand? : Option Errand} : Comes c errand? c.job.stretch [] false (c, none)
  | dropped {errand? : Option Errand} {c' : Connection η ξ ω} : c.Alike c' →
    c'.job = .idle ∨ c'.job = .ended → Comes c errand? c'.job.stretch [] false (c', none)
  | halts {errand : Errand} {seen : List Inbound} {requested : Bool} {a : Advance η ξ ω} :
    Halts errand seen requested a → Comes c (some errand) errand.stretch seen requested a

/-- All that a move does, from what the socket has left in hand to where the operation comes to
rest. -/
def Moved (k : StageKit η ξ ω) (now : Instant) (m : Move) (c : Connection η ξ ω)
    (a : Advance η ξ ω) : Prop :=
  ∃ rest seen requested, c.kept m = c.taken m ++ rest ∧
    Leads k now rest c ⟨c.moveHistory k now m, seen, c.accepted m, c.given m, requested⟩
      a.1.job.held a.1 ∧
    Comes c (c.errand? m) (c.stretch m) seen requested a

omit [Secured η] in
theorem unmoved {job : Job} {errand? : Option Errand} (hjob : c.job = job)
    (h : some (c, none) = some a) : ∃ rest seen requested, job.held = [] ++ rest ∧
      Leads k now rest c ⟨[], seen, [], none, requested⟩ a.1.job.held a.1 ∧
      Comes c errand? job.stretch seen requested a := by
  obtain rfl := Option.some.inj h
  obtain rfl := hjob
  exact ⟨_, [], false, rfl, .done (.refl _), .stays⟩

omit [Secured η] in
theorem Runs.moved {errand : Errand} {held : Bytes} {l : List (Happening (Occupant η ξ) (Env ω))}
    (h : Runs k now errand held c l a) : ∃ rest seen requested, held = [] ++ rest ∧
      Leads k now rest c ⟨l, seen, [], none, requested⟩ a.1.job.held a.1 ∧
      Comes c (some errand) errand.stretch seen requested a := by
  obtain ⟨seen, requested, hleads, hhalts⟩ := h
  exact ⟨held, seen, requested, rfl, hleads, .halts hhalts⟩

omit [Secured η] in
theorem Runs.forgetful {errand : Errand} {held : Bytes} {c₁ : Connection η ξ ω}
    {l : List (Happening (Occupant η ξ) (Env ω))} (h : Runs k now errand held c₁ l a)
    (halike : { c with readPending := false }.Alike c₁) : Runs k now errand held c l a := by
  obtain ⟨seen, requested, hleads, hhalts⟩ := h
  exact ⟨seen, requested, .forget (.alike hleads halike), hhalts⟩

theorem sent_moved {n : Nat} (h : c.sent k now n = some a) : Moved k now (.socket (.sent n)) c a := by
  unfold Moved moveHistory respondHistory taken kept accepted given errand? Connection.stretch
  cases hjob : c.job with
  | sending errand unsent =>
    simp only [sent, hjob] at h
    cases unsent with
    | nil => exact unmoved hjob h
    | cons chunk rest =>
      obtain ⟨seen, requested, hleads, hhalts⟩ := sendRest_runs h
      refine ⟨_, seen, requested, ?_, hleads, .halts hhalts⟩
      show chunk ++ rest.flatten = chunk.take n ++ (chunk.drop n ++ rest.flatten)
      rw [← List.append_assoc, List.take_append_drop]
  | _ =>
    simp only [sent, hjob] at h
    exact unmoved hjob h

theorem accepted_moved {data : Bytes} {errand : Errand}
    (h : ((c.accept k now data).bind fun c => c.flush k now errand) = some a) :
    ∃ rest seen requested, [] = [] ++ rest ∧
      Leads k now rest c ⟨c.acceptHistory k now data errand, seen, [], some data, requested⟩
        a.1.job.held a.1 ∧
      Comes c (some errand) errand.stretch seen requested a := by
  obtain ⟨c₁, haccept, hflush⟩ := Option.bind_eq_some_iff.1 h
  obtain ⟨seen, requested, hleads, hhalts⟩ := flush_runs hflush
  rw [acceptHistory, haccept]
  exact ⟨[], seen, requested, rfl, .accept haccept hleads, .halts hhalts⟩

theorem received_moved {data : Bytes} (h : c.received k now data = some a) :
    Moved k now (.socket (.received data)) c a := by
  unfold Moved moveHistory respondHistory taken kept accepted given errand? Connection.stretch
  cases hjob : c.job with
  | awaitingActive =>
    simp only [received, hjob] at h
    cases hread : c.readPending with
    | true => exact accepted_moved ((if_pos hread).symm.trans h)
    | false => exact unmoved hjob ((if_neg (by simp [hread])).symm.trans h)
  | receiving errand =>
    simp only [received, hjob] at h
    exact accepted_moved h
  | _ =>
    simp only [received, hjob] at h
    exact unmoved hjob h

theorem failed_moved {e : IoError} (h : c.socketFailed k now e = some a) :
    Moved k now (.socket (.failed e)) c a := by
  unfold Moved moveHistory respondHistory taken kept accepted given errand? Connection.stretch
  cases hjob : c.job with
  | sending errand unsent =>
    simp only [socketFailed, hjob] at h
    exact (onSocketError_runs h).moved
  | awaitingActive =>
    simp only [socketFailed, hjob] at h
    exact ((onSocketError_runs h).forgetful (alike_wait _ _)).moved
  | receiving errand =>
    simp only [socketFailed, hjob] at h
    exact ((onSocketError_runs h).forgetful (alike_wait _ _)).moved
  | _ =>
    simp only [socketFailed, hjob] at h
    exact unmoved hjob h

theorem ticked_moved (h : c.tick k now = some a) : Moved k now (.socket .ticked) c a := by
  unfold Moved moveHistory respondHistory taken kept accepted given errand? Connection.stretch
  cases hjob : c.job with
  | awaitingActive =>
    simp only [tick, hjob] at h
    obtain ⟨c₁, hfire, hflush⟩ := Option.bind_eq_some_iff.1 h
    obtain ⟨⟨q, e⟩, hq, rfl⟩ := Option.map_eq_some_iff.1 hfire
    have hall : c.pipeline.fireAll k.behaviour now [.tick now] c.env = some (q, e) := by
      simp only [Pipeline.fireAll, hq, Option.bind_some]
    obtain ⟨seen, requested, hleads, hhalts⟩ := flush_runs hflush
    simp only [tickHistory, hfire]
    exact ⟨[], seen, requested, rfl, .fire hall (.alike hleads ⟨rfl, rfl, rfl, rfl, rfl⟩),
      .halts hhalts⟩
  | _ =>
    simp only [tick, hjob] at h
    exact unmoved hjob h

theorem expired_moved (h : c.expire k now = some a) : Moved k now (.socket .expired) c a := by
  -- nothing goes through the pipeline where the wait is over
  have hover : ∀ {errand : Errand} {a' : Advance η ξ ω}, Halts errand [] false a' → c.Alike a'.1 →
      a'.1.job.held = [] → some a' = some a → Runs k now errand [] c [] a := by
    intro errand a' hhalts halike hheld h
    obtain rfl := Option.some.inj h
    exact ⟨[], false, by rw [hheld]; exact .done halike, hhalts⟩
  unfold Moved moveHistory respondHistory taken kept accepted given errand? Connection.stretch
  cases hjob : c.job with
  | sending errand unsent =>
    cases errand with
    | opening =>
      simp only [expire, hjob] at h
      exact (hover .unopened (c.alike_finish _) rfl h).moved
    | closing =>
      simp only [expire, hjob] at h
      obtain ⟨seen, requested, hleads, hhalts⟩ := continueClosing_runs h
      exact ⟨[], seen, requested, rfl, .alike hleads ⟨rfl, rfl, rfl, rfl, rfl⟩, .halts hhalts⟩
    | draining =>
      simp only [expire, hjob] at h
      exact (hover (.closed rfl) c.alike_finishClosing rfl h).moved
    | _ =>
      simp only [expire, hjob] at h
      exact unmoved hjob h
  | awaitingActive =>
    simp only [expire, hjob] at h
    exact (hover .unopened (c.alike_finish _) rfl h).moved
  | receiving errand =>
    cases errand with
    | opening =>
      simp only [expire, hjob] at h
      exact (hover .unopened (c.alike_finish _) rfl h).moved
    | draining =>
      simp only [expire, hjob] at h
      exact (hover (.closed rfl) c.alike_finishClosing rfl h).moved
    | _ =>
      simp only [expire, hjob] at h
      exact unmoved hjob h
  | _ =>
    simp only [expire, hjob] at h
    exact unmoved hjob h

theorem submitted_leads {op : Outbound} {errand : Errand} {c₁ : Connection η ξ ω}
    {deadline : Option Instant} (hsubmit : c.submit k now op = some c₁)
    (hflush : { c₁ with deadline }.flush k now errand = some a) :
    ∃ seen requested, Leads k now [] c ⟨c.submittedHistory k now op errand, seen,
        (Signal.outbound op).written, none, requested⟩ a.1.job.held a.1 ∧
      Halts errand seen requested a := by
  obtain ⟨seen, requested, hleads, hhalts⟩ := flush_runs hflush
  have h := Leads.submit hsubmit (.alike hleads (c₁.alike_deadline deadline))
  rw [List.append_nil] at h
  rw [submittedHistory, hsubmit]
  exact ⟨seen, requested, h, hhalts⟩

theorem write_moved {data : Bytes} (hjob : c.job = .idle) (h : c.write k now data = some a) :
    Moved k now (.write data) c a := by
  unfold Moved moveHistory taken kept accepted given errand? Connection.stretch
  simp only [hjob]
  simp only [write, checkFailed] at h
  cases hfailure : c.collect.failure? with
  | some cause =>
    simp only [hfailure] at h
    obtain rfl := Option.some.inj h
    simp only [checkFailed, hfailure]
    exact ⟨[], [], false, rfl, .collect (.done (alike_settle _ _)),
      .halts (.refused hfailure)⟩
  | none =>
    simp only [hfailure] at h
    obtain ⟨c₁, hsubmit, hflush⟩ := Option.bind_eq_some_iff.1 h
    obtain ⟨seen, requested, hleads, hhalts⟩ := submitted_leads hsubmit hflush
    simp only [checkFailed, hfailure]
    exact ⟨[], seen, requested, rfl, .collect hleads, .halts hhalts⟩

theorem close_moved (hjob : c.job = .idle) (h : c.close k now = some a) :
    Moved k now .close c a := by
  unfold Moved moveHistory taken kept accepted given errand? Connection.stretch
  simp only [hjob]
  obtain ⟨c₁, hsubmit, hflush⟩ := Option.bind_eq_some_iff.1 h
  obtain ⟨seen, requested, hleads, hhalts⟩ := submitted_leads hsubmit hflush
  exact ⟨[], seen, requested, rfl, hleads, .halts hhalts⟩

theorem drop_moved (h : c.move k now .drop = some a) : Moved k now .drop c a := by
  simp only [move] at h
  unfold Moved moveHistory taken kept accepted given Connection.stretch
  simp only
  split at h
  · rename_i hopen
    obtain rfl := Option.some.inj h
    rw [if_pos hopen]
    exact ⟨[], [], false, rfl, .done c.alike_abandon, .dropped c.alike_abandon (.inl rfl)⟩
  · rename_i hopen
    obtain rfl := Option.some.inj h
    rw [if_neg hopen]
    have halike : c.Alike { c with job := .ended } := c.alike_wait .ended
    exact ⟨[], [], false, rfl, .done halike, .dropped halike (.inr rfl)⟩

theorem busy_moved {m : Move} (hidle : c.job ≠ .idle)
    (hm : (∃ data, m = .write data) ∨ m = .read ∨ m = .close) (h : c.move k now m = some a) :
    Moved k now m c a := by
  unfold Moved moveHistory taken kept accepted given errand? Connection.stretch
  unfold move at h
  cases hjob : c.job with
  | idle => exact absurd hjob hidle
  | _ =>
    rcases hm with ⟨data, rfl⟩ | rfl | rfl <;>
    · simp only [hjob] at h
      exact unmoved hjob h

theorem move_moved {m : Move} (h : c.move k now m = some a) : Moved k now m c a := by
  cases m with
  | socket ev =>
    cases ev with
    | sent n => exact sent_moved h
    | received data => exact received_moved h
    | failed e => exact failed_moved h
    | ticked => exact ticked_moved h
    | expired => exact expired_moved h
  | drop => exact drop_moved h
  | swallow =>
    unfold Moved moveHistory taken kept accepted given errand? Connection.stretch
    unfold move at h
    cases hjob : c.job with
    | sending errand unsent =>
      simp only [hjob] at h
      obtain rfl := Option.some.inj h
      exact ⟨[], [], false, (List.append_nil _).symm, .done (c.alike_wait _), .halts .sends⟩
    | _ =>
      simp only [hjob] at h
      exact unmoved hjob h
  | flushed =>
    unfold Moved moveHistory taken kept accepted given errand? Connection.stretch
    unfold move at h
    cases hjob : c.job with
    | sending errand unsent =>
      simp only [hjob] at h
      cases unsent with
      | nil => exact (afterFlush_runs h).moved
      | cons chunk rest => exact unmoved hjob h
    | _ =>
      simp only [hjob] at h
      exact unmoved hjob h
  | write data =>
    by_cases hidle : c.job = .idle
    · simp only [move, hidle] at h
      exact write_moved hidle h
    · exact busy_moved hidle (.inl ⟨data, rfl⟩) h
  | read =>
    by_cases hidle : c.job = .idle
    · simp only [move, hidle] at h
      unfold Moved moveHistory taken kept accepted given errand? Connection.stretch
      simp only [hidle]
      exact (continueReading_runs h).moved
    · exact busy_moved hidle (.inr (.inl rfl)) h
  | close =>
    by_cases hidle : c.job = .idle
    · simp only [move, hidle] at h
      exact close_moved hidle h
    · exact busy_moved hidle (.inr (.inr rfl)) h

omit [Recorder ω] [Secured η] in
theorem hearsEnd_eq (m : Move) (c : Connection η ξ ω) :
    c.hearsEnd m = (c.given m).any List.isEmpty := by
  unfold hearsEnd given
  split
  · cases c.readPending <;> rfl
  · rfl
  · rfl

omit [Recorder ω] [Secured η] in
theorem Comes.told {errand? : Option Errand} {stretch : Errand.Stretch} {seen : List Inbound}
    {requested : Bool} (h : Comes c errand? stretch seen requested a) : Told seen a stretch := by
  cases h with
  | stays => exact told_none rfl
  | dropped => exact told_none rfl
  | halts hhalts => exact hhalts.told

theorem move_accounts {m : Move} (hw : c.pipeline.WellFormed) (h : c.move k now m = some a) :
    Accounts k now m c a := by
  obtain ⟨rest, seen, requested, hkept, hleads, hcomes⟩ := move_moved h
  have hcarries := (hleads.carries hw).takes (c.taken m)
  rw [← hkept, ← hearsEnd_eq] at hcarries
  exact ⟨seen, hcarries, hcomes.told⟩

omit [Recorder ω] [Secured η] in
theorem stretch_of_open {m : Move} (hopen : c.job.stretch = .open) (hm : c.job = .idle → m ≠ .close) :
    c.stretch m = .open := by
  unfold Connection.stretch
  split
  · rename_i hidle
    exact absurd rfl (hm hidle)
  · rw [if_pos hopen]
  · exact hopen

omit [Recorder ω] [Secured η] in
theorem stretch_cases (m : Move) (c : Connection η ξ ω) :
    c.stretch m = c.job.stretch ∨ c.stretch m = .ended ∨
      (c.job.stretch = .open ∧ c.stretch m = .closing) := by
  unfold Connection.stretch
  split
  · rename_i hjob
    exact .inr (.inr ⟨by rw [hjob]; rfl, rfl⟩)
  · split
    · rename_i hopen
      exact .inl hopen.symm
    · exact .inr (.inl rfl)
  · exact .inl rfl

omit [Recorder ω] [Secured η] in
theorem opening_of_stretch {m : Move} (h : c.stretch m = .opening) : c.job.stretch = .opening := by
  rcases stretch_cases m c with hm | hm | ⟨-, hm⟩
  · exact hm.symm.trans h
  · cases hm.symm.trans h
  · cases hm.symm.trans h

omit [Recorder ω] [Secured η] in
theorem open_of_stretch {m : Move} (h : c.stretch m = .open) : c.job.stretch = .open := by
  rcases stretch_cases m c with hm | hm | ⟨hopen, -⟩
  · exact hm.symm.trans h
  · cases hm.symm.trans h
  · exact hopen

end Connection

/-- A connection from its opening on, what its operations came to, what happened in its pipeline and
what its socket did. -/
structure Talk (η ξ ω : Type) where
  connection : Connection η ξ ω
  results : List (Except ConnectError Outcome)
  history : List (Happening (Occupant η ξ) (Env ω))
  taken : Bytes
  heardEnd : Bool
  /-- Whether bytes in hand for the socket were given up. -/
  cut : Bool
  /-- Whether the socket took more bytes after that. -/
  gap : Bool

namespace Talk

variable {η ξ ω : Type} [Recorder ω] [Secured η]

omit [Recorder ω] [Secured η] in
def begin (history : List (Happening (Occupant η ξ) (Env ω))) (a : Advance η ξ ω) : Talk η ξ ω :=
  ⟨a.1, a.2.toList, history, [], false, false, false⟩

def after (k : StageKit η ξ ω) (now : Instant) (m : Move) (t : Talk η ξ ω) (a : Advance η ξ ω) :
    Talk η ξ ω where
  connection := a.1
  results := t.results ++ a.2.toList
  history := t.history ++ t.connection.moveHistory k now m
  taken := t.taken ++ t.connection.taken m
  heardEnd := t.heardEnd || t.connection.hearsEnd m
  cut := t.cut || t.connection.kept m != t.connection.job.held
  gap := t.gap || (t.cut && !(t.connection.taken m).isEmpty)

def play (k : StageKit η ξ ω) : List (Instant × Move) → Talk η ξ ω → Option (Talk η ξ ω)
  | [], t => some t
  | (now, m) :: moves, t => (t.connection.move k now m).bind fun a => (t.after k now m a).play k moves

theorem play_induction {k : StageKit η ξ ω} {P : Talk η ξ ω → Prop}
    (hstep : ∀ {t now m a}, P t → Connection.Accounts k now m t.connection a →
      P (t.after k now m a)) {moves : List (Instant × Move)} {t t' : Talk η ξ ω} (ht : P t)
    (hw : t.connection.pipeline.WellFormed) (h : t.play k moves = some t') : P t' := by
  induction moves generalizing t with
  | nil => exact Option.some.inj h ▸ ht
  | cons x moves ih =>
    obtain ⟨now, m⟩ := x
    obtain ⟨a, hmove, hrest⟩ := Option.bind_eq_some_iff.1 h
    have ha := Connection.move_accounts hw hmove
    have hw' : a.1.pipeline.WellFormed := by
      obtain ⟨seen, hcarries, -⟩ := ha
      exact hcarries.wellFormed
    exact ih (hstep ht ha) hw' hrest

end Talk

/-- A pipeline that nothing has gone through. -/
structure Pipeline.Fresh {σ : Type} (p : Pipeline σ) : Prop where
  wellFormed : p.WellFormed
  tail : p.tail = []
  transport : p.transport = []

namespace Pipeline.Fresh

variable {σ : Type} {p q : Pipeline σ}

theorem new (channel : Channel) : (Pipeline.new channel : Pipeline σ).Fresh where
  wellFormed := (Built.new channel : (Pipeline.new channel : Pipeline σ).Built Unit).wellFormed
  tail := rfl
  transport := rfl

theorem add {place : StagePlace} {name : StageName} {h : σ} (hp : p.Fresh)
    (hq : p.add place name h = .ok q) : q.Fresh := by
  have hinsert : ∀ i, p.insertAt i name h = .ok q → q.tail = p.tail ∧ q.transport = p.transport := by
    intro i hq
    unfold Pipeline.insertAt at hq
    split at hq
    · cases hq
    · obtain rfl := Except.ok.inj hq
      exact ⟨rfl, rfl⟩
  have hends : q.tail = p.tail ∧ q.transport = p.transport := by
    cases place with
    | first => exact hinsert _ hq
    | last => exact hinsert _ hq
    | after base =>
      simp only [Pipeline.add] at hq
      split at hq
      · exact hinsert _ hq
      · cases hq
    | before base =>
      simp only [Pipeline.add] at hq
      split at hq
      · exact hinsert _ hq
      · cases hq
  exact ⟨hp.wellFormed.add hq, hends.1.trans hp.tail, hends.2.trans hp.transport⟩

theorem addAll {entries : List (StagePlace × StageName × σ)} {e : Option PipelineError}
    (hp : p.Fresh) (hq : p.addAll entries = (q, e)) : q.Fresh := by
  induction entries generalizing p with
  | nil =>
    obtain ⟨rfl, -⟩ := Prod.mk.inj hq
    exact hp
  | cons entry entries ih =>
    obtain ⟨place, name, h⟩ := entry
    unfold Pipeline.addAll at hq
    split at hq
    · rename_i hadd
      exact ih (hp.add hadd) hq
    · obtain ⟨rfl, -⟩ := Prod.mk.inj hq
      exact hp

end Pipeline.Fresh

namespace Connection

variable {κ β η ξ ω : Type} [Recorder ω] [Secured η]

/-- Openings start in such a state. -/
theorem establish_eq_opened [Timed η] [TlsContext κ η] (k : StageKit η ξ ω) (now : Instant)
    {o : ConnectOptions κ β η} {id : Nat} {remote : RemoteAddress} (env : Env ω)
    {p : Pipeline (Occupant η ξ)} (hp : o.assemble ⟨id, some remote⟩ = .ok p) :
    establish k now o id remote env = (start now o remote p env).opened k now ∧ p.Fresh :=
  ⟨by rw [establish, hp], assemble_induction (.new _) (fun hp hq => hp.addAll hq) hp⟩

def converse (k : StageKit η ξ ω) (now : Instant) (moves : List (Instant × Move))
    (c : Connection η ξ ω) : Option (Talk η ξ ω) :=
  (c.opened k now).bind fun a =>
    (Talk.begin (c.pipeline.fireHistory k.behaviour now [.registered, .active] c.env) a).play k moves

/-- What holds of every opening and is preserved by every move holds of every talk. -/
theorem converse_induction {k : StageKit η ξ ω} {P : Talk η ξ ω → Prop}
    (hbegin : ∀ {l a seen}, arrivals l = seen ++ a.1.waiting →
      (departures l).flatten = a.1.job.held ++ a.1.pipeline.transport.flatten →
      a.1.endOfStream = false → Told seen a .opening → P (.begin l a))
    (hstep : ∀ {t now m a}, P t → Accounts k now m t.connection a → P (t.after k now m a))
    {now : Instant} {o : ConnectOptions κ β η} {remote : RemoteAddress}
    {p : Pipeline (Occupant η ξ)} {env : Env ω} {moves : List (Instant × Move)} {t : Talk η ξ ω}
    (hp : p.Fresh) (h : (start now o remote p env).converse k now moves = some t) : P t := by
  obtain ⟨a, hopened, hplay⟩ := Option.bind_eq_some_iff.1 h
  obtain ⟨seen, hcarries, htold⟩ :=
    opened_carries (c := start now o remote p env) hp.wellFormed hopened
  refine Talk.play_induction hstep (hbegin ?_ ?_ hcarries.endOfStream htold) hcarries.wellFormed hplay
  · rw [← hcarries.inbound]
    show _ = [] ++ p.tail ++ _
    rw [hp.tail]
    rfl
  · have hout := hcarries.outbound
    rw [List.nil_append, List.nil_append] at hout
    rw [← hout]
    show _ = p.transport.flatten ++ _
    rw [hp.transport]
    rfl

end Connection
end SecureGateway

import SecureGateway.Proofs.Connection.Activation

namespace SecureGateway

inductive Errand.Stretch where
  | opening
  | open
  | closing
  | ended
  deriving DecidableEq

def Errand.stretch : Errand → Errand.Stretch
  | .opening => .opening
  | .writing | .reading => .open
  | .closing | .draining => .closing

namespace Job

def stretch : Job → Errand.Stretch
  | .idle => .open
  | .sending errand _ | .receiving errand => errand.stretch
  | .awaitingActive => .opening
  | .ended => .ended

/-- The bytes that an operation has in hand for the socket. -/
def held : Job → Bytes
  | .sending _ unsent => unsent.flatten
  | _ => []

end Job

theorem ended_of_stretch {job : Job} (h : job.stretch = .ended) : job = .ended := by
  cases job with
  | ended => rfl
  | sending errand unsent => cases errand <;> cases h
  | receiving errand => cases errand <;> cases h
  | _ => cases h

def Signal.written : Signal → List Bytes
  | outbound (.write data) => [data]
  | _ => []

namespace Connection

variable {η ξ ω : Type}

/-- The signals that nobody looked at yet. -/
def waiting (c : Connection η ξ ω) : List Inbound := c.pending ++ c.pipeline.tail

section Histories

variable [Recorder ω]

def submitHistory (k : StageKit η ξ ω) (now : Instant) (op : Outbound) (c : Connection η ξ ω) :
    List (Happening (Occupant η ξ) (Env ω)) :=
  c.pipeline.history k.behaviour now
    (.outbound (idBefore c.pipeline.stages c.pipeline.stages.length) op) c.env

def readingHistory (k : StageKit η ξ ω) (now : Instant) (c : Connection η ξ ω) :
    List (Happening (Occupant η ξ) (Env ω)) :=
  match decideReading c.collect.pending with
  | some _ => []
  | none => if c.endOfStream then [] else c.collect.submitHistory k now .read

def drainingHistory (k : StageKit η ξ ω) (now : Instant) (c : Connection η ξ ω) :
    List (Happening (Occupant η ξ) (Env ω)) :=
  if decideDraining c.collect.pending || c.endOfStream then []
  else c.collect.submitHistory k now .read

variable [Secured η]

def closingHistory (k : StageKit η ξ ω) (now : Instant) (c : Connection η ξ ω) :
    List (Happening (Occupant η ξ) (Env ω)) :=
  let limit := (c.closeTiming.map (·.closeNotifyRead)).getD .zero
  if limit.isZero || c.closeNotifyReceived then [] else c.drainingHistory k now

def afterFlushHistory (k : StageKit η ξ ω) (now : Instant) (errand : Errand)
    (c : Connection η ξ ω) : List (Happening (Occupant η ξ) (Env ω)) :=
  match errand with
  | .opening | .writing => []
  | .reading => c.readingHistory k now
  | .closing => c.closingHistory k now
  | .draining => c.drainingHistory k now

def sendRestHistory (k : StageKit η ξ ω) (now : Instant) (errand : Errand) (unsent : List Bytes)
    (c : Connection η ξ ω) : List (Happening (Occupant η ξ) (Env ω)) :=
  match unsent.dropWhile List.isEmpty with
  | [] => c.afterFlushHistory k now errand
  | _ => []

def flushHistory (k : StageKit η ξ ω) (now : Instant) (errand : Errand) (c : Connection η ξ ω) :
    List (Happening (Occupant η ξ) (Env ω)) :=
  { c with pipeline := c.pipeline.takeOutbound.2 }.sendRestHistory k now errand
    c.pipeline.takeOutbound.1

def errorHistory (k : StageKit η ξ ω) (now : Instant) (errand : Errand) (c : Connection η ξ ω) :
    List (Happening (Occupant η ξ) (Env ω)) :=
  match errand with
  | .closing => if c.deadline.isSome then { c with deadline := none }.closingHistory k now else []
  | _ => []

def acceptHistory (k : StageKit η ξ ω) (now : Instant) (data : Bytes) (errand : Errand)
    (c : Connection η ξ ω) : List (Happening (Occupant η ξ) (Env ω)) :=
  c.pipeline.fireHistory k.behaviour now (incoming data) c.env ++
    match c.accept k now data with
    | some c => c.flushHistory k now errand
    | none => []

def tickHistory (k : StageKit η ξ ω) (now : Instant) (c : Connection η ξ ω) :
    List (Happening (Occupant η ξ) (Env ω)) :=
  c.pipeline.fireHistory k.behaviour now [.tick now] c.env ++
    match c.fire k now (.tick now) with
    | some c => { c with nextTick := now.after tickInterval }.flushHistory k now .opening
    | none => []

def submittedHistory (k : StageKit η ξ ω) (now : Instant) (op : Outbound) (errand : Errand)
    (c : Connection η ξ ω) : List (Happening (Occupant η ξ) (Env ω)) :=
  c.submitHistory k now op ++
    match c.submit k now op with
    | some c => c.flushHistory k now errand
    | none => []

end Histories

theorem decideReading_cons (s : Inbound) (xs : List Inbound) : decideReading (s :: xs) =
    match decideReading [s] with
    | some (r, _) => some (r, xs)
    | none => decideReading xs := by
  cases s with
  | event ev => cases ev <;> rfl
  | _ => rfl

theorem decideReading_eq_none_iff {xs : List Inbound} :
    decideReading xs = none ↔ ∀ s ∈ xs, decideReading [s] = none := by
  induction xs with
  | nil => simp [decideReading]
  | cons s xs ih =>
    rw [decideReading_cons, List.forall_mem_cons, ← ih]
    cases decideReading [s] <;> simp

/-- What settles a read is the last signal that it looks at. -/
theorem decideReading_split {xs rest : List Inbound} {r : Except ConnectError (Option Bytes)}
    (h : decideReading xs = some (r, rest)) :
    ∃ early s, xs = (early ++ [s]) ++ rest ∧ decideReading early = none ∧
      ∃ later, decideReading [s] = some (r, later) := by
  induction xs with
  | nil => cases h
  | cons s xs ih =>
    rw [decideReading_cons] at h
    cases hs : decideReading [s] with
    | some x =>
      rw [hs] at h
      obtain ⟨rfl, rfl⟩ := Prod.mk.inj (Option.some.inj h)
      exact ⟨[], s, rfl, rfl, x.2, hs⟩
    | none =>
      rw [hs] at h
      obtain ⟨early, s', rfl, hearly, hs'⟩ := ih h
      exact ⟨s :: early, s', rfl, by rw [decideReading_cons, hs]; exact hearly, hs'⟩

theorem decideReading_singleton {s : Inbound} {r : Except ConnectError (Option Bytes)}
    {later : List Inbound} (h : decideReading [s] = some (r, later)) :
    (∃ data, s = .read data ∧ r = .ok (some data)) ∨
      (∃ cause, s = .exception cause ∧ r = .error (.tls cause)) ∨
      ((s = .inactive ∨ s = .event .closeNotifyReceived) ∧ r = .ok none) := by
  have hr : ∀ {r'}, some (r', []) = some (r, later) → r = r' := fun heq =>
    (Prod.mk.inj (Option.some.inj heq)).1.symm
  cases s with
  | read data => exact .inl ⟨data, rfl, hr h⟩
  | exception cause => exact .inr (.inl ⟨cause, rfl, hr h⟩)
  | inactive => exact .inr (.inr ⟨.inl rfl, hr h⟩)
  | event ev =>
    cases ev with
    | closeNotifyReceived => exact .inr (.inr ⟨.inr rfl, hr h⟩)
    | handshakeCompleted out => cases h
  | _ => cases h

theorem flatten_dropWhile_isEmpty (unsent : List Bytes) :
    (unsent.dropWhile List.isEmpty).flatten = unsent.flatten := by
  induction unsent with
  | nil => rfl
  | cons chunk rest ih =>
    cases chunk with
    | nil => exact ih
    | cons b chunk => rfl

/-- The pipeline, its surroundings and the signals at hand are the same. -/
structure Alike (c c' : Connection η ξ ω) : Prop where
  pipeline : c'.pipeline = c.pipeline
  env : c'.env = c.env
  pending : c'.pending = c.pending
  readPending : c'.readPending = c.readPending
  endOfStream : c'.endOfStream = c.endOfStream

section Alikes

variable (c : Connection η ξ ω)

theorem Alike.refl : c.Alike c := ⟨rfl, rfl, rfl, rfl, rfl⟩

theorem alike_deadline (deadline : Option Instant) : c.Alike { c with deadline } :=
  ⟨rfl, rfl, rfl, rfl, rfl⟩

theorem alike_wait (job : Job) : c.Alike (c.wait job).1 := ⟨rfl, rfl, rfl, rfl, rfl⟩

theorem alike_settle (r : Except ConnectError Outcome) : c.Alike (c.settle r).1 :=
  ⟨rfl, rfl, rfl, rfl, rfl⟩

theorem alike_finish (r : Except ConnectError Outcome) : c.Alike (c.finish r).1 :=
  ⟨rfl, rfl, rfl, rfl, rfl⟩

theorem alike_failOpening (e : ConnectError) : c.Alike (c.failOpening e).1 :=
  ⟨rfl, rfl, rfl, rfl, rfl⟩

theorem alike_finishClosing : c.Alike c.finishClosing.1 := ⟨rfl, rfl, rfl, rfl, rfl⟩

theorem alike_abandon : c.Alike c.abandon := ⟨rfl, rfl, rfl, rfl, rfl⟩

end Alikes

/-- What goes on between a connection and its surroundings. -/
structure Dealings (η ξ ω : Type) where
  history : List (Happening (Occupant η ξ) (Env ω))
  seen : List Inbound
  writes : List Bytes
  /-- What the socket gives. -/
  given : Option Bytes
  /-- Whether the last of it is a request for a read. -/
  requested : Bool

variable [Recorder ω]

/-- From one point of a connection to a later one, with bytes in hand at either, one thing after the
other. The operations are made of these and of nothing else. -/
inductive Leads (k : StageKit η ξ ω) (now : Instant) :
    Bytes → Connection η ξ ω → Dealings η ξ ω → Bytes → Connection η ξ ω → Prop
  | done {held : Bytes} {c c' : Connection η ξ ω} : c.Alike c' →
    Leads k now held c ⟨[], [], [], none, false⟩ held c'
  | alike {held held' : Bytes} {c c₁ c' : Connection η ξ ω} {d : Dealings η ξ ω} :
    Leads k now held c₁ d held' c' → c.Alike c₁ → Leads k now held c d held' c'
  | forget {held held' : Bytes} {c c' : Connection η ξ ω} {d : Dealings η ξ ω} :
    Leads k now held { c with readPending := false } d held' c' → Leads k now held c d held' c'
  | collect {held held' : Bytes} {c c' : Connection η ξ ω} {d : Dealings η ξ ω} :
    Leads k now held c.collect d held' c' → Leads k now held c d held' c'
  | look {held held' : Bytes} {c c' : Connection η ξ ω}
    {l : List (Happening (Occupant η ξ) (Env ω))} {seen rest : List Inbound} {writes : List Bytes}
    {given : Option Bytes} {requested : Bool} : c.pending = seen ++ rest →
    Leads k now held { c with pending := rest } ⟨l, [], writes, given, requested⟩ held' c' →
    Leads k now held c ⟨l, seen, writes, given, requested⟩ held' c'
  | note {held held' : Bytes} {c c' : Connection η ξ ω} {d : Dealings η ξ ω} :
    Leads k now held c.noteReadRequest d held' c' → Leads k now held c d held' c'
  | take {held' : Bytes} {c c' : Connection η ξ ω} {d : Dealings η ξ ω} :
    Leads k now c.pipeline.transport.flatten { c with pipeline := c.pipeline.takeOutbound.2 } d held'
      c' →
    Leads k now [] c d held' c'
  | fire {held held' : Bytes} {c c' : Connection η ξ ω}
    {l : List (Happening (Occupant η ξ) (Env ω))} {seen : List Inbound} {writes : List Bytes}
    {given : Option Bytes} {requested : Bool} {sigs : List Inbound} {q : Pipeline (Occupant η ξ)}
    {e : Env ω} : c.pipeline.fireAll k.behaviour now sigs c.env = some (q, e) →
    Leads k now held { c with pipeline := q, env := e } ⟨l, seen, writes, given, requested⟩ held' c' →
    Leads k now held c ⟨c.pipeline.fireHistory k.behaviour now sigs c.env ++ l, seen, writes, given,
      requested⟩ held' c'
  | accept {held held' : Bytes} {c c₁ c' : Connection η ξ ω}
    {l : List (Happening (Occupant η ξ) (Env ω))} {seen : List Inbound} {writes : List Bytes}
    {requested : Bool} {data : Bytes} : c.accept k now data = some c₁ →
    Leads k now held c₁ ⟨l, seen, writes, none, requested⟩ held' c' →
    Leads k now held c ⟨c.pipeline.fireHistory k.behaviour now (incoming data) c.env ++ l, seen,
      writes, some data, requested⟩ held' c'
  | submit {held held' : Bytes} {c c₁ c' : Connection η ξ ω}
    {l : List (Happening (Occupant η ξ) (Env ω))} {seen : List Inbound} {writes : List Bytes}
    {given : Option Bytes} {requested : Bool} {op : Outbound} : c.submit k now op = some c₁ →
    Leads k now held c₁ ⟨l, seen, writes, given, requested⟩ held' c' →
    Leads k now held c ⟨c.submitHistory k now op ++ l, seen, (Signal.outbound op).written ++ writes,
      given, requested⟩ held' c'
  | ask {held : Bytes} {c c₁ c' : Connection η ξ ω} : c.submit k now .read = some c₁ →
    c₁.noteReadRequest.Alike c' →
    Leads k now held c ⟨c.submitHistory k now .read, [], [], none, true⟩ held c'

omit [Recorder ω] in
/-- Where an operation comes to rest, by what it has looked at and whether it has asked for a read. -/
inductive Halts : Errand → List Inbound → Bool → Advance η ξ ω → Prop
  | opened {c : Connection η ξ ω} {early : List Inbound} : decideOpening early = none →
    Halts .opening (early ++ [.active]) false (c.settle (.ok .opened))
  | unopened {c : Connection η ξ ω} {seen : List Inbound} {e : ConnectError} :
    Halts .opening seen false (c.finish (.error e))
  | awaits {c : Connection η ξ ω} {seen : List Inbound} : decideOpening seen = none →
    Halts .opening seen false (c.noteReadRequest.wait .awaitingActive)
  | wrote {c : Connection η ξ ω} : c.collect.failure? = none →
    Halts .writing [] false (c.collect.settle (.ok .wrote))
  | refused {c : Connection η ξ ω} {cause : Cause} : c.collect.failure? = some cause →
    Halts .writing [] false (c.collect.settle (.error (.tls cause)))
  | broke {c : Connection η ξ ω} {errand : Errand} {e : IoError} : errand.stretch = .open →
    Halts errand [] false (c.settle (.error (.io e)))
  | gave {c : Connection η ξ ω} {early later : List Inbound} {s : Inbound}
    {r : Except ConnectError (Option Bytes)} : decideReading early = none →
    decideReading [s] = some (r, later) →
    Halts .reading (early ++ [s]) false (c.settle (r.map .received))
  | exhausted {c : Connection η ξ ω} {seen : List Inbound} : decideReading seen = none →
    Halts .reading seen false (c.settle (.ok (.received none)))
  | asks {c : Connection η ξ ω} {seen : List Inbound} : decideReading seen = none →
    Halts .reading seen true (c.noteReadRequest.wait (.receiving .reading))
  | drains {c : Connection η ξ ω} {errand : Errand} {seen : List Inbound} :
    errand.stretch = .closing →
    Halts errand seen true (c.noteReadRequest.wait (.receiving .draining))
  | closed {c : Connection η ξ ω} {errand : Errand} {seen : List Inbound} :
    errand.stretch = .closing → Halts errand seen false c.finishClosing
  | unclosed {c : Connection η ξ ω} {e : IoError} :
    Halts .closing [] false (c.finish (.error (.io e)))
  | sends {c : Connection η ξ ω} {errand : Errand} {unsent : List Bytes} :
    Halts errand [] false (c.wait (.sending errand unsent))

/-- A part of an operation leads to where that comes to rest. -/
def Runs (k : StageKit η ξ ω) (now : Instant) (errand : Errand) (held : Bytes)
    (c : Connection η ξ ω) (l : List (Happening (Occupant η ξ) (Env ω))) (a : Advance η ξ ω) : Prop :=
  ∃ seen requested, Leads k now held c ⟨l, seen, [], none, requested⟩ a.1.job.held a.1 ∧
    Halts errand seen requested a

variable {k : StageKit η ξ ω} {now : Instant} {c c₁ : Connection η ξ ω} {a : Advance η ξ ω}
  {errand : Errand}

theorem requestRead_leads (h : c.requestRead k now errand = some a) :
    ∃ c₁ : Connection η ξ ω, a = c₁.noteReadRequest.wait (.receiving errand) ∧
      Leads k now [] c ⟨c.submitHistory k now .read, [], [], none, true⟩ [] a.1 := by
  obtain ⟨c₁, hsubmit, rfl⟩ := Option.map_eq_some_iff.1 h
  exact ⟨c₁, rfl, .ask hsubmit (alike_wait _ _)⟩

theorem continueReading_runs (h : c.continueReading k now = some a) :
    Runs k now .reading [] c (c.readingHistory k now) a := by
  simp only [continueReading] at h
  unfold readingHistory Runs
  cases hdecide : decideReading c.collect.pending with
  | some x =>
    obtain ⟨r, rest⟩ := x
    obtain ⟨early, s, hpending, hearly, later, hs⟩ := decideReading_split hdecide
    rw [hdecide] at h
    obtain rfl := Option.some.inj h
    exact ⟨_, _, .collect (.look hpending (.done (alike_settle _ _))), .gave hearly hs⟩
  | none =>
    have hpending : c.collect.pending = c.collect.pending ++ [] := (List.append_nil _).symm
    rw [hdecide] at h
    by_cases hend : c.endOfStream = true
    · obtain rfl := Option.some.inj ((if_pos hend).symm.trans h)
      rw [if_pos hend]
      exact ⟨_, _, .collect (.look hpending (.done (alike_settle _ _))), .exhausted hdecide⟩
    · obtain ⟨c₁, rfl, hleads⟩ := requestRead_leads ((if_neg hend).symm.trans h)
      rw [if_neg hend]
      exact ⟨_, _, .collect (.look hpending hleads), .asks hdecide⟩

theorem continueDraining_runs (herrand : errand.stretch = .closing)
    (h : c.continueDraining k now = some a) : Runs k now errand [] c (c.drainingHistory k now) a := by
  have hpending : c.collect.pending = c.collect.pending ++ [] := (List.append_nil _).symm
  unfold drainingHistory Runs
  by_cases hdecide : (decideDraining c.collect.pending || c.endOfStream) = true
  · obtain rfl := Option.some.inj ((if_pos hdecide).symm.trans h)
    rw [if_pos hdecide]
    exact ⟨_, _, .collect (.look hpending (.done (alike_finishClosing _))), .closed herrand⟩
  · obtain ⟨c₁, rfl, hleads⟩ := requestRead_leads ((if_neg hdecide).symm.trans h)
    rw [if_neg hdecide]
    exact ⟨_, _, .collect (.look hpending hleads), .drains herrand⟩

theorem continueOpening_runs (k : StageKit η ξ ω) (now : Instant) (c : Connection η ξ ω) :
    Runs k now .opening [] c [] c.continueOpening := by
  unfold Runs continueOpening
  simp only
  split
  · rename_i rest hdecide
    obtain ⟨early, s, hpending, hearly, later, hs⟩ := decideOpening_split hdecide
    obtain rfl := eq_active_of_decideOpening hs
    exact ⟨_, _, .collect (.look hpending (.done (alike_settle _ _))), .opened hearly⟩
  · rename_i e rest hdecide
    obtain ⟨early, s, hpending, -, -⟩ := decideOpening_split hdecide
    exact ⟨_, _, .collect (.look hpending (.done (alike_failOpening _ _))), .unopened⟩
  · rename_i hdecide
    have hpending : c.collect.pending = c.collect.pending ++ [] := (List.append_nil _).symm
    split
    · exact ⟨_, _, .collect (.look hpending (.done (alike_failOpening _ _))), .unopened⟩
    · exact ⟨_, _, .collect (.look hpending (.note (.done (alike_wait _ _)))),
        .awaits hdecide⟩

theorem finishWriting_runs (k : StageKit η ξ ω) (now : Instant) (c : Connection η ξ ω) :
    Runs k now .writing [] c [] c.finishWriting := by
  unfold Runs finishWriting checkFailed
  refine ⟨[], false, .collect (.done (alike_settle _ _)), ?_⟩
  simp only
  cases hfailure : c.collect.failure? with
  | none => exact .wrote hfailure
  | some cause => exact .refused hfailure

variable [Secured η]

theorem continueClosing_runs (h : c.continueClosing k now = some a) :
    Runs k now .closing [] c (c.closingHistory k now) a := by
  unfold continueClosing at h
  unfold closingHistory
  simp only at h ⊢
  split at h
  · rename_i hlimit
    rw [if_pos hlimit]
    obtain rfl := Option.some.inj h
    exact ⟨[], false, .done (alike_finishClosing _), .closed rfl⟩
  · rename_i hlimit
    rw [if_neg hlimit]
    have herrand : Errand.closing.stretch = .closing := rfl
    obtain ⟨seen, requested, hleads, hhalts⟩ := continueDraining_runs herrand h
    exact ⟨seen, requested, .alike hleads (c.alike_deadline _), hhalts⟩

theorem afterFlush_runs (h : c.afterFlush k now errand = some a) :
    Runs k now errand [] c (c.afterFlushHistory k now errand) a := by
  cases errand with
  | opening =>
    obtain rfl := Option.some.inj h
    exact continueOpening_runs k now c
  | writing =>
    obtain rfl := Option.some.inj h
    exact finishWriting_runs k now c
  | reading => exact continueReading_runs h
  | closing => exact continueClosing_runs h
  | draining => exact continueDraining_runs rfl h

theorem sendRest_runs {unsent : List Bytes} (h : c.sendRest k now errand unsent = some a) :
    Runs k now errand unsent.flatten c (c.sendRestHistory k now errand unsent) a := by
  unfold sendRest at h
  unfold sendRestHistory
  rw [← flatten_dropWhile_isEmpty]
  cases hrest : unsent.dropWhile List.isEmpty with
  | nil =>
    rw [hrest] at h
    exact afterFlush_runs h
  | cons chunk rest =>
    rw [hrest] at h
    obtain rfl := Option.some.inj h
    exact ⟨[], false, .done (alike_wait _ _), .sends⟩

theorem flush_runs (h : c.flush k now errand = some a) :
    Runs k now errand [] c (c.flushHistory k now errand) a := by
  obtain ⟨seen, requested, hleads, hhalts⟩ := sendRest_runs h
  exact ⟨seen, requested, .take hleads, hhalts⟩

theorem onSocketError_runs {e : IoError} (h : c.onSocketError k now errand e = some a) :
    Runs k now errand [] c (c.errorHistory k now errand) a := by
  cases errand with
  | opening =>
    obtain rfl := Option.some.inj h
    exact ⟨[], false, .done (alike_failOpening _ _), .unopened⟩
  | writing | reading =>
    obtain rfl := Option.some.inj h
    exact ⟨[], false, .done (alike_settle _ _), .broke rfl⟩
  | draining =>
    obtain rfl := Option.some.inj h
    exact ⟨[], false, .done (alike_finishClosing _), .closed rfl⟩
  -- a close with a time limit goes on as if the goodbye were out
  | closing =>
    simp only [onSocketError] at h
    unfold errorHistory
    simp only
    split at h
    · rename_i htimed
      rw [if_pos htimed]
      obtain ⟨seen, requested, hleads, hhalts⟩ := continueClosing_runs h
      exact ⟨seen, requested, .alike hleads (c.alike_deadline _), hhalts⟩
    · rename_i htimed
      rw [if_neg htimed]
      obtain rfl := Option.some.inj h
      exact ⟨[], false, .done (alike_finish _ _), .unclosed⟩

theorem flushHistory_opening (k : StageKit η ξ ω) (now : Instant)
    (c : Connection η ξ ω) : c.flushHistory k now .opening = [] := by
  unfold flushHistory sendRestHistory
  split <;> rfl

theorem opened_runs (h : c.opened k now = some a) : Runs k now .opening [] c
    (c.pipeline.fireHistory k.behaviour now [.registered, .active] c.env) a := by
  rw [opened_eq] at h
  obtain ⟨⟨q, e⟩, hall, hflush⟩ := Option.bind_eq_some_iff.1 h
  obtain ⟨seen, requested, hleads, hhalts⟩ := flush_runs hflush
  have hopened := Leads.fire hall hleads
  simp only [flushHistory_opening, List.append_nil] at hopened
  exact ⟨seen, requested, hopened, hhalts⟩

end Connection
end SecureGateway

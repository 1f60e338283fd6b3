import SecureGateway.Connection.Progress
import SecureGateway.Proofs.Pipeline.DepthFirst

namespace SecureGateway

namespace Pipeline

variable {σ ω : Type}

def fireAll (b : Behaviour σ ω) (now : Instant) :
    List Inbound → Pipeline σ → ω → Option (Pipeline σ × ω)
  | [], p, w => some (p, w)
  | s :: rest, p, w => (p.fire b now s w).bind fun (q, w) => fireAll b now rest q w

def fireHistory (b : Behaviour σ ω) (now : Instant) :
    List Inbound → Pipeline σ → ω → List (Happening σ ω)
  | [], _, _ => []
  | s :: rest, p, w =>
    p.history b now (.inbound (idAt p.stages 0) s) w ++
      match p.fire b now s w with
      | some (q, w) => fireHistory b now rest q w
      | none => []

end Pipeline

/-- What the socket and the clock do to a connection. -/
inductive SocketEvent where
  | sent (n : Nat)
  | received (data : Bytes)
  | failed (e : IoError)
  | ticked
  | expired

namespace Connection

variable {η ξ ω : Type}

def incoming (data : Bytes) : List Inbound :=
  if data.isEmpty then [.inactive] else [.read data, .readComplete]

/-- The signals that an event sends into the pipeline of a connection that is being opened. -/
def prompted (now : Instant) (c : Connection η ξ ω) (ev : SocketEvent) : List Inbound :=
  match c.job, ev with
  | .awaitingActive, .received data => if c.readPending then incoming data else []
  | .awaitingActive, .ticked => [.tick now]
  | _, _ => []

def IsOpening (c : Connection η ξ ω) : Prop :=
  c.job = .awaitingActive ∨ ∃ unsent, c.job = .sending .opening unsent

theorem incoming_ne_nil (data : Bytes) : incoming data ≠ [] := by
  unfold incoming
  split <;> nofun

variable [Recorder ω]

theorem accept_eq (k : StageKit η ξ ω) (now : Instant) (data : Bytes) (c : Connection η ξ ω) :
    c.accept k now data = (c.pipeline.fireAll k.behaviour now (incoming data) c.env).map
      fun (pipeline, env) => { c with
        pipeline, env, readPending := false, endOfStream := c.endOfStream || data.isEmpty } := by
  cases hdata : data.isEmpty with
  | true =>
    simp only [accept, incoming, hdata, if_true, fire, Pipeline.fireAll]
    cases c.pipeline.fire k.behaviour now .inactive c.env <;> simp
  | false =>
    simp only [accept, incoming, hdata, Bool.false_eq_true, if_false, fire, Pipeline.fireAll]
    cases c.pipeline.fire k.behaviour now (.read data) c.env with
    | none => rfl
    | some x =>
      simp only [Option.map_some, Option.bind_some]
      cases x.1.fire k.behaviour now .readComplete x.2 <;> simp

/-- From one connection to another these signals went through the pipeline. -/
structure Fired (k : StageKit η ξ ω) (now : Instant) (sigs : List Inbound)
    (c c' : Connection η ξ ω) : Prop where
  fired : c.pipeline.fireAll k.behaviour now sigs c.env = some (c'.pipeline, c'.env)
  same : sigs = [] → c' = c
  pending : c'.pending = c.pending
  connectTimeout : c'.connectTimeout = c.connectTimeout
  endOfStream : c'.endOfStream = true → c.endOfStream = true ∨ .inactive ∈ sigs

theorem Fired.nil (k : StageKit η ξ ω) (now : Instant) (c : Connection η ξ ω) :
    Fired k now [] c c :=
  ⟨rfl, fun _ => rfl, rfl, rfl, .inl⟩

theorem fired_accept {k : StageKit η ξ ω} {now : Instant} {data : Bytes}
    {c c' : Connection η ξ ω} (h : c.accept k now data = some c') :
    Fired k now (incoming data) c c' := by
  rw [accept_eq] at h
  obtain ⟨⟨q, e⟩, hfire, rfl⟩ := Option.map_eq_some_iff.1 h
  refine ⟨hfire, fun hnil => absurd hnil (incoming_ne_nil data), rfl, rfl, ?_⟩
  intro hend
  rcases Bool.or_eq_true_iff.1 hend with hend | hdata
  · exact .inl hend
  · right
    rw [incoming, if_pos hdata]
    exact List.mem_singleton.2 rfl

variable [Secured η]

theorem opened_eq (k : StageKit η ξ ω) (now : Instant) (c : Connection η ξ ω) :
    c.opened k now =
      (c.pipeline.fireAll k.behaviour now [.registered, .active] c.env).bind
        fun (pipeline, env) => { c with pipeline, env }.flush k now .opening := by
  simp only [opened, fire, Pipeline.fireAll]
  cases c.pipeline.fire k.behaviour now .registered c.env with
  | none => rfl
  | some x =>
    simp only [Option.map_some, Option.bind_some]
    cases x.1.fire k.behaviour now .active x.2 <;> rfl

def respond (k : StageKit η ξ ω) (now : Instant) (ev : SocketEvent) (c : Connection η ξ ω) :
    Option (Advance η ξ ω) :=
  match ev with
  | .sent n => c.sent k now n
  | .received data => c.received k now data
  | .failed e => c.socketFailed k now e
  | .ticked => c.tick k now
  | .expired => c.expire k now

def follow (k : StageKit η ξ ω) :
    List (Instant × SocketEvent) → Advance η ξ ω → Option (Advance η ξ ω)
  | (now, ev) :: events, (c, none) => (c.respond k now ev).bind (follow k events)
  | _, a => some a

def followHistory (k : StageKit η ξ ω) :
    List (Instant × SocketEvent) → Advance η ξ ω → List (Happening (Occupant η ξ) (Env ω))
  | (now, ev) :: events, (c, none) =>
    c.pipeline.fireHistory k.behaviour now (c.prompted now ev) c.env ++
      match c.respond k now ev with
      | some a => followHistory k events a
      | none => []
  | _, _ => []

section Establishing

variable {κ β : Type} [Timed η] [TlsContext κ η]

/-- A connection is established over a socket with these events, as far as they go. -/
def opening (k : StageKit η ξ ω) (now : Instant) (o : ConnectOptions κ β η) (id : Nat)
    (remote : RemoteAddress) (env : Env ω) (events : List (Instant × SocketEvent)) :
    Option (Advance η ξ ω) :=
  (establish k now o id remote env).bind (follow k events)

def openingHistory (k : StageKit η ξ ω) (now : Instant) (o : ConnectOptions κ β η) (id : Nat)
    (remote : RemoteAddress) (env : Env ω) (events : List (Instant × SocketEvent)) :
    List (Happening (Occupant η ξ) (Env ω)) :=
  match o.assemble ⟨id, some remote⟩ with
  | .error _ => []
  | .ok p =>
    p.fireHistory k.behaviour now [.registered, .active] env ++
      match establish k now o id remote env with
      | some a => followHistory k events a
      | none => []

end Establishing

variable {k : StageKit η ξ ω} {c : Connection η ξ ω} {a : Advance η ξ ω} {now : Instant}

theorem follow_settled (k : StageKit η ξ ω) (events : List (Instant × SocketEvent))
    (c : Connection η ξ ω) (r : Except ConnectError Outcome) :
    follow k events (c, some r) = some (c, some r) := by
  cases events <;> rfl

/-- What every event preserves holds after all of them. -/
theorem follow_induction {events : List (Instant × SocketEvent)}
    {P : List (Happening (Occupant η ξ) (Env ω)) → Advance η ξ ω → Prop}
    (hstep : ∀ {log c now ev a}, (now, ev) ∈ events → P log (c, none) →
      c.respond k now ev = some a →
      P (log ++ c.pipeline.fireHistory k.behaviour now (c.prompted now ev) c.env) a)
    (log : List (Happening (Occupant η ξ) (Env ω))) {a a' : Advance η ξ ω} (ha : P log a)
    (h : follow k events a = some a') : P (log ++ followHistory k events a) a' := by
  induction events generalizing a log with
  | nil =>
    unfold follow at h
    obtain rfl := Option.some.inj h
    rw [followHistory.eq_def, List.append_nil]
    exact ha
  | cons event events ih =>
    obtain ⟨now, ev⟩ := event
    obtain ⟨c, _ | r⟩ := a
    · obtain ⟨a₁, hrespond, hrest⟩ := Option.bind_eq_some_iff.1 h
      have ha₁ := hstep List.mem_cons_self ha hrespond
      have hall := ih (fun hmem => hstep (List.mem_cons_of_mem _ hmem)) _ ha₁ hrest
      rw [followHistory, hrespond, ← List.append_assoc]
      exact hall
    · -- what is settled stays so, and no more events are taken
      obtain rfl := Option.some.inj h
      rw [followHistory.eq_def, List.append_nil]
      exact ha

theorem sendRest_opening {unsent : List Bytes} (h : c.sendRest k now .opening unsent = some a) :
    a = c.continueOpening ∨
      ∃ chunk rest, chunk ≠ [] ∧ a = c.wait (.sending .opening (chunk :: rest)) := by
  unfold sendRest at h
  cases hunsent : unsent.dropWhile List.isEmpty with
  | nil =>
    rw [hunsent] at h
    exact .inl (Option.some.inj h).symm
  | cons chunk rest =>
    rw [hunsent] at h
    have hne : unsent.dropWhile List.isEmpty ≠ [] := by simp [hunsent]
    have hchunk := List.head_dropWhile_not List.isEmpty hne
    simp only [hunsent, List.head_cons] at hchunk
    exact .inr ⟨chunk, rest, by simpa using hchunk, (Option.some.inj h).symm⟩

/-- The events that end an opening whatever goes on in the pipeline. -/
inductive Interruption (limit : Span) : SocketEvent → ConnectError → Prop
  | failed (e : IoError) : Interruption limit (.failed e) (.io e)
  | expired : Interruption limit .expired (.timeout limit)

/-- How an event leaves the connection, once the signals it prompts have gone through. -/
inductive Response (k : StageKit η ξ ω) (now : Instant) (ev : SocketEvent)
    (prompted : List Inbound) (c : Connection η ξ ω) : Advance η ξ ω → Prop
  | ignored : prompted = [] → Response k now ev prompted c (c, none)
  | refused {c' : Connection η ξ ω} (e : ConnectError) : Interruption c.connectTimeout ev e →
    c'.pipeline = c.pipeline → c'.env = c.env → Response k now ev prompted c (c', some (.error e))
  | resumed {a : Advance η ξ ω} (unsent : List Bytes) :
    c.sendRest k now .opening unsent = some a → Response k now ev prompted c a
  | flushed {a : Advance η ξ ω} :
    c.flush k now .opening = some a → Response k now ev prompted c a

theorem respond_awaiting {ev : SocketEvent} (hjob : c.job = .awaitingActive)
    (h : c.respond k now ev = some a) :
    ∃ c', Fired k now (c.prompted now ev) c c' ∧ Response k now ev (c.prompted now ev) c' a := by
  cases ev with
  | sent n =>
    simp only [respond, sent, hjob] at h
    have hprompted : c.prompted now (.sent n) = [] := by simp only [prompted, hjob]
    rw [hprompted, ← Option.some.inj h]
    exact ⟨c, .nil k now c, .ignored rfl⟩
  | received data =>
    simp only [respond, received, hjob] at h
    -- bytes that nobody asked for are left with the socket
    cases hread : c.readPending with
    | true =>
      rw [hread, if_pos rfl] at h
      obtain ⟨c₁, haccept, hflush⟩ := Option.bind_eq_some_iff.1 h
      have hprompted : c.prompted now (.received data) = incoming data := by
        simp only [prompted, hjob, hread, if_true]
      rw [hprompted]
      exact ⟨c₁, fired_accept haccept, .flushed hflush⟩
    | false =>
      rw [hread, if_neg Bool.false_ne_true] at h
      have hprompted : c.prompted now (.received data) = [] := by
        simp only [prompted, hjob, hread, Bool.false_eq_true, if_false]
      rw [hprompted, ← Option.some.inj h]
      exact ⟨c, .nil k now c, .ignored rfl⟩
  | failed e =>
    simp only [respond, socketFailed, hjob, onSocketError] at h
    have hprompted : c.prompted now (.failed e) = [] := by simp only [prompted, hjob]
    rw [hprompted, ← Option.some.inj h]
    exact ⟨c, .nil k now c, .refused _ (.failed e) rfl rfl⟩
  | ticked =>
    simp only [respond, tick, hjob] at h
    obtain ⟨c₁, hfire, hflush⟩ := Option.bind_eq_some_iff.1 h
    obtain ⟨⟨q, e⟩, hq, hc₁⟩ := Option.map_eq_some_iff.1 hfire
    have hprompted : c.prompted now .ticked = [.tick now] := by simp only [prompted, hjob]
    rw [hprompted]
    refine ⟨{ c₁ with nextTick := now.after tickInterval }, ⟨?_, nofun, ?_, ?_, ?_⟩,
      .flushed hflush⟩
    · simp only [Pipeline.fireAll, hq, Option.bind_some, ← hc₁]
    · rw [← hc₁]
    · rw [← hc₁]
    · rw [← hc₁]
      exact .inl
  | expired =>
    simp only [respond, expire, hjob] at h
    have hprompted : c.prompted now .expired = [] := by simp only [prompted, hjob]
    rw [hprompted, ← Option.some.inj h]
    exact ⟨c, .nil k now c, .refused _ .expired rfl rfl⟩

theorem respond_sending {ev : SocketEvent} {unsent : List Bytes}
    (hjob : c.job = .sending .opening unsent) (h : c.respond k now ev = some a) :
    c.prompted now ev = [] ∧ Response k now ev (c.prompted now ev) c a := by
  have hprompted : c.prompted now ev = [] := by simp only [prompted, hjob]
  refine ⟨hprompted, ?_⟩
  rw [hprompted]
  cases ev with
  | sent n =>
    cases unsent with
    | nil =>
      simp only [respond, sent, hjob] at h
      rw [← Option.some.inj h]
      exact .ignored rfl
    | cons chunk rest =>
      simp only [respond, sent, hjob] at h
      exact .resumed _ h
  | received data =>
    simp only [respond, received, hjob] at h
    rw [← Option.some.inj h]
    exact .ignored rfl
  | failed e =>
    simp only [respond, socketFailed, hjob, onSocketError] at h
    rw [← Option.some.inj h]
    exact .refused _ (.failed e) rfl rfl
  | ticked =>
    simp only [respond, tick, hjob] at h
    rw [← Option.some.inj h]
    exact .ignored rfl
  | expired =>
    simp only [respond, expire, hjob] at h
    rw [← Option.some.inj h]
    exact .refused _ .expired rfl rfl

/-- The signals that an event prompts go through the pipeline before anything else is done. -/
theorem respond_cases {ev : SocketEvent} (hc : c.IsOpening) (h : c.respond k now ev = some a) :
    ∃ c', Fired k now (c.prompted now ev) c c' ∧ Response k now ev (c.prompted now ev) c' a := by
  rcases hc with hjob | ⟨unsent, hjob⟩
  · exact respond_awaiting hjob h
  · obtain ⟨hprompted, hresponse⟩ := respond_sending hjob h
    refine ⟨c, ?_, hresponse⟩
    rw [hprompted]
    exact .nil k now c

end Connection
end SecureGateway

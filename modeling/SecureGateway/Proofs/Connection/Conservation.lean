import SecureGateway.Proofs.Connection.Conduct

namespace SecureGateway

/-- Bytes that reach the transport. -/
def Happening.departure? {σ ω : Type} : Happening σ ω → Option Bytes
  | .left (.outbound (.write data)) => some data
  | _ => none

def departures {σ ω : Type} (l : List (Happening σ ω)) : List Bytes :=
  l.filterMap Happening.departure?

def chunks (l : List Inbound) : List Bytes :=
  l.filterMap fun
    | .read data => some data
    | _ => none

/-- The data that a caller was given. -/
def received? : Except ConnectError Outcome → Option Bytes
  | .ok (.received data) => data
  | _ => none

section Ends

variable {σ ω : Type} {b : Behaviour σ ω} {react : React σ σ ω} {now : Instant}
  {p q : Pipeline σ} {w w' : ω} {hop : Hop} {l : List (Happening σ ω)}

theorem Delivers.transport_eq {s s' : Scene σ ω} {hops : List Hop}
    (hd : Delivers react now s hops l s') :
    s'.ends.transport = s.ends.transport ++ departures l := by
  induction hd with
  | done s => exact (List.append_nil _).symm
  | @leave s s' hop hops l _ _ ih =>
    rw [ih]
    rcases hop with ⟨t, sig⟩ | ⟨t, data | _ | _⟩
    · rfl
    · exact List.append_assoc s.ends.transport [data] (departures l)
    · rfl
    · rfl
  | call _ _ _ _ _ _ ihin ihout =>
    rw [ihout, ihin, List.append_assoc]
    exact congrArg _ List.filterMap_append.symm

structure Pipeline.Yields (p : Pipeline σ) (l : List (Happening σ ω)) (q : Pipeline σ) : Prop where
  wellFormed : q.WellFormed
  tail : q.tail = p.tail ++ arrivals l
  transport : q.transport = p.transport ++ departures l

namespace Pipeline

theorem WellFormed.yields (hp : p.WellFormed) (h : p.dispatch b now hop w = some (q, w')) :
    p.Yields (p.history b now hop w) q := by
  obtain ⟨s, hd, rfl, -⟩ := hp.delivers h
  exact ⟨hp.of_delivers hd, hd.tail_eq, hd.transport_eq⟩

theorem WellFormed.yields_fireAll (hp : p.WellFormed) {sigs : List Inbound}
    (h : p.fireAll b now sigs w = some (q, w')) : p.Yields (p.fireHistory b now sigs w) q := by
  induction sigs generalizing p w with
  | nil =>
    obtain ⟨rfl, rfl⟩ := Prod.mk.inj (Option.some.inj h)
    exact ⟨hp, (List.append_nil _).symm, (List.append_nil _).symm⟩
  | cons s sigs ih =>
    obtain ⟨⟨p₁, w₁⟩, hfire, hrest⟩ := Option.bind_eq_some_iff.1 h
    have h₁ := hp.yields hfire
    have h₂ := ih h₁.wellFormed hrest
    rw [fireHistory, hfire]
    refine ⟨h₂.wellFormed, ?_, ?_⟩
    · rw [h₂.tail, h₁.tail, List.append_assoc]
      exact congrArg _ List.filterMap_append.symm
    · rw [h₂.transport, h₁.transport, List.append_assoc]
      exact congrArg _ List.filterMap_append.symm

end Pipeline
end Ends

theorem chunks_append (xs ys : List Inbound) : chunks (xs ++ ys) = chunks xs ++ chunks ys :=
  List.filterMap_append

namespace Connection

theorem chunks_of_undecided {xs : List Inbound} (h : decideReading xs = none) : chunks xs = [] := by
  refine List.filterMap_eq_nil_iff.2 fun s hs => ?_
  have hnone := decideReading_eq_none_iff.1 h s hs
  cases s with
  | read data => cases hnone
  | _ => rfl

theorem chunks_of_decided {s : Inbound} {r : Except ConnectError (Option Bytes)}
    {later : List Inbound} (h : decideReading [s] = some (r, later)) :
    chunks [s] = (received? (r.map .received)).toList := by
  rcases decideReading_singleton h with ⟨data, rfl, rfl⟩ | ⟨cause, rfl, rfl⟩ | ⟨rfl | rfl, rfl⟩ <;> rfl

variable {η ξ ω : Type} [Recorder ω] {k : StageKit η ξ ω} {now : Instant}
  {c c' c₁ c₂ : Connection η ξ ω} {a : Advance η ξ ω}
  {l l₁ l₂ : List (Happening (Occupant η ξ) (Env ω))} {seen seen₁ seen₂ : List Inbound}
  {took took₁ took₂ held held₁ held₂ : Bytes} {heard heard₁ heard₂ : Bool}

/-- From one point of a connection to a later one, with bytes in hand at either: what happened in the
pipeline, the signals that were looked at, the bytes that the socket took, and whether it reported
its end. Nothing else of what left the pipeline is gone, and what remains is in order. -/
structure Carries (l : List (Happening (Occupant η ξ) (Env ω))) (seen : List Inbound) (took : Bytes)
    (heard : Bool) (held : Bytes) (c : Connection η ξ ω) (held' : Bytes) (c' : Connection η ξ ω) :
    Prop where
  wellFormed : c'.pipeline.WellFormed
  inbound : c.waiting ++ arrivals l = seen ++ c'.waiting
  outbound : held ++ c.pipeline.transport.flatten ++ (departures l).flatten =
    took ++ (held' ++ c'.pipeline.transport.flatten)
  endOfStream : c'.endOfStream = (c.endOfStream || heard)

/-- What becomes of an operation, by what it belongs to and the signals that it looked at. -/
def Told (seen : List Inbound) (a : Advance η ξ ω) : Errand.Stretch → Prop
  | .opening =>
    match a.2 with
    | none => a.1.job.stretch = .opening ∧ decideOpening seen = none
    | some (.ok r) => r = .opened ∧ a.1.job = .idle ∧
      ∃ early, seen = early ++ [.active] ∧ decideOpening early = none
    | some (.error _) => a.1.job = .ended
  | .open => a.1.job.stretch = .open ∧ chunks seen = (a.2.bind received?).toList
  | .closing => (a.1.job.stretch = .closing ∨ a.1.job = .ended) ∧ a.2.bind received? = none
  | .ended => a.1.job = .ended ∧ a.2 = none

omit [Recorder ω] in
theorem told_none {stretch : Errand.Stretch} (h : c.job.stretch = stretch) :
    Told [] (c, none) stretch := by
  cases stretch with
  | opening => exact ⟨h, rfl⟩
  | «open» => exact ⟨h, rfl⟩
  | closing => exact ⟨.inl h, rfl⟩
  | ended => exact ⟨ended_of_stretch h, rfl⟩

namespace Carries

omit [Recorder ω] in
theorem trans (h₁ : Carries l₁ seen₁ took₁ heard₁ held c held₁ c₁)
    (h₂ : Carries l₂ seen₂ took₂ heard₂ held₁ c₁ held₂ c₂) :
    Carries (l₁ ++ l₂) (seen₁ ++ seen₂) (took₁ ++ took₂) (heard₁ || heard₂) held c held₂ c₂ where
  wellFormed := h₂.wellFormed
  inbound := by
    rw [arrivals, List.filterMap_append, ← arrivals, ← arrivals, ← List.append_assoc, h₁.inbound,
      List.append_assoc, h₂.inbound, List.append_assoc]
  outbound := by
    rw [departures, List.filterMap_append, ← departures, ← departures, List.flatten_append,
      ← List.append_assoc, h₁.outbound, List.append_assoc, h₂.outbound, List.append_assoc]
  endOfStream := by rw [h₂.endOfStream, h₁.endOfStream, Bool.or_assoc]

omit [Recorder ω] in
theorem followed (h₁ : Carries l₁ seen took heard held c held₁ c₁)
    (h₂ : Carries l₂ [] [] false held₁ c₁ held₂ c₂) :
    Carries (l₁ ++ l₂) seen took heard held c held₂ c₂ := by
  have h := h₁.trans h₂
  rwa [List.append_nil, List.append_nil, Bool.or_false] at h

omit [Recorder ω] in
theorem same (hw : c.pipeline.WellFormed) (held : Bytes) (hpipeline : c'.pipeline = c.pipeline)
    (hpending : c'.pending = c.pending) (hend : c'.endOfStream = c.endOfStream) :
    Carries [] [] [] false held c held c' where
  wellFormed := hpipeline ▸ hw
  inbound := by rw [waiting, waiting, hpipeline, hpending]; exact List.append_nil _
  outbound := by rw [hpipeline]; exact List.append_nil _
  endOfStream := by rw [hend, Bool.or_false]

omit [Recorder ω] in
theorem congr (h : Carries l seen took heard held c held₁ c₁)
    (hpipeline : c₂.pipeline = c₁.pipeline) (hpending : c₂.pending = c₁.pending)
    (hend : c₂.endOfStream = c₁.endOfStream) : Carries l seen took heard held c held₁ c₂ where
  wellFormed := hpipeline ▸ h.wellFormed
  inbound := by rw [h.inbound, waiting, waiting, hpipeline, hpending]
  outbound := by rw [hpipeline]; exact h.outbound
  endOfStream := by rw [hend, h.endOfStream]

omit [Recorder ω] in
theorem congr_left (h : Carries l seen took heard held c₁ held₂ c₂)
    (hpipeline : c₁.pipeline = c.pipeline) (hpending : c₁.pending = c.pending)
    (hend : c₁.endOfStream = c.endOfStream) : Carries l seen took heard held c held₂ c₂ where
  wellFormed := h.wellFormed
  inbound := by rw [← h.inbound, waiting, waiting, hpipeline, hpending]
  outbound := by rw [← hpipeline]; exact h.outbound
  endOfStream := by rw [← hend, h.endOfStream]

omit [Recorder ω] in
theorem takes {rest : Bytes} (h : Carries l seen [] heard rest c held₂ c₂) (took : Bytes) :
    Carries l seen took heard (took ++ rest) c held₂ c₂ where
  wellFormed := h.wellFormed
  inbound := h.inbound
  outbound := by
    rw [List.append_assoc, List.append_assoc, ← List.append_assoc rest]
    exact congrArg (took ++ ·) h.outbound
  endOfStream := h.endOfStream

omit [Recorder ω] in
theorem collect (hw : c.pipeline.WellFormed) (held : Bytes) :
    Carries [] [] [] false held c held c.collect where
  wellFormed := hw.of_sublist (.refl _) rfl hw.full
  inbound := by
    show c.pending ++ c.pipeline.tail ++ [] = [] ++ ((c.pending ++ c.pipeline.tail) ++ [])
    rw [List.nil_append]
  outbound := List.append_nil _
  endOfStream := (Bool.or_false _).symm

omit [Recorder ω] in
theorem look (rest : List Inbound) (hw : c.pipeline.WellFormed) (held : Bytes)
    (hpending : c.pending = seen ++ rest) :
    Carries [] seen [] false held c held { c with pending := rest } where
  wellFormed := hw
  inbound := by
    show c.pending ++ c.pipeline.tail ++ [] = seen ++ (rest ++ c.pipeline.tail)
    rw [hpending, List.append_nil, List.append_assoc]
  outbound := List.append_nil _
  endOfStream := (Bool.or_false _).symm

omit [Recorder ω] in
theorem noteReadRequest (hw : c.pipeline.WellFormed) (held : Bytes) :
    Carries [] [] [] false held c held c.noteReadRequest :=
  ⟨hw.of_sublist (.refl _) rfl hw.full, List.append_nil _, List.append_nil _,
    (Bool.or_false _).symm⟩

omit [Recorder ω] in
theorem takeOutbound (hw : c.pipeline.WellFormed) :
    Carries [] [] [] false [] c c.pipeline.transport.flatten
      { c with pipeline := c.pipeline.takeOutbound.2 } where
  wellFormed := hw.of_sublist (.refl _) rfl hw.full
  inbound := List.append_nil _
  outbound := rfl
  endOfStream := (Bool.or_false _).symm

theorem submit {op : Outbound} (hw : c.pipeline.WellFormed) (held : Bytes)
    (h : c.submit k now op = some c') :
    Carries (c.submitHistory k now op) [] [] false held c held c' := by
  obtain ⟨⟨q, e⟩, hq, rfl⟩ := Option.map_eq_some_iff.1 h
  obtain ⟨hw', htail, htransport⟩ := hw.yields hq
  refine ⟨hw', ?_, ?_, (Bool.or_false _).symm⟩
  · rw [waiting, waiting, htail, List.nil_append, ← List.append_assoc]
    rfl
  · rw [htransport, List.flatten_append, List.nil_append, ← List.append_assoc]
    rfl

theorem fireAll {sigs : List Inbound} {q : Pipeline (Occupant η ξ)} {e : Env ω}
    (hw : c.pipeline.WellFormed) (held : Bytes)
    (h : c.pipeline.fireAll k.behaviour now sigs c.env = some (q, e))
    (hpipeline : c'.pipeline = q) (hpending : c'.pending = c.pending)
    (hend : c'.endOfStream = (c.endOfStream || heard)) :
    Carries (c.pipeline.fireHistory k.behaviour now sigs c.env) [] [] heard held c held c' := by
  obtain ⟨hw', htail, htransport⟩ := hw.yields_fireAll h
  refine ⟨hpipeline ▸ hw', ?_, ?_, hend⟩
  · rw [waiting, waiting, hpipeline, hpending, htail, List.nil_append, ← List.append_assoc]
  · rw [hpipeline, htransport, List.flatten_append, List.nil_append, ← List.append_assoc]

theorem accept {data : Bytes} (hw : c.pipeline.WellFormed) (held : Bytes)
    (h : c.accept k now data = some c') :
    Carries (c.pipeline.fireHistory k.behaviour now (incoming data) c.env) [] [] data.isEmpty held c
      held c' := by
  rw [accept_eq] at h
  obtain ⟨⟨q, e⟩, hq, rfl⟩ := Option.map_eq_some_iff.1 h
  exact fireAll hw held hq rfl rfl rfl

end Carries

/-- Whatever an operation does, it loses nothing. -/
theorem Leads.carries {d : Dealings η ξ ω} (hw : c.pipeline.WellFormed)
    (h : Leads k now held c d held₁ c') :
    Carries d.history d.seen [] (d.given.any List.isEmpty) held c held₁ c' := by
  -- the dispatches carry by themselves, everything else only moves signals from list to list
  induction h with
  | done halike => exact .same hw _ halike.pipeline halike.pending halike.endOfStream
  | alike _ halike ih =>
    exact (ih (halike.pipeline ▸ hw)).congr_left halike.pipeline halike.pending halike.endOfStream
  | forget _ ih => exact (ih hw).congr_left rfl rfl rfl
  | @collect held _ _ _ _ _ ih =>
    have h₁ := Carries.collect hw held
    exact h₁.trans (ih h₁.wellFormed)
  | look hpending _ ih =>
    have h₂ := (Carries.look _ hw _ hpending).trans (ih hw)
    rwa [List.append_nil] at h₂
  | @note held _ _ _ _ _ ih =>
    have h₁ := Carries.noteReadRequest hw held
    exact h₁.trans (ih h₁.wellFormed)
  | take _ ih =>
    have h₁ := Carries.takeOutbound hw
    exact h₁.trans (ih h₁.wellFormed)
  | @fire held _ c _ _ _ _ _ _ _ q e hall _ ih =>
    have h₁ : Carries _ [] [] false held c held { c with pipeline := q, env := e } :=
      .fireAll hw held hall rfl rfl (Bool.or_false _).symm
    exact h₁.trans (ih h₁.wellFormed)
  | @accept held _ _ _ _ _ _ _ _ _ haccept _ ih =>
    have h₁ := Carries.accept hw held haccept
    have h₂ := h₁.trans (ih h₁.wellFormed)
    rwa [Option.any_none, Bool.or_false] at h₂
  | @submit held _ _ _ _ _ _ _ _ _ _ hsubmit _ ih =>
    have h₁ := Carries.submit hw held hsubmit
    exact h₁.trans (ih h₁.wellFormed)
  | @ask held _ _ _ hsubmit halike =>
    have h₁ := Carries.submit hw held hsubmit
    have h₂ := h₁.followed (.noteReadRequest h₁.wellFormed held)
    rw [List.append_nil] at h₂
    exact h₂.congr halike.pipeline halike.pending halike.endOfStream

omit [Recorder ω] in
theorem Halts.told {errand : Errand} {requested : Bool} (h : Halts errand seen requested a) :
    Told seen a errand.stretch := by
  cases h with
  | opened hearly => exact ⟨rfl, rfl, _, rfl, hearly⟩
  | unopened => exact rfl
  | awaits hseen => exact ⟨rfl, hseen⟩
  | wrote _ | refused _ => exact ⟨rfl, rfl⟩
  | broke herrand =>
    rw [herrand]
    exact ⟨rfl, rfl⟩
  | gave hearly hs =>
    refine ⟨rfl, ?_⟩
    rw [chunks_append, chunks_of_undecided hearly, chunks_of_decided hs]
    rfl
  | exhausted hseen | asks hseen => exact ⟨rfl, chunks_of_undecided hseen⟩
  | drains herrand =>
    rw [herrand]
    exact ⟨.inl rfl, rfl⟩
  | closed herrand =>
    rw [herrand]
    exact ⟨.inr rfl, rfl⟩
  | unclosed => exact ⟨.inr rfl, rfl⟩
  | sends => exact told_none rfl

theorem opened_carries [Secured η] (hw : c.pipeline.WellFormed) (h : c.opened k now = some a) :
    ∃ seen, Carries (c.pipeline.fireHistory k.behaviour now [.registered, .active] c.env) seen []
      false [] c a.1.job.held a.1 ∧ Told seen a .opening := by
  obtain ⟨seen, requested, hleads, hhalts⟩ := opened_runs h
  exact ⟨seen, hleads.carries hw, hhalts.told⟩

end Connection
end SecureGateway

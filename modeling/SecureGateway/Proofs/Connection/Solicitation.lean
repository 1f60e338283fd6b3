import SecureGateway.Proofs.Connection.Conversation
import SecureGateway.Proofs.Connection.Demand

namespace SecureGateway

section Ends

variable {σ ω : Type} {b : Behaviour σ ω} {now : Instant} {p q : Pipeline σ} {w w' : ω} {hop : Hop}

namespace Pipeline

theorem WellFormed.requested (hp : p.WellFormed) (h : p.dispatch b now hop w = some (q, w')) :
    q.readRequested = true ↔
      p.readRequested = true ∨ .left (.outbound .read) ∈ p.history b now hop w := by
  obtain ⟨s, hd, rfl, -⟩ := hp.delivers h
  exact hd.readRequested_iff

theorem WellFormed.requested_fireAll (hp : p.WellFormed) {sigs : List Inbound}
    (h : p.fireAll b now sigs w = some (q, w')) : q.readRequested = true ↔
      p.readRequested = true ∨ .left (.outbound .read) ∈ p.fireHistory b now sigs w := by
  induction sigs generalizing p w with
  | nil =>
    obtain ⟨rfl, rfl⟩ := Prod.mk.inj (Option.some.inj h)
    simp [fireHistory]
  | cons s sigs ih =>
    obtain ⟨⟨p₁, w₁⟩, hfire, hrest⟩ := Option.bind_eq_some_iff.1 h
    rw [ih (hp.yields hfire).wellFormed hrest, hp.requested hfire, fireHistory, hfire,
      List.mem_append, or_assoc]

end Pipeline
end Ends

def Happening.isRequest {σ ω : Type} : Happening σ ω → Bool
  | .left (.outbound .read) => true
  | _ => false

def Job.listens : Job → Bool
  | .awaitingActive | .receiving _ => true
  | _ => false

namespace Connection

variable {η ξ ω : Type}

/-- Whether a request for a read is noted, or waits at the end of the chain to be. -/
def asked (c : Connection η ξ ω) : Bool := c.readPending || c.pipeline.readRequested

def hears (m : Move) (c : Connection η ξ ω) : Bool :=
  match m, c.job with
  | .socket (.received _), .awaitingActive => c.readPending
  | .socket (.received _), .receiving _ => true
  | _, _ => false

/-- Where the socket is listened to, every request is noted; and once the opening is over there is
one to note. -/
structure Solicits (c : Connection η ξ ω) : Prop where
  opening : c.job = .awaitingActive → c.pipeline.readRequested = false
  receiving : ∀ errand, c.job = .receiving errand →
    c.pipeline.readRequested = false ∧ c.readPending = true

theorem solicits_of_deaf {c : Connection η ξ ω} (h : c.job.listens = false) : c.Solicits where
  opening hjob := by
    rw [hjob] at h
    cases h
  receiving errand hjob := by
    rw [hjob] at h
    cases h

variable [Recorder ω] {k : StageKit η ξ ω} {now : Instant} {c c' : Connection η ξ ω}
  {a : Advance η ξ ω}

/-- A request that stands at the end stood before or left the chain meanwhile. What the socket gives
uses up one that was noted. -/
theorem Leads.asked {held held' : Bytes} {d : Dealings η ξ ω} (hw : c.pipeline.WellFormed)
    (h : Leads k now held c d held' c') (hasked : c'.asked = true) :
    (c.readPending = true ∧ d.given = none) ∨ c.pipeline.readRequested = true ∨
      .left (.outbound .read) ∈ d.history := by
  induction h with
  | @done _ c c' halike =>
    rw [Connection.asked, halike.pipeline, halike.readPending, Bool.or_eq_true_iff] at hasked
    exact hasked.imp (⟨·, rfl⟩) .inl
  | alike _ halike ih =>
    rw [← halike.pipeline, ← halike.readPending]
    exact ih (halike.pipeline ▸ hw) hasked
  -- once the note is forgotten, only a new request can be what is asked for
  | forget _ ih => exact .inr ((ih hw hasked).resolve_left nofun)
  | collect _ ih | take _ ih => exact ih (hw.of_sublist (.refl _) rfl hw.full) hasked
  | look _ _ ih => exact ih hw hasked
  | note _ ih =>
    rcases ih (hw.of_sublist (.refl _) rfl hw.full) hasked with ⟨hnoted, hgiven⟩ | hrequested | hleft
    · exact (Bool.or_eq_true_iff.1 hnoted).imp (⟨·, hgiven⟩) .inl
    · cases hrequested
    · exact .inr (.inr hleft)
  | fire hall _ ih =>
    refine (ih (hw.yields_fireAll hall).wellFormed hasked).imp_right fun h => ?_
    rw [List.mem_append, ← or_assoc, ← hw.requested_fireAll hall]
    exact h
  | accept haccept _ ih =>
    rw [accept_eq] at haccept
    obtain ⟨⟨q, e⟩, hall, rfl⟩ := Option.map_eq_some_iff.1 haccept
    right
    rw [List.mem_append, ← or_assoc, ← hw.requested_fireAll hall]
    exact (ih (hw.yields_fireAll hall).wellFormed hasked).resolve_left nofun
  | submit hsubmit _ ih =>
    obtain ⟨⟨q, e⟩, hq, rfl⟩ := Option.map_eq_some_iff.1 hsubmit
    refine (ih (hw.yields hq).wellFormed hasked).imp_right fun h => ?_
    rw [List.mem_append, ← or_assoc]
    exact h.imp_left (hw.requested hq).1
  | ask hsubmit halike =>
    obtain ⟨⟨q, e⟩, hq, rfl⟩ := Option.map_eq_some_iff.1 hsubmit
    rw [Connection.asked, halike.pipeline, halike.readPending] at hasked
    have hnoted := Bool.or_eq_true_iff.1 ((Bool.or_false _).symm.trans hasked)
    exact hnoted.imp (⟨·, rfl⟩) (hw.requested hq).1

/-- A request that the chain is asked for is noted, if no stage kept it to itself. -/
theorem Leads.requested {held held' : Bytes} {d : Dealings η ξ ω} (hw : c.pipeline.WellFormed)
    (h : Leads k now held c d held' c') (hpass : PassesReads (Occupant.react k) d.history)
    (hrequested : d.requested = true) : c'.readPending = true := by
  induction h with
  | done => cases hrequested
  | alike _ halike ih => exact ih (halike.pipeline ▸ hw) hpass hrequested
  | forget _ ih | look _ _ ih => exact ih hw hpass hrequested
  | collect _ ih | note _ ih | take _ ih =>
    exact ih (hw.of_sublist (.refl _) rfl hw.full) hpass hrequested
  | fire hall _ ih =>
    exact ih (hw.yields_fireAll hall).wellFormed (hpass.sublist (List.sublist_append_right _ _))
      hrequested
  | accept haccept _ ih =>
    exact ih (Carries.accept hw [] haccept).wellFormed
      (hpass.sublist (List.sublist_append_right _ _)) hrequested
  | submit hsubmit _ ih =>
    exact ih (Carries.submit hw [] hsubmit).wellFormed
      (hpass.sublist (List.sublist_append_right _ _)) hrequested
  | ask hsubmit halike =>
    obtain ⟨⟨q, e⟩, hq, rfl⟩ := Option.map_eq_some_iff.1 hsubmit
    obtain ⟨s, hd, rfl, -⟩ := hw.delivers hq
    have hleft := hd.solicits hpass ⟨_, List.mem_singleton.2 rfl, rfl⟩
    have hread : s.pipeline.readRequested = true := hd.readRequested_iff.2 (.inr hleft)
    rw [halike.readPending]
    exact Bool.or_eq_true_iff.2 (.inr hread)

omit [Recorder ω] in
theorem Halts.solicits {errand : Errand} {seen : List Inbound} {requested : Bool}
    (h : Halts errand seen requested a) (hrequested : requested = true → a.1.readPending = true) :
    a.1.Solicits := by
  cases h with
  | awaits => exact ⟨fun _ => rfl, fun _ => nofun⟩
  | asks _ | drains _ => exact ⟨nofun, fun _ _ => ⟨rfl, hrequested rfl⟩⟩
  | _ => exact solicits_of_deaf rfl

omit [Recorder ω] in
theorem Comes.solicits {errand? : Option Errand} {stretch : Errand.Stretch} {seen : List Inbound}
    {requested : Bool} (hs : c.Solicits) (h : Comes c errand? stretch seen requested a)
    (hrequested : requested = true → a.1.readPending = true) : a.1.Solicits := by
  cases h with
  | stays => exact hs
  | dropped _ hjob =>
    refine solicits_of_deaf ?_
    rcases hjob with hidle | hended
    · rw [hidle]
      rfl
    · rw [hended]
      rfl
  | halts hhalts => exact hhalts.solicits hrequested

omit [Recorder ω] in
theorem hears_eq (m : Move) (c : Connection η ξ ω) : c.hears m = (c.given m).isSome := by
  unfold hears given
  cases m with
  | socket ev =>
    cases ev with
    | received data =>
      cases c.job with
      | awaitingActive => cases c.readPending <;> rfl
      | _ => rfl
    | _ => rfl
  | _ => rfl

omit [Recorder ω] in
theorem Solicits.noted_of_hears {m : Move} (hs : c.Solicits) (h : c.hears m = true) :
    c.pipeline.readRequested = false := by
  unfold hears at h
  split at h
  · rename_i hjob
    exact hs.opening hjob
  · rename_i errand hjob
    exact (hs.receiving errand hjob).1
  · cases h

variable [Secured η]

/-- After a move: a request stands only if it stood before and the socket was not read, or if one
left the chain; and what is listened for was asked for. -/
def Answers (k : StageKit η ξ ω) (now : Instant) (m : Move) (c : Connection η ξ ω)
    (a : Advance η ξ ω) : Prop :=
  (a.1.asked = true → (c.asked = true ∧ c.hears m = false) ∨
    .left (.outbound .read) ∈ c.moveHistory k now m) ∧ a.1.Solicits

theorem move_answers {m : Move} (hw : c.pipeline.WellFormed) (hs : c.Solicits)
    (hpass : PassesReads (Occupant.react k) (c.moveHistory k now m))
    (h : c.move k now m = some a) : Answers k now m c a := by
  obtain ⟨rest, seen, requested, -, hleads, hcomes⟩ := move_moved h
  refine ⟨fun hasked => ?_, hcomes.solicits hs (hleads.requested hw hpass)⟩
  rcases hleads.asked hw hasked with ⟨hnoted, hgiven⟩ | hrequested | hleft
  · exact .inl ⟨Bool.or_eq_true_iff.2 (.inl hnoted), by rw [hears_eq]; exact congrArg _ hgiven⟩
  · refine .inl ⟨Bool.or_eq_true_iff.2 (.inr hrequested), Bool.eq_false_iff.2 fun hhears => ?_⟩
    cases hrequested.symm.trans (hs.noted_of_hears hhears)
  · exact .inr hleft

omit [Recorder ω] [Secured η] in
theorem Solicits.asked_of_hears {m : Move} (hs : c.Solicits) (h : c.hears m = true) :
    c.asked = true := by
  refine Bool.or_eq_true_iff.2 (.inl ?_)
  unfold hears at h
  split at h
  · exact h
  · rename_i errand hjob
    exact (hs.receiving errand hjob).2
  · cases h

end Connection

namespace Talk

variable {η ξ ω : Type} [Recorder ω] [Secured η] {k : StageKit η ξ ω} {t t' : Talk η ξ ω}
  {base : List (Happening (Occupant η ξ) (Env ω))} {moves : List (Instant × Move)}

/-- What is listened for was asked for, and what stands of that came after `base`. -/
structure Solicited (base : List (Happening (Occupant η ξ) (Env ω))) (t : Talk η ξ ω) : Prop where
  wellFormed : t.connection.pipeline.WellFormed
  solicits : t.connection.Solicits
  since : ∃ l, t.history = base ++ l ∧ (t.connection.asked = true → .left (.outbound .read) ∈ l)

theorem history_prefix_play (h : t.play k moves = some t') : t.history <+: t'.history := by
  induction moves generalizing t with
  | nil => exact Option.some.inj h ▸ List.prefix_rfl
  | cons x moves ih =>
    obtain ⟨a, -, hrest⟩ := Option.bind_eq_some_iff.1 h
    exact (List.prefix_append _ _).trans (ih hrest)

theorem solicited_after {now : Instant} {m : Move} {a : Advance η ξ ω}
    (hw : a.1.pipeline.WellFormed) (ha : Connection.Answers k now m t.connection a)
    (h : t.connection.hears m = true) : (t.after k now m a).Solicited t.history where
  wellFormed := hw
  solicits := ha.2
  since := ⟨_, rfl, fun hasked => (ha.1 hasked).resolve_left fun hdeaf => by
    cases h.symm.trans hdeaf.2⟩

theorem Solicited.after {now : Instant} {m : Move} {a : Advance η ξ ω} (ht : t.Solicited base)
    (hw : a.1.pipeline.WellFormed) (ha : Connection.Answers k now m t.connection a) :
    (t.after k now m a).Solicited base where
  wellFormed := hw
  solicits := ha.2
  since := by
    obtain ⟨l, hhistory, hsince⟩ := ht.since
    refine ⟨l ++ t.connection.moveHistory k now m, ?_, fun hasked => List.mem_append.2 ?_⟩
    · rw [← List.append_assoc, ← hhistory]
      rfl
    · exact (ha.1 hasked).imp (fun h => hsince h.1) fun h => h

theorem Solicited.move {now : Instant} {m : Move} {a : Advance η ξ ω} (ht : t.Solicited base)
    (hpass : PassesReads (Occupant.react k) t'.history)
    (hhistory : (t.after k now m a).history <+: t'.history)
    (h : t.connection.move k now m = some a) :
    a.1.pipeline.WellFormed ∧ Connection.Answers k now m t.connection a := by
  obtain ⟨_, hcarries, -⟩ := Connection.move_accounts ht.wellFormed h
  exact ⟨hcarries.wellFormed, Connection.move_answers ht.wellFormed ht.solicits
    (hpass.sublist ((List.sublist_append_right _ _).trans hhistory.sublist)) h⟩

theorem Solicited.play (ht : t.Solicited base)
    (hpass : PassesReads (Occupant.react k) t'.history) (h : t.play k moves = some t') :
    t'.Solicited base := by
  induction moves generalizing t with
  | nil => exact Option.some.inj h ▸ ht
  | cons x moves ih =>
    obtain ⟨now, m⟩ := x
    obtain ⟨a, hmove, hrest⟩ := Option.bind_eq_some_iff.1 h
    obtain ⟨hw, ha⟩ := ht.move hpass (history_prefix_play hrest) hmove
    exact ih (ht.after hw ha) hrest

end Talk

namespace Connection

variable {κ β η ξ ω : Type} [Recorder ω] [Secured η]

/-- Where no stage keeps a request for a read to itself, one has left the chain before the socket is
read, and after it was read before: all through an opening and all operations that follow. -/
theorem requested_before_read {k : StageKit η ξ ω} {now : Instant} {o : ConnectOptions κ β η}
    {remote : RemoteAddress} {p : Pipeline (Occupant η ξ)} {env : Env ω}
    {earlier later : List (Instant × Move)} {t t' : Talk η ξ ω} {m : Move} (hp : p.Fresh)
    (hnone : p.readRequested = false)
    (h : (start now o remote p env).converse k now earlier = some t)
    (hplay : t.play k later = some t') (hpass : PassesReads (Occupant.react k) t'.history)
    (hhears : t'.connection.hears m = true) :
    .left (.outbound .read) ∈ t'.history ∧
      ∀ first rest, later = first :: rest → t.connection.hears first.2 = true →
        ∃ l, t'.history = t.history ++ l ∧ .left (.outbound .read) ∈ l := by
  have hpass₀ := hpass.sublist (Talk.history_prefix_play hplay).sublist
  obtain ⟨a, hopened, htalk⟩ := Option.bind_eq_some_iff.1 h
  -- an opening starts without a request
  have hbegin : (Talk.begin (p.fireHistory k.behaviour now [.registered, .active] env) a).Solicited
      [] := by
    obtain ⟨seen, requested, hleads, hhalts⟩ :=
      opened_runs (c := start now o remote p env) hopened
    have hpass₁ := hpass₀.sublist (Talk.history_prefix_play htalk).sublist
    refine ⟨(hleads.carries hp.wellFormed).wellFormed,
      hhalts.solicits (hleads.requested hp.wellFormed hpass₁), _, rfl, fun hasked => ?_⟩
    rcases hleads.asked hp.wellFormed hasked with ⟨hnoted, -⟩ | hrequested | hleft
    · cases hnoted
    · cases hrequested.symm.trans hnone
    · exact hleft
  have ht : t.Solicited [] := hbegin.play hpass₀ htalk
  have hlast : ∀ {base}, t'.Solicited base →
      ∃ l, t'.history = base ++ l ∧ .left (.outbound .read) ∈ l := fun ht' => by
    obtain ⟨l, hhistory, hsince⟩ := ht'.since
    exact ⟨l, hhistory, hsince (ht'.solicits.asked_of_hears hhears)⟩
  refine ⟨?_, ?_⟩
  · obtain ⟨l, rfl, hleft⟩ := hlast (ht.play hpass hplay)
    exact hleft
  · rintro ⟨now₁, first⟩ rest rfl hfirst
    obtain ⟨a₁, hmove, hrest⟩ := Option.bind_eq_some_iff.1 hplay
    obtain ⟨hw, ha⟩ := ht.move hpass (Talk.history_prefix_play hrest) hmove
    exact hlast ((Talk.solicited_after hw ha hfirst).play hpass hrest)

theorem passesReads_closed {ε : Type} (m : EngineModel ε)
    (l : List (Happening (Occupant (TlsStage ε) Empty) (Env ω))) :
    PassesReads (Occupant.react (.closed (TlsStage.react m))) l := by
  rintro ⟨v, sig, h, e⟩ - hsig
  obtain rfl : sig = .outbound .read := hsig
  cases h with
  | custom x => exact x.elim
  | _ => exact List.mem_singleton.2 rfl

/-- A stage that keeps every request for a read to itself. -/
def withholding : StageKit BriefStage Unit Unit where
  handshake _ sig h w := .pass h sig w
  custom _ sig x w :=
    match sig with
    | .outbound .read => .emit x [] w
    | _ => .pass x sig w
  limit := 40

def withholdingTalk (moves : List (Instant × Move)) : Option (Talk BriefStage Unit Unit) :=
  let o : ConnectOptions Unit Unit BriefStage := {}
  let p := ⟨⟨0, none⟩, [⟨0, .proxy, some (.custom ())⟩], 1, [], [], false, false⟩
  (start 0 o (.opaqueName "peer") p ⟨[], ()⟩).converse withholding 0 moves

/-- No request leaves the chain, and the socket of the open connection is read all the same. -/
theorem read_without_request :
    ∃ t, withholdingTalk [(1, .read), (2, .socket (.received [1]))] = some t ∧
      t.results = [.ok .opened, .ok (.received (some [1]))] ∧
      .left (.outbound .read) ∉ t.history := by
  have hrun : (withholdingTalk [(1, .read), (2, .socket (.received [1]))]).map
      (fun t => (t.results, t.history.any Happening.isRequest)) =
        some ([.ok .opened, .ok (.received (some [1]))], false) := by
    decide +kernel
  obtain ⟨t, h, ht⟩ := Option.map_eq_some_iff.1 hrun
  obtain ⟨hresults, hnone⟩ := Prod.mk.inj ht
  refine ⟨t, h, hresults, fun hleft => ?_⟩
  exact absurd rfl (List.any_eq_false.1 hnone _ hleft)

end Connection
end SecureGateway

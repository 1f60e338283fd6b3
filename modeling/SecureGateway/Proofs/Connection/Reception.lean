import SecureGateway.Proofs.Connection.Conversation

namespace SecureGateway

variable {η ξ ω : Type}

/-- How far a talk has come. -/
inductive Talk.Heeds (t : Talk η ξ ω) : Prop
  | opening (results : t.results = []) (job : t.connection.job.stretch = .opening)
    (looked : ∃ seen, arrivals t.history = seen ++ t.connection.waiting ∧
      Connection.decideOpening seen = none)
  /-- The caller has all data that was looked at since, unless it closed the connection. -/
  | opened {rs : List (Except ConnectError Outcome)} (results : t.results = .ok .opened :: rs)
    (job : t.connection.job.stretch ≠ .opening)
    (looked : ∃ before seen, arrivals t.history = before ++ .active :: (seen ++ t.connection.waiting) ∧
      Connection.decideOpening before = none ∧ rs.filterMap received? <+: chunks seen ∧
      (t.connection.job.stretch = .open → chunks seen = rs.filterMap received?))
  | failed (results : ∀ rs, t.results ≠ .ok .opened :: rs) (job : t.connection.job = .ended)

theorem Connection.Told.opening_append {a : Advance η ξ ω} {seen seen₁ : List Inbound}
    (h : Told seen₁ a .opening) (hseen : decideOpening seen = none) :
    Told (seen ++ seen₁) a .opening := by
  obtain ⟨c, r⟩ := a
  cases r with
  | none => exact ⟨h.1, by rw [decideOpening_append, hseen]; exact h.2⟩
  | some result =>
    cases result with
    | error e => exact h
    | ok outcome =>
      obtain ⟨hr, hidle, early, rfl, hearly⟩ := h
      refine ⟨hr, hidle, seen ++ early, (List.append_assoc _ _ _).symm, ?_⟩
      rw [decideOpening_append, hseen]
      exact hearly

namespace Talk

variable [Recorder ω] [Secured η] {k : StageKit η ξ ω} {now : Instant} {m : Move} {t t' : Talk η ξ ω}
  {a : Advance η ξ ω}

omit [Recorder ω] [Secured η] in
theorem received_append (rs : List (Except ConnectError Outcome))
    (r : Option (Except ConnectError Outcome)) :
    (rs ++ r.toList).filterMap received? = rs.filterMap received? ++ (r.bind received?).toList := by
  rw [List.filterMap_append]
  congr 1
  cases r with
  | none => rfl
  | some r =>
    rw [Option.toList_some, List.filterMap_cons, Option.bind_some]
    cases received? r <;> rfl

omit [Recorder ω] [Secured η] in
theorem heeds_of_opening {r : Option (Except ConnectError Outcome)} {seen : List Inbound}
    (hresults : t.results = r.toList) (harrivals : arrivals t.history = seen ++ t.connection.waiting)
    (htold : Connection.Told seen (t.connection, r) .opening) : t.Heeds := by
  cases r with
  | none => exact .opening hresults htold.1 ⟨seen, harrivals, htold.2⟩
  | some result =>
    cases result with
    | error e => exact .failed (by rw [hresults]; nofun) htold
    | ok outcome =>
      obtain ⟨rfl, hidle, early, rfl, hearly⟩ := htold
      refine .opened hresults ?_ ⟨early, [], ?_, hearly, List.nil_prefix, fun _ => rfl⟩
      · rw [hidle]
        nofun
      · rw [harrivals, List.append_assoc]
        rfl

theorem arrivals_after (front : List Inbound) {seen seen₁ : List Inbound}
    {took held held' : Bytes} {heard : Bool}
    (hcarries : Connection.Carries (t.connection.moveHistory k now m) seen₁ took heard held
      t.connection held' a.1)
    (h : arrivals t.history = front ++ (seen ++ t.connection.waiting)) :
    arrivals (t.after k now m a).history = front ++ ((seen ++ seen₁) ++ a.1.waiting) := by
  have happend : arrivals (t.after k now m a).history =
      arrivals t.history ++ arrivals (t.connection.moveHistory k now m) := List.filterMap_append
  rw [happend, h, List.append_assoc, List.append_assoc, hcarries.inbound]
  simp only [List.append_assoc]

theorem heeds_after_opening (hresults : t.results = []) (hjob : t.connection.job.stretch = .opening)
    {seen : List Inbound} (harrivals : arrivals t.history = seen ++ t.connection.waiting)
    (hseen : Connection.decideOpening seen = none)
    (ha : Connection.Accounts k now m t.connection a) : (t.after k now m a).Heeds := by
  obtain ⟨seen₁, hcarries, htold⟩ := ha
  have hresults' : (t.after k now m a).results = a.2.toList := by
    show t.results ++ a.2.toList = a.2.toList
    rw [hresults, List.nil_append]
  rcases Connection.stretch_cases m t.connection with hm | hm | ⟨hopen, -⟩
  · rw [hm, hjob] at htold
    exact heeds_of_opening hresults' (arrivals_after [] hcarries harrivals)
      (htold.opening_append hseen)
  · rw [hm] at htold
    exact .failed (by rw [hresults', htold.2]; nofun) htold.1
  · rw [hjob] at hopen
    cases hopen

theorem heeds_after_opened {rs : List (Except ConnectError Outcome)}
    (hresults : t.results = .ok .opened :: rs) (hjob : t.connection.job.stretch ≠ .opening)
    {before seen : List Inbound}
    (harrivals : arrivals t.history = before ++ .active :: (seen ++ t.connection.waiting))
    (hbefore : Connection.decideOpening before = none)
    (hgiven : rs.filterMap received? <+: chunks seen)
    (hall : t.connection.job.stretch = .open → chunks seen = rs.filterMap received?)
    (ha : Connection.Accounts k now m t.connection a) : (t.after k now m a).Heeds := by
  obtain ⟨seen₁, hcarries, htold⟩ := ha
  have hresults' : (t.after k now m a).results = .ok .opened :: (rs ++ a.2.toList) := by
    show t.results ++ a.2.toList = _
    rw [hresults, List.cons_append]
  have harrivals' : arrivals (t.after k now m a).history =
      before ++ .active :: ((seen ++ seen₁) ++ a.1.waiting) := by
    rw [List.append_cons]
    exact arrivals_after _ hcarries (by rw [harrivals, List.append_cons])
  -- once the connection is being closed, its caller is given nothing more
  have hclosed : a.2.bind received? = none → a.1.job.stretch ≠ .opening → a.1.job.stretch ≠ .open →
      (t.after k now m a).Heeds := by
    intro hnone hnot hnot'
    refine .opened hresults' hnot ⟨before, seen ++ seen₁, harrivals', hbefore, ?_,
      fun hopen => absurd hopen hnot'⟩
    rw [received_append, hnone, Option.toList_none, List.append_nil, chunks_append]
    exact hgiven.trans (List.prefix_append _ _)
  cases hstretch : t.connection.stretch m with
  | opening => exact absurd (Connection.opening_of_stretch hstretch) hjob
  | «open» =>
    rw [hstretch] at htold
    obtain ⟨hjob', hseen₁⟩ := htold
    have hchunks : chunks (seen ++ seen₁) = (rs ++ a.2.toList).filterMap received? := by
      rw [chunks_append, received_append, hall (Connection.open_of_stretch hstretch), hseen₁]
    refine .opened hresults' ?_ ⟨before, seen ++ seen₁, harrivals', hbefore,
      hchunks ▸ List.prefix_refl _, fun _ => hchunks⟩
    show a.1.job.stretch ≠ .opening
    rw [hjob']
    nofun
  | closing =>
    rw [hstretch] at htold
    obtain ⟨hclosing | hended, hnone⟩ := htold
    · exact hclosed hnone (by rw [hclosing]; nofun) (by rw [hclosing]; nofun)
    · exact hclosed hnone (by rw [hended]; nofun) (by rw [hended]; nofun)
  | ended =>
    rw [hstretch] at htold
    exact hclosed (by rw [htold.2]; rfl) (by rw [htold.1]; nofun) (by rw [htold.1]; nofun)

theorem heeds_after_failed (hresults : ∀ rs, t.results ≠ .ok .opened :: rs)
    (hjob : t.connection.job = .ended) (ha : Connection.Accounts k now m t.connection a) :
    (t.after k now m a).Heeds := by
  obtain ⟨seen₁, -, htold⟩ := ha
  have hstretch : t.connection.stretch m = .ended := by
    rcases Connection.stretch_cases m t.connection with h | h | ⟨h, -⟩
    · rw [h, hjob]
      rfl
    · exact h
    · rw [hjob] at h
      cases h
  rw [hstretch] at htold
  refine .failed ?_ htold.1
  show ∀ rs, t.results ++ a.2.toList ≠ _
  rw [htold.2, Option.toList_none, List.append_nil]
  exact hresults

theorem Heeds.after (ht : t.Heeds) (ha : Connection.Accounts k now m t.connection a) :
    (t.after k now m a).Heeds := by
  cases ht with
  | opening hresults hjob hlooked =>
    obtain ⟨seen, harrivals, hseen⟩ := hlooked
    exact heeds_after_opening hresults hjob harrivals hseen ha
  | opened hresults hjob hlooked =>
    obtain ⟨before, seen, harrivals, hbefore, hprefix, hall⟩ := hlooked
    exact heeds_after_opened hresults hjob harrivals hbefore hprefix hall ha
  | failed hresults hjob => exact heeds_after_failed hresults hjob ha

end Talk

namespace Connection

variable [Recorder ω] {k : StageKit η ξ ω} {now : Instant} {c : Connection η ξ ω}

/-- At the end of the stream, and with no data left, a read does not wait. -/
theorem continueReading_of_end (k : StageKit η ξ ω) (now : Instant)
    (hend : c.endOfStream = true) (hchunks : chunks c.waiting = []) :
    ∃ c' r, c.continueReading k now = some (c', some r) ∧ c.readingHistory k now = [] ∧
      c'.job = .idle ∧ c'.endOfStream = true ∧ (∃ seen, c.waiting = seen ++ c'.waiting) ∧
      (r = .ok (.received none) ∨
        ∃ cause, .exception cause ∈ c.waiting ∧ r = .error (.tls cause)) := by
  have hpending : c.collect.pending = c.waiting := rfl
  simp only [continueReading, readingHistory, hpending]
  cases hdecide : decideReading c.waiting with
  | none =>
    have hend' : c.collect.endOfStream = true := hend
    rw [if_pos hend, if_pos hend']
    exact ⟨_, _, rfl, rfl, rfl, hend, ⟨c.waiting, (List.append_nil _).symm⟩, .inl rfl⟩
  | some x =>
    obtain ⟨r, rest⟩ := x
    obtain ⟨early, s, hsplit, -, later, hs⟩ := decideReading_split hdecide
    have hmem : s ∈ c.waiting := by rw [hsplit]; simp
    refine ⟨_, _, rfl, rfl, rfl, hend, ⟨early ++ [s], ?_⟩, ?_⟩
    · exact hsplit.trans (congrArg _ (List.append_nil rest).symm)
    · -- what settles the read is no data, since none is left
      rcases decideReading_singleton hs with ⟨data, rfl, -⟩ | ⟨cause, rfl, rfl⟩ | ⟨-, rfl⟩
      · have hdata : data ∈ chunks c.waiting := List.mem_filterMap.2 ⟨_, hmem, rfl⟩
        rw [hchunks] at hdata
        cases hdata
      · exact .inr ⟨cause, hmem, rfl⟩
      · exact .inl rfl

end Connection

namespace Talk

variable [Recorder ω] [Secured η] {k : StageKit η ξ ω} {t : Talk η ξ ω}

theorem play_reads_of_end (hidle : t.connection.job = .idle)
    (hend : t.connection.endOfStream = true) (hchunks : chunks t.connection.waiting = [])
    (times : List Instant) :
    ∃ t' rs, t.play k (times.map (·, .read)) = some t' ∧ t'.connection.job = .idle ∧
      t'.history = t.history ∧ t'.results = t.results ++ rs ∧ rs.length = times.length ∧
      ∀ r ∈ rs, r = .ok (.received none) ∨
        ∃ cause, .exception cause ∈ t.connection.waiting ∧ r = .error (.tls cause) := by
  induction times generalizing t with
  | nil =>
    exact ⟨t, [], rfl, hidle, rfl, (List.append_nil _).symm, rfl,
      fun r hr => absurd hr List.not_mem_nil⟩
  | cons now times ih =>
    -- a read takes at most something off the queue; the next one finds a shorter queue of the same
    -- kind
    obtain ⟨c, r, hread, hhistory, hidle', hend', ⟨seen, hwaiting⟩, hr⟩ :=
      Connection.continueReading_of_end k now hend hchunks
    have hmove : t.connection.move k now .read = some (c, some r) := by
      simp only [Connection.move, hidle]
      exact hread
    have hhistory' : t.connection.moveHistory k now .read = [] := by
      simp only [Connection.moveHistory, hidle]
      exact hhistory
    have hchunks' : chunks c.waiting = [] := by
      rw [hwaiting, chunks_append] at hchunks
      exact (List.append_eq_nil_iff.1 hchunks).2
    obtain ⟨t', rs, hplay, hjob, hsame, hresults, hlength, hrs⟩ :=
      ih (t := t.after k now .read (c, some r)) hidle' hend' hchunks'
    refine ⟨t', r :: rs, ?_, hjob, ?_, ?_, ?_, ?_⟩
    · simp only [List.map_cons, play, hmove, Option.bind_some]
      exact hplay
    · rw [hsame]
      show t.history ++ t.connection.moveHistory k now .read = t.history
      rw [hhistory', List.append_nil]
    · rw [hresults]
      show t.results ++ [r] ++ rs = _
      rw [List.append_assoc, List.singleton_append]
    · rw [List.length_cons, List.length_cons, hlength]
    · intro x hx
      rcases List.mem_cons.1 hx with rfl | hx
      · exact hr
      · rcases hrs x hx with hnone | ⟨cause, hmem, hcause⟩
        · exact .inl hnone
        · exact .inr ⟨cause, hwaiting ▸ List.mem_append_right seen hmem, hcause⟩

end Talk

namespace Connection

variable {κ β : Type} [Recorder ω] [Secured η]

/-- Whatever the stages do, the chunks that a caller reads are, in order and each of them once, the
first of those that leave the pipeline after the activity that opened the connection, through all
operations that are dropped or fail. None is lost: those that it was not given are still waiting.
When the socket has reported its end and all are given out, any number of reads come to nothing or to
a failure that is pending, and none of them asks the pipeline or waits for the socket. -/
theorem reads_in_order {k : StageKit η ξ ω} {now : Instant} {o : ConnectOptions κ β η}
    {remote : RemoteAddress} {p : Pipeline (Occupant η ξ)} {env : Env ω}
    {moves : List (Instant × Move)} {t : Talk η ξ ω} {rs : List (Except ConnectError Outcome)}
    (hp : p.Fresh) (h : (start now o remote p env).converse k now moves = some t)
    (hopened : t.results = .ok .opened :: rs) :
    ∃ before after, arrivals t.history = before ++ .active :: after ∧
      decideOpening before = none ∧
      rs.filterMap received? <+: chunks after ∧
      (t.connection.job.stretch = .open →
        chunks after = rs.filterMap received? ++ chunks t.connection.waiting) ∧
      (t.heardEnd = true → t.connection.job = .idle → chunks after = rs.filterMap received? →
        ∀ times : List Instant, ∃ t' later, t.play k (times.map (·, .read)) = some t' ∧
          t'.connection.job = .idle ∧ t'.history = t.history ∧ t'.results = t.results ++ later ∧
          later.length = times.length ∧ ∀ r ∈ later, r = .ok (.received none) ∨
            ∃ cause, .exception cause ∈ t.connection.waiting ∧ r = .error (.tls cause)) := by
  -- both are kept by every move, the second because only the socket says that the stream ended
  have hfaithful : t.Heeds ∧ t.connection.endOfStream = t.heardEnd := by
    refine converse_induction (P := fun t => t.Heeds ∧ t.connection.endOfStream = t.heardEnd)
      ?_ ?_ hp h
    · intro l a seen harrivals _ hend htold
      exact ⟨Talk.heeds_of_opening rfl harrivals htold, hend⟩
    · intro t now m a ht ha
      refine ⟨ht.1.after ha, ?_⟩
      obtain ⟨seen, hcarries, -⟩ := ha
      show a.1.endOfStream = _
      rw [hcarries.endOfStream, ht.2]
      rfl
  obtain ⟨hheeds, hend⟩ := hfaithful
  cases hheeds with
  | opening hresults =>
    rw [hresults] at hopened
    cases hopened
  | failed hresults => exact absurd hopened (hresults rs)
  | opened hresults _ hlooked =>
    obtain ⟨-, rfl⟩ := List.cons.inj (hresults.symm.trans hopened)
    obtain ⟨before, seen, harrivals, hbefore, hprefix, hall⟩ := hlooked
    refine ⟨before, seen ++ t.connection.waiting, harrivals, hbefore, ?_, ?_, ?_⟩
    · rw [chunks_append]
      exact hprefix.trans (List.prefix_append _ _)
    · intro hopen
      rw [chunks_append, hall hopen]
    · intro hheard hidle hused
      have hseen := hall (by rw [hidle]; rfl)
      rw [chunks_append, hseen] at hused
      exact Talk.play_reads_of_end hidle (hend.trans hheard) (List.append_right_eq_self.1 hused)

/-- A stage that hands on what comes in as two chunks and returns the first of them to the peer. -/
def splitting : StageKit BriefStage Unit Unit where
  handshake _ sig h w := .pass h sig w
  custom _ sig x w :=
    match sig with
    | .inbound (.read (b :: data)) =>
      .emit x [.inbound (.read [b]), .inbound (.read data), .outbound (.write [b])] w
    | _ => .pass x sig w
  limit := 40

def splittingChain : Pipeline (Occupant BriefStage Unit) :=
  ⟨⟨0, none⟩, [⟨0, .proxy, some (.custom ())⟩], 1, [], [], false, false⟩

def splittingTalk (moves : List (Instant × Move)) : Option (Talk BriefStage Unit Unit) :=
  let o : ConnectOptions Unit Unit BriefStage := {}
  (start 0 o (.opaqueName "peer") splittingChain ⟨[], ()⟩).converse splitting 0 moves

/-- The first read is dropped while what came of its bytes is sent. -/
theorem reads_in_order_of_splitting :
    ∃ t before after, splittingTalk [(1, .read), (2, .socket (.received [1, 2, 3])), (3, .drop),
        (4, .read), (5, .read), (6, .read), (7, .socket (.received []))] = some t ∧
      t.results = [.ok .opened, .ok (.received (some [1])), .ok (.received (some [2, 3])),
        .ok (.received none)] ∧
      arrivals t.history = before ++ .active :: after ∧ chunks after = [[1], [2, 3]] := by
  have hfresh : splittingChain.Fresh := (Pipeline.Fresh.new ⟨0, none⟩).add
    (show Pipeline.add _ .last .proxy (.custom ()) = .ok splittingChain from rfl)
  have hrun : (splittingTalk [(1, .read), (2, .socket (.received [1, 2, 3])), (3, .drop),
      (4, .read), (5, .read), (6, .read), (7, .socket (.received []))]).map
        (fun t => (t.results, t.connection.job.stretch, chunks t.connection.waiting)) =
      some ([.ok .opened, .ok (.received (some [1])), .ok (.received (some [2, 3])),
        .ok (.received none)], .open, []) := by
    decide +kernel
  obtain ⟨t, h, ht⟩ := Option.map_eq_some_iff.1 hrun
  obtain ⟨hresults, ht⟩ := Prod.mk.inj ht
  obtain ⟨hopen, hwaiting⟩ := Prod.mk.inj ht
  obtain ⟨before, after, harrivals, -, -, hall, -⟩ := reads_in_order hfresh h hresults
  refine ⟨t, before, after, h, hresults, harrivals, ?_⟩
  rw [hall hopen, hwaiting]
  rfl

end Connection
end SecureGateway

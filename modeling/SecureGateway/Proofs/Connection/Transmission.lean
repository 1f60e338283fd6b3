import SecureGateway.Proofs.Connection.Conversation

namespace SecureGateway

variable {κ β η ξ ω : Type}

namespace Connection

theorem kept_or_taken (m : Move) (c : Connection η ξ ω) :
    c.kept m = c.job.held ∨ (c.kept m = [] ∧ c.taken m = []) := by
  unfold kept taken
  cases m with
  | drop => exact .inr ⟨rfl, rfl⟩
  | socket ev =>
    cases ev with
    | failed e => exact .inr ⟨rfl, rfl⟩
    | expired =>
      cases hjob : c.job with
      | sending errand unsent =>
        by_cases hopen : errand.stretch = .open
        · exact .inl (if_pos hopen)
        · exact .inr ⟨if_neg hopen, rfl⟩
      | _ => exact .inl rfl
    | _ => cases c.job <;> exact .inl rfl
  | _ => cases c.job <;> exact .inl rfl

theorem kept_sublist (m : Move) (c : Connection η ξ ω) : (c.kept m).Sublist c.job.held := by
  rcases c.kept_or_taken m with hkept | ⟨hkept, -⟩
  · rw [hkept]
  · rw [hkept]
    exact List.nil_sublist _

end Connection

/-- What was taken and what is still to be sent, against all that left the pipeline. -/
structure Talk.Sends (t : Talk η ξ ω) : Prop where
  sublist : (t.taken ++ (t.connection.job.held ++ t.connection.pipeline.transport.flatten)).Sublist
    (departures t.history).flatten
  whole : t.cut = false → (departures t.history).flatten =
    t.taken ++ (t.connection.job.held ++ t.connection.pipeline.transport.flatten)
  ahead : t.gap = false → t.taken <+: (departures t.history).flatten

namespace Talk

variable [Recorder ω] [Secured η] {k : StageKit η ξ ω} {now : Instant} {m : Move} {t : Talk η ξ ω}
  {a : Advance η ξ ω}

theorem flatten_departures_after (k : StageKit η ξ ω) (now : Instant) (m : Move) (t : Talk η ξ ω)
    (a : Advance η ξ ω) : (departures (t.after k now m a).history).flatten =
      (departures t.history).flatten ++
        (departures (t.connection.moveHistory k now m)).flatten := by
  rw [← List.flatten_append]
  exact congrArg List.flatten List.filterMap_append

theorem Sends.after (ht : t.Sends) (ha : Connection.Accounts k now m t.connection a) :
    (t.after k now m a).Sends := by
  obtain ⟨seen, hcarries, -⟩ := ha
  have hout := hcarries.outbound
  have hdepartures := flatten_departures_after k now m t a
  -- what was taken, and after it what this move keeps and what it brings
  have hrest : (t.after k now m a).taken ++ ((t.after k now m a).connection.job.held ++
      (t.after k now m a).connection.pipeline.transport.flatten) =
        t.taken ++ (t.connection.kept m ++ t.connection.pipeline.transport.flatten) ++
          (departures (t.connection.moveHistory k now m)).flatten := by
    rw [List.append_assoc t.taken, hout]
    exact List.append_assoc t.taken _ _
  constructor
  · rw [hdepartures, hrest]
    refine List.Sublist.append (.trans ?_ ht.sublist) (.refl _)
    exact List.Sublist.append (.refl _)
      (List.Sublist.append (Connection.kept_sublist m t.connection) (.refl _))
  · intro hcut
    obtain ⟨hcut, hkept⟩ := Bool.or_eq_false_iff.1 hcut
    have hkept : t.connection.kept m = t.connection.job.held := by simpa using hkept
    rw [hdepartures, hrest, ht.whole hcut, hkept]
  · intro hgap
    obtain ⟨hgap, hlater⟩ := Bool.or_eq_false_iff.1 hgap
    rw [hdepartures]
    show t.taken ++ t.connection.taken m <+: _
    -- until bytes are given up, the socket has all that went before
    have hidle : t.connection.taken m = [] → t.taken ++ t.connection.taken m <+:
        (departures t.history).flatten ++ (departures (t.connection.moveHistory k now m)).flatten := by
      intro hnone
      rw [hnone, List.append_nil]
      exact (ht.ahead hgap).trans (List.prefix_append _ _)
    rcases Bool.and_eq_false_iff.1 hlater with hcut | hnone
    · rcases t.connection.kept_or_taken m with hkept | ⟨-, hnone⟩
      · rw [ht.whole hcut, ← hkept, List.append_assoc, hout, ← List.append_assoc]
        exact List.prefix_append _ _
      · exact hidle hnone
    · exact hidle (by simpa using hnone)

end Talk

namespace Connection

variable [Recorder ω] [Secured η]

/-- Whatever the stages do, and wherever an operation is dropped, fails or runs out of time, the
socket takes what leaves the pipeline in order and nothing else; and while it takes nothing after
bytes in hand were given up, it has taken the first of those bytes without a gap. If none were given
up, what it has not taken is in hand or waits in the pipeline. -/
theorem socket_takes_in_order {k : StageKit η ξ ω} {now : Instant} {o : ConnectOptions κ β η}
    {remote : RemoteAddress} {p : Pipeline (Occupant η ξ)} {env : Env ω}
    {moves : List (Instant × Move)} {t : Talk η ξ ω} (hp : p.Fresh)
    (h : (start now o remote p env).converse k now moves = some t) :
    t.taken.Sublist (departures t.history).flatten ∧
      (t.gap = false → t.taken <+: (departures t.history).flatten) ∧
      (t.cut = false → (departures t.history).flatten =
        t.taken ++ (t.connection.job.held ++ t.connection.pipeline.transport.flatten)) := by
  have hsends : t.Sends := by
    refine converse_induction (P := Talk.Sends) ?_ (fun ht ha => ht.after ha) hp h
    intro l a seen _ hdepartures _ _
    refine ⟨?_, fun _ => hdepartures, fun _ => List.nil_prefix⟩
    exact hdepartures ▸ List.Sublist.refl (departures l).flatten
  exact ⟨(List.sublist_append_left _ _).trans hsends.sublist, hsends.ahead, hsends.whole⟩

def bareTalk (moves : List (Instant × Move)) : Option (Talk BriefStage Empty Unit) :=
  let o : ConnectOptions Unit Unit BriefStage := {}
  (start 0 o (.opaqueName "peer") (.new ⟨0, none⟩) ⟨[], ()⟩).converse (.closed BriefStage.react) 0
    moves

/-- A write is dropped when a byte of it is taken. -/
theorem socket_takes_in_order_of_dropped :
    ∃ t, bareTalk [(1, .write [1, 2, 3]), (2, .socket (.sent 1)), (3, .drop)] = some t ∧
      t.cut = true ∧ t.taken = [1] ∧ t.taken <+: (departures t.history).flatten := by
  have hrun : (bareTalk [(1, .write [1, 2, 3]), (2, .socket (.sent 1)), (3, .drop)]).map
      (fun t => (t.cut, t.gap, t.taken)) = some (true, false, [1]) := by
    decide +kernel
  obtain ⟨t, h, ht⟩ := Option.map_eq_some_iff.1 hrun
  obtain ⟨hcut, ht⟩ := Prod.mk.inj ht
  obtain ⟨hgap, htaken⟩ := Prod.mk.inj ht
  exact ⟨t, h, hcut, htaken, (socket_takes_in_order (.new _) h).2.1 hgap⟩

/-- The bytes that were in hand are not sent by the next write. -/
theorem gap_after_dropped :
    ∃ t, bareTalk [(1, .write [1, 2, 3]), (2, .socket (.sent 1)), (3, .drop), (4, .write [4]),
        (5, .socket (.sent 1))] = some t ∧
      t.taken = [1, 4] ∧ departures t.history = [[1, 2, 3], [4]] ∧
      ¬ t.taken <+: (departures t.history).flatten := by
  have hrun : (bareTalk [(1, .write [1, 2, 3]), (2, .socket (.sent 1)), (3, .drop),
      (4, .write [4]), (5, .socket (.sent 1))]).map (fun t => (t.taken, departures t.history)) =
        some ([1, 4], [[1, 2, 3], [4]]) := by
    decide +kernel
  obtain ⟨t, h, ht⟩ := Option.map_eq_some_iff.1 hrun
  obtain ⟨htaken, hdepartures⟩ := Prod.mk.inj ht
  refine ⟨t, h, htaken, hdepartures, ?_⟩
  rw [htaken, hdepartures]
  decide

end Connection
end SecureGateway

import SecureGateway.Proofs.Connection.Conversation
import SecureGateway.Rehearsal.ClearStage

namespace SecureGateway

def causes (l : List Inbound) : List Cause :=
  l.filterMap fun
    | .exception cause => some cause
    | _ => none

theorem causes_append (xs ys : List Inbound) : causes (xs ++ ys) = causes xs ++ causes ys :=
  List.filterMap_append

/-- The failure that an operation of this kind takes out of the line with its result. -/
def Errand.taken? : Errand → Except ConnectError Outcome → Option Cause
  | .reading, .error (.tls cause) => some cause
  | _, _ => none

namespace Connection

variable {η ξ ω : Type}

theorem causes_of_undecided {xs : List Inbound} (h : decideReading xs = none) : causes xs = [] := by
  refine List.filterMap_eq_nil_iff.2 fun s hs => ?_
  have hnone := decideReading_eq_none_iff.1 h s hs
  cases s with
  | exception cause => cases hnone
  | _ => rfl

theorem causes_of_decided {s : Inbound} {r : Except ConnectError (Option Bytes)}
    {later : List Inbound} (h : decideReading [s] = some (r, later)) :
    causes [s] = (Errand.taken? .reading (r.map .received)).toList := by
  rcases decideReading_singleton h with ⟨data, rfl, rfl⟩ | ⟨cause, rfl, rfl⟩ | ⟨rfl | rfl, rfl⟩ <;> rfl

theorem failure?_collect (c : Connection η ξ ω) : c.collect.failure? = (causes c.waiting).head? :=
  List.head?_filterMap.symm

variable {k : StageKit η ξ ω} {now : Instant} {c c₁ : Connection η ξ ω} {a : Advance η ξ ω}
  {errand : Errand} {l : List (Happening (Occupant η ξ) (Env ω))}

theorem causes_of_carries {seen : List Inbound} {took held held' : Bytes} {heard : Bool}
    (h : Carries l seen took heard held c held' c₁) :
    causes c.waiting ++ causes (arrivals l) = causes seen ++ causes c₁.waiting := by
  rw [← causes_append, h.inbound, causes_append]

namespace Halts

variable {seen : List Inbound} {requested : Bool}

/-- Only a read takes failures out of the line: the one that it comes to. -/
theorem taken (h : Halts errand seen requested a) (hopen : errand.stretch = .open) :
    causes seen = (a.2.bind errand.taken?).toList := by
  cases h with
  | opened | unopened | awaits | unclosed => cases hopen
  | closed hclosing | drains hclosing => cases hclosing.symm.trans hopen
  | wrote | refused | sends => rfl
  | broke => cases errand <;> rfl
  | gave hearly hs =>
    rw [causes_append, causes_of_undecided hearly, causes_of_decided hs]
    rfl
  | exhausted hseen | asks hseen => exact causes_of_undecided hseen

theorem empty_of_wrote (h : Halts errand seen requested a) (hwrote : a.2 = some (.ok .wrote)) :
    causes a.1.waiting = [] := by
  cases h with
  | @wrote c hfailure =>
    rw [failure?_collect, List.head?_eq_none_iff] at hfailure
    exact (congrArg causes (List.append_nil c.waiting)).trans hfailure
  | @gave _ _ _ _ r => cases r <;> cases hwrote
  | _ => cases hwrote

theorem first_of_refused {cause : Cause} (h : Halts .writing seen requested a)
    (hrefused : a.2 = some (.error (.tls cause))) :
    a.1.job = .idle ∧ (causes a.1.waiting).head? = some cause := by
  cases h with
  | @refused c _ hfailure =>
    obtain rfl : _ = cause := by simpa [settle] using hrefused
    rw [failure?_collect] at hfailure
    exact ⟨rfl, (congrArg (List.head? ∘ causes) (List.append_nil c.waiting)).trans hfailure⟩
  | closed hclosing | drains hclosing => cases hclosing
  | _ => cases hrefused

end Halts

variable [Recorder ω] [Secured η]

def taken? (m : Move) (c : Connection η ξ ω) (a : Advance η ξ ω) : Option Cause :=
  (c.errand? m).bind fun errand => a.2.bind errand.taken?

/-- What a move on an open connection does with the line of failures. -/
structure Heeds (k : StageKit η ξ ω) (now : Instant) (m : Move) (c : Connection η ξ ω)
    (a : Advance η ξ ω) : Prop where
  /-- New failures join the line behind, and only a read takes one, the first. -/
  line : causes c.waiting ++ causes (arrivals (c.moveHistory k now m)) =
    (taken? m c a).toList ++ causes a.1.waiting
  wrote : a.2 = some (.ok .wrote) → causes a.1.waiting = []
  refused : c.errand? m = some .writing → ∀ cause, a.2 = some (.error (.tls cause)) →
    a.1.job = .idle ∧ (causes a.1.waiting).head? = some cause

variable {m : Move}

theorem move_write_of_cause (k : StageKit η ξ ω) (now : Instant) (data : Bytes) {cause : Cause}
    (hidle : c.job = .idle) (hcause : (causes c.waiting).head? = some cause) :
    c.move k now (.write data) = some (c.collect.settle (.error (.tls cause))) ∧
      c.moveHistory k now (.write data) = [] := by
  rw [← failure?_collect] at hcause
  simp only [move, moveHistory, hidle, write, checkFailed, hcause, and_self]

omit [Recorder ω] [Secured η] in
theorem stretch_of_still {seen : List Inbound} (hopen : c.job.stretch = .open)
    (htold : Told seen a (c.stretch m)) (hstill : a.1.job.stretch = .open) :
    c.stretch m = .open := by
  rcases stretch_cases m c with hm | hm | ⟨-, hm⟩
  · exact hm.trans hopen
  · rw [hm] at htold
    rw [htold.1] at hstill
    cases hstill
  · rw [hm] at htold
    rcases htold.1 with hclosing | hended
    · cases hstill.symm.trans hclosing
    · rw [hended] at hstill
      cases hstill

namespace Comes

variable {errand? : Option Errand} {stretch : Errand.Stretch} {seen : List Inbound}
  {requested : Bool}

omit [Recorder ω] [Secured η] in
theorem taken (h : Comes c errand? stretch seen requested a) (hopen : stretch = .open) :
    causes seen = (errand?.bind fun errand => a.2.bind errand.taken?).toList := by
  cases h with
  | stays | dropped => cases errand? <;> rfl
  | halts hhalts => exact hhalts.taken hopen

omit [Recorder ω] [Secured η] in
theorem empty_of_wrote (h : Comes c errand? stretch seen requested a)
    (hwrote : a.2 = some (.ok .wrote)) : causes a.1.waiting = [] := by
  cases h with
  | stays | dropped => cases hwrote
  | halts hhalts => exact hhalts.empty_of_wrote hwrote

omit [Recorder ω] [Secured η] in
theorem first_of_refused {cause : Cause} (h : Comes c errand? stretch seen requested a)
    (hwriting : errand? = some .writing) (hrefused : a.2 = some (.error (.tls cause))) :
    a.1.job = .idle ∧ (causes a.1.waiting).head? = some cause := by
  cases h with
  | stays | dropped => cases hrefused
  | halts hhalts =>
    obtain rfl := Option.some.inj hwriting
    exact hhalts.first_of_refused hrefused

end Comes

theorem move_heeds (hw : c.pipeline.WellFormed) (hopen : c.job.stretch = .open)
    (h : c.move k now m = some a) (hstill : a.1.job.stretch = .open) : Heeds k now m c a := by
  obtain ⟨rest, seen, requested, -, hleads, hcomes⟩ := move_moved h
  refine ⟨?_, hcomes.empty_of_wrote, fun hwriting _ => hcomes.first_of_refused hwriting⟩
  rw [causes_of_carries (hleads.carries hw),
    hcomes.taken (stretch_of_still hopen hcomes.told hstill)]
  rfl

end Connection

structure Stride (η ξ ω : Type) where
  before : Connection η ξ ω
  now : Instant
  move : Move
  after : Advance η ξ ω

namespace Connection

variable {η ξ ω : Type} [Recorder ω] [Secured η] {k : StageKit η ξ ω} {c : Connection η ξ ω}
  {a : Advance η ξ ω} {m : Move} {now : Instant}

def strides (k : StageKit η ξ ω) : List (Instant × Move) → Connection η ξ ω → List (Stride η ξ ω)
  | [], _ => []
  | (now, m) :: moves, c =>
    match c.move k now m with
    | some a => ⟨c, now, m, a⟩ :: strides k moves a.1
    | none => []

/-- How failures are dealt with in some moves. -/
structure Lined (k : StageKit η ξ ω) (l : List (Stride η ξ ω)) : Prop where
  heeds : ∀ x ∈ l, x.before.job.stretch = .open → x.after.1.job.stretch = .open →
    Heeds k x.now x.move x.before x.after
  /-- While a failure waits a write is refused with it, and puts nothing into the pipeline. -/
  refuses : ∀ x ∈ l, ∀ data cause, x.move = .write data → x.before.job = .idle →
    (causes x.before.waiting).head? = some cause →
      x.after.2 = some (.error (.tls cause)) ∧ x.before.moveHistory k x.now x.move = []
  /-- After a write that was refused with a failure all are, until a read takes a failure. -/
  sticks : ∀ early x middle y late cause data, l = early ++ x :: (middle ++ y :: late) →
    x.before.errand? x.move = some .writing → x.after.2 = some (.error (.tls cause)) →
      (∀ z ∈ middle, taken? z.move z.before z.after = none) → y.move = .write data →
        y.before.job = .idle →
          y.after.2 = some (.error (.tls cause)) ∧ y.before.moveHistory k y.now y.move = []

theorem move_wellFormed (hw : c.pipeline.WellFormed) (h : c.move k now m = some a) :
    a.1.pipeline.WellFormed := by
  obtain ⟨seen, hcarries, -⟩ := move_accounts hw h
  exact hcarries.wellFormed

theorem strides_cons_inv {moves : List (Instant × Move)} {x : Stride η ξ ω}
    {rest : List (Stride η ξ ω)} (h : c.strides k moves = x :: rest) :
    x.before = c ∧ c.move k x.now x.move = some x.after ∧
      ∃ moves', rest = x.after.1.strides k moves' := by
  cases moves with
  | nil => cases h
  | cons y moves =>
    obtain ⟨now, m⟩ := y
    rw [strides] at h
    split at h
    · rename_i a hmove
      obtain ⟨rfl, rfl⟩ := List.cons.inj h
      exact ⟨rfl, hmove, moves, rfl⟩
    · cases h

theorem strides_split {moves : List (Instant × Move)} {x : Stride η ξ ω}
    {early late : List (Stride η ξ ω)} (hw : c.pipeline.WellFormed)
    (h : c.strides k moves = early ++ x :: late) :
    x.before.pipeline.WellFormed ∧ x.before.move k x.now x.move = some x.after ∧
      ∃ moves', late = x.after.1.strides k moves' := by
  induction early generalizing c moves with
  | nil =>
    obtain ⟨rfl, hmove, hlate⟩ := strides_cons_inv h
    exact ⟨hw, hmove, hlate⟩
  | cons y early ih =>
    obtain ⟨rfl, hmove, moves', hrest⟩ := strides_cons_inv h
    exact ih (move_wellFormed hw hmove) hrest.symm

/-- The failure is the first of the line, as long as the connection is open. -/
structure Spoiled (cause : Cause) (c : Connection η ξ ω) : Prop where
  opened : c.job.stretch ≠ .opening
  first : c.job.stretch = .open → (causes c.waiting).head? = some cause

theorem Spoiled.move {cause : Cause} (hc : Spoiled cause c) (hw : c.pipeline.WellFormed)
    (h : c.move k now m = some a) (htaken : taken? m c a = none) : Spoiled cause a.1 := by
  obtain ⟨seen, -, htold⟩ := move_accounts hw h
  cases hstretch : c.stretch m with
  | opening => exact absurd (opening_of_stretch hstretch) hc.opened
  | «open» =>
    rw [hstretch] at htold
    have hstill : a.1.job.stretch = .open := htold.1
    have hopen := open_of_stretch hstretch
    have hline := (move_heeds hw hopen h hstill).line
    rw [htaken, Option.toList_none, List.nil_append] at hline
    refine ⟨by rw [hstill]; nofun, fun _ => ?_⟩
    rw [← hline, List.head?_append, hc.first hopen]
    rfl
  | closing =>
    rw [hstretch] at htold
    rcases htold.1 with hclosing | hended
    · exact ⟨by rw [hclosing]; nofun, by rw [hclosing]; nofun⟩
    · exact ⟨by rw [hended]; nofun, by rw [hended]; nofun⟩
  | ended =>
    rw [hstretch] at htold
    exact ⟨by rw [htold.1]; nofun, by rw [htold.1]; nofun⟩

theorem Spoiled.strides {cause : Cause} {moves : List (Instant × Move)}
    {middle late : List (Stride η ξ ω)} {y : Stride η ξ ω} (hc : Spoiled cause c)
    (hw : c.pipeline.WellFormed) (h : c.strides k moves = middle ++ y :: late)
    (htaken : ∀ z ∈ middle, taken? z.move z.before z.after = none) : Spoiled cause y.before := by
  induction middle generalizing c moves with
  | nil =>
    obtain ⟨rfl, -, -⟩ := strides_cons_inv h
    exact hc
  | cons z middle ih =>
    obtain ⟨hz, hrest⟩ := List.forall_mem_cons.1 htaken
    obtain ⟨rfl, hmove, moves', hlate⟩ := strides_cons_inv h
    exact ih (hc.move hw hmove hz) (move_wellFormed hw hmove) hlate.symm hrest

omit [Recorder ω] [Secured η] in
theorem stretch_of_writing (h : c.errand? m = some .writing) :
    c.job.stretch = .open ∧ c.stretch m = .open := by
  unfold errand? at h
  split at h
  · rename_i hidle
    have hopen : c.job.stretch = .open := by rw [hidle]; rfl
    exact ⟨hopen, stretch_of_open hopen fun _ => nofun⟩
  · cases h
  · cases h
  · rename_i hjob
    obtain rfl := Option.some.inj h
    have hopen : c.job.stretch = .open := by rw [hjob]; rfl
    exact ⟨hopen, stretch_of_open hopen fun hidle => by cases hjob.symm.trans hidle⟩
  · rename_i hjob
    obtain rfl := Option.some.inj h
    have hopen : c.job.stretch = .open := by rw [hjob]; rfl
    exact ⟨hopen, stretch_of_open hopen fun hidle => by cases hjob.symm.trans hidle⟩
  · cases h
  · cases h

/-- Whatever the stages do, every failure that leaves the pipeline of an open connection waits for
the read that takes it. -/
theorem failures_wait_for_reads (k : StageKit η ξ ω) (hw : c.pipeline.WellFormed)
    (moves : List (Instant × Move)) : Lined k (c.strides k moves) where
  heeds := by
    intro x hx hopen hstill
    obtain ⟨early, late, hsplit⟩ := List.append_of_mem hx
    obtain ⟨hw', hmove, -⟩ := strides_split hw hsplit
    exact move_heeds hw' hopen hmove hstill
  refuses := by
    intro x hx data cause hm hidle hcause
    obtain ⟨early, late, hsplit⟩ := List.append_of_mem hx
    obtain ⟨-, hmove, -⟩ := strides_split hw hsplit
    rw [hm] at hmove ⊢
    obtain ⟨hrefused, hhistory⟩ := move_write_of_cause k x.now data hidle hcause
    exact ⟨congrArg Prod.snd (Option.some.inj (hmove.symm.trans hrefused)), hhistory⟩
  sticks := by
    intro early x middle y late cause data hsplit hx hresult htaken hm hidle
    obtain ⟨hw', hmove, moves', hrest⟩ := strides_split hw hsplit
    obtain ⟨hopen, hstretch⟩ := stretch_of_writing hx
    have hstill : x.after.1.job.stretch = .open := by
      obtain ⟨seen, -, htold⟩ := move_accounts hw' hmove
      rw [hstretch] at htold
      exact htold.1
    obtain ⟨hidle', hfirst⟩ := (move_heeds hw' hopen hmove hstill).refused hx cause hresult
    have hspoiled : Spoiled cause x.after.1 := ⟨by rw [hidle']; nofun, fun _ => hfirst⟩
    have hw₁ := move_wellFormed hw' hmove
    have hy := (hspoiled.strides hw₁ hrest.symm htaken).first (by rw [hidle]; rfl)
    obtain ⟨-, hmove', -⟩ := strides_split hw₁ hrest.symm
    rw [hm] at hmove' ⊢
    obtain ⟨hrefused, hhistory⟩ := move_write_of_cause k y.now data hidle hy
    exact ⟨congrArg Prod.snd (Option.some.inj (hmove'.symm.trans hrefused)), hhistory⟩

def refusing : StageKit ClearStage Unit Unit where
  handshake := ClearStage.react
  custom _ sig x w :=
    match sig with
    | .outbound (.write _) => .emit x [.inbound (.exception (.other "refused"))] w
    | _ => .pass x sig w
  limit := 40

def lone (name : StageName) (h : Occupant ClearStage ξ) : Connection ClearStage ξ Unit :=
  let o : ConnectOptions Unit Unit ClearStage := {}
  start 0 o (.opaqueName "peer") ⟨⟨0, none⟩, [⟨0, name, some h⟩], 1, [], [], false, false⟩ ⟨[], ()⟩

theorem lone_wellFormed (name : StageName) (h : Occupant ClearStage ξ) :
    (lone name h).pipeline.WellFormed := by
  have hadd : (Pipeline.new ⟨0, none⟩).add .last name h = .ok (lone name h).pipeline := rfl
  exact ((Pipeline.Built.new (ω := Unit) ⟨0, none⟩).add hadd).wellFormed

/-- The second write is refused with the failure that the first one came to. -/
theorem failures_wait_for_reads_of_refusing :
    ∃ x y, (lone .codec (.custom ())).strides refusing [(1, .write [1]), (2, .write [2])] = [x, y] ∧
      x.after.2 = some (.error (.tls (.other "refused"))) ∧
        y.after.2 = some (.error (.tls (.other "refused"))) ∧
          y.before.moveHistory refusing y.now y.move = [] := by
  have hrun : (((lone .codec (.custom ())).move refusing 1 (.write [1])).bind fun a =>
      (a.1.move refusing 2 (.write [2])).map fun _ => (a.2, a.1.job)) =
        some (some (.error (.tls (.other "refused"))), .idle) := by
    decide +kernel
  obtain ⟨a, ha, hrest⟩ := Option.bind_eq_some_iff.1 hrun
  obtain ⟨b, hb, heq⟩ := Option.map_eq_some_iff.1 hrest
  obtain ⟨hresult, hidle⟩ := Prod.mk.inj heq
  have hstrides : (lone .codec (.custom ())).strides refusing [(1, .write [1]), (2, .write [2])] =
      [⟨lone .codec (.custom ()), 1, .write [1], a⟩, ⟨a.1, 2, .write [2], b⟩] := by
    simp only [strides, ha, hb]
  have herrand : (lone (ξ := Unit) .codec (.custom ())).errand? (.write [1]) = some .writing := rfl
  have hsticks := (failures_wait_for_reads refusing (lone_wellFormed .codec (.custom ()))
    [(1, .write [1]), (2, .write [2])]).sticks
  rw [hstrides] at hsticks
  exact ⟨_, _, hstrides, hresult, hsticks [] _ [] _ [] _ [2] rfl herrand hresult
    (List.forall_mem_nil _) rfl hidle⟩

/-- A session in the clear breaks. The read says so, and the write after it is done as if nothing
had happened, although nothing of it gets to the socket. -/
theorem written_after_failure :
    let c : Connection ClearStage Empty Unit := lone .ssl (.handshake ⟨.established, .none, []⟩)
    (c.strides (.closed ClearStage.react) [(1, .read), (2, .socket (.received ClearStage.broken)),
        (3, .write [1])]).map (fun x => (x.after.2, x.after.1.pipeline.transport)) =
      [(none, []), (some (.error (.tls (.other "fake record error"))), []),
        (some (.ok .wrote), [])] := by
  decide +kernel

end Connection
end SecureGateway

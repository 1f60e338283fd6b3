import SecureGateway.Pool.Borrowed
import SecureGateway.Proofs.Connection.Service
import SecureGateway.Proofs.Pool.Reuse

namespace SecureGateway

variable {η ξ ω : Type}

/-- A connection on loan, and what came of it. -/
structure Loan (η ξ ω : Type) where
  task : Nat
  borrowed : PooledConnection η ξ ω
  results : List (Except ConnectError Outcome)
  invalidated : Bool

namespace Loan

def new (task : Nat) (c : Connection η ξ ω) (reused : Bool) : Loan η ξ ω :=
  ⟨task, .ofConnection c reused, [], false⟩

def connection (l : Loan η ξ ω) : Connection η ξ ω := l.borrowed.connection

def ofTask? (p : ConnectionPool (Connection η ξ ω)) (i : Nat) : Option (Loan η ξ ω) :=
  match p.tasks[i]? with
  | some ⟨.holding c reused, _⟩ => some (.new i c reused)
  | _ => none

/-- What goes back to the pool; a borrower that closes the connection keeps it to say goodbye. -/
def keep? (l : Loan η ξ ω) (dropped : Bool) : Option (Connection η ξ ω) :=
  if dropped then l.borrowed.kept? else none

def Unspoilt (l : Loan η ξ ω) : Prop :=
  l.invalidated = false ∧
    ∀ r ∈ l.results, r = .ok .wrote ∨ ∃ data, r = .ok (.received (some data))

end Loan

/-- A pool with the connections on loan from it. Acquires, disposals and what borrowers do are whole
steps, in any order. -/
structure Lending (η ξ ω : Type) where
  pool : ConnectionPool (Connection η ξ ω)
  loans : List (Loan η ξ ω)
  opened : List Nat
  parked : List (Connection η ξ ω)
  reused : List (Connection η ξ ω)

inductive LendingEvent (η ξ ω : Type) where
  | pool (e : PoolEvent (Connection η ξ ω))
  /-- The borrower or the socket moves an operation on. -/
  | operate (loan : Nat) (now : Instant) (m : Move)
  | invalidate (loan : Nat)
  | letGo (loan : Nat) (dropped : Bool)

namespace Lending

def new (id : Nat) (remote : RemoteAddress) (limits : PoolLimits) : Lending η ξ ω :=
  ⟨.new id remote limits, [], [], [], []⟩

/-- A connection that is opened is a new one and ready for use. Connections on loan are let go by their
borrowers alone. -/
def admits (s : Lending η ξ ω) : PoolEvent (Connection η ξ ω) → Bool
  | .connected _ c => c.job = .idle ∧ c.id ∉ s.opened
  | .letGo _ _ => false
  | _ => true

def openedBy : PoolEvent (Connection η ξ ω) → List Nat
  | .connected _ c => [c.id]
  | _ => []

def afterPoll (s : Lending η ξ ω) (e : PoolEvent (Connection η ξ ω))
    (q : ConnectionPool (Connection η ξ ω)) : Lending η ξ ω :=
  let loan := (Loan.ofTask? q (s.pool.actor e)).toList
  { pool := q
    loans := s.loans ++ loan
    opened := s.opened ++ openedBy e
    parked := s.parked
    reused := s.reused ++ (loan.filter (·.borrowed.reused)).map Loan.connection }

/-- A closed connection gives its slot back first and then says goodbye on its own. -/
def letGo (s : Lending η ξ ω) (n : Nat) (dropped : Bool) : Option (Lending η ξ ω) :=
  s.loans[n]?.bind fun l =>
    if l.connection.job = .idle then
      (s.pool.poll (.letGo l.task (l.keep? dropped))).map fun q =>
        { s with
          pool := q
          loans := s.loans.eraseIdx n
          parked := s.parked ++ q.idle.drop s.pool.idle.length }
    else none

def live (s : Lending η ξ ω) : List Nat :=
  s.loans.map (fun l => l.connection.id) ++ s.pool.idle.map Connection.id

section

variable [Recorder ω] [Secured η]

def operate (k : StageKit η ξ ω) (s : Lending η ξ ω) (n : Nat) (now : Instant) (m : Move) :
    Option (Lending η ξ ω) :=
  s.loans[n]?.bind fun l =>
    if m matches .close then none
    else (l.borrowed.advance (·.move k now m)).map fun (borrowed, r) =>
      { s with loans := s.loans.set n { l with borrowed, results := l.results ++ r.toList } }

def step (k : StageKit η ξ ω) (s : Lending η ξ ω) :
    LendingEvent η ξ ω → Option (Lending η ξ ω)
  | .pool e => if s.admits e then (s.pool.poll e).map (s.afterPoll e) else none
  | .operate n now m => s.operate k n now m
  | .invalidate n => s.loans[n]?.map fun l =>
      { s with loans := s.loans.set n { l with borrowed := l.borrowed.invalidate, invalidated := true } }
  | .letGo n dropped => s.letGo n dropped

def run (k : StageKit η ξ ω) : List (LendingEvent η ξ ω) → Lending η ξ ω → Option (Lending η ξ ω)
  | [], s => some s
  | e :: es, s => (s.step k e).bind (run k es)

end

end Lending

structure Loan.Sound (l : Loan η ξ ω) : Prop where
  stretch : l.connection.job.stretch = .open
  ordinary : ∀ r ∈ l.results, Outcome.Ordinary r
  reusable : l.borrowed.reusable = (!l.invalidated && l.results.all fun r => !PooledConnection.spoils r)

theorem Loan.Sound.reusable_iff {l : Loan η ξ ω} (hl : l.Sound) :
    l.borrowed.reusable = true ↔ l.Unspoilt := by
  rw [hl.reusable, Bool.and_eq_true, Bool.not_eq_true', List.all_eq_true]
  refine and_congr_right fun _ => forall₂_congr fun r hr => ?_
  have hordinary := hl.ordinary r hr
  rcases r with e | (_ | _ | (_ | data) | _) <;> simp_all [PooledConnection.spoils, Outcome.Ordinary]

theorem Loan.Sound.keep?_eq_some {l : Loan η ξ ω} (hl : l.Sound) {c : Connection η ξ ω}
    (dropped : Bool) : l.keep? dropped = some c ↔ l.connection = c ∧ dropped = true ∧ l.Unspoilt := by
  rw [← hl.reusable_iff, Loan.keep?]
  cases dropped with
  | false => simp
  | true =>
    rw [if_pos rfl, PooledConnection.kept?, Option.ite_none_right_eq_some, Option.some.injEq]
    exact ⟨fun h => ⟨h.2, rfl, h.1⟩, fun h => ⟨h.2.2, h.1⟩⟩

theorem Loan.sound_new {task : Nat} {c : Connection η ξ ω} {reused : Bool} (hc : c.job = .idle) :
    (Loan.new task c reused).Sound where
  stretch := by rw [Loan.connection, Loan.new, PooledConnection.ofConnection, hc]; rfl
  ordinary := List.forall_mem_nil _
  reusable := rfl

theorem Loan.Sound.invalidate {l : Loan η ξ ω} (hl : l.Sound) :
    Loan.Sound { l with borrowed := l.borrowed.invalidate, invalidated := true } where
  stretch := hl.stretch
  ordinary := hl.ordinary
  reusable := rfl

theorem Loan.Sound.operate [Recorder ω] [Secured η] {l : Loan η ξ ω} (hl : l.Sound) {k : StageKit η ξ ω}
    {now : Instant} {m : Move} (hm : m ≠ .close) {borrowed : PooledConnection η ξ ω}
    {r : Option (Except ConnectError Outcome)}
    (h : l.borrowed.advance (·.move k now m) = some (borrowed, r)) :
    borrowed.connection.id = l.connection.id ∧
      Loan.Sound { l with borrowed, results := l.results ++ r.toList } := by
  obtain ⟨⟨c, r'⟩, hmove, hpair⟩ := Option.map_eq_some_iff.1 h
  obtain ⟨rfl, rfl⟩ := Prod.mk.inj hpair
  obtain ⟨hchannel, hstretch, hordinary⟩ := Connection.move_serves hl.stretch hm hmove
  refine ⟨congrArg Channel.id hchannel, hstretch, ?_, ?_⟩
  · refine List.forall_mem_append.2 ⟨hl.ordinary, fun r hr => ?_⟩
    exact hordinary r (Option.mem_toList.1 hr)
  · show (l.borrowed.reusable && !r'.any PooledConnection.spoils) = _
    rw [hl.reusable, List.all_append, ← Bool.and_assoc]
    cases r' <;> simp

/-- What was parked is handed out in that order, is still there, or is gone with the pool. -/
def Queued {κ : Type} (parked reused : List κ) (p : ConnectionPool κ) : Prop :=
  ∃ drained, parked = reused ++ p.idle ++ drained ∧ (p.isDisposed = false → drained = [])

namespace Queued

variable {κ : Type} {parked reused : List κ} {p q : ConnectionPool κ} {c : κ}

theorem congr (h : Queued parked reused p) (hidle : q.idle = p.idle)
    (hdisposed : q.isDisposed = p.isDisposed) : Queued parked reused q := by
  rw [Queued, hidle, hdisposed]
  exact h

theorem pop (h : Queued parked reused p) (hidle : p.idle = c :: q.idle)
    (hdisposed : q.isDisposed = p.isDisposed) : Queued parked (reused ++ [c]) q := by
  obtain ⟨drained, hparked, hdrained⟩ := h
  rw [hidle] at hparked
  exact ⟨drained, by simpa using hparked, fun h => hdrained (hdisposed.symm.trans h)⟩

theorem push (h : Queued parked reused p) (hlive : p.isDisposed = false)
    (hidle : q.idle = p.idle ++ [c]) : Queued (parked ++ [c]) reused q := by
  obtain ⟨drained, hparked, hdrained⟩ := h
  rw [hdrained hlive] at hparked
  exact ⟨[], by simp [hparked, hidle], fun _ => rfl⟩

theorem drain (h : Queued parked reused p) (hidle : q.idle = []) (hdisposed : q.isDisposed = true) :
    Queued parked reused q := by
  obtain ⟨drained, hparked, -⟩ := h
  refine ⟨p.idle ++ drained, ?_, fun h => ?_⟩
  · rw [hidle, List.append_nil, ← List.append_assoc]
    exact hparked
  · cases hdisposed.symm.trans h

end Queued

/-- The loans are those of the tasks that hold a connection. -/
structure Seated (p : ConnectionPool (Connection η ξ ω)) (loans : List (Loan η ξ ω)) : Prop where
  nodup : (loans.map Loan.task).Nodup
  mem_iff : ∀ i, i ∈ loans.map Loan.task ↔ ∃ t, p.tasks[i]? = some t ∧ t.phase.isHolding = true

theorem map_set_of_eq {α β : Type} {f : α → β} {as : List α} {n : Nat} {a a' : α}
    (hn : as[n]? = some a) (h : f a' = f a) : (as.set n a').map f = as.map f := by
  obtain ⟨hlt, rfl⟩ := List.getElem?_eq_some_iff.1 hn
  have hmapped : n < (as.map f).length := List.length_map f ▸ hlt
  rw [List.map_set, h, ← List.getElem_map f (h := hmapped), List.set_getElem_self]

namespace Seated

variable {p q : ConnectionPool (Connection η ξ ω)} {loans : List (Loan η ξ ω)} {l : Loan η ξ ω} {i n : Nat}
  {u : PoolTask (Connection η ξ ω)}

theorem holding_of_ne (h : Seated p loans) (hmoves : p.Moves i u q) {j : Nat} (hj : j ≠ i) :
    (∃ t, q.tasks[j]? = some t ∧ t.phase.isHolding = true) ↔ j ∈ loans.map Loan.task := by
  rw [hmoves.getElem?_of_ne hj, h.mem_iff]

theorem holding_self (hmoves : p.Moves i u q) :
    (∃ t, q.tasks[i]? = some t ∧ t.phase.isHolding = true) ↔ u.phase.isHolding = true := by
  rw [hmoves.getElem?_self]
  simp

theorem keeps (h : Seated p loans) (hmoves : p.Moves i u q) (hi : i ∉ loans.map Loan.task)
    (hu : u.phase.isHolding = false) : Seated q loans where
  nodup := h.nodup
  mem_iff := fun j => by
    by_cases hj : j = i
    · subst hj
      rw [holding_self hmoves, hu]
      exact ⟨fun hmem => absurd hmem hi, nofun⟩
    · exact (h.holding_of_ne hmoves hj).symm

theorem lends (h : Seated p loans) (hmoves : p.Moves i u q) (hi : i ∉ loans.map Loan.task)
    (hu : u.phase.isHolding = true) (hl : l.task = i) : Seated q (loans ++ [l]) where
  nodup := by
    rw [List.map_append, List.map_singleton, hl]
    exact List.concat_eq_append ▸ h.nodup.concat hi
  mem_iff := fun j => by
    rw [List.map_append, List.map_singleton, hl, List.mem_append, List.mem_singleton]
    by_cases hj : j = i
    · subst hj
      rw [holding_self hmoves]
      exact ⟨fun _ => hu, fun _ => .inr rfl⟩
    · rw [h.holding_of_ne hmoves hj]
      exact or_iff_left hj

theorem returns (h : Seated p loans) (hmoves : p.Moves l.task u q) (hl : loans[n]? = some l)
    (hu : u.phase.isHolding = false) : Seated q (loans.eraseIdx n) := by
  obtain ⟨hn, rfl⟩ := List.getElem?_eq_some_iff.1 hl
  have hperm := (List.getElem_cons_eraseIdx_perm hn).map Loan.task
  obtain ⟨hnot, hnodup⟩ := List.nodup_cons.1 (hperm.nodup_iff.2 h.nodup)
  refine ⟨hnodup, fun j => ?_⟩
  by_cases hj : j = loans[n].task
  · subst hj
    rw [holding_self hmoves, hu]
    exact ⟨fun hmem => absurd hmem hnot, nofun⟩
  · rw [h.holding_of_ne hmoves hj, ← hperm.mem_iff, List.map_cons, List.mem_cons]
    exact (or_iff_right hj).symm

theorem set (h : Seated p loans) (hn : loans[n]? = some l) {l' : Loan η ξ ω} (hl : l'.task = l.task) :
    Seated p (loans.set n l') := by
  have hmap := map_set_of_eq hn hl
  exact ⟨hmap ▸ h.nodup, hmap ▸ h.mem_iff⟩

end Seated

namespace Lending

variable {s s' : Lending η ξ ω} {q : ConnectionPool (Connection η ξ ω)} {u : PoolTask (Connection η ξ ω)}
  {e : PoolEvent (Connection η ξ ω)} {i n : Nat} {c : Connection η ξ ω} {l : Loan η ξ ω}

structure Orderly (s : Lending η ξ ω) : Prop where
  settled : s.pool.Settled
  seated : Seated s.pool s.loans
  single : s.live.Nodup
  known : ∀ i ∈ s.live, i ∈ s.opened
  ready : ∀ c ∈ s.pool.idle, c.job = .idle
  sound : ∀ l ∈ s.loans, l.Sound
  queued : Queued s.parked s.reused s.pool

/-- A step keeps the order, and only connections that are opened come to life. -/
structure Proceeds (s s' : Lending η ξ ω) : Prop where
  orderly : s'.Orderly
  opened : s.opened ⊆ s'.opened
  live : ∀ i ∈ s'.live, i ∈ s.live ∨ i ∉ s.opened

theorem orderly_new (id : Nat) (remote : RemoteAddress) (limits : PoolLimits) :
    (new id remote limits : Lending η ξ ω).Orderly where
  settled := ConnectionPool.settled_new id remote limits
  seated := ⟨List.nodup_nil, fun i => by simp [new, ConnectionPool.new]⟩
  single := List.nodup_nil
  known := List.forall_mem_nil _
  ready := List.forall_mem_nil _
  sound := List.forall_mem_nil _
  queued := ⟨[], rfl, fun _ => rfl⟩

theorem ofTask?_of_holding {r w : Bool} (h : q.tasks[i]? = some ⟨.holding c r, w⟩) :
    Loan.ofTask? q i = some (.new i c r) := by
  rw [Loan.ofTask?, h]

theorem ofTask?_of_not_holding (h : q.tasks[i]? = some u) (hu : u.phase.isHolding = false) :
    Loan.ofTask? q i = none := by
  obtain ⟨ph, w⟩ := u
  rw [Loan.ofTask?, h]
  cases ph <;> first | rfl | cases hu

theorem Orderly.keeps (hs : s.Orderly) (hq : q.Settled) (hseated : Seated q s.loans)
    (hidle : q.idle = s.pool.idle ∧ q.isDisposed = s.pool.isDisposed ∨
      q.idle = [] ∧ q.isDisposed = true) :
    Proceeds s { s with pool := q } := by
  have hsub : q.idle.Sublist s.pool.idle := by
    rcases hidle with ⟨hidle, _⟩ | ⟨hidle, _⟩
    · exact hidle ▸ List.Sublist.refl _
    · exact hidle ▸ List.nil_sublist _
  have hlive : (live { s with pool := q }).Sublist s.live :=
    (List.Sublist.refl _).append (hsub.map _)
  refine ⟨?_, List.Subset.refl _, fun i hi => .inl (hlive.subset hi)⟩
  exact
  { settled := hq
    seated := hseated
    single := hs.single.sublist hlive
    known := fun i hi => hs.known i (hlive.subset hi)
    ready := fun c hc => hs.ready c (hsub.subset hc)
    sound := hs.sound
    queued := hidle.elim (fun h => hs.queued.congr h.1 h.2) fun h => hs.queued.drain h.1 h.2 }

theorem Orderly.reuses (hs : s.Orderly) (hq : q.Settled)
    (hseated : Seated q (s.loans ++ [.new i c true])) (hidle : s.pool.idle = c :: q.idle)
    (hdisposed : q.isDisposed = s.pool.isDisposed) :
    Proceeds s
      { s with pool := q, loans := s.loans ++ [.new i c true], reused := s.reused ++ [c] } := by
  have hlive : live { s with
      pool := q, loans := s.loans ++ [.new i c true], reused := s.reused ++ [c] } = s.live := by
    rw [live, live, hidle, List.map_append, List.append_assoc]
    rfl
  refine ⟨?_, List.Subset.refl _, fun i hi => .inl (hlive ▸ hi)⟩
  exact
  { settled := hq
    seated := hseated
    single := hlive ▸ hs.single
    known := hlive ▸ hs.known
    ready := fun c' hc => hs.ready c' (hidle ▸ List.mem_cons_of_mem c hc)
    sound := List.forall_mem_append.2 ⟨hs.sound, List.forall_mem_singleton.2
      (Loan.sound_new (hs.ready c (hidle ▸ List.mem_cons_self)))⟩
    queued := hs.queued.pop hidle hdisposed }

theorem Orderly.opens (hs : s.Orderly) (hq : q.Settled)
    (hseated : Seated q (s.loans ++ [.new i c false])) (hidle : q.idle = s.pool.idle)
    (hdisposed : q.isDisposed = s.pool.isDisposed) (hjob : c.job = .idle) (hc : c.id ∉ s.opened) :
    Proceeds s
      { s with pool := q, loans := s.loans ++ [.new i c false], opened := s.opened ++ [c.id] } := by
  have hlive : (live { s with
      pool := q, loans := s.loans ++ [.new i c false], opened := s.opened ++ [c.id] }).Perm
        (c.id :: s.live) := by
    rw [live, live, hidle, List.map_append, List.append_assoc]
    exact List.perm_middle
  refine ⟨?_, List.subset_append_left _ _, fun i hi => ?_⟩
  · exact
    { settled := hq
      seated := hseated
      single := hlive.nodup_iff.2 (hs.single.cons fun h => hc (hs.known _ h))
      known := fun i hi => by
        rcases List.mem_cons.1 (hlive.mem_iff.1 hi) with rfl | hi
        · exact List.mem_append_right _ List.mem_cons_self
        · exact List.mem_append_left _ (hs.known i hi)
      ready := hidle ▸ hs.ready
      sound := List.forall_mem_append.2
        ⟨hs.sound, List.forall_mem_singleton.2 (Loan.sound_new hjob)⟩
      queued := hs.queued.congr hidle hdisposed }
  · rcases List.mem_cons.1 (hlive.mem_iff.1 hi) with rfl | hi
    · exact .inr hc
    · exact .inl hi

theorem Orderly.changes (hs : s.Orderly) (hl : s.loans[n]? = some l) {l' : Loan η ξ ω}
    (htask : l'.task = l.task) (hid : l'.connection.id = l.connection.id) (hsound : l'.Sound) :
    Proceeds s { s with loans := s.loans.set n l' } := by
  have hlive : live { s with loans := s.loans.set n l' } = s.live :=
    congrArg (· ++ _) (map_set_of_eq hl hid)
  refine ⟨?_, List.Subset.refl _, fun i hi => .inl (hlive ▸ hi)⟩
  exact
  { settled := hs.settled
    seated := hs.seated.set hl htask
    single := hlive ▸ hs.single
    known := hlive ▸ hs.known
    ready := hs.ready
    sound := fun l hl => (List.mem_or_eq_of_mem_set hl).elim (hs.sound l) fun h => h ▸ hsound
    queued := hs.queued }

theorem live_perm (s : Lending η ξ ω) (hl : s.loans[n]? = some l) :
    (l.connection.id :: live { s with loans := s.loans.eraseIdx n }).Perm s.live := by
  obtain ⟨hn, rfl⟩ := List.getElem?_eq_some_iff.1 hl
  exact ((List.getElem_cons_eraseIdx_perm hn).map fun l => l.connection.id).append_right _

theorem Orderly.parks (hs : s.Orderly) (hl : s.loans[n]? = some l) (hjob : l.connection.job = .idle)
    (hq : q.Settled) (hseated : Seated q (s.loans.eraseIdx n))
    (hlive : s.pool.isDisposed = false) (hidle : q.idle = s.pool.idle ++ [l.connection]) :
    Proceeds s
      { s with pool := q, loans := s.loans.eraseIdx n, parked := s.parked ++ [l.connection] } := by
  have hperm : (live { s with
      pool := q, loans := s.loans.eraseIdx n, parked := s.parked ++ [l.connection] }).Perm s.live := by
    refine List.Perm.trans ?_ (s.live_perm hl)
    rw [live, live, hidle, List.map_append, ← List.append_assoc]
    exact List.perm_append_singleton _ _
  refine ⟨?_, List.Subset.refl _, fun i hi => .inl (hperm.mem_iff.1 hi)⟩
  exact
  { settled := hq
    seated := hseated
    single := hperm.nodup_iff.2 hs.single
    known := fun i hi => hs.known i (hperm.mem_iff.1 hi)
    ready := hidle ▸ List.forall_mem_append.2 ⟨hs.ready, List.forall_mem_singleton.2 hjob⟩
    sound := fun l hl => hs.sound l (List.mem_of_mem_eraseIdx hl)
    queued := hs.queued.push hlive hidle }

theorem Orderly.frees (hs : s.Orderly) (hl : s.loans[n]? = some l) (hq : q.Settled)
    (hseated : Seated q (s.loans.eraseIdx n)) (hdisposed : q.isDisposed = s.pool.isDisposed)
    (hidle : q.idle = s.pool.idle) :
    Proceeds s { s with pool := q, loans := s.loans.eraseIdx n } ∧
      l.connection.id ∉ live { s with pool := q, loans := s.loans.eraseIdx n } := by
  have hperm : (l.connection.id ::
      live { s with pool := q, loans := s.loans.eraseIdx n }).Perm s.live := by
    refine List.Perm.trans ?_ (s.live_perm hl)
    rw [live, live, hidle]
  obtain ⟨hgone, hsingle⟩ := List.nodup_cons.1 (hperm.nodup_iff.2 hs.single)
  have hsub : ∀ i ∈ live { s with pool := q, loans := s.loans.eraseIdx n }, i ∈ s.live :=
    fun i hi => hperm.mem_iff.1 (List.mem_cons_of_mem _ hi)
  refine ⟨⟨?_, List.Subset.refl _, fun i hi => .inl (hsub i hi)⟩, hgone⟩
  exact
  { settled := hq
    seated := hseated
    single := hsingle
    known := fun i hi => hs.known i (hsub i hi)
    ready := hidle ▸ hs.ready
    sound := fun l hl => hs.sound l (List.mem_of_mem_eraseIdx hl)
    queued := hs.queued.congr hidle hdisposed }

/-- What a poll adds to the loans: nothing, the first of the idle connections, or a new one that its task
was waiting for. -/
inductive Hands (s : Lending η ξ ω) (e : PoolEvent (Connection η ξ ω)) (s' : Lending η ξ ω) : Prop
  | nothing (loans : s'.loans = s.loans)
  | oldest (c : Connection η ξ ω) (idle : s.pool.idle = c :: s'.pool.idle)
    (loans : s'.loans = s.loans ++ [.new (s.pool.actor e) c true])
  | fresh (i : Nat) (c : Connection η ξ ω) (event : e = .connected i c) (opens : s.pool.Opens i)
    (idle : s'.pool.idle = s.pool.idle) (loans : s'.loans = s.loans ++ [.new i c false])

theorem openedBy_of_comes {p : ConnectionPool (Connection η ξ ω)}
    {ph : PoolPhase (Connection η ξ ω)} (h : p.Comes q ph e) (hph : ∀ c, ph ≠ .holding c false) :
    openedBy e = [] := by
  cases e with
  | connected i c => exact absurd h.1 (hph c)
  | _ => rfl

theorem afterPoll_of_none (hnone : Loan.ofTask? q (s.pool.actor e) = none) (he : openedBy e = []) :
    s.afterPoll e q = { s with pool := q } := by
  simp [afterPoll, hnone, he]

theorem afterPoll_of_holding {reused w : Bool}
    (h : q.tasks[s.pool.actor e]? = some ⟨.holding c reused, w⟩) :
    s.afterPoll e q = { s with
      pool := q
      loans := s.loans ++ [.new (s.pool.actor e) c reused]
      opened := s.opened ++ openedBy e
      reused := s.reused ++ if reused then [c] else [] } := by
  rw [afterPoll, ofTask?_of_holding h]
  cases reused <;> rfl

theorem Orderly.afterPoll (hs : s.Orderly) (hadmits : s.admits e = true) (hpoll : s.pool.poll e = some q) :
    Proceeds s (s.afterPoll e q) ∧ Hands s e (s.afterPoll e q) := by
  have he : ∀ i keep, e ≠ .letGo i keep := by
    rintro i keep rfl
    cases hadmits
  obtain ⟨⟨ph, w⟩, hmoves, hrest, hcomes⟩ := hs.settled.comes hpoll
  have hi : s.pool.actor e ∉ s.loans.map Loan.task := fun hmem => by
    obtain ⟨t, ht, hheld⟩ := (hs.seated.mem_iff _).1 hmem
    cases (ConnectionPool.not_holding_of_poll hs.settled.atRest hpoll he ht).symm.trans hheld
  have hq := hs.settled.poll hpoll
  have hself := hmoves.getElem?_self
  -- the loan that the poll hands out, if any, is for the task that was polled
  cases hcomes.deals hrest he with
  | nothing hheld hidle =>
    have hopened := openedBy_of_comes hcomes fun c hph => by
      rw [hph] at hheld
      cases hheld
    rw [afterPoll_of_none (ofTask?_of_not_holding hself hheld) hopened]
    exact ⟨hs.keeps hq (hs.seated.keeps hmoves hi hheld) hidle, .nothing rfl⟩
  | oldest hidle hdisposed =>
    rename_i c
    have hopened := openedBy_of_comes hcomes fun _ hph =>
      Bool.noConfusion (PoolPhase.holding.inj hph).2
    have hafter : s.afterPoll e q = { s with
        pool := q
        loans := s.loans ++ [.new (s.pool.actor e) c true]
        reused := s.reused ++ [c] } := by
      simp [afterPoll_of_holding hself, hopened]
    rw [hafter]
    exact ⟨hs.reuses hq (hs.seated.lends hmoves hi rfl rfl) hidle hdisposed,
      .oldest c hidle rfl⟩
  | fresh hidle hdisposed =>
    rename_i i c
    obtain ⟨hjob, hc⟩ := of_decide_eq_true hadmits
    have hafter : s.afterPoll (.connected i c) q = { s with
        pool := q
        loans := s.loans ++ [.new i c false]
        opened := s.opened ++ [c.id] } := by
      simp [afterPoll_of_holding hself, openedBy, ConnectionPool.actor]
    rw [hafter]
    exact ⟨hs.opens hq (hs.seated.lends hmoves hi rfl rfl) hidle hdisposed hjob hc,
      .fresh i c rfl (ConnectionPool.opens_of_connected hpoll) hidle rfl⟩

def Parks (s : Lending η ξ ω) (l : Loan η ξ ω) (dropped : Bool) : Prop :=
  s.pool.isDisposed = false ∧ dropped = true ∧ l.Unspoilt

/-- The loan ends; its connection is parked behind the others or closed for good. -/
structure Returned (s : Lending η ξ ω) (n : Nat) (l : Loan η ξ ω) (dropped : Bool)
    (s' : Lending η ξ ω) : Prop where
  loans : s'.loans = s.loans.eraseIdx n
  parked : s.Parks l dropped →
    s'.pool.idle = s.pool.idle ++ [l.connection] ∧ s'.pool.allocated = s.pool.allocated
  closed : ¬ s.Parks l dropped →
    s'.pool.idle = s.pool.idle ∧ s'.pool.allocated = s.pool.allocated - 1 ∧
      l.connection.id ∉ s'.live

theorem Orderly.letGo (hs : s.Orderly) (hl : s.loans[n]? = some l) (hjob : l.connection.job = .idle)
    (dropped : Bool) :
    ∃ s', s.letGo n dropped = some s' ∧ Proceeds s s' ∧ Returned s n l dropped s' := by
  have hsound := hs.sound l (List.mem_of_getElem? hl)
  obtain ⟨⟨ph, w⟩, ht, hheld⟩ :=
    (hs.seated.mem_iff l.task).1 (List.mem_map_of_mem (List.mem_of_getElem? hl))
  obtain ⟨c, reused, rfl⟩ : ∃ c reused, ph = .holding c reused := by
    cases ph <;> first | exact ⟨_, _, rfl⟩ | cases hheld
  obtain ⟨q, u, hpoll, hmoves, hrest, hreturns⟩ :=
    ConnectionPool.poll_letGo hs.settled.accounted ht (l.keep? dropped)
  obtain ⟨hfree, hback⟩ := hreturns.parked_or_freed hrest
  have hq := hs.settled.poll hpoll
  have hseated := hs.seated.returns hmoves hl hfree
  have hletGo : s.letGo n dropped = some { s with
      pool := q
      loans := s.loans.eraseIdx n
      parked := s.parked ++ q.idle.drop s.pool.idle.length } := by
    rw [Lending.letGo, hl, Option.bind_some, if_pos hjob, hpoll]
    rfl
  -- the pool keeps the connection just if the loan is unspoilt and the pool is open
  rcases hback with ⟨c, hkeep, hlive, hidle, hallocated⟩ | ⟨hwhy, hidle, hallocated⟩
  · obtain ⟨rfl, hdropped⟩ := (hsound.keep?_eq_some dropped).1 hkeep
    rw [hidle, List.drop_left] at hletGo
    exact ⟨_, hletGo, hs.parks hl hjob hq hseated hlive hidle, rfl,
      fun _ => ⟨hidle, hallocated⟩, fun h => absurd ⟨hlive, hdropped⟩ h⟩
  · rw [hidle, List.drop_length, List.append_nil] at hletGo
    obtain ⟨hproceeds, hgone⟩ := hs.frees hl hq hseated hreturns.1 hidle
    refine ⟨_, hletGo, hproceeds, rfl, ?_, fun _ => ⟨hidle, hallocated, hgone⟩⟩
    rintro ⟨hlive, hdropped⟩
    have hkeep := (hsound.keep?_eq_some dropped).2 ⟨rfl, hdropped⟩
    rcases hwhy with hnone | hdisposed
    · cases hnone.symm.trans hkeep
    · cases hlive.symm.trans hdisposed

theorem Orderly.allocated_eq (hs : s.Orderly) : s.pool.allocated =
    s.live.length + s.pool.tasks.countP fun t => t.phase.isConnecting := by
  have hloans : s.loans.length = s.pool.tasks.countP fun t => t.phase.isHolding :=
    (List.length_map _).symm.trans
      (ConnectionPool.length_eq_countP hs.seated.nodup hs.seated.mem_iff)
  have hlive : s.live.length = s.loans.length + s.pool.idle.length := by
    rw [live, List.length_append, List.length_map, List.length_map]
  rw [hs.settled.atRest.allocated_eq hs.settled.accounted, hlive, hloans]
  omega

theorem Proceeds.refl (hs : s.Orderly) : Proceeds s s :=
  ⟨hs, List.Subset.refl _, fun _ => .inl⟩

theorem Proceeds.trans {s'' : Lending η ξ ω} (h : Proceeds s s') (h' : Proceeds s' s'') :
    Proceeds s s'' where
  orderly := h'.orderly
  opened := List.Subset.trans h.opened h'.opened
  live := fun i hi => (h'.live i hi).elim (h.live i) fun hi => .inr fun ho => hi (h.opened ho)

variable [Recorder ω] [Secured η] {k : StageKit η ξ ω} {ev : LendingEvent η ξ ω}

theorem Orderly.step (hs : s.Orderly) (h : s.step k ev = some s') : Proceeds s s' := by
  cases ev with
  | pool e =>
    obtain ⟨hadmits, h⟩ := Option.ite_none_right_eq_some.1 h
    obtain ⟨q, hpoll, rfl⟩ := Option.map_eq_some_iff.1 h
    exact (hs.afterPoll hadmits hpoll).1
  | operate n now m =>
    obtain ⟨l, hl, h⟩ := Option.bind_eq_some_iff.1 h
    obtain ⟨hclose, h⟩ := Option.ite_none_left_eq_some.1 h
    -- a loan is not closed by a move, it ends
    have hm : m ≠ .close := by
      rintro rfl
      exact hclose rfl
    obtain ⟨⟨borrowed, r⟩, hadvance, rfl⟩ := Option.map_eq_some_iff.1 h
    obtain ⟨hid, hsound⟩ := (hs.sound l (List.mem_of_getElem? hl)).operate hm hadvance
    exact hs.changes hl rfl hid hsound
  | invalidate n =>
    obtain ⟨l, hl, rfl⟩ := Option.map_eq_some_iff.1 h
    exact hs.changes hl rfl rfl (hs.sound l (List.mem_of_getElem? hl)).invalidate
  | letGo n dropped =>
    obtain ⟨l, hl, hback⟩ := Option.bind_eq_some_iff.1 h
    obtain ⟨hjob, -⟩ := Option.ite_none_right_eq_some.1 hback
    obtain ⟨s'', h'', hproceeds, -⟩ := hs.letGo hl hjob dropped
    obtain rfl := Option.some.inj (h''.symm.trans h)
    exact hproceeds

theorem Orderly.run {es : List (LendingEvent η ξ ω)} (hs : s.Orderly) (h : s.run k es = some s') :
    Proceeds s s' := by
  induction es generalizing s with
  | nil =>
    obtain rfl := Option.some.inj h
    exact .refl hs
  | cons ev es ih =>
    obtain ⟨r, hstep, hrun⟩ := Option.bind_eq_some_iff.1 h
    have hr := hs.step hstep
    exact hr.trans (ih hr.orderly hrun)

theorem pool_of_step (h : s.step k ev = some s') :
    s'.pool = s.pool ∨ ∃ e, s.pool.poll e = some s'.pool := by
  cases ev with
  | pool e =>
    obtain ⟨-, h⟩ := Option.ite_none_right_eq_some.1 h
    obtain ⟨q, hpoll, rfl⟩ := Option.map_eq_some_iff.1 h
    exact .inr ⟨e, hpoll⟩
  | operate n now m =>
    obtain ⟨l, -, h⟩ := Option.bind_eq_some_iff.1 h
    obtain ⟨-, h⟩ := Option.ite_none_left_eq_some.1 h
    obtain ⟨_, -, rfl⟩ := Option.map_eq_some_iff.1 h
    exact .inl rfl
  | invalidate n =>
    obtain ⟨l, hl, rfl⟩ := Option.map_eq_some_iff.1 h
    exact .inl rfl
  | letGo n dropped =>
    obtain ⟨l, -, h⟩ := Option.bind_eq_some_iff.1 h
    obtain ⟨-, h⟩ := Option.ite_none_right_eq_some.1 h
    obtain ⟨q, hpoll, rfl⟩ := Option.map_eq_some_iff.1 h
    exact .inr ⟨_, hpoll⟩

/-- How connections pass from hand to hand. -/
structure Disciplined (k : StageKit η ξ ω) (s : Lending η ξ ω) : Prop where
  single : s.live.Nodup
  allocated : s.pool.allocated =
    s.live.length + s.pool.tasks.countP fun t => t.phase.isConnecting
  /-- What was parked first is handed out first. -/
  queued : Queued s.parked s.reused s.pool
  /-- No acquire sets out for a connection of its own while one is idle. -/
  opens : ∀ ev s' i, s.step k ev = some s' → s'.pool.Opens i → ¬ s.pool.Opens i → s.pool.idle = []
  acquires : ∃ s', s.step k (.pool .acquire) = some s'
  hands : ∀ e s', s.step k (.pool e) = some s' → Hands s e s'
  /-- An acquire that begins, or runs on after its wait, gets what was parked first. -/
  reuses : ∀ e s' c rest, e = .acquire ∨ (∃ i, e = .run i) → s.step k (.pool e) = some s' →
    s.pool.idle = c :: rest →
      s'.loans = s.loans ++ [.new (s.pool.actor e) c true] ∧ s'.pool.idle = rest
  /-- A connection that is not parked is never seen again. -/
  returns : ∀ n l dropped, s.loans[n]? = some l → l.connection.job = .idle →
    ∃ s', s.step k (.letGo n dropped) = some s' ∧ Returned s n l dropped s' ∧
      (¬ s.Parks l dropped → ∀ es s'', s'.run k es = some s'' → l.connection.id ∉ s''.live)

theorem Orderly.reuses_oldest {rest : List (Connection η ξ ω)} (hs : s.Orderly)
    (he : e = .acquire ∨ ∃ i, e = .run i) (h : s.step k (.pool e) = some s')
    (hidle : s.pool.idle = c :: rest) :
    s'.loans = s.loans ++ [.new (s.pool.actor e) c true] ∧ s'.pool.idle = rest := by
  obtain ⟨-, h⟩ := Option.ite_none_right_eq_some.1 h
  obtain ⟨q, hpoll, rfl⟩ := Option.map_eq_some_iff.1 h
  obtain ⟨⟨ph, w⟩, hmoves, hrest, hcomes⟩ := hs.settled.comes hpoll
  have hsearches : ConnectionPool.Searches s.pool q ph := by
    rcases he with rfl | ⟨i, rfl⟩ <;> exact hcomes
  have hlive : s.pool.isDisposed = false := by
    by_contra hdisposed
    cases hidle.symm.trans (hs.settled.disposed (Bool.of_not_eq_false hdisposed))
  obtain ⟨rfl, hqueue⟩ := hsearches.holding hrest hlive hidle
  rw [afterPoll_of_holding hmoves.getElem?_self]
  exact ⟨rfl, hqueue⟩

/-- Whatever acquires, borrowers and sockets do, and whenever the pool is disposed of, connections change
hands in good order. -/
theorem disciplined_of_run {id : Nat} {remote : RemoteAddress} {limits : PoolLimits}
    {es : List (LendingEvent η ξ ω)} (h : (new id remote limits).run k es = some s) :
    Disciplined k s := by
  have hs := ((orderly_new id remote limits).run h).orderly
  exact
  { single := hs.single
    allocated := hs.allocated_eq
    queued := hs.queued
    opens := fun ev s' i hstep hafter hbefore => by
      rcases pool_of_step hstep with hpool | ⟨e, hpoll⟩
      · exact absurd (hpool ▸ hafter) hbefore
      · exact hs.settled.idle_of_opens hpoll hafter hbefore
    acquires := by
      obtain ⟨q, -, hpoll, -⟩ := ConnectionPool.poll_acquire hs.settled.accounted
      exact ⟨s.afterPoll .acquire q, by rw [step, hpoll]; rfl⟩
    hands := fun e s' hstep => by
      obtain ⟨hadmits, hstep⟩ := Option.ite_none_right_eq_some.1 hstep
      obtain ⟨q, hpoll, rfl⟩ := Option.map_eq_some_iff.1 hstep
      exact (hs.afterPoll hadmits hpoll).2
    reuses := fun e s' c rest he => hs.reuses_oldest he
    returns := fun n l dropped hl hjob => by
      obtain ⟨s', hletGo, hproceeds, hreturned⟩ := hs.letGo hl hjob dropped
      -- a connection that is closed is known and not alive, and only new ones come to life
      refine ⟨s', hletGo, hreturned, fun hclosed es s'' hrun hmem => ?_⟩
      have hknown : l.connection.id ∈ s.opened :=
        hs.known _ (List.mem_append_left _ (List.mem_map_of_mem (List.mem_of_getElem? hl)))
      rcases (hproceeds.orderly.run hrun).live _ hmem with hlive | hnew
      · exact (hreturned.closed hclosed).2.2 hlive
      · exact hnew (hproceeds.opened hknown) }

def lendBare (evs : List (LendingEvent BriefStage Empty Unit)) : Option (Lending BriefStage Empty Unit) :=
  (new 0 (.opaqueName "peer") .standard).run (.closed BriefStage.react) evs

def bareConnection (id : Nat) : Connection BriefStage Empty Unit :=
  let o : ConnectOptions Unit Unit BriefStage := {}
  let c : Connection BriefStage Empty Unit :=
    .start 0 o (.opaqueName "peer") (.new ⟨id, none⟩) ⟨[], ()⟩
  ((c.opened (.closed BriefStage.react) 0).map Prod.fst).getD c

/-- Two acquires get two connections, one is used and dropped, the other one invalidated; the third
acquire gets the first connection again. -/
theorem disciplined_of_return : ∃ s,
    lendBare [.pool .acquire, .pool .acquire, .pool (.connected 0 (bareConnection 7)),
      .pool (.connected 1 (bareConnection 8)), .operate 0 1 (.write [1, 2]),
      .operate 0 2 (.socket (.sent 2)), .letGo 0 true, .invalidate 0, .letGo 0 true,
      .pool .acquire] = some s ∧
    s.opened = [7, 8] ∧ s.live = [7] ∧ s.pool.allocated = 1 ∧
    s.loans.map (fun l => (l.task, l.borrowed.reused)) = [(2, true)] ∧
    Disciplined (.closed BriefStage.react) s := by
  have hrun : (lendBare [.pool .acquire, .pool .acquire, .pool (.connected 0 (bareConnection 7)),
      .pool (.connected 1 (bareConnection 8)), .operate 0 1 (.write [1, 2]),
      .operate 0 2 (.socket (.sent 2)), .letGo 0 true, .invalidate 0, .letGo 0 true,
      .pool .acquire]).map
        (fun s => (s.opened, s.live, s.pool.allocated,
          s.loans.map fun l => (l.task, l.borrowed.reused))) =
      some ([7, 8], [7], 1, [(2, true)]) := by
    decide +kernel
  obtain ⟨s, h, hs⟩ := Option.map_eq_some_iff.1 hrun
  simp only [Prod.mk.injEq] at hs
  obtain ⟨hopened, hlive, hallocated, hloans⟩ := hs
  exact ⟨s, h, hopened, hlive, hallocated, hloans, disciplined_of_run h⟩

/-- A connection is handed out again just as it was parked; nobody looks into it. -/
theorem reused_as_parked {id : Nat} {remote : RemoteAddress} {limits : PoolLimits}
    {es : List (LendingEvent η ξ ω)} (h : (new id remote limits).run k es = some s) :
    s.reused <+: s.parked := by
  obtain ⟨drained, hparked, -⟩ := ((orderly_new id remote limits).run h).orderly.queued
  rw [hparked, List.append_assoc]
  exact List.prefix_append _ _

/-- An operation that is dropped halfway leaves no mark on its connection: when the borrower drops the
connection too, it is parked, and the bytes that were in hand for the socket are gone. -/
theorem parked_after_dropped {id : Nat} {remote : RemoteAddress} {limits : PoolLimits}
    {es : List (LendingEvent η ξ ω)} (h : (new id remote limits).run k es = some s)
    (hlive : s.pool.isDisposed = false) (hl : s.loans[n]? = some l) (hunspoilt : l.Unspoilt)
    (now : Instant) :
    ∃ s', s.run k [.operate n now .drop, .letGo n true] = some s' ∧
      s'.pool.idle = s.pool.idle ++ [l.connection.abandon] := by
  have hs := ((orderly_new id remote limits).run h).orderly
  have hlt := (List.getElem?_eq_some_iff.1 hl).1
  have hopen := (hs.sound l (List.mem_of_getElem? hl)).stretch
  have hmove : l.connection.move k now .drop = some (l.connection.abandon, none) := by
    rw [Connection.move, if_pos hopen]
  -- the drop has no result, so it leaves the loan unspoilt
  let l' : Loan η ξ ω := { l with borrowed := { l.borrowed with connection := l.connection.abandon } }
  have hdrop : s.step k (.operate n now .drop) = some { s with loans := s.loans.set n l' } := by
    have hadvance : l.borrowed.advance (·.move k now .drop) = some (l'.borrowed, none) := by
      refine (congrArg (Option.map _) hmove).trans ?_
      simp [l']
    refine (congrArg (Option.bind · _) hl).trans ((congrArg (Option.map _) hadvance).trans ?_)
    simp [l']
  have hs' := (hs.step hdrop).orderly
  obtain ⟨s', hback, -, hreturned⟩ := hs'.letGo (List.getElem?_set_self hlt) rfl true
  obtain ⟨hidle, -⟩ := hreturned.parked ⟨hlive, rfl, hunspoilt⟩
  refine ⟨s', ?_, hidle⟩
  rw [run, hdrop, Option.bind_some, run]
  exact Option.bind_eq_some_iff.2 ⟨s', hback, rfl⟩

/-- The socket takes one byte of three. The next borrower gets the connection, and what it writes
follows that byte. -/
theorem reused_after_dropped : ∃ s,
    lendBare [.pool .acquire, .pool (.connected 0 (bareConnection 7)), .operate 0 1 (.write [1, 2, 3]),
      .operate 0 2 (.socket (.sent 1)), .operate 0 3 .drop, .letGo 0 true, .pool .acquire] = some s ∧
    s.loans.map (fun l => (l.task, l.borrowed.reused, l.connection.id)) = [(1, true, 7)] := by
  refine Option.map_eq_some_iff.1 ?_
  decide +kernel

def halving : StageKit BriefStage Empty Unit := .closed fun _ sig s w =>
  match sig with
  | .inbound (.read (b :: data)) => .emit s [.inbound (.read [b]), .inbound (.read data)] w
  | _ => .pass s sig w

def halvedConnection : Connection BriefStage Empty Unit :=
  let o : ConnectOptions Unit Unit BriefStage := {}
  let p : Pipeline (Occupant BriefStage Empty) :=
    ⟨⟨7, none⟩, [⟨0, .ssl, some (.handshake ⟨.none⟩)⟩], 1, [], [], false, false⟩
  .start 0 o (.opaqueName "peer") p ⟨[], ()⟩

/-- Two chunks come in at once. The first borrower reads one of them, and the next one gets the other
without a word from the peer. -/
theorem leftover_read_by_next : ∃ s,
    (new 0 (.opaqueName "peer") .standard).run halving
      [.pool .acquire, .pool (.connected 0 halvedConnection), .operate 0 1 .read,
        .operate 0 2 (.socket (.received [1, 2, 3])), .letGo 0 true, .pool .acquire,
        .operate 0 3 .read] = some s ∧
    s.loans.map (fun l => (l.borrowed.reused, l.results)) =
      [(true, [.ok (.received (some [2, 3]))])] := by
  refine Option.map_eq_some_iff.1 ?_
  decide +kernel

end Lending
end SecureGateway

import SecureGateway.Proofs.Pool.Polling

namespace SecureGateway.ConnectionPool

variable {κ : Type} {p q r : ConnectionPool κ} {i : Nat} {t u : PoolTask κ} {e : PoolEvent κ}

def Searches (p q : ConnectionPool κ) (ph : PoolPhase κ) : Prop :=
  q.isDisposed = p.isDisposed ∧
    match ph with
    | .entering | .popping | .registering | .rechecking => q.idle = p.idle
    | .popped c | .claiming c | .withdrawing (.reuse c) | .delisting (.reuse c) | .holding c true =>
      p.idle = c :: q.idle
    | .reserving | .reserved | .enlisting | .parked | .withdrawing .fresh | .delisting .fresh
    | .connecting => p.idle = [] ∧ q.idle = []
    | .withdrawing (.failed _) | .delisting (.failed _) | .finished (.failed _) =>
      q.idle = p.idle ∧ (p.isDisposed = true ∨ p.idle = [])
    | _ => False

def Leaves (p q : ConnectionPool κ) (ph : PoolPhase κ) : Prop :=
  q.isDisposed = p.isDisposed ∧ q.idle = p.idle ∧
    match ph with
    | .withdrawing d | .delisting d => d.takesSlot = false
    | .finished _ => True
    | _ => False

def Parked (p : ConnectionPool κ) (keep : Option κ) (q : ConnectionPool κ) : Prop :=
  ∃ c, keep = some c ∧ p.isDisposed = false ∧ q.idle = p.idle ++ [c] ∧ q.allocated = p.allocated

def Freed (p : ConnectionPool κ) (keep : Option κ) (q : ConnectionPool κ) : Prop :=
  (keep = none ∨ p.isDisposed = true) ∧ q.idle = p.idle ∧ q.allocated = p.allocated - 1

def Returns (p : ConnectionPool κ) (keep : Option κ) (q : ConnectionPool κ) (ph : PoolPhase κ) :
    Prop :=
  q.isDisposed = p.isDisposed ∧
    match ph with
    | .releasing c _ => c = keep ∧ q.idle = p.idle ∧ q.allocated = p.allocated
    | .deciding c _ => keep = some c ∧ q.idle = p.idle ∧ q.allocated = p.allocated
    | .parking c _ =>
      keep = some c ∧ p.isDisposed = false ∧ q.idle = p.idle ∧ q.allocated = p.allocated
    | .counting _ => Parked p keep q
    | .freeing _ =>
      (keep = none ∨ p.isDisposed = true) ∧ q.idle = p.idle ∧ q.allocated = p.allocated
    | .notifying _ | .finished _ => Parked p keep q ∨ Freed p keep q
    | _ => False

def Clears (p q : ConnectionPool κ) (ph : PoolPhase κ) : Prop :=
  match ph with
  | .disposing => q.isDisposed = p.isDisposed ∧ q.idle = p.idle
  | .draining => q.isDisposed = true
  | .uncounting _ | .unallocating _ | .waking => q.isDisposed = true ∧ q.idle = []
  | .finished _ => q.isDisposed = true ∧ (q.idle = [] ∨ p.isDisposed = true ∧ q.idle = p.idle)
  | _ => False

theorem Searches.run (h : Searches p q t.phase) (hrun : q.runTask i t = some r) :
    ∃ u, r.tasks = q.tasks.set i u ∧ Searches p r u.phase := by
  obtain ⟨ph, w⟩ := t
  obtain ⟨hdisposed, h⟩ := h
  cases ph with
  | popping =>
    simp only [runTask] at hrun
    split at hrun <;> obtain rfl := Option.some.inj hrun <;> refine ⟨_, rfl, hdisposed, ?_⟩
    · exact h ▸ ‹_›
    · have hidle : q.idle = [] := ‹_›
      exact ⟨h ▸ hidle, hidle⟩
  | claiming c =>
    obtain rfl := Option.some.inj hrun
    cases w <;> exact ⟨_, rfl, hdisposed, h⟩
  | reserved =>
    obtain rfl := Option.some.inj hrun
    cases w <;> exact ⟨_, rfl, hdisposed, h⟩
  | entering | rechecking =>
    obtain rfl := Option.some.inj hrun
    refine ⟨_, rfl, hdisposed, ?_⟩
    cases hd : q.isDisposed with
    | false => exact h
    | true => exact ⟨h, .inl (hdisposed ▸ hd)⟩
  | reserving =>
    simp only [runTask] at hrun
    split at hrun <;> obtain rfl := Option.some.inj hrun
    · exact ⟨_, rfl, hdisposed, h⟩
    · cases w <;> exact ⟨_, rfl, hdisposed, h⟩
  -- an acquire that has to wait found the queue empty, so the queue is still the one it started
  -- with
  | enlisting =>
    simp only [runTask] at hrun
    (repeat' split at hrun) <;> obtain rfl := Option.some.inj hrun <;> refine ⟨_, rfl, hdisposed, ?_⟩
    · exact h.2.trans h.1.symm
    · exact ⟨h.2.trans h.1.symm, .inr h.1⟩
    · exact h.2.trans h.1.symm
  | parked =>
    obtain ⟨_, hrun⟩ := Option.ite_none_right_eq_some.1 hrun
    obtain rfl := Option.some.inj hrun
    exact ⟨_, rfl, hdisposed, h.2.trans h.1.symm⟩
  | withdrawing d | delisting d =>
    obtain rfl := Option.some.inj hrun
    cases d <;> first | exact h.elim | exact ⟨_, rfl, hdisposed, h⟩
  | popped | registering =>
    obtain rfl := Option.some.inj hrun
    exact ⟨_, rfl, hdisposed, h⟩
  | connecting | holding | finished => cases hrun
  -- the phases in which nothing is searched
  | _ => exact h.elim

theorem Leaves.run (h : Leaves p q t.phase) (hrun : q.runTask i t = some r) :
    ∃ u, r.tasks = q.tasks.set i u ∧ Leaves p r u.phase := by
  obtain ⟨ph, w⟩ := t
  obtain ⟨hdisposed, hidle, h⟩ := h
  cases ph with
  | withdrawing d =>
    obtain rfl := Option.some.inj hrun
    exact ⟨_, rfl, hdisposed, hidle, h⟩
  | delisting d =>
    obtain rfl := Option.some.inj hrun
    cases d with
    | reuse | fresh => cases h
    | failed | abandoned => exact ⟨_, rfl, hdisposed, hidle, trivial⟩
  | finished => cases hrun
  | _ => exact h.elim

theorem Returns.run {keep : Option κ} (h : Returns p keep q t.phase) (hrun : q.runTask i t = some r) :
    ∃ u, r.tasks = q.tasks.set i u ∧ Returns p keep r u.phase := by
  obtain ⟨ph, w⟩ := t
  obtain ⟨hdisposed, h⟩ := h
  cases ph with
  | releasing c e =>
    obtain rfl := Option.some.inj hrun
    obtain ⟨rfl, hsame⟩ := h
    cases c with
    | none => exact ⟨_, rfl, hdisposed, .inl rfl, hsame⟩
    | some c => exact ⟨_, rfl, hdisposed, rfl, hsame⟩
  | deciding c e =>
    obtain rfl := Option.some.inj hrun
    obtain ⟨hkeep, hsame⟩ := h
    refine ⟨_, rfl, hdisposed, ?_⟩
    cases hd : q.isDisposed with
    | false => exact ⟨hkeep, hdisposed ▸ hd, hsame⟩
    | true => exact ⟨.inr (hdisposed ▸ hd), hsame⟩
  | parking c e =>
    obtain rfl := Option.some.inj hrun
    obtain ⟨hkeep, hlive, hidle, hallocated⟩ := h
    exact ⟨_, rfl, hdisposed, c, hkeep, hlive, congrArg (· ++ [c]) hidle, hallocated⟩
  | counting e =>
    obtain rfl := Option.some.inj hrun
    exact ⟨_, rfl, hdisposed, .inl h⟩
  | freeing e =>
    obtain rfl := Option.some.inj hrun
    obtain ⟨hwhy, hidle, hallocated⟩ := h
    exact ⟨_, rfl, hdisposed, .inr ⟨hwhy, hidle, congrArg (· - 1) hallocated⟩⟩
  | notifying e =>
    obtain rfl := Option.some.inj hrun
    exact ⟨_, rfl, hdisposed, h⟩
  | finished => cases hrun
  -- the phases in which no slot is given back
  | _ => exact h.elim

theorem Clears.run (h : Clears p q t.phase) (hrun : q.runTask i t = some r) :
    ∃ u, r.tasks = q.tasks.set i u ∧ Clears p r u.phase := by
  obtain ⟨ph, w⟩ := t
  cases ph with
  | disposing =>
    obtain rfl := Option.some.inj hrun
    refine ⟨_, rfl, ?_⟩
    cases hd : q.isDisposed with
    | false => exact rfl
    | true => exact ⟨rfl, .inr ⟨h.1 ▸ hd, h.2⟩⟩
  | draining =>
    obtain rfl := Option.some.inj hrun
    exact ⟨_, rfl, h, rfl⟩
  | uncounting n | unallocating n =>
    obtain rfl := Option.some.inj hrun
    exact ⟨_, rfl, h⟩
  | waking =>
    obtain rfl := Option.some.inj hrun
    exact ⟨_, rfl, h.1, .inl h.2⟩
  | finished => cases hrun
  | _ => exact h.elim

theorem runToRest_trail {T : ConnectionPool κ → PoolPhase κ → Prop}
    (hT : ∀ {q r : ConnectionPool κ} {t : PoolTask κ}, T q t.phase → q.runTask i t = some r →
      ∃ u, r.tasks = q.tasks.set i u ∧ T r u.phase)
    (ht : p.tasks[i]? = some t) (h : T p t.phase) (limit : Nat) :
    ∃ u, (p.runToRest limit i).tasks = p.tasks.set i u ∧ T (p.runToRest limit i) u.phase := by
  have hlt := (List.getElem?_eq_some_iff.1 ht).1
  refine runToRest_induction (i := i)
    (P := fun q => ∃ u, q.tasks = p.tasks.set i u ∧ T q u.phase) ?_ limit ⟨t, ?_, h⟩
  · rintro q r ⟨u, hq, hu⟩ hstep
    rw [step_run_of_getElem? (hq ▸ List.getElem?_set_self hlt)] at hstep
    obtain ⟨v, hr, hv⟩ := hT hu hstep
    exact ⟨v, by rw [hr, hq, List.set_set], hv⟩
  · obtain ⟨_, rfl⟩ := List.getElem?_eq_some_iff.1 ht
    exact (List.set_getElem_self hlt).symm

inductive Moves (p : ConnectionPool κ) (i : Nat) (u : PoolTask κ) (q : ConnectionPool κ) : Prop
  | begun (last : i = p.tasks.length) (tasks : q.tasks = p.tasks ++ [u])
  | changed {t : PoolTask κ} (before : p.tasks[i]? = some t) (tasks : q.tasks = p.tasks.set i u)

theorem Moves.getElem?_self (h : Moves p i u q) : q.tasks[i]? = some u := by
  cases h with
  | begun hlast hq => rw [hq, hlast, List.getElem?_concat_length]
  | changed ht hq => exact getElem?_of_set hq ht

theorem Moves.getElem?_of_ne (h : Moves p i u q) {j : Nat} (hj : j ≠ i) : q.tasks[j]? = p.tasks[j]? := by
  cases h with
  | begun hlast hq =>
    rw [hq, List.getElem?_append]
    split
    · rfl
    · have hlt : p.tasks.length < j := by omega
      rw [List.getElem?_eq_none (Nat.le_of_lt hlt), List.getElem?_eq_none]
      rw [List.length_singleton]
      omega
  | changed ht hq => rw [hq, List.getElem?_set_ne hj.symm]

/-- A poll whose first step brings its task onto a trail ends on it, at rest. -/
theorem poll_trail {T : ConnectionPool κ → PoolPhase κ → Prop} (hp : p.Accounted)
    (hT : ∀ {q r : ConnectionPool κ} {t : PoolTask κ}, T q t.phase →
      q.runTask (p.actor e) t = some r → ∃ u, r.tasks = q.tasks.set (p.actor e) u ∧ T r u.phase)
    (hstep : p.step e = some r) (hr : Moves p (p.actor e) t r) (ht : T r t.phase) :
    ∃ q u, p.poll e = some q ∧ Moves p (p.actor e) u q ∧ u.phase.atRest = true ∧ T q u.phase := by
  obtain ⟨u, hq, hu⟩ := runToRest_trail hT hr.getElem?_self ht restLimit
  have hpoll : p.poll e = some (r.runToRest restLimit (p.actor e)) := by
    rw [poll, hstep]
    rfl
  refine ⟨_, u, hpoll, ?_, ?_, hu⟩
  · cases hr with
    | begun hlast hr =>
      refine .begun hlast ?_
      rw [hq, hr, hlast, List.set_append_right _ _ (Nat.le_refl _), Nat.sub_self]
      rfl
    | changed ht hr => exact .changed ht (by rw [hq, hr, List.set_set])
  · obtain ⟨⟨v, hv, hstop⟩, _⟩ := getElem?_of_poll hp hpoll
    have hself := getElem?_of_set hq hr.getElem?_self
    obtain rfl := Option.some.inj (hself.symm.trans hv)
    exact (atRest_of_runTask hstop).1

/-- Where the task of an event is when its poll is over. -/
def Comes (p q : ConnectionPool κ) (ph : PoolPhase κ) : PoolEvent κ → Prop
  | .acquire | .run _ => Searches p q ph
  | .connected _ c => ph = .holding c false ∧ q.isDisposed = p.isDisposed ∧ q.idle = p.idle
  | .refused _ _ => Returns p none q ph
  | .expire _ => Leaves p q ph
  | .cancel _ => Leaves p q ph ∨ Returns p none q ph
  | .letGo _ keep => Returns p keep q ph
  | .dispose => Clears p q ph

theorem poll_goto {T : ConnectionPool κ → PoolPhase κ → Prop} {ph : PoolPhase κ} (hp : p.Accounted)
    (hT : ∀ {q r : ConnectionPool κ} {t : PoolTask κ}, T q t.phase →
      q.runTask (p.actor e) t = some r → ∃ u, r.tasks = q.tasks.set (p.actor e) u ∧ T r u.phase)
    (ht : p.tasks[p.actor e]? = some t) (hstep : p.step e = some (p.goto (p.actor e) t ph))
    (h : T (p.goto (p.actor e) t ph) ph) :
    ∃ q u, p.poll e = some q ∧ Moves p (p.actor e) u q ∧ u.phase.atRest = true ∧ T q u.phase :=
  poll_trail hp hT hstep (.changed ht rfl) h

theorem poll_acquire (hp : p.Accounted) :
    ∃ q u, p.poll .acquire = some q ∧ Moves p p.tasks.length u q ∧ u.phase.atRest = true ∧
      Searches p q u.phase :=
  poll_trail (e := .acquire) (t := ⟨.entering, false⟩) hp Searches.run rfl (.begun rfl rfl) ⟨rfl, rfl⟩

theorem poll_dispose (hp : p.Accounted) :
    ∃ q u, p.poll .dispose = some q ∧ Moves p p.tasks.length u q ∧ u.phase.atRest = true ∧
      Clears p q u.phase :=
  poll_trail (e := .dispose) (t := ⟨.disposing, false⟩) hp Clears.run rfl (.begun rfl rfl) ⟨rfl, rfl⟩

theorem Returns.start (p : ConnectionPool κ) (keep : Option κ) (e : PoolEnding) (i : Nat)
    (t : PoolTask κ) : Returns p keep (p.goto i t (.releasing keep e)) (.releasing keep e) :=
  ⟨rfl, rfl, rfl, rfl⟩

theorem Leaves.start {d : Departure κ} (hd : d.takesSlot = false) (p : ConnectionPool κ) (i : Nat)
    (t : PoolTask κ) : Leaves p (p.goto i t (.withdrawing d)) (.withdrawing d) :=
  ⟨rfl, rfl, hd⟩

theorem poll_letGo {c : κ} {reused : Bool} {w : Bool} (hp : p.Accounted)
    (ht : p.tasks[i]? = some ⟨.holding c reused, w⟩) (keep : Option κ) :
    ∃ q u, p.poll (.letGo i keep) = some q ∧ Moves p i u q ∧ u.phase.atRest = true ∧
      Returns p keep q u.phase :=
  poll_goto (e := .letGo i keep) hp Returns.run ht (by simp only [step, ht]; rfl)
    (.start p keep .released i _)

/-- Between polls a task only runs on if it was woken, and then it begins its search again. -/
theorem runTask_of_atRest (h : p.runTask i t = some q) (hrest : t.phase.atRest = true) :
    q.tasks = p.tasks.set i { t with phase := .registering } ∧
      Searches p q .registering := by
  obtain ⟨ph, w⟩ := t
  cases ph with
  | parked =>
    obtain ⟨_, h⟩ := Option.ite_none_right_eq_some.1 h
    obtain rfl := Option.some.inj h
    exact ⟨rfl, rfl, rfl⟩
  | connecting | holding | finished => cases h
  | _ => cases hrest

/-- What holds between two polls. -/
structure Settled (p : ConnectionPool κ) : Prop where
  accounted : p.Accounted
  atRest : p.AtRest
  disposed : p.isDisposed = true → p.idle = []

theorem settled_new (id : Nat) (remote : RemoteAddress) (limits : PoolLimits) :
    (new id remote limits : ConnectionPool κ).Settled where
  accounted := accounted_new id remote limits
  atRest := List.forall_mem_nil _
  disposed := fun _ => rfl

theorem Settled.comes (hp : p.Settled) (h : p.poll e = some q) :
    ∃ u, Moves p (p.actor e) u q ∧ u.phase.atRest = true ∧ Comes p q u.phase e := by
  obtain ⟨hp, hrest, -⟩ := hp
  have hpoll : ∀ {T : PoolTask κ → ConnectionPool κ → Prop},
      (∃ q u, p.poll e = some q ∧ Moves p (p.actor e) u q ∧ u.phase.atRest = true ∧ T u q) →
        ∃ u, Moves p (p.actor e) u q ∧ u.phase.atRest = true ∧ T u q := by
    rintro T ⟨q', u, hq', hu⟩
    obtain rfl := Option.some.inj (h.symm.trans hq')
    exact ⟨u, hu⟩
  obtain ⟨r, hr, -⟩ := Option.map_eq_some_iff.1 h
  -- an event puts its task on the search, on its way out or on the way of a returned slot
  cases e with
  | acquire => exact hpoll (poll_acquire hp)
  | dispose => exact hpoll (poll_dispose hp)
  | run i =>
    obtain ⟨t, ht, hrun⟩ := Option.bind_eq_some_iff.1 hr
    obtain ⟨htasks, hsearch⟩ := runTask_of_atRest hrun (hrest t (List.mem_of_getElem? ht))
    exact hpoll (poll_trail hp Searches.run hr (.changed ht htasks) hsearch)
  | connected i c =>
    obtain ⟨⟨ph, w⟩, ht, hgoto⟩ := exists_task_of_match hr
    cases ph <;> simp at hgoto
    refine hpoll (poll_goto (T := fun q ph => ph = .holding c false ∧ q.isDisposed = p.isDisposed ∧
      q.idle = p.idle) hp ?_ ht (hgoto ▸ hr) ⟨rfl, rfl, rfl⟩)
    rintro q r ⟨ph, w⟩ ⟨rfl, -⟩ hrun
    cases hrun
  | refused i failure =>
    obtain ⟨⟨ph, w⟩, ht, hgoto⟩ := exists_task_of_match hr
    cases ph <;> simp at hgoto
    exact hpoll (poll_goto hp Returns.run ht (hgoto ▸ hr) (.start p none _ i _))
  | expire i =>
    obtain ⟨⟨ph, w⟩, ht, hgoto⟩ := exists_task_of_match hr
    cases ph <;> simp at hgoto
    exact hpoll (poll_goto hp Leaves.run ht (hgoto.2 ▸ hr) (.start rfl p i _))
  | cancel i =>
    obtain ⟨⟨ph, w⟩, ht, hgoto⟩ := exists_task_of_match hr
    cases ph <;> simp at hgoto
    · obtain ⟨u, hmoves, hu, hleaves⟩ := hpoll
        (poll_goto hp Leaves.run ht (hgoto ▸ hr) (.start rfl p i _))
      exact ⟨u, hmoves, hu, .inl hleaves⟩
    · obtain ⟨u, hmoves, hu, hreturns⟩ := hpoll
        (poll_goto hp Returns.run ht (hgoto ▸ hr) (.start p none _ i _))
      exact ⟨u, hmoves, hu, .inr hreturns⟩
  | letGo i keep =>
    obtain ⟨⟨ph, w⟩, ht, hgoto⟩ := exists_task_of_match hr
    cases ph <;> simp at hgoto
    exact hpoll (poll_letGo hp ht keep)

theorem not_holding_of_poll (hrest : p.AtRest) (h : p.poll e = some q)
    (he : ∀ i keep, e ≠ .letGo i keep) (ht : p.tasks[p.actor e]? = some t) :
    t.phase.isHolding = false := by
  obtain ⟨r, hr, -⟩ := Option.map_eq_some_iff.1 h
  rcases actor_cases hr with ⟨_, _, hlast, -⟩ | ⟨t', ht', hrun⟩ | ⟨t', _, ht', hjump, -⟩
  · rw [hlast, List.getElem?_eq_none (Nat.le_refl _)] at ht
    cases ht
  · obtain rfl := Option.some.inj (ht.symm.trans ht')
    have hatRest := hrest t (List.mem_of_getElem? ht)
    obtain ⟨ph, w⟩ := t
    cases ph <;> first | rfl | cases hrun
  · obtain rfl := Option.some.inj (ht.symm.trans ht')
    -- the only event that moves on a task with a connection is its end
    cases e with
    | letGo i keep => exact absurd rfl (he i keep)
    | acquire | dispose =>
      rw [actor, List.getElem?_eq_none (Nat.le_refl _)] at ht
      cases ht
    | run i =>
      obtain ⟨t', ht', hrun⟩ := Option.bind_eq_some_iff.1 hr
      obtain rfl := Option.some.inj (ht.symm.trans ht')
      obtain ⟨ph, w⟩ := t
      cases ph <;> first | rfl | cases hrun
    | connected i c | refused i failure | expire i | cancel i =>
      obtain ⟨⟨ph, w⟩, ht', hgoto⟩ := exists_task_of_match hr
      obtain rfl := Option.some.inj (ht.symm.trans ht')
      cases ph <;> first | rfl | simp at hgoto

theorem Searches.holding {c : κ} {rest : List κ} {ph : PoolPhase κ} (h : Searches p q ph)
    (hrest : ph.atRest = true) (hlive : p.isDisposed = false) (hidle : p.idle = c :: rest) :
    ph = .holding c true ∧ q.idle = rest := by
  obtain ⟨_, h⟩ := h
  cases ph with
  | parked | connecting => cases hidle.symm.trans h.1
  | holding c' reused =>
    cases reused with
    | true =>
      obtain ⟨rfl, hrest⟩ := List.cons.inj (h.symm.trans hidle)
      exact ⟨rfl, hrest⟩
    | false => exact h.elim
  | finished e =>
    cases e with
    | failed e =>
      rcases h.2 with hdisposed | hempty
      · cases hlive.symm.trans hdisposed
      · cases hidle.symm.trans hempty
    | released | abandoned | disposed => exact h.elim
  | _ => cases hrest

/-- A connection is opened only when no idle one is left. -/
theorem Comes.idle_of_connecting (h : Comes p q .connecting e) : p.idle = [] := by
  cases e with
  | acquire | run => exact h.2.1
  | connected => cases h.1
  | refused | letGo => exact h.2.elim
  | expire => exact h.2.2.elim
  | cancel => exact h.elim (fun h => h.2.2.elim) (fun h => h.2.elim)
  | dispose => exact h.elim

def Opens (p : ConnectionPool κ) (i : Nat) : Prop := ∃ t, p.tasks[i]? = some t ∧ t.phase = .connecting

theorem opens_of_connected {c : κ} (h : p.poll (.connected i c) = some q) : p.Opens i := by
  obtain ⟨r, hr, -⟩ := Option.map_eq_some_iff.1 h
  obtain ⟨⟨ph, w⟩, ht, hgoto⟩ := exists_task_of_match hr
  cases ph <;> simp at hgoto
  exact ⟨_, ht, rfl⟩

theorem Settled.idle_of_opens (hp : p.Settled) (h : p.poll e = some q) {j : Nat} (hj : q.Opens j)
    (hbefore : ¬ p.Opens j) : p.idle = [] := by
  obtain ⟨u, hmoves, -, hcomes⟩ := hp.comes h
  obtain ⟨t, ht, hconnecting⟩ := hj
  by_cases hactor : j = p.actor e
  · obtain rfl := Option.some.inj (hmoves.getElem?_self.symm.trans (hactor ▸ ht))
    exact Comes.idle_of_connecting (hconnecting ▸ hcomes)
  · exact absurd ⟨t, hmoves.getElem?_of_ne hactor ▸ ht, hconnecting⟩ hbefore

/-- What a poll hands out. -/
inductive Deals (p q : ConnectionPool κ) : PoolPhase κ → PoolEvent κ → Prop
  | nothing {ph : PoolPhase κ} {e : PoolEvent κ} (held : ph.isHolding = false)
    (idle : q.idle = p.idle ∧ q.isDisposed = p.isDisposed ∨ q.idle = [] ∧ q.isDisposed = true) :
    Deals p q ph e
  | oldest {c : κ} {e : PoolEvent κ} (idle : p.idle = c :: q.idle)
    (disposed : q.isDisposed = p.isDisposed) : Deals p q (.holding c true) e
  | fresh {i : Nat} {c : κ} (idle : q.idle = p.idle) (disposed : q.isDisposed = p.isDisposed) :
    Deals p q (.holding c false) (.connected i c)

theorem Searches.deals {ph : PoolPhase κ} (h : Searches p q ph) (hrest : ph.atRest = true) :
    Deals p q ph e := by
  obtain ⟨hdisposed, h⟩ := h
  cases ph with
  | parked | connecting => exact .nothing rfl (.inl ⟨h.2.trans h.1.symm, hdisposed⟩)
  | holding c reused =>
    cases reused with
    | true => exact .oldest h hdisposed
    | false => exact h.elim
  | finished e =>
    cases e with
    | failed e => exact .nothing rfl (.inl ⟨h.1, hdisposed⟩)
    | released | abandoned | disposed => exact h.elim
  | _ => cases hrest

theorem Leaves.deals {ph : PoolPhase κ} (h : Leaves p q ph) (hrest : ph.atRest = true) :
    Deals p q ph e := by
  obtain ⟨hdisposed, hidle, h⟩ := h
  cases ph with
  | finished => exact .nothing rfl (.inl ⟨hidle, hdisposed⟩)
  | parked | connecting | holding => exact h.elim
  | _ => cases hrest

theorem Returns.parked_or_freed {keep : Option κ} {ph : PoolPhase κ} (h : Returns p keep q ph)
    (hrest : ph.atRest = true) : ph.isHolding = false ∧ (Parked p keep q ∨ Freed p keep q) := by
  obtain ⟨_, h⟩ := h
  cases ph with
  | finished => exact ⟨rfl, h⟩
  | parked | connecting | holding => exact h.elim
  | _ => cases hrest

theorem Returns.deals {ph : PoolPhase κ} (h : Returns p none q ph) (hrest : ph.atRest = true) :
    Deals p q ph e := by
  obtain ⟨hheld, ⟨c, hc, _⟩ | ⟨_, hidle, _⟩⟩ := h.parked_or_freed hrest
  · cases hc
  · exact .nothing hheld (.inl ⟨hidle, h.1⟩)

theorem Comes.deals {ph : PoolPhase κ} (h : Comes p q ph e) (hrest : ph.atRest = true)
    (he : ∀ i keep, e ≠ .letGo i keep) : Deals p q ph e := by
  cases e with
  | acquire | run => exact Searches.deals h hrest
  | connected i c =>
    obtain ⟨rfl, hdisposed, hidle⟩ := h
    exact .fresh hidle hdisposed
  | refused => exact Returns.deals h hrest
  | expire => exact Leaves.deals h hrest
  | cancel => exact h.elim (·.deals hrest) (·.deals hrest)
  | letGo i keep => exact absurd rfl (he i keep)
  | dispose =>
    cases ph with
    | finished =>
      obtain ⟨hdisposed, hidle | ⟨hbefore, hidle⟩⟩ := h
      · exact .nothing rfl (.inr ⟨hidle, hdisposed⟩)
      · exact .nothing rfl (.inl ⟨hidle, hdisposed.trans hbefore.symm⟩)
    | parked | connecting | holding => exact h.elim
    | _ => cases hrest

theorem Accounted.poll (hp : p.Accounted) (h : p.poll e = some q) : q.Accounted := by
  obtain ⟨r, hr, rfl⟩ := Option.map_eq_some_iff.1 h
  exact runToRest_induction (fun _ _ => Accounted.step) restLimit (hp.step hr)

theorem AtRest.of_moves (hp : p.AtRest) (h : Moves p i u q) (hu : u.phase.atRest = true) :
    q.AtRest := by
  intro t ht
  obtain ⟨j, hj⟩ := List.mem_iff_getElem?.1 ht
  by_cases hji : j = i
  · obtain rfl := Option.some.inj (h.getElem?_self.symm.trans (hji ▸ hj))
    exact hu
  · exact hp t (List.mem_of_getElem? (h.getElem?_of_ne hji ▸ hj))

theorem Comes.idle_of_disposed {ph : PoolPhase κ} (h : Comes p q ph e) (hrest : ph.atRest = true)
    (hp : p.isDisposed = true → p.idle = []) (hq : q.isDisposed = true) : q.idle = [] := by
  by_cases he : ∃ i keep, e = .letGo i keep
  · obtain ⟨i, keep, rfl⟩ := he
    have hdisposed : p.isDisposed = true := h.1.symm.trans hq
    rcases (Returns.parked_or_freed h hrest).2 with ⟨_, _, hlive, _⟩ | ⟨_, hidle, _⟩
    · cases hlive.symm.trans hdisposed
    · exact hidle.trans (hp hdisposed)
  · cases h.deals hrest fun i keep heq => he ⟨i, keep, heq⟩ with
    | nothing _ hidle =>
      rcases hidle with ⟨hidle, hdisposed⟩ | ⟨hidle, _⟩
      · exact hidle.trans (hp (hdisposed.symm.trans hq))
      · exact hidle
    | oldest hidle hdisposed => cases hidle.symm.trans (hp (hdisposed.symm.trans hq))
    | fresh hidle hdisposed => exact hidle.trans (hp (hdisposed.symm.trans hq))

theorem Settled.poll (hp : p.Settled) (h : p.poll e = some q) : q.Settled := by
  obtain ⟨u, hmoves, hrest, hcomes⟩ := hp.comes h
  exact ⟨hp.accounted.poll h, hp.atRest.of_moves hmoves hrest,
    hcomes.idle_of_disposed hrest hp.disposed⟩

theorem Polled.settled {id : Nat} {remote : RemoteAddress} {limits : PoolLimits}
    (h : Polled id remote limits p) : p.Settled := by
  induction h with
  | start => exact settled_new id remote limits
  | poll _ hpoll ih => exact ih.poll hpoll

/-- When nothing is halfway, every slot is idle, held or waits for its connection. -/
theorem AtRest.allocated_eq (hrest : p.AtRest) (hp : p.Accounted) :
    p.allocated = p.idle.length + (p.tasks.countP fun t => t.phase.isHolding) +
      p.tasks.countP fun t => t.phase.isConnecting := by
  have hallocated := hp.allocated
  have hacquired := hp.acquired
  rw [hrest.total_acquiredSlots] at hacquired
  have htransit : p.total PoolPhase.inTransit = 0 := hrest.total_eq_zero fun ph hph => by
    cases ph <;> simp_all [PoolPhase.atRest]
  omega

theorem length_eq_countP {is : List Nat} {ts : List (PoolTask κ)} {g : PoolTask κ → Bool}
    (hnodup : is.Nodup) (hmem : ∀ i, i ∈ is ↔ ∃ t, ts[i]? = some t ∧ g t = true) :
    is.length = ts.countP g := by
  have hperm : is.Perm ((List.range ts.length).filter fun i => ts[i]?.any g) := by
    refine (List.perm_ext_iff_of_nodup hnodup (List.nodup_range.filter _)).2 fun i => ?_
    rw [hmem, List.mem_filter, List.mem_range, Option.any_eq_true]
    constructor
    · rintro ⟨t, ht, hg⟩
      exact ⟨(List.getElem?_eq_some_iff.1 ht).1, t, ht, hg⟩
    · exact fun h => h.2
  have hmap : (List.range ts.length).map (fun i => ts[i]?) = ts.map some := by
    refine List.ext_getElem (by simp) fun i h₁ h₂ => ?_
    simp at h₁ ⊢
  rw [hperm.length_eq, ← List.countP_eq_length_filter]
  calc (List.range ts.length).countP (fun i => ts[i]?.any g)
      = ((List.range ts.length).map fun i => ts[i]?).countP (Option.any g) := by
        rw [List.countP_map]
        rfl
    _ = ts.countP g := by
        rw [hmap, List.countP_map]
        rfl

end SecureGateway.ConnectionPool

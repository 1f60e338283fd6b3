import SecureGateway.Proofs.Pool.Registration

namespace SecureGateway

namespace PoolPhase

variable {κ : Type}

def isSearching : PoolPhase κ → Bool
  | .entering | .popping | .reserving | .enlisting | .registering | .rechecking | .parked => true
  | _ => false

/-- A bound for the steps to the next wait, as long as nobody wakes the task meanwhile. -/
def rank (waiting : Bool) : PoolPhase κ → Nat
  | .entering => 13
  | .popping => if waiting then 7 else 12
  | .reserving => if waiting then 6 else 11
  | .enlisting => 10
  | .registering => 9
  | .rechecking => 8
  | .popped _ | .releasing _ _ | .disposing => 6
  | .claiming _ | .reserved | .deciding _ _ | .draining => 5
  | .withdrawing _ | .parking _ _ | .uncounting _ => 4
  | .delisting _ | .counting _ | .freeing _ | .unallocating _ => 3
  | .notifying _ | .waking => 2
  | .parked => 1
  | .connecting | .holding _ _ | .finished _ => 0

end PoolPhase

namespace Notify

variable {n : Notify} {i : Nat}

/-- How often task `i` can be woken without anybody else. -/
def spare (n : Notify) (i : Nat) : Nat := n.permit.toNat + (n.isWoken i).toNat

theorem spare_le_two (n : Notify) (i : Nat) : n.spare i ≤ 2 :=
  Nat.add_le_add (Bool.toNat_le _) (Bool.toNat_le _)

theorem spare_register_le (n : Notify) (i : Nat) : (n.register i).spare i ≤ n.spare i := by
  unfold register
  split
  · rename_i hpermit
    rw [spare, spare, hpermit]
    have hwoken := Bool.toNat_le (isWoken i ⟨false, n.waiters, n.woken ++ [(i, .permit)]⟩)
    simp only [Bool.toNat_false, Bool.toNat_true]
    omega
  · exact Nat.le_refl _

theorem spare_consume_lt (h : n.isWoken i = true) : (n.consume i).spare i < n.spare i := by
  have hafter : (n.consume i).isWoken i = false := by
    rw [Bool.eq_false_iff, Ne, isWoken_iff, consume, map_fst_filter]
    simp
  rw [spare, spare, hafter, h]
  exact Nat.lt_succ_self _

end Notify

namespace ConnectionPool

variable {κ : Type} {p q : ConnectionPool κ} {i : Nat} {t u : PoolTask κ}

/-- A bound for the steps of task `i` to its next wait. -/
def work (n : Notify) (i : Nat) (t : PoolTask κ) : Nat :=
  t.phase.rank t.waiting + if t.phase.isSearching then 16 * n.spare i else 0

theorem rank_le (w : Bool) (ph : PoolPhase κ) : ph.rank w ≤ 13 := by
  cases ph <;> cases w <;> simp [PoolPhase.rank]

theorem work_le_restLimit (n : Notify) (i : Nat) (t : PoolTask κ) : work n i t ≤ restLimit := by
  have hspare := n.spare_le_two i
  have hrank := rank_le t.waiting t.phase
  unfold work restLimit
  split <;> omega

theorem work_settleDeparture (n : Notify) (i : Nat) (d : Departure κ) (w : Bool) :
    work n i ⟨settleDeparture d, w⟩ = 0 := by
  cases d <;> rfl

theorem work_found (n : Notify) (i : Nat) (ph : PoolPhase κ) (d : Departure κ) (w : Bool) :
    work n i ⟨found ⟨ph, w⟩ d, w⟩ ≤ 4 := by
  cases w with
  | true => exact Nat.le_refl 4
  | false =>
    have hzero := work_settleDeparture n i d false
    exact hzero.trans_le (Nat.zero_le 4)

theorem work_lt_of_runTask (hc : t.Coherent) (h : p.runTask i t = some q) :
    ∃ u, q.tasks = p.tasks.set i u ∧ work q.released i u < work p.released i t := by
  obtain ⟨ph, w⟩ := t
  cases ph with
  | registering =>
    obtain rfl := Option.some.inj h
    refine ⟨_, rfl, ?_⟩
    have hspare := p.released.spare_register_le i
    simp only [work, PoolPhase.rank, PoolPhase.isSearching, goto, setTask, if_true]
    omega
  | parked =>
    obtain ⟨hwoken, h⟩ := Option.ite_none_right_eq_some.1 h
    obtain rfl := Option.some.inj h
    refine ⟨_, rfl, ?_⟩
    have hspare := Notify.spare_consume_lt hwoken
    simp only [work, PoolPhase.rank, PoolPhase.isSearching, goto, setTask, if_true]
    omega
  | claiming c =>
    obtain rfl := Option.some.inj h
    exact ⟨_, rfl, Nat.lt_succ_of_le (work_found _ i _ _ w)⟩
  | reserved =>
    obtain rfl := Option.some.inj h
    exact ⟨_, rfl, Nat.lt_succ_of_le (work_found _ i _ _ w)⟩
  | delisting d =>
    obtain rfl := Option.some.inj h
    exact ⟨_, rfl, (work_settleDeparture _ i d false).trans_lt (Nat.zero_lt_succ 2)⟩
  | _ =>
    simp only [runTask] at h
    (repeat' split at h) <;> cases h <;> refine ⟨_, rfl, ?_⟩ <;> cases w <;>
      simp_all [work, PoolPhase.rank, PoolPhase.isSearching, goto, setTask, PoolTask.Coherent] <;>
      omega

theorem step_run_of_getElem? (ht : p.tasks[i]? = some t) : p.step (.run i) = p.runTask i t := by
  rw [step, ht]
  rfl

theorem getElem?_of_set (hq : q.tasks = p.tasks.set i u) (ht : p.tasks[i]? = some t) :
    q.tasks[i]? = some u := by
  rw [hq, List.getElem?_set_self (List.getElem?_eq_some_iff.1 ht).1]

theorem runToRest_induction {P : ConnectionPool κ → Prop}
    (hstep : ∀ p q, P p → p.step (.run i) = some q → P q) (limit : Nat) (hp : P p) :
    P (p.runToRest limit i) := by
  induction limit generalizing p with
  | zero => exact hp
  | succ limit ih =>
    unfold runToRest
    split
    · exact ih (hstep _ _ hp ‹_›)
    · exact hp

theorem Reachable.runToRest {id : Nat} {remote : RemoteAddress} {limits : PoolLimits}
    (hp : Reachable id remote limits p) (limit i : Nat) :
    Reachable id remote limits (p.runToRest limit i) :=
  runToRest_induction (fun _ _ => Reachable.step) limit hp

theorem step_runToRest (hp : p.Accounted) (ht : p.tasks[i]? = some t) {limit : Nat}
    (hlimit : work p.released i t ≤ limit) : (p.runToRest limit i).step (.run i) = none := by
  induction limit generalizing p t with
  | zero =>
    cases h : p.step (.run i) with
    | none => exact h
    | some q =>
      rw [step_run_of_getElem? ht] at h
      obtain ⟨u, _, hlt⟩ := work_lt_of_runTask (hp.coherent t (List.mem_of_getElem? ht)) h
      omega
  | succ limit ih =>
    unfold runToRest
    split
    · rename_i q h
      have hq := hp.step h
      rw [step_run_of_getElem? ht] at h
      obtain ⟨u, htasks, hlt⟩ := work_lt_of_runTask (hp.coherent t (List.mem_of_getElem? ht)) h
      exact ih hq (getElem?_of_set htasks ht) (by omega)
    · assumption

theorem atRest_of_runTask (h : p.runTask i t = none) :
    t.phase.atRest = true ∧ (t.phase = .parked → p.released.isWoken i = false) := by
  obtain ⟨ph, w⟩ := t
  cases ph <;> simp only [runTask] at h <;> (repeat' split at h) <;>
    simp_all [PoolPhase.atRest]

/-- The event, and then its task runs until it waits again or is finished. -/
def poll (e : PoolEvent κ) (p : ConnectionPool κ) : Option (ConnectionPool κ) :=
  (p.step e).map (runToRest restLimit (p.actor e))

/-- The states between two polls. -/
inductive Polled (id : Nat) (remote : RemoteAddress) (limits : PoolLimits) :
    ConnectionPool κ → Prop
  | start : Polled id remote limits (.new id remote limits)
  | poll {p q : ConnectionPool κ} {e : PoolEvent κ} :
    Polled id remote limits p → p.poll e = some q → Polled id remote limits q

section

variable {id : Nat} {remote : RemoteAddress} {limits : PoolLimits}

theorem Polled.events (h : Polled id remote limits p) (es : List (PoolEvent κ))
    (hes : es.foldlM (fun p e => p.poll e) p = some q) : Polled id remote limits q := by
  induction es generalizing p with
  | nil => exact Option.some.inj hes ▸ h
  | cons e es ih =>
    obtain ⟨r, hr, hes⟩ := Option.bind_eq_some_iff.1 hes
    exact ih (h.poll hr) hes

theorem Polled.reachable (h : Polled id remote limits p) : Reachable id remote limits p := by
  induction h with
  | start => exact .start
  | poll _ hpoll ih =>
    obtain ⟨r, hr, rfl⟩ := Option.map_eq_some_iff.1 hpoll
    exact (ih.step hr).runToRest _ _

theorem getElem?_of_step {e : PoolEvent κ} (hp : p.Accounted) (h : p.step e = some q) :
    (∃ t, q.tasks[p.actor e]? = some t) ∧
      ∀ j ≠ p.actor e, ∀ t, q.tasks[j]? = some t → p.tasks[j]? = some t := by
  have hset {u t : PoolTask κ} (ht : p.tasks[p.actor e]? = some t)
      (hq : q.tasks = p.tasks.set (p.actor e) u) : (∃ t, q.tasks[p.actor e]? = some t) ∧
        ∀ j ≠ p.actor e, ∀ t, q.tasks[j]? = some t → p.tasks[j]? = some t := by
    refine ⟨⟨u, getElem?_of_set hq ht⟩, fun j hj v hv => ?_⟩
    rwa [hq, List.getElem?_set_ne fun h => hj h.symm] at hv
  rcases actor_cases h with ⟨ph, _, hlast, rfl⟩ | ⟨t, ht, hrun⟩ | ⟨t, ph, ht, _, rfl⟩
  · rw [hlast]
    refine ⟨⟨⟨ph, false⟩, List.getElem?_concat_length⟩, fun j hj t ht => ?_⟩
    rw [List.getElem?_append] at ht
    split at ht
    · exact ht
    · have hlt := (List.getElem?_eq_some_iff.1 ht).1
      rw [List.length_singleton] at hlt
      omega
  · obtain ⟨u, hq, _⟩ := turns_of_runTask (hp.coherent t (List.mem_of_getElem? ht)) hrun
    exact hset ht hq
  · exact hset ht rfl

theorem getElem?_of_runToRest (hp : p.Accounted) (ht : ∃ t, p.tasks[i]? = some t) :
    (∃ t, (p.runToRest restLimit i).tasks[i]? = some t ∧
        (p.runToRest restLimit i).runTask i t = none) ∧
      ∀ j ≠ i, ∀ t, (p.runToRest restLimit i).tasks[j]? = some t → p.tasks[j]? = some t := by
  have hrun := runToRest_induction (i := i) (P := fun q => q.Accounted ∧ (∃ t, q.tasks[i]? = some t) ∧
      ∀ j ≠ i, ∀ t, q.tasks[j]? = some t → p.tasks[j]? = some t)
    (fun q r ⟨hq, _, hrest⟩ h => by
      obtain ⟨hself, hothers⟩ := getElem?_of_step hq h
      exact ⟨hq.step h, hself, fun j hj t ht => hrest j hj t (hothers j hj t ht)⟩)
    restLimit ⟨hp, ht, fun _ _ _ h => h⟩
  obtain ⟨t, ht⟩ := ht
  obtain ⟨_, ⟨u, hu⟩, hrest⟩ := hrun
  have hstop := step_runToRest hp ht (work_le_restLimit p.released i t)
  exact ⟨⟨u, hu, by rwa [← step_run_of_getElem? hu]⟩, hrest⟩

theorem getElem?_of_poll {e : PoolEvent κ} (hp : p.Accounted) (h : p.poll e = some q) :
    (∃ t, q.tasks[p.actor e]? = some t ∧ q.runTask (p.actor e) t = none) ∧
      ∀ j ≠ p.actor e, ∀ t, q.tasks[j]? = some t → p.tasks[j]? = some t := by
  obtain ⟨r, hr, rfl⟩ := Option.map_eq_some_iff.1 h
  obtain ⟨hself, hothers⟩ := getElem?_of_step hp hr
  obtain ⟨hstop, hrest⟩ := getElem?_of_runToRest (hp.step hr) hself
  exact ⟨hstop, fun j hj t ht => hothers j hj t (hrest j hj t ht)⟩

/-- Between two polls nothing is halfway. -/
theorem Polled.atRest (h : Polled id remote limits p) : p.AtRest := by
  induction h with
  | start => exact List.forall_mem_nil _
  | @poll p q e hp hpoll ih =>
    obtain ⟨⟨t, ht, hstop⟩, hothers⟩ := getElem?_of_poll hp.reachable.accounted hpoll
    intro u hu
    obtain ⟨j, hj⟩ := List.mem_iff_getElem?.1 hu
    by_cases hjt : j = p.actor e
    · obtain rfl := Option.some.inj (ht.symm.trans (hjt ▸ hj))
      exact (atRest_of_runTask hstop).1
    · exact ih u (List.mem_of_getElem? (hothers j hjt u hj))

end

end ConnectionPool
end SecureGateway

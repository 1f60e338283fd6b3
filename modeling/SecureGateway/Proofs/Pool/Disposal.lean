import SecureGateway.Proofs.Pool.Reuse

namespace SecureGateway

/-- Connections that a release has decided to park, and has yet to park. -/
def PoolPhase.strays {κ : Type} : PoolPhase κ → Nat
  | .parking _ _ => 1
  | _ => 0

namespace ConnectionPool

variable {κ : Type} {p q r : ConnectionPool κ} {i : Nat} {t : PoolTask κ} {e : PoolEvent κ}

/-- The connections that a disposed pool has, and those that it can still get. -/
def leftovers (p : ConnectionPool κ) : Nat := p.idle.length + p.total PoolPhase.strays

theorem leftovers_of_tasks {u : PoolTask κ} (ht : p.tasks[i]? = some t) (hq : q.tasks = p.tasks.set i u)
    (h : q.idle.length + u.phase.strays ≤ p.idle.length + t.phase.strays) :
    q.leftovers ≤ p.leftovers :=
  idle_add_total_le (n := 0) PoolPhase.strays ht hq h

theorem strays_settleDeparture (d : Departure κ) : (settleDeparture d).strays = 0 := by
  cases d <;> rfl

theorem strays_found (t : PoolTask κ) (d : Departure κ) : (found t d).strays = 0 :=
  found_cases (P := fun ph => ph.strays = 0) t rfl (strays_settleDeparture d)

/-- A release that reads a raised flag parks nothing. -/
theorem leftovers_of_runTask (hp : p.isDisposed = true) (ht : p.tasks[i]? = some t)
    (h : p.runTask i t = some q) : q.leftovers ≤ p.leftovers := by
  obtain ⟨ph, w⟩ := t
  cases ph with
  | popping =>
    simp only [runTask] at h
    split at h <;> obtain rfl := Option.some.inj h <;> refine leftovers_of_tasks ht rfl ?_
    · rename_i c rest hidle
      rw [hidle]
      exact Nat.le_succ _
    · exact Nat.le_refl _
  | claiming c | reserved =>
    obtain rfl := Option.some.inj h
    exact leftovers_of_tasks ht rfl (Nat.add_le_add_left (Nat.le_of_eq (strays_found _ _)) _)
  | delisting d =>
    obtain rfl := Option.some.inj h
    exact leftovers_of_tasks ht rfl (Nat.add_le_add_left (Nat.le_of_eq (strays_settleDeparture d)) _)
  -- the flag is up, so a release that reads it now does not park
  | deciding c e =>
    obtain rfl := Option.some.inj h
    exact leftovers_of_tasks ht rfl (by rw [hp]; exact Nat.le_refl _)
  | parking c e =>
    obtain rfl := Option.some.inj h
    exact leftovers_of_tasks ht rfl (Nat.le_of_eq List.length_append)
  | draining =>
    obtain rfl := Option.some.inj h
    exact leftovers_of_tasks ht rfl (Nat.zero_le _)
  | _ =>
    simp only [runTask] at h
    (repeat' split at h) <;> cases h <;> exact leftovers_of_tasks ht rfl (Nat.le_refl _)

theorem strays_of_jump {ph ph' : PoolPhase κ} (h : Jump ph ph') : ph'.strays = 0 := by
  cases h <;> rfl

theorem leftovers_of_step (hp : p.isDisposed = true) (h : p.step e = some q) :
    q.leftovers ≤ p.leftovers := by
  rcases step_cases h with ⟨ph, hentry, rfl⟩ | ⟨i, t, ht, hrun⟩ | ⟨i, t, ph, ht, hjump, rfl⟩
  · have hph : ph.strays = 0 := by cases hentry <;> rfl
    rw [leftovers, leftovers, total_push, hph]
    exact Nat.le_refl _
  · exact leftovers_of_runTask hp ht hrun
  · refine leftovers_of_tasks ht rfl (Nat.add_le_add_left ?_ _)
    exact (strays_of_jump hjump).trans_le (Nat.zero_le _)

theorem leftovers_of_events {es : List (PoolEvent κ)} (hp : p.isDisposed = true)
    (h : es.foldlM step p = some q) : q.isDisposed = true ∧ q.leftovers ≤ p.leftovers := by
  induction es generalizing p with
  | nil =>
    obtain rfl := Option.some.inj h
    exact ⟨hp, Nat.le_refl _⟩
  | cons e es ih =>
    obtain ⟨r, hr, hes⟩ := Option.bind_eq_some_iff.1 h
    obtain ⟨hq, hle⟩ := ih (isDisposed_of_step hr hp) hes
    exact ⟨hq, Nat.le_trans hle (leftovers_of_step hp hr)⟩

/-- Every operation has ended, and every connection was let go. -/
def Over (p : ConnectionPool κ) : Prop := ∀ t ∈ p.tasks, ∃ e, t.phase = .finished e

theorem Over.total_eq_zero (h : p.Over) {f : PoolPhase κ → Nat} (hf : ∀ e, f (.finished e) = 0) :
    p.total f = 0 := by
  refine List.sum_eq_zero fun n hn => ?_
  obtain ⟨t, ht, rfl⟩ := List.mem_map.1 hn
  obtain ⟨e, he⟩ := h t ht
  exact he ▸ hf e

theorem Over.counters (h : p.Over) (hp : p.Accounted) :
    p.acquired = 0 ∧ p.pending = 0 ∧ p.allocated = p.idle.length ∧ p.idleCount = p.idle.length := by
  have hacquired := hp.acquired
  have hallocated := hp.allocated
  have hidle := hp.idleCount
  rw [h.total_eq_zero fun _ => rfl] at hacquired hallocated
  rw [h.total_eq_zero fun _ => rfl, h.total_eq_zero fun _ => rfl] at hidle
  have hguards : p.liveGuards = 0 := List.countP_eq_zero.2 fun t ht => by
    obtain ⟨e, he⟩ := h t ht
    have hwaiting := hp.coherent t ht false (he ▸ rfl)
    rw [hwaiting]
    exact Bool.false_ne_true
  have hpending := hp.pending
  rw [hguards] at hpending
  refine ⟨?_, ?_, ?_, ?_⟩ <;> omega

section

variable {id : Nat} {remote : RemoteAddress} {limits : PoolLimits}

/-- However the operations interleave, a disposed pool that has been drained is left with no more
connections than releases were about to park, and counts nothing else. -/
theorem over_after_disposal {es : List (PoolEvent κ)} (hp : Reachable id remote limits p)
    (hdisposed : p.isDisposed = true) (hidle : p.idle = []) (hes : es.foldlM step p = some q)
    (hover : q.Over) :
    q.idle.length ≤ p.total PoolPhase.strays ∧ q.acquired = 0 ∧ q.pending = 0 ∧
      q.allocated = q.idle.length ∧ q.idleCount = q.idle.length := by
  have hleft := (leftovers_of_events hdisposed hes).2
  rw [leftovers, leftovers, hidle, List.length_nil, Nat.zero_add] at hleft
  exact ⟨Nat.le_trans (Nat.le_add_right _ _) hleft, hover.counters (hp.events es hes).accounted⟩

theorem polled_over_after_disposal (hp : Polled id remote limits p) (hdisposed : p.isDisposed = true)
    (hover : p.Over) :
    p.idle = [] ∧ p.acquired = 0 ∧ p.pending = 0 ∧ p.allocated = 0 ∧ p.idleCount = 0 := by
  have hidle := hp.settled.disposed hdisposed
  have hcounters := hover.counters hp.settled.accounted
  rw [hidle] at hcounters
  exact ⟨hidle, hcounters⟩

/-- A release reads the flag, the pool is disposed of, and then the release parks its connection. -/
theorem disposal_race : ∃ p : ConnectionPool Nat, Reachable 0 (.opaqueName "peer") .standard p ∧
    p.isDisposed = true ∧ p.Over ∧ p.idle = [7] ∧ p.allocated = 1 ∧ p.idleCount = 1 := by
  have hrun : (List.foldlM step (new 0 (.opaqueName "peer") .standard)
      [.acquire, .run 0, .run 0, .run 0, .run 0, .connected 0 7, .letGo 0 (some 7), .run 0, .run 0,
        .dispose, .run 1, .run 1, .run 1, .run 1, .run 1, .run 0, .run 0, .run 0]).map
          (fun p => (p.isDisposed, p.tasks, p.idle, p.allocated, p.idleCount)) =
      some (true, [⟨.finished .released, false⟩, ⟨.finished .disposed, false⟩], [7], 1, 1) := by
    decide
  obtain ⟨p, h, hp⟩ := Option.map_eq_some_iff.1 hrun
  simp only [Prod.mk.injEq] at hp
  obtain ⟨hdisposed, htasks, hidle, hallocated, hcount⟩ := hp
  refine ⟨p, Reachable.start.events _ h, hdisposed, ?_, hidle, hallocated, hcount⟩
  simp [Over, htasks]

end

/-- The acquire has been refused, or will be by its next step. -/
def Refused (t : PoolTask κ) : Prop :=
  t.phase = .entering ∨ t.phase = .finished (.failed .disposed)

theorem Refused.of_runTask (h : Refused t) (hp : p.isDisposed = true) (hrun : p.runTask i t = some q) :
    q.tasks = p.tasks.set i { t with phase := .finished (.failed .disposed) } := by
  obtain ⟨ph, w⟩ := t
  rcases h with rfl | rfl
  · obtain rfl := Option.some.inj hrun
    show p.tasks.set i ⟨if p.isDisposed then .finished (.failed .disposed) else .popping, w⟩ = _
    rw [if_pos hp]
  · cases hrun

theorem Refused.of_step (h : Refused t) (ha : p.Accounted) (hp : p.isDisposed = true)
    (ht : p.tasks[i]? = some t) (hstep : p.step e = some q) :
    ∃ u, q.tasks[i]? = some u ∧ Refused u := by
  rcases step_cases hstep with ⟨ph, -, rfl⟩ | ⟨j, v, hv, hrun⟩ | ⟨j, v, ph, hv, hjump, rfl⟩
  · exact ⟨t, (List.getElem?_append_left (List.getElem?_eq_some_iff.1 ht).1).trans ht, h⟩
  · by_cases hj : j = i
    · subst hj
      obtain rfl := Option.some.inj (ht.symm.trans hv)
      exact ⟨_, getElem?_of_set (h.of_runTask hp hrun) ht, .inr rfl⟩
    · obtain ⟨u, hq, -⟩ := balanced_of_runTask (ha.coherent v (List.mem_of_getElem? hv)) hrun
      exact ⟨t, by rw [hq, List.getElem?_set_ne hj, ht], h⟩
  · by_cases hj : j = i
    · subst hj
      obtain rfl := Option.some.inj (ht.symm.trans hv)
      obtain ⟨_, w⟩ := t
      rcases h with rfl | rfl <;> cases hjump
    · exact ⟨t, (List.getElem?_set_ne hj).trans ht, h⟩

theorem Refused.of_events {es : List (PoolEvent κ)} (h : Refused t) (ha : p.Accounted)
    (hp : p.isDisposed = true) (ht : p.tasks[i]? = some t) (hes : es.foldlM step p = some q) :
    ∃ u, q.tasks[i]? = some u ∧ Refused u := by
  induction es generalizing p t with
  | nil =>
    obtain rfl := Option.some.inj hes
    exact ⟨t, ht, h⟩
  | cons e es ih =>
    obtain ⟨r, hr, hes⟩ := Option.bind_eq_some_iff.1 hes
    obtain ⟨u, hu, hrefused⟩ := h.of_step ha hp ht hr
    exact ih hrefused (ha.step hr) (isDisposed_of_step hr hp) hu hes

/-- An acquire that begins when the pool is disposed of comes to nothing but its refusal, with the next
thing that it does. -/
theorem acquire_after_disposal {id : Nat} {remote : RemoteAddress} {limits : PoolLimits}
    {es : List (PoolEvent κ)} (hp : Reachable id remote limits p) (hdisposed : p.isDisposed = true)
    (hbegin : p.step .acquire = some q) (hes : es.foldlM step q = some r) :
    ∃ t, r.tasks[p.tasks.length]? = some t ∧ (t.phase = .finished (.failed .disposed) ∨
      ∃ r', r.step (.run p.tasks.length) = some r' ∧
        ∃ u, r'.tasks[p.tasks.length]? = some u ∧ u.phase = .finished (.failed .disposed)) := by
  have hq := (hp.step hbegin).accounted
  have hflag := isDisposed_of_step hbegin hdisposed
  have hself : q.tasks[p.tasks.length]? = some ⟨.entering, false⟩ := by
    obtain rfl := Option.some.inj hbegin
    exact List.getElem?_concat_length
  obtain ⟨t, ht, hrefused⟩ := Refused.of_events (.inl rfl) hq hflag hself hes
  refine ⟨t, ht, ?_⟩
  rcases hrefused with hentering | hfinished
  · obtain ⟨_, w⟩ := t
    obtain rfl : _ = PoolPhase.entering := hentering
    have hrun : r.runTask p.tasks.length ⟨.entering, w⟩ = some _ := rfl
    have htasks := Refused.of_runTask (.inl rfl) (leftovers_of_events hflag hes).1 hrun
    exact .inr ⟨_, (step_run_of_getElem? ht).trans hrun, _, getElem?_of_set htasks ht, rfl⟩
  · exact .inl hfinished

end ConnectionPool
end SecureGateway

import SecureGateway.Proofs.Pool.Disposal

namespace SecureGateway.ConnectionPool

variable {κ : Type} {p q : ConnectionPool κ} {i n : Nat} {t : PoolTask κ} {e : PoolEvent κ}

def parkedBy (p : ConnectionPool κ) (e : PoolEvent κ) : Nat :=
  (p.tasks[p.actor e]?.map fun t => t.phase.strays).getD 0

/-- The states that events lead to, with the number of connections parked so far. -/
inductive ParkedSoFar (id : Nat) (remote : RemoteAddress) (limits : PoolLimits) :
    Nat → ConnectionPool κ → Prop
  | start : ParkedSoFar id remote limits 0 (.new id remote limits)
  | step {n : Nat} {p q : ConnectionPool κ} {e : PoolEvent κ} :
    ParkedSoFar id remote limits n p → p.step e = some q →
      ParkedSoFar id remote limits (n + p.parkedBy e) q

/-- The connections in the idle queue, and those that left it and are still counted. -/
def shelved (p : ConnectionPool κ) : Nat := p.idle.length + p.total PoolPhase.overcounted

theorem shelved_of_tasks {u : PoolTask κ} (ht : p.tasks[i]? = some t) (hq : q.tasks = p.tasks.set i u)
    (h : q.idle.length + u.phase.overcounted ≤ p.idle.length + t.phase.overcounted + n) :
    q.shelved ≤ p.shelved + n :=
  idle_add_total_le PoolPhase.overcounted ht hq h

theorem overcounted_settleDeparture (d : Departure κ) : (settleDeparture d).overcounted = 0 := by
  cases d <;> rfl

theorem overcounted_found (t : PoolTask κ) (d : Departure κ) : (found t d).overcounted = 0 :=
  found_cases (P := fun ph => ph.overcounted = 0) t rfl (overcounted_settleDeparture d)

theorem shelved_of_runTask (ht : p.tasks[i]? = some t) (h : p.runTask i t = some q) :
    q.shelved ≤ p.shelved + t.phase.strays := by
  obtain ⟨ph, w⟩ := t
  cases ph with
  | popping =>
    simp only [runTask] at h
    split at h <;> obtain rfl := Option.some.inj h <;> refine shelved_of_tasks ht rfl ?_
    · rename_i c rest hidle
      rw [hidle]
      exact Nat.le_refl _
    · exact Nat.le_refl _
  | popped c | uncounting k =>
    obtain rfl := Option.some.inj h
    exact shelved_of_tasks ht rfl (Nat.add_le_add_left (Nat.zero_le _) _)
  | claiming c | reserved =>
    obtain rfl := Option.some.inj h
    exact shelved_of_tasks ht rfl (Nat.add_le_add_left (Nat.le_of_eq (overcounted_found _ _)) _)
  | delisting d =>
    obtain rfl := Option.some.inj h
    exact shelved_of_tasks ht rfl
      (Nat.add_le_add_left (Nat.le_of_eq (overcounted_settleDeparture d)) _)
  | parking c e =>
    obtain rfl := Option.some.inj h
    exact shelved_of_tasks ht rfl (Nat.le_of_eq List.length_append)
  | draining =>
    obtain rfl := Option.some.inj h
    exact shelved_of_tasks ht rfl (Nat.le_of_eq (Nat.zero_add _))
  | _ =>
    simp only [runTask] at h
    (repeat' split at h) <;> cases h <;> exact shelved_of_tasks ht rfl (Nat.le_refl _)

theorem overcounted_of_jump {ph ph' : PoolPhase κ} (h : Jump ph ph') : ph'.overcounted = 0 := by
  cases h <;> rfl

theorem shelved_of_step (h : p.step e = some q) : q.shelved ≤ p.shelved + p.parkedBy e := by
  rcases actor_cases h with ⟨ph, hentry, -, rfl⟩ | ⟨t, ht, hrun⟩ | ⟨t, ph, ht, hjump, rfl⟩
  · have hph : ph.overcounted = 0 := by cases hentry <;> rfl
    rw [shelved, shelved, total_push, hph]
    exact Nat.le_add_right _ _
  · rw [parkedBy, ht]
    exact shelved_of_runTask ht hrun
  · refine shelved_of_tasks ht rfl ?_
    rw [overcounted_of_jump hjump]
    exact Nat.le_trans (Nat.le_add_right _ _) (Nat.le_add_right _ _)

section

variable {id : Nat} {remote : RemoteAddress} {limits : PoolLimits}

theorem ParkedSoFar.reachable (h : ParkedSoFar id remote limits n p) :
    Reachable id remote limits p := by
  induction h with
  | start => exact .start
  | step _ hstep ih => exact ih.step hstep

theorem Reachable.parkedSoFar (h : Reachable id remote limits p) :
    ∃ n, ParkedSoFar id remote limits n p := by
  induction h with
  | start => exact ⟨0, .start⟩
  | step _ hstep ih =>
    obtain ⟨n, hn⟩ := ih
    exact ⟨_, hn.step hstep⟩

theorem ParkedSoFar.shelved_le (h : ParkedSoFar id remote limits n p) : p.shelved ≤ n := by
  induction h with
  | start => exact Nat.le_refl _
  | step _ hstep ih =>
    exact Nat.le_trans (shelved_of_step hstep) (Nat.add_le_add_right ih _)

theorem gauge_of_nonneg {k : Int} (h : 0 ≤ k) (hlt : k < 18_446_744_073_709_551_616) :
    gauge k = k.toNat := by
  rw [gauge, Int.emod_eq_of_lt h hlt]

/-- After every step of every interleaving the idle counter is at most the number of connections parked so
far, and below zero by at most the number of releases that have parked theirs and not counted it. As long
as there is no such release the gauge shows no more than were ever parked. -/
theorem idleCount_within (h : ParkedSoFar id remote limits n p) :
    p.idleCount ≤ n ∧ -(p.total PoolPhase.undercounted : Int) ≤ p.idleCount ∧
      (p.total PoolPhase.undercounted = 0 → n < 18_446_744_073_709_551_616 →
        p.snapshot.idle ≤ n) := by
  have hcount := h.reachable.accounted.idleCount
  have hshelved := h.shelved_le
  unfold shelved at hshelved
  refine ⟨by omega, by omega, fun hnone hlt => ?_⟩
  have hsnapshot : p.snapshot.idle = p.idleCount.toNat :=
    gauge_of_nonneg (by omega) (by omega)
  omega

/-- An acquire takes a connection that was just parked, and lowers the counter before the release has
raised it: the gauge shows the number that stands for no limit. -/
theorem idleCount_race : ∃ p : ConnectionPool Nat, Reachable 0 (.opaqueName "peer") .standard p ∧
    p.idleCount = -1 ∧ p.snapshot.idle = unbounded := by
  have hrun : (List.foldlM step (new 0 (.opaqueName "peer") .standard)
      [.acquire, .run 0, .run 0, .run 0, .run 0, .connected 0 7, .letGo 0 (some 7), .run 0, .run 0,
        .run 0, .acquire, .run 1, .run 1, .run 1]).map (fun p => (p.idleCount, p.snapshot.idle)) =
      some (-1, unbounded) := by
    decide
  obtain ⟨p, h, hp⟩ := Option.map_eq_some_iff.1 hrun
  obtain ⟨hcount, hidle⟩ := Prod.mk.inj hp
  exact ⟨p, Reachable.start.events _ h, hcount, hidle⟩

end

end SecureGateway.ConnectionPool

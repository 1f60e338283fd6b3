import SecureGateway.Pool.State

namespace SecureGateway.ConnectionPool

variable {κ : Type} {p q : ConnectionPool κ} {i : Nat}

/-- The states that any events in any order lead to. -/
inductive Reachable (id : Nat) (remote : RemoteAddress) (limits : PoolLimits) :
    ConnectionPool κ → Prop
  | start : Reachable id remote limits (.new id remote limits)
  | step {p q : ConnectionPool κ} {e : PoolEvent κ} :
    Reachable id remote limits p → p.step e = some q → Reachable id remote limits q

theorem Reachable.events {id : Nat} {remote : RemoteAddress} {limits : PoolLimits}
    (h : Reachable id remote limits p) (es : List (PoolEvent κ))
    (hes : es.foldlM ConnectionPool.step p = some q) :
    Reachable id remote limits q := by
  induction es generalizing p with
  | nil => exact Option.some.inj hes ▸ h
  | cons e es ih =>
    obtain ⟨r, hr, hes⟩ := Option.bind_eq_some_iff.1 hes
    exact ih (h.step hr) hes

/-- How the outside moves on a task that waits for it. -/
inductive Jump : PoolPhase κ → PoolPhase κ → Prop
  | connected (c : κ) : Jump .connecting (.holding c false)
  | refused (e : ConnectError) : Jump .connecting (.releasing none (.failed (.connect e)))
  | expired (limit : Span) : Jump .parked (.withdrawing (.failed (.pendingAcquireTimeout limit)))
  | leftQueue : Jump .parked (.withdrawing .abandoned)
  | leftConnect : Jump .connecting (.releasing none .abandoned)
  | letGo (c : κ) (reused : Bool) (keep : Option κ) :
    Jump (.holding c reused) (.releasing keep .released)

inductive Entry : PoolPhase κ → Prop
  | acquire : Entry .entering
  | dispose : Entry .disposing

theorem exists_task_of_match {f : PoolTask κ → Option (ConnectionPool κ)}
    (h : (match p.tasks[i]? with | some t => f t | none => none) = some q) :
    ∃ t, p.tasks[i]? = some t ∧ f t = some q := by
  cases ht : p.tasks[i]? with
  | none => simp [ht] at h
  | some t => exact ⟨t, rfl, by simpa [ht] using h⟩

theorem found_cases {P : PoolPhase κ → Prop} {d : Departure κ} (t : PoolTask κ)
    (hwithdraw : P (.withdrawing d)) (hsettle : P (settleDeparture d)) : P (found t d) := by
  unfold found
  split
  · exact hwithdraw
  · exact hsettle

/-- The task that an event is about; an operation that begins comes last. -/
def actor (p : ConnectionPool κ) : PoolEvent κ → Nat
  | .acquire => p.tasks.length
  | .dispose => p.tasks.length
  | .run i => i
  | .connected i _ => i
  | .refused i _ => i
  | .expire i => i
  | .cancel i => i
  | .letGo i _ => i

theorem actor_cases {e : PoolEvent κ} (h : p.step e = some q) :
    (∃ ph, Entry ph ∧ p.actor e = p.tasks.length ∧
        q = { p with tasks := p.tasks ++ [⟨ph, false⟩] }) ∨
      (∃ t, p.tasks[p.actor e]? = some t ∧ p.runTask (p.actor e) t = some q) ∨
      ∃ t ph, p.tasks[p.actor e]? = some t ∧ Jump t.phase ph ∧ q = p.goto (p.actor e) t ph := by
  -- from outside a task is only moved on in the one phase that the event belongs to
  cases e with
  | acquire => exact .inl ⟨_, .acquire, rfl, (Option.some.inj h).symm⟩
  | dispose => exact .inl ⟨_, .dispose, rfl, (Option.some.inj h).symm⟩
  | run i =>
    obtain ⟨t, ht, hrun⟩ := Option.bind_eq_some_iff.1 h
    exact .inr (.inl ⟨t, ht, hrun⟩)
  | connected i c =>
    obtain ⟨⟨ph, w⟩, ht, h⟩ := exists_task_of_match h
    cases ph <;> simp at h
    exact .inr (.inr ⟨_, _, ht, .connected c, h.symm⟩)
  | refused i e =>
    obtain ⟨⟨ph, w⟩, ht, h⟩ := exists_task_of_match h
    cases ph <;> simp at h
    exact .inr (.inr ⟨_, _, ht, .refused e, h.symm⟩)
  | expire i =>
    obtain ⟨⟨ph, w⟩, ht, h⟩ := exists_task_of_match h
    cases ph <;> simp at h
    exact .inr (.inr ⟨_, _, ht, .expired _, h.2.symm⟩)
  | cancel i =>
    obtain ⟨⟨ph, w⟩, ht, h⟩ := exists_task_of_match h
    cases ph <;> simp at h
    · exact .inr (.inr ⟨_, _, ht, .leftQueue, h.symm⟩)
    · exact .inr (.inr ⟨_, _, ht, .leftConnect, h.symm⟩)
  | letGo i keep =>
    obtain ⟨⟨ph, w⟩, ht, h⟩ := exists_task_of_match h
    cases ph <;> simp at h
    exact .inr (.inr ⟨_, _, ht, .letGo _ _ keep, h.symm⟩)

theorem step_cases {e : PoolEvent κ} (h : p.step e = some q) :
    (∃ ph, Entry ph ∧ q = { p with tasks := p.tasks ++ [⟨ph, false⟩] }) ∨
      (∃ i t, p.tasks[i]? = some t ∧ p.runTask i t = some q) ∨
      ∃ i t ph, p.tasks[i]? = some t ∧ Jump t.phase ph ∧ q = p.goto i t ph := by
  rcases actor_cases h with ⟨ph, he, _, hq⟩ | ⟨t, ht, hrun⟩ | ⟨t, ph, ht, hj, hq⟩
  · exact .inl ⟨ph, he, hq⟩
  · exact .inr (.inl ⟨_, t, ht, hrun⟩)
  · exact .inr (.inr ⟨_, t, ph, ht, hj, hq⟩)

def entry (p : ConnectionPool κ) : RemoteAddress × Nat := (p.remote, p.id)

theorem entry_of_step {e : PoolEvent κ} (h : p.step e = some q) :
    q.entry = p.entry ∧ q.limits = p.limits := by
  rcases step_cases h with ⟨_, _, rfl⟩ | ⟨i, ⟨ph, w⟩, _, hrun⟩ | ⟨_, _, _, _, _, rfl⟩
  · exact ⟨rfl, rfl⟩
  · cases ph <;> simp only [runTask] at hrun <;> (repeat' split at hrun) <;> cases hrun <;>
      exact ⟨rfl, rfl⟩
  · exact ⟨rfl, rfl⟩

theorem Reachable.limits_eq {id : Nat} {remote : RemoteAddress} {limits : PoolLimits}
    (h : Reachable id remote limits p) : p.limits = limits := by
  induction h with
  | start => rfl
  | step _ hstep ih => exact (entry_of_step hstep).2.trans ih

theorem isDisposed_of_runTask {t : PoolTask κ} (h : p.runTask i t = some q) (hp : p.isDisposed = true) :
    q.isDisposed = true := by
  obtain ⟨ph, w⟩ := t
  cases ph <;> simp only [runTask] at h <;> (repeat' split at h) <;> cases h <;> first | exact hp | rfl

theorem isDisposed_of_step {e : PoolEvent κ} (h : p.step e = some q) (hp : p.isDisposed = true) :
    q.isDisposed = true := by
  rcases step_cases h with ⟨_, _, rfl⟩ | ⟨_, _, _, hrun⟩ | ⟨_, _, _, _, _, rfl⟩
  · exact hp
  · exact isDisposed_of_runTask hrun hp
  · exact hp

end SecureGateway.ConnectionPool

import SecureGateway.Proofs.Pool.Accounting

namespace SecureGateway
namespace Notify

variable {n : Notify} {i j : Nat}

/-- Everybody who registered and is not done with it. -/
def members (n : Notify) : List Nat := n.waiters ++ n.woken.map Prod.fst

theorem isWoken_iff : n.isWoken i = true ↔ i ∈ n.woken.map Prod.fst := by
  simp [isWoken, wakeKind?]

theorem mem_of_wakeKind? {k : WakeKind} (h : n.wakeKind? i = some k) : (i, k) ∈ n.woken := by
  obtain ⟨⟨a, b⟩, hfind, rfl⟩ := Option.map_eq_some_iff.1 h
  have hkey : a = i := by simpa using List.find?_some hfind
  exact hkey ▸ List.mem_of_find?_eq_some hfind

theorem members_notifyOne (n : Notify) : n.notifyOne.members.Perm n.members := by
  unfold notifyOne members
  split
  · exact .refl _
  · rename_i j rest hwaiters
    rw [hwaiters, List.map_append, ← List.append_assoc]
    exact (List.perm_append_comm).trans (.refl _)

theorem members_notifyAll (n : Notify) : n.notifyAll.members.Perm n.members := by
  have hmap : (n.waiters.map fun j => (j, WakeKind.broadcast)).map Prod.fst = n.waiters := by
    simp [Function.comp_def]
  unfold notifyAll members
  rw [List.map_append, hmap, List.nil_append]
  exact List.perm_append_comm

theorem members_register (n : Notify) (i : Nat) : (n.register i).members.Perm (i :: n.members) := by
  unfold register members
  split
  · rw [List.map_append, ← List.append_assoc]
    exact List.perm_append_singleton i _
  · rw [List.append_assoc]
    exact List.perm_middle

def drop (i : Nat) (n : Notify) : Notify :=
  { n.consume i with waiters := n.waiters.filter (· != i) }

theorem withdraw_eq (n : Notify) (i : Nat) :
    n.withdraw i = if n.wakeKind? i = some .turn then (n.drop i).notifyOne else n.drop i :=
  rfl

theorem map_fst_filter (l : List (Nat × WakeKind)) (i : Nat) :
    (l.filter (·.1 != i)).map Prod.fst = (l.map Prod.fst).filter (· != i) := by
  rw [List.filter_map]
  rfl

theorem members_drop (n : Notify) (i : Nat) : (n.drop i).members = n.members.filter (· != i) := by
  rw [members, members, List.filter_append]
  exact congrArg _ (map_fst_filter n.woken i)

theorem members_withdraw (n : Notify) (i : Nat) :
    (n.withdraw i).members.Perm (n.members.filter (· != i)) := by
  rw [withdraw_eq, ← members_drop]
  split
  · exact members_notifyOne _
  · exact .refl _

theorem consume_eq_drop (h : i ∉ n.waiters) : n.consume i = n.drop i := by
  have hwaiters : n.waiters.filter (· != i) = n.waiters :=
    List.filter_eq_self.2 fun j hj => bne_iff_ne.2 fun heq : j = i => h (heq ▸ hj)
  rw [drop, hwaiters]
  rfl

/-- One operation by or for task `i`, which is registered or not before and after it. -/
inductive Turns (n : Notify) (i : Nat) : Bool → Bool → Notify → Prop
  | same (b : Bool) : Turns n i b b n
  | joins : Turns n i false true (n.register i)
  | consumes : n.isWoken i = true → Turns n i true false (n.consume i)
  | leaves : Turns n i true false (n.withdraw i)
  | one (b : Bool) : Turns n i b b n.notifyOne
  | all (b : Bool) : Turns n i b b n.notifyAll

/-- Nobody is registered twice, and the permit is there for nobody. -/
structure Lawful (n : Notify) : Prop where
  nodup : n.members.Nodup
  permit : n.permit = true → n.waiters = []

theorem lawful_start : start.Lawful := ⟨List.nodup_nil, nofun⟩

theorem Lawful.notifyOne (h : n.Lawful) : n.notifyOne.Lawful := by
  refine ⟨(members_notifyOne n).nodup_iff.2 h.nodup, ?_⟩
  unfold Notify.notifyOne
  split
  · exact fun _ => ‹n.waiters = []›
  · rename_i hwaiters
    intro hpermit
    cases hwaiters.symm.trans (h.permit hpermit)

theorem Lawful.drop (h : n.Lawful) (i : Nat) : (n.drop i).Lawful := by
  refine ⟨members_drop n i ▸ h.nodup.filter _, fun hpermit => ?_⟩
  show n.waiters.filter (· != i) = []
  rw [h.permit hpermit]
  rfl

theorem Lawful.not_mem_waiters (h : n.Lawful) (hi : n.isWoken i = true) : i ∉ n.waiters :=
  fun hmem => (List.nodup_append.1 h.nodup).2.2 i hmem i (isWoken_iff.1 hi) rfl

variable {b c : Bool} {k : Notify}

theorem Turns.lawful (ht : Turns n i b c k) (h : n.Lawful) (hi : b = false → i ∉ n.members) :
    k.Lawful := by
  cases ht with
  | same => exact h
  | joins =>
    refine ⟨(members_register n i).nodup_iff.2 (List.nodup_cons.2 ⟨hi rfl, h.nodup⟩), ?_⟩
    unfold register
    split
    · nofun
    · rename_i hpermit
      exact fun htrue => absurd htrue hpermit
  | consumes hwoken => exact consume_eq_drop (h.not_mem_waiters hwoken) ▸ h.drop i
  | leaves =>
    rw [withdraw_eq]
    split
    · exact (h.drop i).notifyOne
    · exact h.drop i
  | one => exact h.notifyOne
  | all => exact ⟨(members_notifyAll n).nodup_iff.2 h.nodup, fun _ => rfl⟩

theorem mem_drop_members : j ∈ (n.drop i).members ↔ j ∈ n.members ∧ j ≠ i := by
  rw [members_drop, List.mem_filter, bne_iff_ne]

theorem Turns.mem_members (ht : Turns n i b c k) (h : n.Lawful) (hi : i ∈ n.members ↔ b = true) :
    (i ∈ k.members ↔ c = true) ∧ ∀ j ≠ i, j ∈ k.members ↔ j ∈ n.members := by
  have hdrop (hk : k.members.Perm (n.drop i).members) :
      (i ∈ k.members ↔ false = true) ∧ ∀ j ≠ i, j ∈ k.members ↔ j ∈ n.members := by
    refine ⟨?_, fun j hj => ?_⟩
    · rw [hk.mem_iff, mem_drop_members]
      simp
    · rw [hk.mem_iff, mem_drop_members]
      exact and_iff_left hj
  cases ht with
  | same => exact ⟨hi, fun _ _ => .rfl⟩
  | joins =>
    refine ⟨?_, fun j hj => ?_⟩
    · rw [(members_register n i).mem_iff]
      simp
    · rw [(members_register n i).mem_iff, List.mem_cons]
      exact or_iff_right hj
  | consumes hwoken => exact hdrop (consume_eq_drop (h.not_mem_waiters hwoken) ▸ .refl _)
  | leaves => exact hdrop (members_drop n i ▸ members_withdraw n i)
  | one =>
    rw [(members_notifyOne n).mem_iff]
    exact ⟨hi, fun j _ => (members_notifyOne n).mem_iff⟩
  | all =>
    rw [(members_notifyAll n).mem_iff]
    exact ⟨hi, fun j _ => (members_notifyAll n).mem_iff⟩

end Notify

/-- The acquire is between its registration for a wake-up and the end of that. -/
def PoolTask.registered {κ : Type} (t : PoolTask κ) : Bool :=
  match t.phase with
  | .rechecking | .parked | .withdrawing _ => true
  | .popping | .popped _ | .claiming _ | .reserving | .reserved => t.waiting
  | _ => false

namespace ConnectionPool

variable {κ : Type} {p q : ConnectionPool κ} {i : Nat} {t u : PoolTask κ}

/-- The registrations are those of the tasks that say so. -/
structure Registered (p : ConnectionPool κ) : Prop where
  lawful : p.released.Lawful
  mem_iff : ∀ i, i ∈ p.released.members ↔ ∃ t, p.tasks[i]? = some t ∧ t.registered = true

theorem Registered.mem_task (hp : p.Registered) (ht : p.tasks[i]? = some t) :
    i ∈ p.released.members ↔ t.registered = true := by
  rw [hp.mem_iff, ht]
  simp

theorem Registered.of_turns (hp : p.Registered) (ht : p.tasks[i]? = some t)
    (hq : q.tasks = p.tasks.set i u)
    (hturns : p.released.Turns i t.registered u.registered q.released) : q.Registered := by
  have hi := hp.mem_task ht
  obtain ⟨hself, hrest⟩ := hturns.mem_members hp.lawful hi
  refine ⟨hturns.lawful hp.lawful fun hb => by rw [hi, hb]; exact Bool.false_ne_true, fun j => ?_⟩
  by_cases hj : j = i
  · subst hj
    have hlt := (List.getElem?_eq_some_iff.1 ht).1
    rw [hself, hq, List.getElem?_set_self hlt]
    simp
  · rw [hrest j hj, hp.mem_iff, hq, List.getElem?_set_ne fun h => hj h.symm]

theorem registered_settleDeparture (d : Departure κ) (w : Bool) :
    (PoolTask.mk (settleDeparture d) w).registered = false := by
  cases d <;> rfl

theorem registered_found (ph : PoolPhase κ) (d : Departure κ) (w : Bool) :
    (PoolTask.mk (found ⟨ph, w⟩ d) w).registered = w := by
  cases w with
  | true => rfl
  | false => exact registered_settleDeparture d false

theorem exists_turns_same (hq : q.tasks = p.tasks.set i u) (hreleased : q.released = p.released)
    (hu : u.registered = t.registered) :
    ∃ u, q.tasks = p.tasks.set i u ∧ p.released.Turns i t.registered u.registered q.released :=
  ⟨u, hq, hu ▸ hreleased ▸ .same _⟩

theorem turns_of_runTask (hc : t.Coherent) (h : p.runTask i t = some q) :
    ∃ u, q.tasks = p.tasks.set i u ∧ p.released.Turns i t.registered u.registered q.released := by
  obtain ⟨ph, w⟩ := t
  cases ph with
  | registering =>
    obtain rfl := Option.some.inj h
    exact ⟨_, rfl, .joins⟩
  | parked =>
    obtain ⟨hwoken, h⟩ := Option.ite_none_right_eq_some.1 h
    obtain rfl := Option.some.inj h
    exact ⟨_, rfl, .consumes hwoken⟩
  | withdrawing d =>
    obtain rfl := Option.some.inj h
    exact ⟨_, rfl, .leaves⟩
  | notifying e =>
    obtain rfl := Option.some.inj h
    exact ⟨_, rfl, .one _⟩
  | waking =>
    obtain rfl := Option.some.inj h
    exact ⟨_, rfl, .all _⟩
  -- the steps below leave the queue of waiters alone
  | claiming c =>
    obtain rfl := Option.some.inj h
    exact exists_turns_same rfl rfl (registered_found _ _ w)
  | reserved =>
    obtain rfl := Option.some.inj h
    exact exists_turns_same rfl rfl (registered_found _ _ w)
  | delisting d =>
    obtain rfl := Option.some.inj h
    exact exists_turns_same rfl rfl (registered_settleDeparture d false)
  | _ =>
    simp only [runTask] at h
    (repeat' split at h) <;> cases h <;> refine exists_turns_same rfl rfl ?_ <;>
      cases w <;> simp_all [PoolTask.registered, PoolTask.Coherent]

theorem registered_of_jump {ph : PoolPhase κ} (h : Jump t.phase ph) :
    PoolTask.registered { t with phase := ph } = t.registered := by
  obtain ⟨_, w⟩ := t
  cases h <;> rfl

theorem Registered.push (hp : p.Registered) {ph : PoolPhase κ} (he : Entry ph) :
    Registered { p with tasks := p.tasks ++ [⟨ph, false⟩] } := by
  refine ⟨hp.lawful, fun j => (hp.mem_iff j).trans ?_⟩
  rw [List.getElem?_append]
  split
  · rfl
  · have hnone : p.tasks[j]? = none := List.getElem?_eq_none (Nat.le_of_not_lt ‹_›)
    constructor
    · rintro ⟨t, ht, _⟩
      cases hnone.symm.trans ht
    · rintro ⟨t, ht, hreg⟩
      obtain rfl := List.mem_singleton.1 (List.mem_of_getElem? ht)
      cases he <;> cases hreg

theorem Registered.step {e : PoolEvent κ} (hp : p.Registered) (ha : p.Accounted)
    (h : p.step e = some q) : q.Registered := by
  rcases step_cases h with ⟨ph, he, rfl⟩ | ⟨i, t, ht, hrun⟩ | ⟨i, t, ph, ht, hj, rfl⟩
  · exact hp.push he
  · obtain ⟨u, hq, hturns⟩ := turns_of_runTask (ha.coherent t (List.mem_of_getElem? ht)) hrun
    exact hp.of_turns ht hq hturns
  · refine hp.of_turns ht rfl ?_
    rw [registered_of_jump hj]
    exact .same _

theorem registered_new (id : Nat) (remote : RemoteAddress) (limits : PoolLimits) :
    (new id remote limits : ConnectionPool κ).Registered :=
  ⟨Notify.lawful_start, fun i => by simp [new, Notify.start, Notify.members]⟩

theorem Reachable.registered {id : Nat} {remote : RemoteAddress} {limits : PoolLimits}
    (h : Reachable id remote limits p) : p.Registered := by
  induction h with
  | start => exact registered_new id remote limits
  | step hp hstep ih => exact ih.step hp.accounted hstep

end ConnectionPool
end SecureGateway

import Mathlib.Algebra.BigOperators.Group.List.Basic
import Mathlib.Algebra.GroupWithZero.Nat
import SecureGateway.Proofs.Pool.Transition

namespace SecureGateway

@[simp]
def Departure.takesSlot {κ : Type} : Departure κ → Bool
  | .reuse _ => true
  | .fresh => true
  | .failed _ => false
  | .abandoned => false

namespace PoolPhase

variable {κ : Type}

/-- Allocated slots that are neither idle nor counted as acquired. -/
@[simp]
def inTransit : PoolPhase κ → Nat
  -- popped, but not yet counted as acquired
  | .popped _ => 1
  | .claiming _ => 1
  -- reserved, but not yet counted as acquired
  | .reserved => 1
  -- no longer counted as acquired, but neither parked nor freed
  | .deciding _ _ => 1
  | .parking _ _ => 1
  | .freeing _ => 1
  -- drained, but not yet subtracted
  | .uncounting n => n
  | .unallocating n => n
  | _ => 0

@[simp]
def acquiredSlots : PoolPhase κ → Nat
  | .withdrawing d => d.takesSlot.toNat
  | .delisting d => d.takesSlot.toNat
  | .connecting => 1
  | .holding _ _ => 1
  | .releasing _ _ => 1
  | _ => 0

/-- Connections that left the idle queue and are still on the idle counter. -/
@[simp]
def overcounted : PoolPhase κ → Nat
  | .popped _ => 1
  | .uncounting n => n
  | _ => 0

/-- Connections that are in the idle queue and not yet on the idle counter. -/
@[simp]
def undercounted : PoolPhase κ → Nat
  | .counting _ => 1
  | _ => 0

/-- Whether an acquire at this point holds a place among the pending ones; `none` where it may. -/
@[simp]
def guarded : PoolPhase κ → Option Bool
  | .popping => none
  | .popped _ => none
  | .claiming _ => none
  | .reserving => none
  | .reserved => none
  | .registering => some true
  | .rechecking => some true
  | .parked => some true
  | .withdrawing _ => some true
  | .delisting _ => some true
  | _ => some false

/-- Nothing is halfway: the operation is over, or waits for a wake-up, a connection or its
holder. -/
def atRest : PoolPhase κ → Bool
  | .parked => true
  | .connecting => true
  | .holding _ _ => true
  | .finished _ => true
  | _ => false

def isHolding : PoolPhase κ → Bool
  | .holding _ _ => true
  | _ => false

def isConnecting : PoolPhase κ → Bool
  | .connecting => true
  | _ => false

end PoolPhase

def PoolTask.Coherent {κ : Type} (t : PoolTask κ) : Prop :=
  ∀ b, t.phase.guarded = some b → t.waiting = b

namespace ConnectionPool

variable {κ : Type} {p q : ConnectionPool κ} {i : Nat} {t u : PoolTask κ}

def total (f : PoolPhase κ → Nat) (p : ConnectionPool κ) : Nat :=
  (p.tasks.map fun t => f t.phase).sum

def liveGuards (p : ConnectionPool κ) : Nat := p.tasks.countP PoolTask.waiting

def AtRest (p : ConnectionPool κ) : Prop := ∀ t ∈ p.tasks, t.phase.atRest = true

/-- Nothing is counted twice and nothing is lost, and the limits are kept. -/
structure Accounted (p : ConnectionPool κ) : Prop where
  coherent : ∀ t ∈ p.tasks, t.Coherent
  allocated : p.allocated = p.acquired + p.idle.length + p.total PoolPhase.inTransit
  acquired : p.acquired = p.total PoolPhase.acquiredSlots
  idleCount : p.idleCount + p.total PoolPhase.undercounted =
    p.idle.length + p.total PoolPhase.overcounted
  pending : p.pending = p.liveGuards
  inLimit : ∀ max, p.limits.maxConnections = some max → p.allocated ≤ max
  pendingInLimit : ∀ max, p.limits.pendingAcquireMax = some max → p.pending ≤ max

/-- One task goes from `t` to `u`, and the counters and the queue change by what that is worth. -/
structure Balanced (p : ConnectionPool κ) (t : PoolTask κ) (q : ConnectionPool κ)
    (u : PoolTask κ) : Prop where
  limits : q.limits = p.limits
  coherent : u.Coherent
  transit : q.allocated - q.acquired - q.idle.length + t.phase.inTransit =
    p.allocated - p.acquired - p.idle.length + u.phase.inTransit
  acquired : q.acquired + t.phase.acquiredSlots = p.acquired + u.phase.acquiredSlots
  idleCount : q.idleCount + u.phase.undercounted - q.idle.length + t.phase.overcounted =
    p.idleCount + t.phase.undercounted - p.idle.length + u.phase.overcounted
  pending : q.pending + t.waiting.toNat = p.pending + u.waiting.toNat
  inLimit : q.allocated ≤ p.allocated ∨
    ∀ max, p.limits.maxConnections = some max → q.allocated ≤ max
  pendingInLimit : q.pending ≤ p.pending ∨
    ∀ max, p.limits.pendingAcquireMax = some max → q.pending ≤ max

theorem sum_map_set {α : Type} (f : α → Nat) (ts : List α) (i : Nat) {t : α}
    (h : ts[i]? = some t) (u : α) : ((ts.set i u).map f).sum + f t = (ts.map f).sum + f u := by
  induction ts generalizing i with
  | nil => simp at h
  | cons x xs ih =>
    cases i with
    | zero =>
      simp only [List.getElem?_cons_zero, Option.some.injEq] at h
      subst h
      simp only [List.set_cons_zero, List.map_cons, List.sum_cons]
      omega
    | succ i =>
      have hx := ih i (by simpa using h)
      simp only [List.set_cons_succ, List.map_cons, List.sum_cons]
      omega

theorem idle_add_total_le (f : PoolPhase κ → Nat) {n : Nat} (ht : p.tasks[i]? = some t)
    (hq : q.tasks = p.tasks.set i u)
    (h : q.idle.length + f u.phase ≤ p.idle.length + f t.phase + n) :
    q.idle.length + q.total f ≤ p.idle.length + p.total f + n := by
  have hsum := sum_map_set (fun t => f t.phase) p.tasks i ht u
  simp only [total, hq]
  omega

theorem total_push (f : PoolPhase κ → Nat) (p : ConnectionPool κ) (ph : PoolPhase κ) (w : Bool) :
    total f { p with tasks := p.tasks ++ [⟨ph, w⟩] } = p.total f + f ph := by
  rw [total, total, List.map_append, List.sum_append, List.map_singleton, List.sum_singleton]

theorem sum_toNat_eq_countP (g : PoolTask κ → Bool) (ts : List (PoolTask κ)) :
    (ts.map fun t => (g t).toNat).sum = ts.countP g := by
  induction ts with
  | nil => rfl
  | cons t ts ih =>
    rw [List.map_cons, List.sum_cons, ih, List.countP_cons]
    cases g t <;> simp [Nat.add_comm]

theorem Accounted.of_balanced (hp : p.Accounted) (ht : p.tasks[i]? = some t)
    (hq : q.tasks = p.tasks.set i u) (hb : Balanced p t q u) : q.Accounted := by
  -- each total changes by the one task
  have hsum (f : PoolTask κ → Nat) := sum_map_set f p.tasks i ht u
  have htransit := hsum fun t => t.phase.inTransit
  have hacquired := hsum fun t => t.phase.acquiredSlots
  have hover := hsum fun t => t.phase.overcounted
  have hunder := hsum fun t => t.phase.undercounted
  have hguards := hsum fun t => t.waiting.toNat
  rw [sum_toNat_eq_countP, sum_toNat_eq_countP] at hguards
  obtain ⟨hl, hc, h1, h2, h3, h4, h5, h6⟩ := hb
  obtain ⟨k0, k1, k2, k3, k4, k5, k6⟩ := hp
  simp only [total, liveGuards] at k1 k2 k3 k4
  refine ⟨?_, ?_, ?_, ?_, ?_, ?_, ?_⟩
  · intro v hv
    rw [hq] at hv
    rcases List.mem_or_eq_of_mem_set hv with hv | rfl
    · exact k0 v hv
    · exact hc
  · simp only [total, hq]
    omega
  · simp only [total, hq]
    omega
  · simp only [total, hq]
    omega
  · simp only [liveGuards, hq]
    omega
  · intro max hmax
    rw [hl] at hmax
    rcases h5 with h5 | h5
    · exact Int.le_trans h5 (k5 max hmax)
    · exact h5 max hmax
  · intro max hmax
    rw [hl] at hmax
    rcases h6 with h6 | h6
    · exact Int.le_trans h6 (k6 max hmax)
    · exact h6 max hmax

theorem succ_le_of_hasRoom {limit : Option Nat} {n : Int} (h : hasRoom limit n = true) :
    ∀ max, limit = some max → n + 1 ≤ max := by
  intro max hmax
  have hlt : n < max := by simpa [hasRoom, hmax] using h
  omega

/-- What a task does when it runs is worth what it costs. -/
theorem balanced_of_runTask (hc : t.Coherent) (h : p.runTask i t = some q) :
    ∃ u, q.tasks = p.tasks.set i u ∧ Balanced p t q u := by
  obtain ⟨ph, w⟩ := t
  -- `reserving` has a limit to keep, `delisting` goes on in four ways, the rest is plain sums
  cases ph with
  | reserving =>
    simp only [runTask] at h
    split at h
    · rename_i hroom
      cases h
      refine ⟨_, rfl, ?_⟩
      have hmax := succ_le_of_hasRoom hroom
      constructor <;> simp_all [goto, setTask, PoolTask.Coherent]
      omega
    · cases h
      refine ⟨_, rfl, ?_⟩
      constructor <;> cases w <;> simp_all [goto, setTask, PoolTask.Coherent]
  | delisting d =>
    cases h
    refine ⟨_, rfl, ?_⟩
    have hless : p.pending - 1 ≤ p.pending := by omega
    cases d <;> constructor <;> simp_all [settleDeparture, setTask, PoolTask.Coherent]
  | _ =>
    simp only [runTask] at h
    (repeat' split at h) <;> cases h <;> refine ⟨_, rfl, ?_⟩ <;> constructor <;> cases w <;>
      simp_all [goto, setTask, found, settleDeparture, PoolTask.Coherent] <;> omega

theorem balanced_of_jump (hc : t.Coherent) {ph : PoolPhase κ} (h : Jump t.phase ph) :
    Balanced p t (p.goto i t ph) { t with phase := ph } := by
  obtain ⟨ph', w⟩ := t
  cases h <;>
    exact ⟨rfl, hc, rfl, rfl, rfl, rfl, .inl (Int.le_refl _), .inl (Int.le_refl _)⟩

theorem Accounted.push (hp : p.Accounted) {ph : PoolPhase κ} (he : Entry ph) :
    Accounted { p with tasks := p.tasks ++ [⟨ph, false⟩] } := by
  obtain ⟨k0, k1, k2, k3, k4, k5, k6⟩ := hp
  simp only [total] at k1 k2 k3
  simp only [liveGuards] at k4
  refine ⟨?_, ?_, ?_, ?_, ?_, k5, k6⟩
  · intro t ht
    rcases List.mem_append.1 ht with ht | ht
    · exact k0 t ht
    · rw [List.mem_singleton.1 ht]
      intro b hb
      cases he <;> simpa using hb
  · cases he <;> simpa [total] using k1
  · cases he <;> simpa [total] using k2
  · cases he <;> simpa [total] using k3
  · simpa [liveGuards] using k4

theorem Accounted.step {e : PoolEvent κ} (hp : p.Accounted) (h : p.step e = some q) :
    q.Accounted := by
  rcases step_cases h with ⟨ph, he, rfl⟩ | ⟨i, t, ht, hrun⟩ | ⟨i, t, ph, ht, hj, rfl⟩
  · exact hp.push he
  · obtain ⟨u, hq, hb⟩ := balanced_of_runTask (hp.coherent t (List.mem_of_getElem? ht)) hrun
    exact hp.of_balanced ht hq hb
  · exact hp.of_balanced ht rfl (balanced_of_jump (hp.coherent t (List.mem_of_getElem? ht)) hj)

theorem accounted_new (id : Nat) (remote : RemoteAddress) (limits : PoolLimits) :
    (new id remote limits : ConnectionPool κ).Accounted := by
  constructor <;> simp [new, total, liveGuards]

theorem Reachable.accounted {id : Nat} {remote : RemoteAddress} {limits : PoolLimits}
    (h : Reachable id remote limits p) : p.Accounted := by
  induction h with
  | start => exact accounted_new id remote limits
  | step _ hstep ih => exact ih.step hstep

theorem AtRest.total_eq (hp : p.AtRest) {f g : PoolPhase κ → Nat}
    (hfg : ∀ ph : PoolPhase κ, ph.atRest = true → f ph = g ph) : p.total f = p.total g := by
  unfold total
  congr 1
  exact List.map_congr_left fun t ht => hfg t.phase (hp t ht)

theorem AtRest.total_acquiredSlots (hp : p.AtRest) :
    p.total PoolPhase.acquiredSlots =
      (p.tasks.countP fun t => t.phase.isHolding) +
        p.tasks.countP fun t => t.phase.isConnecting := by
  rw [hp.total_eq (g := fun ph => ph.isHolding.toNat + ph.isConnecting.toNat)]
  · rw [← sum_toNat_eq_countP, ← sum_toNat_eq_countP, ← List.sum_map_add]
    rfl
  · intro ph hph
    cases ph <;> simp_all [PoolPhase.atRest, PoolPhase.isHolding, PoolPhase.isConnecting]

theorem AtRest.total_eq_zero (hp : p.AtRest) {f : PoolPhase κ → Nat}
    (hf : ∀ ph : PoolPhase κ, ph.atRest = true → f ph = 0) : p.total f = 0 := by
  rw [hp.total_eq hf]
  simp [total]

/-- After every step of every interleaving each allocated slot is acquired, idle or in transit, each
pending acquire is counted, the limits are kept and no counter is below zero. When nothing is
halfway, the counters are what they say. -/
theorem slots_accounted {id : Nat} {remote : RemoteAddress} {limits : PoolLimits}
    (h : Reachable id remote limits p) :
    p.allocated = p.acquired + p.idle.length + p.total PoolPhase.inTransit ∧
    (∀ max, p.limits.maxConnections = some max → p.allocated ≤ max) ∧
    p.pending = p.liveGuards ∧
    (∀ max, p.limits.pendingAcquireMax = some max → p.pending ≤ max) ∧
    0 ≤ p.allocated ∧ 0 ≤ p.acquired ∧ 0 ≤ p.pending ∧
    (p.AtRest →
      p.acquired = (p.tasks.countP fun t => t.phase.isHolding) +
        (p.tasks.countP fun t => t.phase.isConnecting) ∧
      p.idleCount = p.idle.length ∧ p.allocated = p.acquired + p.idleCount) := by
  have ha := h.accounted
  have hacquired := ha.acquired
  have hallocated := ha.allocated
  have hpending := ha.pending
  refine ⟨hallocated, ha.inLimit, hpending, ha.pendingInLimit, ?_, ?_, ?_, ?_⟩
  · omega
  · omega
  · omega
  · -- nobody is between two counters when all tasks are at rest
    intro hr
    have hidle := ha.idleCount
    have h1 := hr.total_acquiredSlots
    have h2 : p.total PoolPhase.inTransit = 0 := hr.total_eq_zero fun ph hph => by
      cases ph <;> simp_all [PoolPhase.atRest]
    have h3 : p.total PoolPhase.undercounted = 0 := hr.total_eq_zero fun ph hph => by
      cases ph <;> simp_all [PoolPhase.atRest]
    have h4 : p.total PoolPhase.overcounted = 0 := hr.total_eq_zero fun ph hph => by
      cases ph <;> simp_all [PoolPhase.atRest]
    refine ⟨?_, ?_, ?_⟩
    · omega
    · omega
    · omega

/-- A pool of one slot that one acquire holds while another one waits for it. -/
def contested : ConnectionPool Nat where
  id := 1
  remote := .opaqueName "peer"
  limits := ⟨some 1, some 1, .zero⟩
  allocated := 1
  acquired := 1
  idleCount := 0
  pending := 1
  idle := []
  released := ⟨false, [1], []⟩
  isDisposed := false
  tasks := [⟨.holding 7 false, false⟩, ⟨.parked, true⟩]

theorem reachable_contested :
    Reachable 1 (.opaqueName "peer") ⟨some 1, some 1, .zero⟩ contested :=
  Reachable.start.events [.acquire, .run 0, .run 0, .run 0, .run 0, .connected 0 7,
    .acquire, .run 1, .run 1, .run 1, .run 1, .run 1, .run 1, .run 1, .run 1] rfl

theorem atRest_contested : contested.AtRest := by
  simp [AtRest, contested, PoolPhase.atRest]

theorem slots_accounted_of_contested :
    Reachable 1 (.opaqueName "peer") ⟨some 1, some 1, .zero⟩ contested ∧ contested.AtRest ∧
      contested.acquired = (contested.tasks.countP fun t => t.phase.isHolding) +
        (contested.tasks.countP fun t => t.phase.isConnecting) ∧
      contested.idleCount = contested.idle.length ∧
      contested.allocated = contested.acquired + contested.idleCount :=
  ⟨reachable_contested, atRest_contested,
    (slots_accounted reachable_contested).2.2.2.2.2.2.2 atRest_contested⟩

end ConnectionPool
end SecureGateway

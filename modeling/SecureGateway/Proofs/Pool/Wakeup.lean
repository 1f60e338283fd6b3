import SecureGateway.Proofs.Pool.Polling

namespace SecureGateway

namespace PoolPhase

variable {κ : Type}

def isClosing : PoolPhase κ → Bool
  | .draining | .uncounting _ | .unallocating _ | .waking => true
  | _ => false

def isParked : PoolPhase κ → Bool
  | .parked => true
  | _ => false

/-- How many slots the task has freed without waking anybody yet, or is about to look for. -/
def slack : PoolPhase κ → Nat
  | .popping | .reserving | .registering | .rechecking | .counting _ | .notifying _ => 1
  | _ => 0

end PoolPhase

namespace Notify

variable {n : Notify} {i : Nat} {free : Int}

/-- Nobody waits, or enough wake-ups are on their way for the slots that are free. -/
def Supplied (n : Notify) (free : Int) : Prop := n.waiters = [] ∨ free ≤ n.woken.length

/-- Everybody woken has a turn to pass on, except that `i` may have used up the permit. -/
def Passable (i : Nat) (n : Notify) : Prop :=
  ∀ e ∈ n.woken, e.2 = .turn ∨ e = (i, .permit) ∧ n.waiters = []

theorem supplied_notifyOne (h : n.waiters = [] ∨ free ≤ n.woken.length + 1) :
    n.notifyOne.Supplied free := by
  unfold Supplied notifyOne
  split
  · exact .inl ‹_›
  · rename_i hwaiters
    refine .inr ?_
    rw [List.length_append, List.length_singleton]
    exact h.resolve_left fun hnone => by cases hwaiters.symm.trans hnone

theorem Passable.notifyOne (h : n.Passable i) : n.notifyOne.Passable i := by
  unfold Passable Notify.notifyOne
  split
  · exact h
  · rename_i hwaiters
    intro e he
    rcases List.mem_append.1 he with he | he
    · refine .inl ((h e he).resolve_right ?_)
      rintro ⟨_, hnone⟩
      cases hwaiters.symm.trans hnone
    · exact .inl (List.mem_singleton.1 he ▸ rfl)

theorem Passable.turn_of_ne (h : n.Passable i) {e : Nat × WakeKind} (he : e ∈ n.woken)
    (hne : e.1 ≠ i) : e.2 = .turn := by
  refine (h e he).resolve_right ?_
  rintro ⟨rfl, _⟩
  exact hne rfl

theorem Passable.drop (h : n.Passable i) : ∀ e ∈ (n.drop i).woken, e.2 = .turn := by
  intro e he
  obtain ⟨he, hne⟩ := List.mem_filter.1 he
  exact h.turn_of_ne he (bne_iff_ne.1 hne)

theorem passable_of_turns (h : ∀ e ∈ n.woken, e.2 = .turn) (i : Nat) : n.Passable i :=
  fun e he => .inl (h e he)

theorem Passable.withdraw (h : n.Passable i) : (n.withdraw i).Passable i := by
  have hdrop := passable_of_turns h.drop i
  rw [withdraw_eq]
  split
  · exact hdrop.notifyOne
  · exact hdrop

theorem Passable.register (h : n.Passable i) (hn : n.Lawful) (hi : i ∉ n.members) :
    (n.register i).Passable i := by
  unfold Passable Notify.register
  split
  · rename_i hpermit
    intro e he
    rcases List.mem_append.1 he with he | he
    · exact h e he
    · exact .inr ⟨List.mem_singleton.1 he, hn.permit hpermit⟩
  · intro e he
    refine .inl (h.turn_of_ne he ?_)
    rintro rfl
    exact hi (List.mem_append_right _ (List.mem_map_of_mem he))

theorem length_woken_drop (hn : n.Lawful) (hi : n.isWoken i = true) :
    (n.drop i).woken.length + 1 = n.woken.length := by
  have hnodup : (n.woken.map Prod.fst).Nodup := (List.nodup_append.1 hn.nodup).2.1
  have hmem := isWoken_iff.1 hi
  have herase : (n.drop i).woken.map Prod.fst = (n.woken.map Prod.fst).erase i :=
    (map_fst_filter n.woken i).trans (hnodup.erase_eq_filter i).symm
  have hlength := congrArg List.length herase
  rw [List.length_map, List.length_erase_of_mem hmem, List.length_map] at hlength
  have hpos := List.length_pos_of_mem hmem
  rw [List.length_map] at hpos
  omega

theorem woken_drop_of_not_mem (hi : n.isWoken i = false) : (n.drop i).woken = n.woken := by
  refine List.filter_eq_self.2 fun e he => bne_iff_ne.2 ?_
  rintro rfl
  rw [Bool.eq_false_iff, Ne, isWoken_iff] at hi
  exact hi (List.mem_map_of_mem he)

theorem waiters_drop_eq_nil (h : ∀ j ∈ n.waiters, j = i) : (n.drop i).waiters = [] :=
  List.filter_eq_nil_iff.2 fun j hj => by simpa using h j hj

theorem supplied_consume (hn : n.Lawful) (hi : n.isWoken i = true)
    (h : n.waiters = [] ∨ free ≤ n.woken.length) :
    (∀ j ∈ (n.consume i).waiters, j = i) ∨ free ≤ (n.consume i).woken.length + 1 := by
  have hlength := length_woken_drop hn hi
  rw [← consume_eq_drop (hn.not_mem_waiters hi)] at hlength
  rcases h with hnone | hfree
  · exact .inl (hnone ▸ List.forall_mem_nil _ : ∀ j ∈ n.waiters, j = i)
  · exact .inr (by omega)

theorem supplied_register (hn : n.Lawful)
    (h : (∀ j ∈ n.waiters, j = i) ∨ free ≤ n.woken.length + 1) :
    (∀ j ∈ (n.register i).waiters, j = i) ∨ free ≤ (n.register i).woken.length + 1 := by
  unfold register
  split
  · rename_i hpermit
    exact .inl (hn.permit hpermit ▸ List.forall_mem_nil _ : ∀ j ∈ n.waiters, j = i)
  · refine h.imp_left fun honly j hj => ?_
    rcases List.mem_append.1 hj with hj | hj
    · exact honly j hj
    · exact List.mem_singleton.1 hj

theorem supplied_withdraw (hn : n.Lawful) (hp : n.Passable i)
    (h : (∀ j ∈ n.waiters, j = i) ∨ free ≤ n.woken.length) : (n.withdraw i).Supplied free := by
  have hnone (hwaiters : (n.drop i).waiters = []) : (n.withdraw i).Supplied free := by
    refine .inl ?_
    rw [withdraw_eq]
    split
    · rw [Notify.notifyOne, hwaiters]
    · exact hwaiters
  rcases h with honly | hfree
  · exact hnone (waiters_drop_eq_nil honly)
  · cases hwoken : n.isWoken i with
    | false =>
      have hkind : n.wakeKind? i ≠ some .turn := fun h => by simp [isWoken, h] at hwoken
      rw [withdraw_eq, if_neg hkind]
      exact .inr (woken_drop_of_not_mem hwoken ▸ hfree)
    | true =>
      obtain ⟨k, hkind⟩ := Option.isSome_iff_exists.1 hwoken
      rcases hp _ (mem_of_wakeKind? hkind) with hturn | ⟨_, hwaiters⟩
      · -- the turn that `i` gives up goes to the next one
        rw [withdraw_eq, if_pos (hturn ▸ hkind)]
        have hlength := length_woken_drop hn hwoken
        exact supplied_notifyOne (.inr (by omega))
      · refine hnone (waiters_drop_eq_nil ?_)
        rw [hwaiters]
        exact List.forall_mem_nil _

end Notify

namespace ConnectionPool

variable {κ : Type} {p q : ConnectionPool κ} {i max : Nat} {t u : PoolTask κ}

/-- The slots that an acquire could have without waiting: idle connections and room for new ones. -/
def freeSlots (max : Nat) (p : ConnectionPool κ) : Int := p.idle.length + (max - p.allocated)

/-- What holds in the middle of a poll of task `i`, which is at `t`. -/
structure Tended (max i : Nat) (t : PoolTask κ) (p : ConnectionPool κ) : Prop where
  opening : t.phase.isClosing = false
  passable : p.released.Passable i
  drained : t.phase = .reserving → p.idle = []
  covered : (∀ j ∈ p.released.waiters, j = i ∧ t.phase.atRest = false) ∨
    p.freeSlots max ≤ p.released.woken.length + t.phase.slack

theorem not_mem_of_registered (hp : p.Registered) (ht : p.tasks[i]? = some t)
    (hreg : t.registered = false) : i ∉ p.released.members := by
  rw [hp.mem_task ht, hreg]
  exact Bool.false_ne_true

theorem covered_of_supplied (h : p.released.Supplied (p.freeSlots max)) :
    (∀ j ∈ p.released.waiters, j = i ∧ t.phase.atRest = false) ∨
      p.freeSlots max ≤ p.released.woken.length + t.phase.slack := by
  rcases h with hnone | hfree
  · exact .inl (hnone ▸ List.forall_mem_nil _)
  · exact .inr (by omega)

/-- A step that does not touch the wake-ups: what it frees is in the slack of the next phase. -/
theorem Tended.carry (h : p.Tended max i t) (hreleased : q.released = p.released)
    (hopen : u.phase.isClosing = false) (hdrained : u.phase = .reserving → q.idle = [])
    (hrest : u.phase.atRest = true → i ∉ p.released.members)
    (hslots : q.freeSlots max + t.phase.slack ≤ p.freeSlots max + u.phase.slack) :
    q.Tended max i u := by
  refine ⟨hopen, hreleased ▸ h.passable, hdrained, ?_⟩
  rw [hreleased]
  rcases h.covered with honly | hfree
  · refine .inl fun j hj => ?_
    obtain ⟨rfl, _⟩ := honly j hj
    cases hu : u.phase.atRest with
    | true => exact absurd (List.mem_append_left _ hj) (hrest hu)
    | false => exact ⟨rfl, rfl⟩
  · exact .inr (by omega)

theorem Tended.carry_on (h : p.Tended max i t) (hreleased : q.released = p.released)
    (hopen : u.phase.isClosing = false) (hgoing : u.phase.atRest = false)
    (hne : u.phase ≠ .reserving)
    (hslots : q.freeSlots max + t.phase.slack ≤ p.freeSlots max + u.phase.slack) :
    q.Tended max i u := by
  refine h.carry hreleased hopen (fun heq => absurd heq hne) (fun hrest => ?_) hslots
  rw [hgoing] at hrest
  cases hrest

theorem Tended.carry_simple (h : p.Tended max i t) (hreleased : q.released = p.released)
    (hsimple : u.phase.isClosing = false ∧ u.phase.slack = 0 ∧ u.phase ≠ .reserving)
    (hrest : u.phase.atRest = true → i ∉ p.released.members) (hslack : t.phase.slack = 0)
    (hslots : q.freeSlots max ≤ p.freeSlots max) : q.Tended max i u := by
  obtain ⟨hopen, hslack', hne⟩ := hsimple
  refine h.carry hreleased hopen (fun heq => absurd heq hne) hrest ?_
  rw [hslack, hslack']
  omega

/-- At rest the free slots are the others' business. -/
theorem Tended.supplied (h : p.Tended max i t) (hrest : t.phase.atRest = true)
    (hslack : t.phase.slack = 0) : p.released.Supplied (p.freeSlots max) := by
  refine h.covered.imp (fun honly => List.eq_nil_iff_forall_not_mem.2 fun j hj => ?_) fun hfree => ?_
  · cases hrest.symm.trans (honly j hj).2
  · rw [hslack] at hfree
    simpa using hfree

theorem settleDeparture_simple (d : Departure κ) : (settleDeparture d).isClosing = false ∧
    (settleDeparture d).slack = 0 ∧ settleDeparture d ≠ .reserving := by
  cases d <;> simp [settleDeparture, PoolPhase.isClosing, PoolPhase.slack]

theorem found_simple (ph : PoolPhase κ) (d : Departure κ) (w : Bool) :
    (found ⟨ph, w⟩ d).isClosing = false ∧ (found ⟨ph, w⟩ d).slack = 0 ∧
      found ⟨ph, w⟩ d ≠ .reserving := by
  cases w with
  | true => exact ⟨rfl, rfl, nofun⟩
  | false => exact settleDeparture_simple d

theorem found_atRest {ph : PoolPhase κ} {d : Departure κ} {w : Bool}
    (h : (found ⟨ph, w⟩ d).atRest = true) : w = false := by
  cases w with
  | true => cases h
  | false => rfl

theorem Tended.registering {w : Bool} (h : p.Tended max i ⟨.registering, w⟩) (hp : p.Registered)
    (ht : p.tasks[i]? = some ⟨.registering, w⟩) (hrun : p.runTask i ⟨.registering, w⟩ = some q) :
    ∃ u, q.tasks = p.tasks.set i u ∧ q.Tended max i u := by
  obtain rfl := Option.some.inj hrun
  have hi : i ∉ p.released.members := not_mem_of_registered hp ht rfl
  refine ⟨_, rfl, rfl, h.passable.register hp.lawful hi, by simp, ?_⟩
  refine (Notify.supplied_register hp.lawful ?_).imp_left fun honly j hj => ⟨honly j hj, rfl⟩
  exact h.covered.imp_left fun honly j hj => (honly j hj).1

theorem Tended.parked {w : Bool} (h : p.Tended max i ⟨.parked, w⟩) (hp : p.Registered)
    (hrun : p.runTask i ⟨.parked, w⟩ = some q) :
    ∃ u, q.tasks = p.tasks.set i u ∧ q.Tended max i u := by
  obtain ⟨hwoken, hrun⟩ := Option.ite_none_right_eq_some.1 hrun
  obtain rfl := Option.some.inj hrun
  have hpass := Notify.passable_of_turns h.passable.drop i
  rw [← Notify.consume_eq_drop (hp.lawful.not_mem_waiters hwoken)] at hpass
  refine ⟨_, rfl, rfl, hpass, by simp, ?_⟩
  refine (Notify.supplied_consume hp.lawful hwoken ?_).imp_left fun honly j hj => ⟨honly j hj, rfl⟩
  exact h.supplied rfl rfl

theorem Tended.withdrawing {d : Departure κ} {w : Bool} (h : p.Tended max i ⟨.withdrawing d, w⟩)
    (hp : p.Registered) (hrun : p.runTask i ⟨.withdrawing d, w⟩ = some q) :
    ∃ u, q.tasks = p.tasks.set i u ∧ q.Tended max i u := by
  obtain rfl := Option.some.inj hrun
  refine ⟨_, rfl, rfl, h.passable.withdraw, by simp, ?_⟩
  refine covered_of_supplied (Notify.supplied_withdraw hp.lawful h.passable ?_)
  refine h.covered.imp (fun honly j hj => (honly j hj).1) fun hfree => ?_
  exact hfree

theorem Tended.notifying {e : PoolEnding} {w : Bool} (h : p.Tended max i ⟨.notifying e, w⟩)
    (hp : p.Registered) (ht : p.tasks[i]? = some ⟨.notifying e, w⟩)
    (hrun : p.runTask i ⟨.notifying e, w⟩ = some q) :
    ∃ u, q.tasks = p.tasks.set i u ∧ q.Tended max i u := by
  obtain rfl := Option.some.inj hrun
  have hi : i ∉ p.released.members := not_mem_of_registered hp ht rfl
  refine ⟨_, rfl, rfl, h.passable.notifyOne, by simp, ?_⟩
  refine covered_of_supplied (Notify.supplied_notifyOne ?_)
  refine h.covered.imp_left fun honly => List.eq_nil_iff_forall_not_mem.2 fun j hj => ?_
  exact hi ((honly j hj).1 ▸ List.mem_append_left _ hj)

theorem Tended.popping {w : Bool} (h : p.Tended max i ⟨.popping, w⟩)
    (hrun : p.runTask i ⟨.popping, w⟩ = some q) :
    ∃ u, q.tasks = p.tasks.set i u ∧ q.Tended max i u := by
  cases hidle : p.idle with
  | nil =>
    simp only [runTask, hidle] at hrun
    obtain rfl := Option.some.inj hrun
    exact ⟨_, rfl, h.carry rfl rfl (fun _ => hidle) (absurd · Bool.false_ne_true) (Int.le_refl _)⟩
  | cons c rest =>
    simp only [runTask, hidle] at hrun
    obtain rfl := Option.some.inj hrun
    refine ⟨_, rfl, h.carry_on rfl rfl rfl (by simp) ?_⟩
    simp only [freeSlots, goto, setTask, PoolPhase.slack, hidle, List.length_cons]
    omega

theorem Tended.reserving {w : Bool} (h : p.Tended max i ⟨.reserving, w⟩)
    (hmax : p.limits.maxConnections = some max) (hrun : p.runTask i ⟨.reserving, w⟩ = some q) :
    ∃ u, q.tasks = p.tasks.set i u ∧ q.Tended max i u := by
  have hidle := h.drained rfl
  simp only [runTask] at hrun
  split at hrun
  · obtain rfl := Option.some.inj hrun
    refine ⟨_, rfl, h.carry_on rfl rfl rfl (by simp) ?_⟩
    simp only [freeSlots, goto, setTask, PoolPhase.slack]
    omega
  · -- there is no room and nothing idle, so the task may wait
    rename_i hroom
    obtain rfl := Option.some.inj hrun
    have hfull : (max : Int) ≤ p.allocated := by simpa [hasRoom, hmax] using hroom
    refine ⟨_, rfl, ?_, h.passable, ?_, .inr ?_⟩
    · cases w <;> rfl
    · cases w <;> simp
    · simp only [freeSlots, goto, setTask, hidle, List.length_nil]
      omega

theorem Tended.enlisting {w : Bool} (h : p.Tended max i ⟨.enlisting, w⟩) (hp : p.Registered)
    (ht : p.tasks[i]? = some ⟨.enlisting, w⟩) (hrun : p.runTask i ⟨.enlisting, w⟩ = some q) :
    ∃ u, q.tasks = p.tasks.set i u ∧ q.Tended max i u := by
  have hi : i ∉ p.released.members := not_mem_of_registered hp ht rfl
  simp only [runTask] at hrun
  (repeat' split at hrun) <;> obtain rfl := Option.some.inj hrun <;>
    refine ⟨_, rfl, h.carry rfl rfl (by simp) (fun _ => hi) ?_⟩ <;>
    simp only [freeSlots, goto, setTask, PoolPhase.slack] <;>
    omega

theorem Tended.run (h : p.Tended max i t) (hp : p.Registered) (hc : t.Coherent)
    (ht : p.tasks[i]? = some t) (hmax : p.limits.maxConnections = some max)
    (hlive : p.isDisposed = false) (hrun : p.runTask i t = some q) :
    q.isDisposed = true ∨ ∃ u, q.tasks = p.tasks.set i u ∧ q.Tended max i u := by
  have hout := not_mem_of_registered hp ht
  obtain ⟨ph, w⟩ := t
  cases ph with
  | popping => exact .inr (h.popping hrun)
  | reserving => exact .inr (h.reserving hmax hrun)
  | enlisting => exact .inr (h.enlisting hp ht hrun)
  | registering => exact .inr (h.registering hp ht hrun)
  | parked => exact .inr (h.parked hp hrun)
  | withdrawing d => exact .inr (h.withdrawing hp hrun)
  | notifying e => exact .inr (h.notifying hp ht hrun)
  | claiming c =>
    obtain rfl := Option.some.inj hrun
    exact .inr ⟨_, rfl, h.carry_simple rfl (found_simple (.claiming c) (.reuse c) w)
      (fun hrest => hout (found_atRest hrest)) rfl (Int.le_refl _)⟩
  | reserved =>
    obtain rfl := Option.some.inj hrun
    exact .inr ⟨_, rfl, h.carry_simple rfl (found_simple .reserved .fresh w)
      (fun hrest => hout (found_atRest hrest)) rfl (Int.le_refl _)⟩
  | delisting d =>
    obtain rfl := Option.some.inj hrun
    exact .inr ⟨_, rfl, h.carry_simple rfl (settleDeparture_simple d) (fun _ => hout rfl)
      rfl (Int.le_refl _)⟩
  | disposing =>
    obtain rfl := Option.some.inj hrun
    exact .inl rfl
  | draining | uncounting | unallocating | waking => cases h.opening
  | connecting | holding | finished => cases hrun
  | releasing c e =>
    obtain rfl := Option.some.inj hrun
    cases c <;> exact .inr ⟨_, rfl, h.carry_on rfl rfl rfl (by simp) (Int.le_refl _)⟩
  -- a slot that becomes free comes with a task that is yet to wake somebody
  | entering | rechecking | deciding | popped | parking | counting | freeing =>
    simp only [runTask, hlive, Bool.false_eq_true, if_false, Option.some.injEq] at hrun
    subst hrun
    refine .inr ⟨_, rfl, h.carry_on rfl rfl rfl (by simp) ?_⟩
    simp only [freeSlots, goto, setTask, PoolPhase.slack, List.length_append, List.length_singleton]
    omega

def InPoll (max i : Nat) (p : ConnectionPool κ) : Prop :=
  p.isDisposed = true ∨ ∃ t, p.tasks[i]? = some t ∧ p.Tended max i t

/-- Between two polls every wake-up is a turn, and there are enough of them. -/
structure Calm (max : Nat) (p : ConnectionPool κ) : Prop where
  turns : ∀ e ∈ p.released.woken, e.2 = .turn
  supplied : p.released.Supplied (p.freeSlots max)

theorem InPoll.of_runTask (h : p.Tended max i t) (hp : p.Registered) (ha : p.Accounted)
    (ht : p.tasks[i]? = some t) (hmax : p.limits.maxConnections = some max)
    (hlive : p.isDisposed = false) (hrun : p.runTask i t = some q) : q.InPoll max i := by
  refine (h.run hp (ha.coherent t (List.mem_of_getElem? ht)) ht hmax hlive hrun).imp_right ?_
  rintro ⟨u, hq, hu⟩
  exact ⟨u, getElem?_of_set hq ht, hu⟩

theorem Calm.tended (h : p.Calm max) (hopen : t.phase.isClosing = false)
    (hne : t.phase ≠ .reserving) (i : Nat) : p.Tended max i t where
  opening := hopen
  passable := Notify.passable_of_turns h.turns i
  drained := fun heq => absurd heq hne
  covered := covered_of_supplied h.supplied

theorem atRest_simple {ph : PoolPhase κ} (h : ph.atRest = true) :
    ph.isClosing = false ∧ ph ≠ .reserving ∧ ph.slack = 0 := by
  cases ph with
  | parked | connecting | holding | finished => exact ⟨rfl, nofun, rfl⟩
  | _ => cases h

theorem entry_simple {ph : PoolPhase κ} (h : Entry ph) :
    ph.isClosing = false ∧ ph ≠ .reserving := by
  cases h <;> exact ⟨rfl, nofun⟩

theorem jump_simple {ph ph' : PoolPhase κ} (h : Jump ph ph') :
    ph'.isClosing = false ∧ ph' ≠ .reserving := by
  cases h <;> exact ⟨rfl, nofun⟩

theorem Calm.inPoll {e : PoolEvent κ} (h : p.Calm max) (hp : p.Registered) (ha : p.Accounted)
    (hrest : p.AtRest) (hmax : p.limits.maxConnections = some max) (hstep : p.step e = some q) :
    q.InPoll max (p.actor e) := by
  rcases actor_cases hstep with ⟨ph, he, hlast, rfl⟩ | ⟨t, ht, hrun⟩ | ⟨t, ph, ht, hjump, rfl⟩
  · rw [hlast]
    have hq : Calm max { p with tasks := p.tasks ++ [⟨ph, false⟩] } := ⟨h.turns, h.supplied⟩
    obtain ⟨hopen, hne⟩ := entry_simple he
    exact .inr ⟨⟨ph, false⟩, List.getElem?_concat_length, hq.tended hopen hne _⟩
  · obtain ⟨hopen, hne, _⟩ := atRest_simple (hrest t (List.mem_of_getElem? ht))
    cases hlive : p.isDisposed with
    | true => exact .inl (isDisposed_of_runTask hrun hlive)
    | false => exact .of_runTask (h.tended hopen hne _) hp ha ht hmax hlive hrun
  · have hq : (p.goto (p.actor e) t ph).Calm max := ⟨h.turns, h.supplied⟩
    obtain ⟨hopen, hne⟩ := jump_simple hjump
    exact .inr ⟨{ t with phase := ph }, getElem?_of_set rfl ht, hq.tended hopen hne _⟩

theorem Tended.calm (h : p.Tended max i t) (hp : p.Registered) (ht : p.tasks[i]? = some t)
    (hstop : p.runTask i t = none) : p.Calm max := by
  obtain ⟨hrest, hparked⟩ := atRest_of_runTask hstop
  refine ⟨fun e he => (h.passable e he).resolve_right ?_,
    h.supplied hrest (atRest_simple hrest).2.2⟩
  rintro ⟨rfl, _⟩
  have hwoken : i ∈ p.released.woken.map Prod.fst := List.mem_map.2 ⟨_, he, rfl⟩
  have hreg := (hp.mem_task ht).1 (List.mem_append_right _ hwoken)
  have hphase : t.phase = .parked := by
    obtain ⟨ph, w⟩ := t
    cases ph with
    | parked => rfl
    | connecting | holding | finished => cases hreg
    | _ => cases hrest
  cases (Notify.isWoken_iff.2 hwoken).symm.trans (hparked hphase)

section

variable {id : Nat} {remote : RemoteAddress} {limits : PoolLimits}

theorem InPoll.runToRest (hmax : limits.maxConnections = some max)
    (hp : Reachable id remote limits p) (h : p.InPoll max i) (limit : Nat) :
    (p.runToRest limit i).InPoll max i := by
  have hrun := runToRest_induction (i := i)
    (P := fun p => Reachable id remote limits p ∧ p.InPoll max i)
    (fun p q ⟨hp, h⟩ hstep => by
      refine ⟨hp.step hstep, ?_⟩
      rcases h with hdisposed | ⟨t, ht, h⟩
      · exact .inl (isDisposed_of_step hstep hdisposed)
      · rw [step_run_of_getElem? ht] at hstep
        cases hlive : p.isDisposed with
        | true => exact .inl (isDisposed_of_runTask hstep hlive)
        | false =>
          exact .of_runTask h hp.registered hp.accounted ht (hp.limits_eq ▸ hmax) hlive hstep)
    limit ⟨hp, h⟩
  exact hrun.2

theorem Polled.calm (h : Polled id remote limits p) (hmax : limits.maxConnections = some max) :
    p.isDisposed = true ∨ p.Calm max := by
  induction h with
  | start => exact .inr ⟨nofun, .inl rfl⟩
  | @poll p q e hp hpoll ih =>
    have hreach := hp.reachable
    obtain ⟨⟨t, ht, hstop⟩, _⟩ := getElem?_of_poll hreach.accounted hpoll
    have hq := (hp.poll hpoll).reachable.registered
    obtain ⟨r, hr, rfl⟩ := Option.map_eq_some_iff.1 hpoll
    have hbegun : r.InPoll max (p.actor e) := by
      rcases ih with hdisposed | hcalm
      · exact .inl (isDisposed_of_step hr hdisposed)
      · exact hcalm.inPoll hreach.registered hreach.accounted hp.atRest
          (hreach.limits_eq ▸ hmax) hr
    rcases InPoll.runToRest hmax (hreach.step hr) hbegun restLimit with hdisposed | ⟨u, hu, h⟩
    · exact .inl hdisposed
    · obtain rfl := Option.some.inj (ht.symm.trans hu)
      exact .inr (h.calm hq ht hstop)

/-- The parked acquires that were woken and have not run since. -/
def unpolled (p : ConnectionPool κ) : List Nat :=
  (List.range p.tasks.length).filter fun i =>
    (p.tasks[i]?.any fun t => t.phase.isParked) && p.released.isWoken i

theorem Polled.mem_members (h : Polled id remote limits p) (ht : p.tasks[i]? = some t) :
    i ∈ p.released.members ↔ t.phase.isParked = true := by
  rw [h.reachable.registered.mem_task ht]
  have hrest := h.atRest t (List.mem_of_getElem? ht)
  obtain ⟨ph, w⟩ := t
  cases ph with
  | parked | connecting | holding | finished => exact .rfl
  | _ => cases hrest

theorem Polled.mem_unpolled (h : Polled id remote limits p) :
    i ∈ p.unpolled ↔ i ∈ p.released.woken.map Prod.fst := by
  rw [unpolled, List.mem_filter, List.mem_range, Bool.and_eq_true, Notify.isWoken_iff]
  constructor
  · exact fun h => h.2.2
  · intro hwoken
    obtain ⟨t, ht, _⟩ := (h.reachable.registered.mem_iff i).1 (List.mem_append_right _ hwoken)
    have hparked := (h.mem_members ht).1 (List.mem_append_right _ hwoken)
    refine ⟨(List.getElem?_eq_some_iff.1 ht).1, ?_, hwoken⟩
    rw [ht]
    exact hparked

theorem Polled.length_unpolled (h : Polled id remote limits p) :
    p.unpolled.length = p.released.woken.length := by
  have hnodup := (List.nodup_append.1 h.reachable.registered.lawful.nodup).2.1
  have hperm : p.unpolled.Perm (p.released.woken.map Prod.fst) :=
    (List.perm_ext_iff_of_nodup (List.nodup_range.filter _) hnodup).2 fun _ => h.mem_unpolled
  rw [hperm.length_eq, List.length_map]

/-- While an acquire is parked and not woken, it waits for its turn, and no more slots are free than
woken acquires have still to run. So if a slot is free, another wake-up is on its way. -/
theorem wakeups_cover_free_slots (h : Polled id remote limits p)
    (hmax : limits.maxConnections = some max) (hlive : p.isDisposed = false)
    (ht : p.tasks[i]? = some t) (hparked : t.phase = .parked)
    (hasleep : p.released.isWoken i = false) :
    i ∈ p.released.waiters ∧ p.freeSlots max ≤ p.unpolled.length ∧
      (0 < p.freeSlots max → ∃ j ∈ p.unpolled, j ≠ i) := by
  have hwaits : i ∈ p.released.waiters := by
    rcases List.mem_append.1 ((h.mem_members ht).2 (hparked ▸ rfl)) with hwaits | hwoken
    · exact hwaits
    · cases (Notify.isWoken_iff.2 hwoken).symm.trans hasleep
  have hcalm := (h.calm hmax).resolve_left fun hdisposed => by cases hdisposed.symm.trans hlive
  have hfree : p.freeSlots max ≤ p.unpolled.length := by
    rw [h.length_unpolled]
    exact hcalm.supplied.resolve_left (List.ne_nil_of_mem hwaits)
  refine ⟨hwaits, hfree, fun hpos => ?_⟩
  have hne : p.unpolled ≠ [] := by
    intro hnil
    rw [hnil] at hfree
    exact absurd hpos (Int.not_lt.2 hfree)
  obtain ⟨j, hj⟩ := List.exists_mem_of_ne_nil _ hne
  refine ⟨j, hj, ?_⟩
  rintro rfl
  cases (Notify.isWoken_iff.2 (h.mem_unpolled.1 hj)).symm.trans hasleep

/-- A pool of one slot after its connection came back: of two acquires that wait for it, the first one
has been woken. -/
def handedOn : ConnectionPool Nat where
  id := 1
  remote := .opaqueName "peer"
  limits := ⟨some 1, none, .zero⟩
  allocated := 1
  acquired := 0
  idleCount := 1
  pending := 2
  idle := [7]
  released := ⟨false, [2], [(1, .turn)]⟩
  isDisposed := false
  tasks := [⟨.finished .released, false⟩, ⟨.parked, true⟩, ⟨.parked, true⟩]

theorem polled_handedOn : Polled 1 (.opaqueName "peer") ⟨some 1, none, .zero⟩ handedOn :=
  Polled.start.events [.acquire, .connected 0 7, .acquire, .acquire, .letGo 0 (some 7)] rfl

theorem wakeups_cover_free_slots_of_handedOn :
    2 ∈ handedOn.released.waiters ∧ handedOn.freeSlots 1 ≤ handedOn.unpolled.length ∧
      (0 < handedOn.freeSlots 1 → ∃ j ∈ handedOn.unpolled, j ≠ 2) :=
  wakeups_cover_free_slots (t := ⟨.parked, true⟩) polled_handedOn rfl rfl rfl rfl rfl

end

end ConnectionPool
end SecureGateway

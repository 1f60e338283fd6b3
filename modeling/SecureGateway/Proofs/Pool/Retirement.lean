import SecureGateway.Proofs.Pool.Provision

namespace SecureGateway

namespace ProviderPhase

/-- Look-ups that have seen the flag down, and have yet to insert a pool or find one. -/
def strays : ProviderPhase → Nat
  | .lookingUp _ | .inserting _ => 1
  | _ => 0

def isClosing : ProviderPhase → Bool
  | .closing _ _ => true
  | _ => false

def isRetiring : ProviderPhase → Bool
  | .listing | .removing _ | .closing _ _ | .closed => true
  | _ => false

/-- The disposal will not take this entry out of the map any more. -/
def misses : ProviderPhase → RemoteAddress × Nat → Bool
  | .listing, _ => false
  | .removing rs, e | .closing _ rs, e => e.1 ∉ rs
  | _, _ => true

end ProviderPhase

theorem mem_set_of_ne {α : Type} {as : List α} {a b x : α} {i : Nat} (hi : as[i]? = some a) (hx : x ∈ as)
    (hne : x ≠ a) : x ∈ as.set i b := by
  obtain ⟨j, hj⟩ := List.mem_iff_getElem?.1 hx
  have hij : i ≠ j := fun h => hne (Option.some.inj (hj.symm.trans (h ▸ hi)))
  exact List.mem_of_getElem? ((List.getElem?_set_ne hij).trans hj)

namespace ConnectionProvider

variable {κ : Type} {p q : ConnectionProvider κ} {i j fresh : Nat} {ph : ProviderPhase}
  {e : ProviderEvent} {r : RemoteAddress} {id : Nat}

def strays (p : ConnectionProvider κ) : Nat := (p.tasks.map ProviderPhase.strays).sum

theorem step_cases (h : p.step e = some q) :
    (∃ ph, ph.strays = 0 ∧ q = p.begun ph) ∨
      ∃ i fresh ph, p.tasks[i]? = some ph ∧ p.runTask i fresh ph = some q := by
  cases e with
  | lookUp r => exact .inl ⟨.entering r, rfl, (Option.some.inj h).symm⟩
  | dispose => exact .inl ⟨.raising, rfl, (Option.some.inj h).symm⟩
  | run i fresh =>
    obtain ⟨ph, hph, hrun⟩ := Option.bind_eq_some_iff.1 h
    exact .inr ⟨i, fresh, ph, hph, hrun⟩

theorem mem_tasks_goto (hi : p.tasks[i]? = some ph) (ph' : ProviderPhase) : ph' ∈ (p.goto i ph').tasks :=
  List.mem_set (List.getElem?_eq_some_iff.1 hi).1 _

/-- Every pool is in the map under its remote, about to be disposed of, or disposed of. -/
structure Tracked (p : ConnectionProvider κ) : Prop where
  keys : (p.map.map Prod.fst).Nodup
  pools : ∀ c ∈ p.pools, c.isDisposed = true ∨ c.entry ∈ p.map ∨
    ∃ rs, ProviderPhase.closing c.id rs ∈ p.tasks

theorem tracked_new (name : String) (limits : PoolLimits) (isMetered : Bool) :
    (new name limits isMetered : ConnectionProvider κ).Tracked :=
  ⟨List.nodup_nil, List.forall_mem_nil _⟩

theorem Tracked.goto (h : p.Tracked) (hi : p.tasks[i]? = some ph) (hph : ph.isClosing = false)
    (ph' : ProviderPhase) : (p.goto i ph').Tracked where
  keys := h.keys
  pools := fun c hc => (h.pools c hc).imp_right fun hknown => hknown.imp_right fun ⟨rs, hrs⟩ => by
    refine ⟨rs, mem_set_of_ne hi hrs ?_⟩
    rintro rfl
    cases hph

theorem Tracked.insert (h : p.Tracked) (hr : p.poolId? r = none) (fresh : Nat) :
    (p.insert r fresh).Tracked where
  keys := by
    rw [poolId?_eq_none_iff] at hr
    rw [ConnectionProvider.insert, List.map_append]
    exact List.concat_eq_append ▸ h.keys.concat hr
  pools := by
    refine List.forall_mem_append.2 ⟨fun c hc => ?_, List.forall_mem_singleton.2 (.inr (.inl ?_))⟩
    · exact (h.pools c hc).imp_right (Or.imp_left (List.mem_append_left _))
    · exact List.mem_append_right _ (List.mem_singleton_self _)

theorem Tracked.remove {rs : List RemoteAddress} (h : p.Tracked) (hr : p.poolId? r = some id)
    (hi : p.tasks[i]? = some (.removing (r :: rs))) :
    ((p.remove r).goto i (.closing id rs)).Tracked where
  keys := h.keys.sublist (List.filter_sublist.map _)
  pools := fun c hc => (h.pools c hc).imp_right fun hknown => by
    rcases hknown with hmem | ⟨rs', hrs'⟩
    · by_cases hkey : c.remote = r
      · have hentry : c.entry = (r, id) :=
          List.inj_on_of_nodup_map h.keys hmem (mem_map_of_poolId? hr) hkey
        obtain ⟨-, hid⟩ := Prod.mk.inj hentry
        exact .inr ⟨rs, hid ▸ mem_tasks_goto (p := p.remove r) hi _⟩
      · exact .inl (List.mem_filter.2 ⟨hmem, decide_eq_true hkey⟩)
    · exact .inr ⟨rs', mem_set_of_ne hi hrs' nofun⟩

theorem Tracked.close {rs : List RemoteAddress} (h : p.Tracked)
    (hi : p.tasks[i]? = some (.closing id rs)) :
    ((p.modifyPool id ConnectionPool.disposeAll).goto i (.removing rs)).Tracked where
  keys := h.keys
  pools := forall_mem_modifyPool
    (fun c hc hid => (h.pools c hc).imp_right fun hknown => hknown.imp_right fun ⟨rs', hrs'⟩ =>
      ⟨rs', mem_set_of_ne hi hrs' fun heq => hid (ProviderPhase.closing.inj heq).1⟩)
    fun c _ _ => .inl c.isDisposed_disposeAll

theorem Tracked.runTask (h : p.Tracked) (hi : p.tasks[i]? = some ph)
    (hrun : p.runTask i fresh ph = some q) : q.Tracked := by
  -- only inserting, removing and closing touch the map or a pool
  cases ph with
  | entering r | listing =>
    obtain rfl := Option.some.inj hrun
    exact h.goto hi rfl _
  | lookingUp r =>
    simp only [ConnectionProvider.runTask] at hrun
    split at hrun <;> obtain rfl := Option.some.inj hrun <;> exact h.goto hi rfl _
  | inserting r =>
    simp only [ConnectionProvider.runTask] at hrun
    split at hrun <;> obtain rfl := Option.some.inj hrun
    · exact h.goto hi rfl _
    · exact (h.insert ‹_› fresh).goto hi rfl _
  | registering r id =>
    obtain rfl := Option.some.inj hrun
    have hkept : (p.register r id).Tracked := by
      rw [register_eq]
      exact ⟨h.keys, h.pools⟩
    have htask : (p.register r id).tasks[i]? = some (.registering r id) := by
      rw [register_eq]
      exact hi
    exact hkept.goto htask rfl _
  | raising =>
    obtain rfl := Option.some.inj hrun
    exact Tracked.goto (p := p.raised) ⟨h.keys, h.pools⟩ hi rfl _
  | removing rs =>
    cases rs with
    | nil =>
      obtain rfl := Option.some.inj hrun
      exact h.goto hi rfl _
    | cons r rs =>
      simp only [ConnectionProvider.runTask] at hrun
      split at hrun <;> obtain rfl := Option.some.inj hrun
      · exact h.remove ‹_› hi
      · exact h.goto hi rfl _
  | closing id rs =>
    obtain rfl := Option.some.inj hrun
    exact h.close hi
  | obtained | refused | closed => cases hrun

theorem Tracked.step (h : p.Tracked) (hstep : p.step e = some q) : q.Tracked := by
  rcases step_cases hstep with ⟨ph, -, rfl⟩ | ⟨i, fresh, ph, hi, hrun⟩
  · exact ⟨h.keys, fun c hc => (h.pools c hc).imp_right fun hknown => hknown.imp_right fun ⟨rs, hrs⟩ =>
      ⟨rs, List.mem_append_left _ hrs⟩⟩
  · exact h.runTask hi hrun

theorem Tracked.events {es : List ProviderEvent} (h : p.Tracked)
    (hes : es.foldlM ConnectionProvider.step p = some q) : q.Tracked := by
  induction es generalizing p with
  | nil => exact Option.some.inj hes ▸ h
  | cons e es ih =>
    obtain ⟨r, hr, hes⟩ := Option.bind_eq_some_iff.1 hes
    exact ih (h.step hr) hes

/-- The entries that a disposal at this phase leaves in the map, and those that look-ups can still
insert. -/
def beyond (ph : ProviderPhase) (p : ConnectionProvider κ) : Nat := p.map.countP ph.misses + p.strays

theorem countP_of_runTask (hp : p.isDisposed = true) (h : p.runTask i fresh ph = some q) :
    q.isDisposed = true ∧ ∃ u, q.tasks = p.tasks.set i u ∧ ∀ f : RemoteAddress × Nat → Bool,
      q.map.countP f + u.strays ≤ p.map.countP f + ph.strays := by
  cases ph with
  | entering r =>
    obtain rfl := Option.some.inj h
    exact ⟨hp, _, rfl, fun f => by rw [hp]; exact Nat.le_refl _⟩
  | lookingUp r =>
    simp only [runTask] at h
    split at h <;> obtain rfl := Option.some.inj h
    · exact ⟨hp, _, rfl, fun f => Nat.le_succ _⟩
    · exact ⟨hp, _, rfl, fun f => Nat.le_refl _⟩
  -- the pool that is inserted was counted as a stray before
  | inserting r =>
    simp only [runTask] at h
    split at h <;> obtain rfl := Option.some.inj h
    · exact ⟨hp, _, rfl, fun f => Nat.le_succ _⟩
    · refine ⟨hp, _, rfl, fun f => ?_⟩
      show (p.map ++ [(r, fresh)]).countP f ≤ p.map.countP f + 1
      rw [List.countP_append]
      exact Nat.add_le_add_left List.countP_le_length _
  | registering r id =>
    obtain rfl := Option.some.inj h
    rw [register_eq]
    exact ⟨hp, _, rfl, fun f => Nat.le_refl _⟩
  | removing rs =>
    cases rs with
    | nil =>
      obtain rfl := Option.some.inj h
      exact ⟨hp, _, rfl, fun f => Nat.le_refl _⟩
    | cons r rs =>
      simp only [runTask] at h
      split at h <;> obtain rfl := Option.some.inj h <;> refine ⟨hp, _, rfl, fun f => ?_⟩
      · exact Nat.add_le_add_right List.filter_sublist.countP_le _
      · exact Nat.le_refl _
  | raising =>
    obtain rfl := Option.some.inj h
    exact ⟨rfl, _, rfl, fun f => Nat.le_refl _⟩
  | listing | closing id rs =>
    obtain rfl := Option.some.inj h
    exact ⟨hp, _, rfl, fun f => Nat.le_refl _⟩
  | obtained | refused | closed => cases h

theorem countP_misses_of_runTask (hi : p.tasks[i]? = some ph) (hph : ph.isRetiring = true)
    (h : p.runTask i fresh ph = some q) :
    ∃ u, q.tasks[i]? = some u ∧ u.isRetiring = true ∧ ph.strays = 0 ∧ u.strays = 0 ∧
      q.map.countP u.misses ≤ p.map.countP ph.misses := by
  have hlt := (List.getElem?_eq_some_iff.1 hi).1
  cases ph with
  -- everything in the map is on the list now
  | listing =>
    obtain rfl := Option.some.inj h
    refine ⟨_, List.getElem?_set_self hlt, rfl, rfl, rfl, List.countP_mono_left fun e he hmiss => ?_⟩
    exact absurd (List.mem_map_of_mem he) (of_decide_eq_true hmiss)
  | removing rs =>
    cases rs with
    | nil =>
      obtain rfl := Option.some.inj h
      refine ⟨_, List.getElem?_set_self hlt, rfl, rfl, rfl, List.countP_mono_left fun e _ _ => ?_⟩
      exact decide_eq_true (List.not_mem_nil (a := e.1))
    | cons r rs =>
      simp only [runTask] at h
      split at h <;> obtain rfl := Option.some.inj h <;>
        refine ⟨_, List.getElem?_set_self hlt, rfl, rfl, rfl, ?_⟩
      · -- the remote leaves the list and the map together
        show (p.map.filter fun e => e.1 ≠ r).countP _ ≤ _
        rw [List.countP_filter]
        refine List.countP_mono_left fun e _ hmiss => ?_
        obtain ⟨hrest, hr⟩ := Bool.and_eq_true_iff.1 hmiss
        exact decide_eq_true
          (List.not_mem_cons_of_ne_of_not_mem (of_decide_eq_true hr) (of_decide_eq_true hrest))
      · refine List.countP_mono_left fun e he hmiss => ?_
        have hmem : e.1 ∈ p.map.map Prod.fst := List.mem_map_of_mem he
        have hr : e.1 ≠ r := fun hkey => poolId?_eq_none_iff.1 ‹_› (hkey ▸ hmem)
        exact decide_eq_true (List.not_mem_cons_of_ne_of_not_mem hr (of_decide_eq_true hmiss))
  | closing id rs =>
    obtain rfl := Option.some.inj h
    exact ⟨_, List.getElem?_set_self hlt, rfl, rfl, rfl, Nat.le_refl _⟩
  | closed => cases h
  | _ => cases hph

/-- Whoever goes on, the disposal will leave no more behind than before. -/
theorem beyond_of_step (hp : p.isDisposed = true) (hi : p.tasks[i]? = some ph)
    (hph : ph.isRetiring = true) (h : p.step e = some q) :
    q.isDisposed = true ∧ ∃ u, q.tasks[i]? = some u ∧ u.isRetiring = true ∧ q.beyond u ≤ p.beyond ph := by
  rcases step_cases h with ⟨ph', hstray, rfl⟩ | ⟨j, fresh, ph', hj, hrun⟩
  · have hlt := (List.getElem?_eq_some_iff.1 hi).1
    refine ⟨hp, ph, (List.getElem?_append_left hlt).trans hi, hph, ?_⟩
    rw [beyond, beyond, strays, strays, begun, List.map_append, List.sum_append, List.map_singleton,
      List.sum_singleton, hstray]
    exact Nat.le_refl _
  · obtain ⟨hq, u, htasks, hcount⟩ := countP_of_runTask hp hrun
    have hsum := ConnectionPool.sum_map_set ProviderPhase.strays p.tasks j hj u
    rw [← htasks] at hsum
    refine ⟨hq, ?_⟩
    -- the disposal itself misses no more than before; any other step adds what it had as a stray
    by_cases hij : j = i
    · subst hij
      obtain rfl := Option.some.inj (hi.symm.trans hj)
      obtain ⟨u', hu', hretiring, hstray, hstray', hle⟩ := countP_misses_of_runTask hi hph hrun
      obtain rfl : u = u' := Option.some.inj ((htasks ▸
        List.getElem?_set_self (List.getElem?_eq_some_iff.1 hj).1).symm.trans hu')
      refine ⟨u, hu', hretiring, ?_⟩
      simp only [beyond, strays]
      omega
    · refine ⟨ph, by rw [htasks, List.getElem?_set_ne hij, hi], hph, ?_⟩
      have hle := hcount ph.misses
      simp only [beyond, strays]
      omega

theorem beyond_of_events {es : List ProviderEvent} (hp : p.isDisposed = true)
    (hi : p.tasks[i]? = some ph) (hph : ph.isRetiring = true)
    (hes : es.foldlM ConnectionProvider.step p = some q) :
    ∃ u, q.tasks[i]? = some u ∧ q.beyond u ≤ p.beyond ph := by
  induction es generalizing p ph with
  | nil =>
    obtain rfl := Option.some.inj hes
    exact ⟨ph, hi, Nat.le_refl _⟩
  | cons e es ih =>
    obtain ⟨r, hr, hes⟩ := Option.bind_eq_some_iff.1 hes
    obtain ⟨hr', u, hu, hretiring, hle⟩ := beyond_of_step hp hi hph hr
    obtain ⟨v, hv, hle'⟩ := ih hr' hu hretiring hes
    exact ⟨v, hv, Nat.le_trans hle' hle⟩

section

variable {name : String} {limits : PoolLimits} {isMetered : Bool} {es es' : List ProviderEvent}

/-- However look-ups and disposals interleave, a disposal that has returned leaves no more pools in the
map than look-ups had seen the flag down when it raised it. All the others are disposed of, or will be
by a disposal that is still on its way. -/
theorem left_by_disposal
    (hes : es.foldlM ConnectionProvider.step (new name limits isMetered) = some p)
    (hp : p.isDisposed = true) (hi : p.tasks[i]? = some .listing)
    (hes' : es'.foldlM ConnectionProvider.step p = some q) (hq : q.tasks[i]? = some .closed) :
    q.map.length + q.strays ≤ p.strays ∧ ∀ c ∈ q.pools, c.isDisposed = true ∨ c.entry ∈ q.map ∨
      ∃ rs, ProviderPhase.closing c.id rs ∈ q.tasks := by
  have htracked : q.Tracked := ((tracked_new name limits isMetered).events hes).events hes'
  refine ⟨?_, htracked.pools⟩
  obtain ⟨u, hu, hle⟩ := beyond_of_events hp hi rfl hes'
  obtain rfl := Option.some.inj (hq.symm.trans hu)
  have hall : q.map.countP ProviderPhase.closed.misses = q.map.length :=
    List.countP_eq_length.2 fun _ _ => rfl
  have hnone : p.map.countP ProviderPhase.listing.misses = 0 :=
    List.countP_eq_zero.2 fun _ _ => Bool.false_ne_true
  rwa [beyond, beyond, hall, hnone, Nat.zero_add] at hle

/-- A disposal that no look-up comes before with a view of the flag down leaves nothing. -/
theorem nothing_left_by_disposal
    (hes : es.foldlM ConnectionProvider.step (new name limits isMetered) = some p)
    (hp : p.isDisposed = true) (hi : p.tasks[i]? = some .listing) (hstrays : p.strays = 0)
    (hes' : es'.foldlM ConnectionProvider.step p = some q) (hq : q.tasks[i]? = some .closed)
    (hclosing : ∀ id rs, ProviderPhase.closing id rs ∉ q.tasks) :
    q.map = [] ∧ ∀ c ∈ q.pools, c.isDisposed = true := by
  obtain ⟨hle, hpools⟩ := left_by_disposal hes hp hi hes' hq
  have hmap : q.map = [] := List.eq_nil_of_length_eq_zero (by omega)
  refine ⟨hmap, fun c hc => (hpools c hc).resolve_right ?_⟩
  rintro (hmem | ⟨rs, hrs⟩)
  · rw [hmap] at hmem
    cases hmem
  · exact hclosing c.id rs hrs

end

/-- A look-up reads the flag, the provider is disposed of, and then the look-up inserts its pool. -/
theorem stray_lookUp : ∃ p : ConnectionProvider Nat,
    List.foldlM ConnectionProvider.step (new "edge" .standard false)
      [.lookUp (.opaqueName "peer"), .run 0 1, .dispose, .run 1 1, .run 1 1, .run 1 1, .run 0 1, .run 0 1,
        .run 0 1] = some p ∧
      p.isDisposed = true ∧ p.tasks = [.obtained (.opaqueName "peer") 1, .closed] ∧
      p.map = [(.opaqueName "peer", 1)] ∧ p.pools.map ConnectionPool.isDisposed = [false] :=
  ⟨_, rfl, rfl, rfl, rfl, rfl⟩

end ConnectionProvider
end SecureGateway

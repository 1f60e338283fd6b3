import Mathlib.Data.List.Nodup
import SecureGateway.Pool.Provider
import SecureGateway.Proofs.Pool.Reuse

namespace SecureGateway

namespace ConnectionPool

variable {κ : Type} {p q : ConnectionPool κ} {e : PoolEvent κ}

theorem entry_of_poll (h : p.poll e = some q) : q.entry = p.entry ∧ q.limits = p.limits := by
  obtain ⟨r, hr, rfl⟩ := Option.map_eq_some_iff.1 h
  refine runToRest_induction (P := fun q => q.entry = p.entry ∧ q.limits = p.limits) ?_ restLimit
    (entry_of_step hr)
  rintro q r ⟨hentry, hlimits⟩ hstep
  obtain ⟨hentry', hlimits'⟩ := entry_of_step hstep
  exact ⟨hentry'.trans hentry, hlimits'.trans hlimits⟩

theorem isDisposed_of_poll (h : p.poll e = some q) (hp : p.isDisposed = true) : q.isDisposed = true := by
  obtain ⟨r, hr, rfl⟩ := Option.map_eq_some_iff.1 h
  exact runToRest_induction (fun _ _ hq hstep => isDisposed_of_step hstep hq) restLimit
    (isDisposed_of_step hr hp)

theorem poll_dispose_eq (p : ConnectionPool κ) : p.poll .dispose = some p.disposeAll := rfl

theorem entry_disposeAll (p : ConnectionPool κ) : p.disposeAll.entry = p.entry :=
  (entry_of_poll p.poll_dispose_eq).1

theorem isDisposed_disposeAll (p : ConnectionPool κ) : p.disposeAll.isDisposed = true := by
  obtain ⟨r, hr⟩ : ∃ r, p.step .dispose = some r := ⟨_, rfl⟩
  have hlast : r.tasks[p.tasks.length]? = some ⟨.disposing, false⟩ := by
    obtain rfl := Option.some.inj hr
    exact List.getElem?_concat_length
  have hrun : ∃ q, r.step (.run p.tasks.length) = some q ∧ q.isDisposed = true :=
    ⟨_, step_run_of_getElem? hlast, rfl⟩
  obtain ⟨q, hq, hflag⟩ := hrun
  rw [disposeAll, hr, Option.getD_some, restLimit, runToRest, hq]
  exact runToRest_induction (fun _ _ hq hstep => isDisposed_of_step hstep hq) 63 hflag

/-- A pool as it is between two polls. -/
def Lives (limits : PoolLimits) (p : ConnectionPool κ) : Prop :=
  ∃ id remote, Polled id remote limits p

theorem Lives.poll {limits : PoolLimits} (hp : p.Lives limits) (h : p.poll e = some q) :
    q.Lives limits := by
  obtain ⟨id, remote, hp⟩ := hp
  exact ⟨id, remote, hp.poll h⟩

theorem Lives.limits_eq {limits : PoolLimits} (hp : p.Lives limits) : p.limits = limits := by
  obtain ⟨_, _, hp⟩ := hp
  exact hp.reachable.limits_eq

theorem find?_of_nodup {ps : List (ConnectionPool κ)} (h : (ps.map ConnectionPool.id).Nodup)
    (hp : p ∈ ps) : ps.find? (·.id == p.id) = some p := by
  cases hfind : ps.find? (·.id == p.id) with
  | none => exact absurd (beq_self_eq_true p.id) (List.find?_eq_none.1 hfind p hp)
  | some q =>
    have hid := List.find?_some hfind
    rw [List.inj_on_of_nodup_map h (List.mem_of_find?_eq_some hfind) hp (beq_iff_eq.1 hid)]

end ConnectionPool

namespace ConnectionProvider

variable {κ : Type} {p q : ConnectionProvider κ} {r : RemoteAddress} {id fresh i limit : Nat}
  {ph ph' : ProviderPhase}

def begun (p : ConnectionProvider κ) (ph : ProviderPhase) : ConnectionProvider κ :=
  { p with tasks := p.tasks ++ [ph] }

theorem goto_begun (hi : p.tasks.length = i) (ph ph' : ProviderPhase) :
    (p.begun ph).goto i ph' = p.begun ph' := by
  subst hi
  rw [goto, begun, begun]
  simp

theorem step_begun (hi : p.tasks.length = i) (ph : ProviderPhase) :
    (p.begun ph).step (.run i fresh) = (p.begun ph).runTask i fresh ph := by
  subst hi
  rw [step, begun, List.getElem?_concat_length]
  rfl

theorem runToEnd_begun (hi : p.tasks.length = i) (limit : Nat)
    (h : (p.begun ph).runTask i fresh ph = some q) :
    runToEnd (limit + 1) i fresh (p.begun ph) = runToEnd limit i fresh q := by
  rw [runToEnd, step_begun hi, h]

theorem runToEnd_begun_of_none (hi : p.tasks.length = i) (limit : Nat)
    (h : (p.begun ph).runTask i fresh ph = none) :
    runToEnd limit i fresh (p.begun ph) = p.begun ph := by
  cases limit with
  | zero => rfl
  | succ limit => rw [runToEnd, step_begun hi, h]

theorem poolId?_begun (p : ConnectionProvider κ) (ph : ProviderPhase) (r : RemoteAddress) :
    (p.begun ph).poolId? r = p.poolId? r := rfl

def registrationOf (name : String) (e : RemoteAddress × Nat) : Registration Nat :=
  ⟨Text.hexText e.2, name, e.1, e.2⟩

def calls (name : String) (isMetered : Bool) (es : List (RemoteAddress × Nat)) : List MeterCall :=
  if isMetered then es.flatMap fun e => [.supply, .register (registrationOf name e)] else []

theorem calls_nil (name : String) (isMetered : Bool) : calls name isMetered [] = [] := ite_self _

theorem calls_append (name : String) (isMetered : Bool) (es es' : List (RemoteAddress × Nat)) :
    calls name isMetered (es ++ es') = calls name isMetered es ++ calls name isMetered es' := by
  cases isMetered with
  | false => rfl
  | true => exact List.flatMap_append

theorem registrations_calls (name : String) (isMetered : Bool) (es : List (RemoteAddress × Nat)) :
    (calls name isMetered es).filterMap MeterCall.registration? =
      if isMetered then es.map (registrationOf name) else [] := by
  cases isMetered with
  | false => rfl
  | true =>
    rw [calls, if_pos rfl, if_pos rfl, List.filterMap_flatMap, List.map_eq_flatMap]
    rfl

theorem register_eq (p : ConnectionProvider κ) (r : RemoteAddress) (id : Nat) :
    p.register r id = { p with meterCalls := p.meterCalls ++ calls p.name p.isMetered [(r, id)] } := by
  rw [register]
  split
  · rw [calls, if_pos ‹_›]
    rfl
  · rw [calls, if_neg ‹_›, List.append_nil]

def added (p : ConnectionProvider κ) (r : RemoteAddress) (id : Nat) : ConnectionProvider κ :=
  { p with
    map := p.map ++ [(r, id)]
    pools := p.pools ++ [.new id r p.limits]
    meterCalls := p.meterCalls ++ calls p.name p.isMetered [(r, id)] }

theorem runToEnd_entering (hi : p.tasks.length = i) :
    runToEnd (limit + 1) i fresh (p.begun (.entering r)) =
      runToEnd limit i fresh (p.begun (if p.isDisposed then .refused else .lookingUp r)) :=
  runToEnd_begun hi limit (congrArg some (goto_begun hi _ _))

theorem runToEnd_lookingUp (hi : p.tasks.length = i) :
    runToEnd (limit + 1) i fresh (p.begun (.lookingUp r)) =
      runToEnd limit i fresh (p.begun ((p.poolId? r).elim (.inserting r) (.obtained r))) := by
  refine runToEnd_begun hi limit ?_
  rw [runTask, poolId?_begun]
  cases p.poolId? r with
  | none => exact congrArg some (goto_begun hi _ _)
  | some id => exact congrArg some (goto_begun hi _ _)

theorem runToEnd_inserting (hi : p.tasks.length = i) (hr : p.poolId? r = none) :
    runToEnd (limit + 2) i fresh (p.begun (.inserting r)) =
      runToEnd limit i fresh ((p.added r fresh).begun (.obtained r fresh)) := by
  have hinserted : (p.insert r fresh).tasks.length = i := hi
  have hadded : (p.added r fresh).tasks.length = i := hi
  have hinsert : (p.begun (.inserting r)).runTask i fresh (.inserting r) =
      some ((p.insert r fresh).begun (.registering r fresh)) := by
    rw [runTask, poolId?_begun, hr]
    exact congrArg some (goto_begun (p := p.insert r fresh) hinserted _ _)
  rw [runToEnd_begun hi (limit + 1) hinsert, runToEnd_begun hinserted limit]
  rw [runTask, register_eq]
  exact congrArg some (goto_begun hadded _ _)

def obtained? : ProviderPhase → Option Nat
  | .obtained _ id => some id
  | _ => none

theorem poolFor_of_runToEnd {id? : Option Nat} (hq : q.tasks = p.tasks) (hid : obtained? ph = id?)
    (h : runToEnd 5 p.tasks.length fresh (p.begun (.entering r)) = q.begun ph) :
    p.poolFor r fresh = (id?, q.begun ph) := by
  subst hid
  have hstart : (p.step (.lookUp r)).getD p = p.begun (.entering r) := rfl
  have hlast : (q.begun ph).tasks[p.tasks.length]? = some ph := by
    rw [begun, hq, List.getElem?_concat_length]
  rw [poolFor, hstart, h, hlast]
  cases ph <;> rfl

theorem poolFor_of_disposed (h : p.isDisposed = true) :
    p.poolFor r fresh = (none, p.begun .refused) := by
  refine poolFor_of_runToEnd rfl rfl ?_
  rw [runToEnd_entering rfl, h]
  exact runToEnd_begun_of_none rfl 4 rfl

theorem poolFor_of_known (h : p.isDisposed = false) (hr : p.poolId? r = some id) :
    p.poolFor r fresh = (some id, p.begun (.obtained r id)) := by
  refine poolFor_of_runToEnd rfl rfl ?_
  rw [runToEnd_entering rfl, h]
  show runToEnd (3 + 1) _ _ (p.begun (.lookingUp r)) = _
  rw [runToEnd_lookingUp rfl, hr]
  exact runToEnd_begun_of_none rfl 3 rfl

theorem poolFor_of_unknown (h : p.isDisposed = false) (hr : p.poolId? r = none) :
    p.poolFor r fresh = (some fresh, (p.added r fresh).begun (.obtained r fresh)) := by
  refine poolFor_of_runToEnd rfl rfl ?_
  rw [runToEnd_entering rfl, h]
  show runToEnd (3 + 1) _ _ (p.begun (.lookingUp r)) = _
  rw [runToEnd_lookingUp rfl, hr]
  show runToEnd (1 + 2) _ _ (p.begun (.inserting r)) = _
  rw [runToEnd_inserting rfl hr]
  exact runToEnd_begun_of_none rfl 1 rfl

def remove (p : ConnectionProvider κ) (r : RemoteAddress) : ConnectionProvider κ :=
  { p with map := p.map.filter (·.1 ≠ r) }

def close (p : ConnectionProvider κ) (r : RemoteAddress) (id : Nat) : ConnectionProvider κ :=
  (p.remove r).modifyPool id ConnectionPool.disposeAll

def closeAll (p : ConnectionProvider κ) : List RemoteAddress → ConnectionProvider κ
  | [] => p
  | r :: rest => ((p.poolId? r).elim p (p.close r)).closeAll rest

def raised (p : ConnectionProvider κ) : ConnectionProvider κ := { p with isDisposed := true }

theorem closeAll_induction {P : ConnectionProvider κ → Prop}
    (hclose : ∀ p r id, P p → p.poolId? r = some id → P (p.close r id)) (hp : P p)
    (rs : List RemoteAddress) : P (p.closeAll rs) := by
  induction rs generalizing p with
  | nil => exact hp
  | cons r rs ih =>
    rw [closeAll]
    cases hr : p.poolId? r with
    | none => exact ih hp
    | some id => exact ih (hclose p r id hp hr)

theorem runToEnd_removing (hi : p.tasks.length = i) (rs : List RemoteAddress)
    (hlimit : 2 * rs.length < limit) :
    runToEnd limit i fresh (p.begun (.removing rs)) = (p.closeAll rs).begun .closed := by
  -- a remote that is listed takes two steps, removal and closing, or one if it is gone
  induction rs generalizing p limit with
  | nil =>
    obtain ⟨limit, rfl⟩ := Nat.exists_eq_succ_of_ne_zero (Nat.ne_of_gt hlimit)
    have hend : (p.begun (.removing [])).runTask i fresh (.removing []) = some (p.begun .closed) :=
      congrArg some (goto_begun hi _ _)
    rw [runToEnd_begun hi limit hend]
    exact runToEnd_begun_of_none hi limit rfl
  | cons r rs ih =>
    rw [List.length_cons] at hlimit
    obtain ⟨limit, rfl⟩ : ∃ n, limit = n + 2 := ⟨limit - 2, by omega⟩
    rw [closeAll]
    cases hr : p.poolId? r with
    | none =>
      have hskip : (p.begun (.removing (r :: rs))).runTask i fresh (.removing (r :: rs)) =
          some (p.begun (.removing rs)) := by
        rw [runTask, poolId?_begun, hr]
        exact congrArg some (goto_begun hi _ _)
      rw [runToEnd_begun hi (limit + 1) hskip]
      exact ih hi (by omega)
    | some id =>
      have hremove : (p.begun (.removing (r :: rs))).runTask i fresh (.removing (r :: rs)) =
          some ((p.remove r).begun (.closing id rs)) := by
        rw [runTask, poolId?_begun, hr]
        exact congrArg some (goto_begun (p := p.remove r) hi _ _)
      have hclose : ((p.remove r).begun (.closing id rs)).runTask i fresh (.closing id rs) =
          some ((p.close r id).begun (.removing rs)) :=
        congrArg some (goto_begun (p := p.close r id) hi _ _)
      rw [runToEnd_begun hi (limit + 1) hremove, runToEnd_begun (p := p.remove r) hi limit hclose]
      exact ih (p := p.close r id) hi (by omega)

/-- The flag goes up, and all pools that are in the map then are closed. -/
theorem dispose_eq (p : ConnectionProvider κ) :
    p.dispose = (p.raised.closeAll (p.map.map Prod.fst)).begun .closed := by
  have hstart : (p.step .dispose).getD p = p.begun .raising := rfl
  have hraise : (p.begun .raising).runTask p.tasks.length 0 .raising = some (p.raised.begun .listing) :=
    congrArg some (goto_begun (p := p.raised) rfl _ _)
  have hlist : (p.raised.begun .listing).runTask p.tasks.length 0 .listing =
      some (p.raised.begun (.removing (p.map.map Prod.fst))) :=
    congrArg some (goto_begun (p := p.raised) rfl _ _)
  have hraised : p.raised.tasks.length = p.tasks.length := rfl
  rw [dispose, hstart, runToEnd_begun rfl _ hraise, runToEnd_begun hraised _ hlist]
  refine runToEnd_removing hraised _ ?_
  rw [List.length_map]
  exact Nat.lt_succ_self _

def entries (p : ConnectionProvider κ) : List (RemoteAddress × Nat) := p.pools.map ConnectionPool.entry

/-- What holds of a provider between two calls. -/
structure Kept (p : ConnectionProvider κ) : Prop where
  remotes : (p.entries.map Prod.fst).Nodup
  ids : (p.entries.map Prod.snd).Nodup
  lives : ∀ c ∈ p.pools, c.Lives p.limits
  mapped : p.isDisposed = false → p.map = p.entries
  emptied : p.isDisposed = true → p.map = []
  closed : p.isDisposed = true → ∀ c ∈ p.pools, c.isDisposed = true
  calls : p.meterCalls = calls p.name p.isMetered p.entries

theorem kept_build (b : ConnectionProviderBuilder) : (b.build : ConnectionProvider κ).Kept where
  remotes := List.nodup_nil
  ids := List.nodup_nil
  lives := List.forall_mem_nil _
  mapped := fun _ => rfl
  emptied := nofun
  closed := nofun
  calls := (ite_self _).symm

theorem entries_added (p : ConnectionProvider κ) (r : RemoteAddress) (id : Nat) :
    (p.added r id).entries = p.entries ++ [(r, id)] := List.map_append

theorem poolId?_eq_none_iff : p.poolId? r = none ↔ r ∉ p.map.map Prod.fst := by
  rw [poolId?, Option.map_eq_none_iff, List.find?_eq_none]
  simp only [decide_eq_true_eq, List.mem_map, not_exists, not_and]

theorem mem_map_of_poolId? (h : p.poolId? r = some id) : (r, id) ∈ p.map := by
  obtain ⟨⟨r', id'⟩, hfind, rfl⟩ := Option.map_eq_some_iff.1 h
  have hkey := List.find?_some hfind
  obtain rfl : r' = r := of_decide_eq_true hkey
  exact List.mem_of_find?_eq_some hfind

theorem mem_of_pool? {c : ConnectionPool κ} (h : p.pool? id = some c) : c ∈ p.pools ∧ c.id = id := by
  have hid := List.find?_some h
  exact ⟨List.mem_of_find?_eq_some h, beq_iff_eq.1 hid⟩

theorem entries_modifyPool {f : ConnectionPool κ → ConnectionPool κ}
    (h : ∀ c ∈ p.pools, c.id = id → (f c).entry = c.entry) : (p.modifyPool id f).entries = p.entries := by
  rw [entries, entries, modifyPool, List.map_map]
  refine List.map_congr_left fun c hc => ?_
  show (if c.id == id then f c else c).entry = c.entry
  split
  · exact h c hc (beq_iff_eq.1 ‹_›)
  · rfl

theorem forall_mem_modifyPool {f : ConnectionPool κ → ConnectionPool κ} {P : ConnectionPool κ → Prop}
    (h : ∀ c ∈ p.pools, c.id ≠ id → P c) (hf : ∀ c ∈ p.pools, c.id = id → P (f c)) :
    ∀ c ∈ (p.modifyPool id f).pools, P c := by
  intro d hd
  obtain ⟨c, hc, rfl⟩ := List.mem_map.1 hd
  by_cases hid : c.id = id
  · rw [if_pos (beq_iff_eq.2 hid)]
    exact hf c hc hid
  · rw [if_neg fun h => hid (beq_iff_eq.1 h)]
    exact h c hc hid

/-- The same settings, the same pools and the same calls; what goes on in the pools may differ. -/
structure SamePools (p q : ConnectionProvider κ) : Prop where
  name : q.name = p.name
  limits : q.limits = p.limits
  isMetered : q.isMetered = p.isMetered
  entries : q.entries = p.entries
  meterCalls : q.meterCalls = p.meterCalls

theorem samePools_begun (p : ConnectionProvider κ) (ph : ProviderPhase) : SamePools p (p.begun ph) :=
  ⟨rfl, rfl, rfl, rfl, rfl⟩

/-- The same settings, and new pools behind the old ones, with the calls for them. -/
structure Adds (p : ConnectionProvider κ) (es : List (RemoteAddress × Nat)) (q : ConnectionProvider κ) :
    Prop where
  name : q.name = p.name
  limits : q.limits = p.limits
  isMetered : q.isMetered = p.isMetered
  entries : q.entries = p.entries ++ es
  meterCalls : q.meterCalls = p.meterCalls ++ calls p.name p.isMetered es

theorem SamePools.adds (h : SamePools p q) : Adds p [] q :=
  ⟨h.name, h.limits, h.isMetered, h.entries.trans (List.append_nil _).symm, by
    rw [h.meterCalls, calls_nil, List.append_nil]⟩

theorem Adds.trans {es es' : List (RemoteAddress × Nat)} {p' : ConnectionProvider κ} (h : Adds p es q)
    (h' : Adds q es' p') : Adds p (es ++ es') p' where
  name := h'.name.trans h.name
  limits := h'.limits.trans h.limits
  isMetered := h'.isMetered.trans h.isMetered
  entries := by rw [h'.entries, h.entries, List.append_assoc]
  meterCalls := by rw [h'.meterCalls, h.meterCalls, h.name, h.isMetered, calls_append, List.append_assoc]

theorem adds_added (p : ConnectionProvider κ) (r : RemoteAddress) (id : Nat) (ph : ProviderPhase) :
    Adds p [(r, id)] ((p.added r id).begun ph) :=
  ⟨rfl, rfl, rfl, p.entries_added r id, rfl⟩

theorem SamePools.close (h : SamePools p q) (r : RemoteAddress) (id : Nat) :
    SamePools p (q.close r id) := by
  have hentries : (q.close r id).entries = q.entries :=
    entries_modifyPool (p := q.remove r) fun c _ _ => c.entry_disposeAll
  exact ⟨h.name, h.limits, h.isMetered, hentries.trans h.entries, h.meterCalls⟩

namespace Kept

theorem begun (h : p.Kept) (ph : ProviderPhase) : (p.begun ph).Kept where
  remotes := h.remotes
  ids := h.ids
  lives := h.lives
  mapped := h.mapped
  emptied := h.emptied
  closed := h.closed
  calls := h.calls

theorem eq_of_id (h : p.Kept) {c d : ConnectionPool κ} (hc : c ∈ p.pools) (hd : d ∈ p.pools)
    (hid : c.id = d.id) : c = d := by
  have hids := h.ids
  rw [entries, List.map_map] at hids
  exact List.inj_on_of_nodup_map hids hc hd hid

theorem pool?_of_mem (h : p.Kept) {c : ConnectionPool κ} (hc : c ∈ p.pools) : p.pool? c.id = some c := by
  have hids := h.ids
  rw [entries, List.map_map] at hids
  exact ConnectionPool.find?_of_nodup hids hc

theorem poll (h : p.Kept) {c d : ConnectionPool κ} {e : PoolEvent κ} (hc : p.pool? id = some c)
    (hd : c.poll e = some d) :
    (p.modifyPool id fun _ => d).Kept ∧ SamePools p (p.modifyPool id fun _ => d) := by
  obtain ⟨hmem, hid⟩ := mem_of_pool? hc
  have hsame : ∀ x ∈ p.pools, x.id = id → x = c := fun x hx hxid =>
    h.eq_of_id hx hmem (hxid.trans hid.symm)
  have hentries : (p.modifyPool id fun _ => d).entries = p.entries :=
    entries_modifyPool fun x hx hxid => by
      rw [hsame x hx hxid]
      exact (ConnectionPool.entry_of_poll hd).1
  refine ⟨?_, rfl, rfl, rfl, hentries, rfl⟩
  exact {
    remotes := hentries ▸ h.remotes
    ids := hentries ▸ h.ids
    lives := forall_mem_modifyPool (fun x hx _ => h.lives x hx) fun _ _ _ => (h.lives c hmem).poll hd
    mapped := fun hlive => (h.mapped hlive).trans hentries.symm
    emptied := h.emptied
    closed := fun hdisposed => forall_mem_modifyPool (fun x hx _ => h.closed hdisposed x hx)
      fun _ _ _ => ConnectionPool.isDisposed_of_poll hd (h.closed hdisposed c hmem)
    calls := hentries ▸ h.calls }

theorem added (h : p.Kept) (hlive : p.isDisposed = false) (hr : p.poolId? r = none)
    (hfresh : fresh ∉ p.entries.map Prod.snd) : (p.added r fresh).Kept := by
  have hentries := p.entries_added r fresh
  rw [poolId?_eq_none_iff, h.mapped hlive] at hr
  exact {
    remotes := by
      rw [hentries, List.map_append]
      exact List.concat_eq_append ▸ h.remotes.concat hr
    ids := by
      rw [hentries, List.map_append]
      exact List.concat_eq_append ▸ h.ids.concat hfresh
    lives := List.forall_mem_append.2 ⟨h.lives, List.forall_mem_singleton.2 ⟨fresh, r, .start⟩⟩
    mapped := fun _ => hentries ▸ congrArg (· ++ [(r, fresh)]) (h.mapped hlive)
    emptied := fun hdisposed => nomatch hlive.symm.trans hdisposed
    closed := fun hdisposed => nomatch hlive.symm.trans hdisposed
    calls := by
      rw [hentries, calls_append]
      exact congrArg (· ++ _) h.calls }

end Kept

theorem Kept.registrations_eq (h : p.Kept) :
    p.registrations = if p.isMetered then p.entries.map (registrationOf p.name) else [] := by
  rw [registrations, h.calls, registrations_calls]

theorem Kept.mem_map_iff (h : p.Kept) (hlive : p.isDisposed = false) :
    r ∈ p.entries.map Prod.fst ↔ ∃ id, p.poolId? r = some id := by
  rw [← h.mapped hlive, ← Option.ne_none_iff_exists', Ne, poolId?_eq_none_iff, not_not]

/-- A live provider finds the pool of a remote, or makes the only one. -/
theorem Kept.poolFor_of_live (h : p.Kept) (hlive : p.isDisposed = false)
    (hfresh : fresh ∉ p.entries.map Prod.snd) (r : RemoteAddress) :
    ∃ id q, p.poolFor r fresh = (some id, q) ∧ q.Kept ∧ q.isDisposed = false ∧ (r, id) ∈ q.entries ∧
      Adds p (if r ∈ p.entries.map Prod.fst then [] else [(r, fresh)]) q := by
  by_cases hr : r ∈ p.entries.map Prod.fst
  · obtain ⟨id, hid⟩ := (h.mem_map_iff hlive).1 hr
    rw [if_pos hr]
    refine ⟨id, _, poolFor_of_known hlive hid, h.begun _, hlive, ?_, (samePools_begun p _).adds⟩
    exact h.mapped hlive ▸ mem_map_of_poolId? hid
  · have hnone : p.poolId? r = none := by
      rwa [poolId?_eq_none_iff, h.mapped hlive]
    rw [if_neg hr]
    refine ⟨fresh, _, poolFor_of_unknown hlive hnone, (h.added hlive hnone hfresh).begun _, hlive, ?_,
      p.adds_added r fresh _⟩
    exact p.entries_added r fresh ▸ List.mem_append_right _ (List.mem_singleton_self _)

theorem Kept.metrics?_eq (h : p.Kept) (hlive : p.isDisposed = false) (r : RemoteAddress) :
    p.metrics? r = (p.pools.find? (·.remote = r)).map ConnectionPool.snapshot := by
  have hid : p.poolId? r = (p.pools.find? (·.remote = r)).map ConnectionPool.id := by
    rw [poolId?, h.mapped hlive, entries, List.find?_map, Option.map_map]
    rfl
  rw [metrics?, hid]
  cases hfind : p.pools.find? (·.remote = r) with
  | none => rfl
  | some c =>
    show (p.pool? c.id).map _ = _
    rw [h.pool?_of_mem (List.mem_of_find?_eq_some hfind)]

theorem Kept.metrics?_of_disposed (h : p.Kept) (hp : p.isDisposed = true) (r : RemoteAddress) :
    p.metrics? r = none := by
  rw [metrics?, poolId?, h.emptied hp]
  rfl

/-- Every pool is in the map under its remote, or disposed of. -/
structure Covered (p : ConnectionProvider κ) : Prop where
  keys : (p.map.map Prod.fst).Nodup
  pools : ∀ c ∈ p.pools, c.isDisposed = true ∨ c.entry ∈ p.map

theorem Covered.close (h : p.Covered) (hr : p.poolId? r = some id) : (p.close r id).Covered where
  keys := h.keys.sublist (List.filter_sublist.map _)
  pools := by
    refine forall_mem_modifyPool (p := p.remove r) (fun c hc hid => ?_) fun c _ _ =>
      .inl c.isDisposed_disposeAll
    refine (h.pools c hc).imp_right fun hmem =>
      List.mem_filter.2 ⟨hmem, decide_eq_true fun hkey => hid ?_⟩
    have hpair : c.entry = (r, id) :=
      List.inj_on_of_nodup_map h.keys hmem (mem_map_of_poolId? hr) hkey
    exact (Prod.mk.inj hpair).2

theorem mem_map_closeAll {rs : List RemoteAddress} {e : RemoteAddress × Nat}
    (h : e ∈ (p.closeAll rs).map) : e ∈ p.map ∧ e.1 ∉ rs := by
  induction rs generalizing p with
  | nil => exact ⟨h, List.not_mem_nil⟩
  | cons r rs ih =>
    rw [closeAll] at h
    cases hr : p.poolId? r with
    | none =>
      obtain ⟨hmem, hrest⟩ := ih (hr ▸ h)
      refine ⟨hmem, List.not_mem_cons_of_ne_of_not_mem (fun hkey => ?_) hrest⟩
      exact poolId?_eq_none_iff.1 hr (hkey ▸ List.mem_map_of_mem hmem)
    | some id =>
      rw [hr] at h
      obtain ⟨hmem, hrest⟩ := ih h
      obtain ⟨hmem, hkey⟩ := List.mem_filter.1 hmem
      exact ⟨hmem, List.not_mem_cons_of_ne_of_not_mem (of_decide_eq_true hkey) hrest⟩

theorem Kept.covered (h : p.Kept) : p.Covered := by
  cases hp : p.isDisposed with
  | true =>
    refine ⟨?_, fun c hc => .inl (h.closed hp c hc)⟩
    rw [h.emptied hp]
    exact List.nodup_nil
  | false =>
    refine ⟨?_, fun c hc => .inr ?_⟩
    · rw [h.mapped hp]
      exact h.remotes
    · rw [h.mapped hp]
      exact List.mem_map_of_mem hc

/-- A whole disposal empties the map and closes all pools, and forgets none of them. -/
theorem Kept.dispose (h : p.Kept) :
    p.dispose.Kept ∧ SamePools p p.dispose ∧ p.dispose.isDisposed = true := by
  obtain ⟨hsame, hdisposed, hlives, hcovered⟩ := closeAll_induction
    (P := fun q => SamePools p q ∧ q.isDisposed = true ∧ (∀ c ∈ q.pools, c.Lives p.limits) ∧ q.Covered)
    (fun q r id ⟨hsame, hdisposed, hlives, hcovered⟩ hr => by
      refine ⟨hsame.close r id, hdisposed, ?_, hcovered.close hr⟩
      exact forall_mem_modifyPool (p := q.remove r) (fun c hc _ => hlives c hc) fun c hc _ =>
        (hlives c hc).poll c.poll_dispose_eq)
    (p := p.raised) ⟨⟨rfl, rfl, rfl, rfl, rfl⟩, rfl, h.lives, h.covered.keys, h.covered.pools⟩
    (p.map.map Prod.fst)
  have hmap : ∀ e, e ∉ (p.raised.closeAll (p.map.map Prod.fst)).map := fun _ he =>
    (mem_map_closeAll he).2 (List.mem_map_of_mem (mem_map_closeAll he).1)
  rw [dispose_eq]
  refine ⟨Kept.begun ?_ .closed, ?_, hdisposed⟩
  · exact {
      remotes := hsame.entries ▸ h.remotes
      ids := hsame.entries ▸ h.ids
      lives := hsame.limits ▸ hlives
      mapped := fun hlive => nomatch hdisposed.symm.trans hlive
      emptied := fun _ => List.eq_nil_iff_forall_not_mem.2 hmap
      closed := fun _ c hc => (hcovered.pools c hc).resolve_right (hmap _)
      calls := by
        rw [hsame.meterCalls, hsame.name, hsame.isMetered, hsame.entries]
        exact h.calls }
  · exact ⟨hsame.name, hsame.limits, hsame.isMetered, hsame.entries, hsame.meterCalls⟩

end ConnectionProvider
end SecureGateway

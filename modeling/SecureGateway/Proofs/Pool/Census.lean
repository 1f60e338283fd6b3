import SecureGateway.Proofs.Address.Numeral
import SecureGateway.Proofs.Pool.Provision

namespace SecureGateway

/-- What a provider does that others get to know of. -/
inductive ProviderNote where
  | meter (provider : Nat) (call : MeterCall)
  | connecting (provider pool : Nat)
  deriving DecidableEq, Repr

namespace ProviderNote

def registration? : ProviderNote → Option (Registration Nat)
  | meter _ call => call.registration?
  | connecting _ _ => none

def call? (i : Nat) : ProviderNote → Option MeterCall
  | meter j call => if j = i then some call else none
  | connecting _ _ => none

end ProviderNote

/-- Providers that share a registrar and the counter of pool identifiers. Calls on them are whole
steps, and what they set off goes on in the pools event by event. -/
structure Providers (κ : Type) where
  members : List (ConnectionProvider κ)
  registrar : GaugeRegistrar Nat
  -- Counts without end: a counter of 64 bits wraps only after as many pools were opened.
  nextPool : Nat
  log : List ProviderNote

inductive ProvidersCall (κ : Type) where
  | acquire (provider : Nat) (remote : RemoteAddress)
  | metrics (provider : Nat) (remote : RemoteAddress)
  | dispose (provider : Nat)
  | pool (provider pool : Nat) (e : PoolEvent κ)

namespace ProvidersCall

variable {κ : Type}

def asks? (i : Nat) : ProvidersCall κ → Option RemoteAddress
  | acquire j r => if j = i then some r else none
  | _ => none

def disposes (i : Nat) : ProvidersCall κ → Bool
  | dispose j => j == i
  | _ => false

end ProvidersCall

namespace Providers

variable {κ : Type}

def build (bs : List ConnectionProviderBuilder) (nextPool : Nat) : Providers κ :=
  ⟨bs.map ConnectionProviderBuilder.build, .empty, nextPool, []⟩

/-- A provider does something. Registrars are the shared one, and identifiers come from the shared
counter. -/
def replace (s : Providers κ) (i : Nat) (p q : ConnectionProvider κ) : Providers κ :=
  let calls := q.meterCalls.drop p.meterCalls.length
  { members := s.members.set i q
    registrar := (calls.filterMap MeterCall.registration?).foldl (fun g r => g.register r) s.registrar
    nextPool := s.nextPool + (q.pools.length - p.pools.length)
    log := s.log ++ calls.map (.meter i) }

/-- An event of a pool is followed by a connect if its task waits for one then. -/
def connects (i : Nat) (c d : ConnectionPool κ) (e : PoolEvent κ) : List ProviderNote :=
  if d.tasks[c.actor e]?.any fun t => t.phase.isConnecting then [.connecting i c.id] else []

def poll (i id : Nat) (e : PoolEvent κ) (s : Providers κ) : Option (Providers κ) :=
  s.members[i]?.bind fun p => (p.pool? id).bind fun c => (c.poll e).map fun d =>
    let s := s.replace i p (p.modifyPool id fun _ => d)
    { s with log := s.log ++ connects i c d e }

/-- The look-up, and then the acquire in the pool until it waits. Tells whether the look-up was refused,
or which pool it found. -/
def acquire (i : Nat) (r : RemoteAddress) (s : Providers κ) :
    Option (Except PoolError Nat × Providers κ) :=
  s.members[i]?.bind fun p =>
    match p.poolFor r s.nextPool with
    | (none, q) => some (.error .disposed, s.replace i p q)
    | (some id, q) => ((s.replace i p q).poll i id .acquire).map fun s' => (.ok id, s')

def metrics (i : Nat) (r : RemoteAddress) (s : Providers κ) :
    Option (Option PoolSnapshot × Providers κ) :=
  s.members[i]?.map fun p => (p.metrics? r, s)

def dispose (i : Nat) (s : Providers κ) : Option (Providers κ) :=
  s.members[i]?.map fun p => s.replace i p p.dispose

def step (s : Providers κ) : ProvidersCall κ → Option (Providers κ)
  | .acquire i r => (s.acquire i r).map Prod.snd
  | .metrics i r => (s.metrics i r).map Prod.snd
  | .dispose i => s.dispose i
  | .pool i id e => s.poll i id e

def pool? (s : Providers κ) (id : Nat) : Option (ConnectionPool κ) :=
  (s.members.flatMap ConnectionProvider.pools).find? (·.id == id)

def callsOf (s : Providers κ) (i : Nat) : List MeterCall := s.log.filterMap (·.call? i)

/-- The remotes that a provider was asked for before it was disposed of. -/
def asked (i : Nat) (es : List (ProvidersCall κ)) : List RemoteAddress :=
  (es.takeWhile fun e => !e.disposes i).filterMap (·.asks? i)

end Providers

theorem flatMap_set_perm {α β : Type} {f : α → List β} {as : List α} {a a' : α} {bs : List β} {n : Nat}
    (hn : as[n]? = some a) (h : f a' = f a ++ bs) :
    ((as.set n a').flatMap f).Perm (as.flatMap f ++ bs) := by
  induction as generalizing n with
  | nil => cases hn
  | cons x as ih =>
    cases n with
    | zero =>
      obtain rfl := Option.some.inj hn
      rw [List.set_cons_zero, List.flatMap_cons, List.flatMap_cons, h, List.append_assoc,
        List.append_assoc]
      exact List.perm_append_comm.append_left _
    | succ n =>
      rw [List.set_cons_succ, List.flatMap_cons, List.flatMap_cons, List.append_assoc]
      exact (ih hn).append_left _

theorem hexText_injective : Function.Injective Text.hexText := fun m n h => by
  have hdigits := String.ofList_injective h
  rw [← Address.digitsValue_hexDigits m, hdigits, Address.digitsValue_hexDigits]

theorem GaugeRegistrar.pools_registerAll {ν : Type} {g : GaugeRegistrar ν} {rs : List (Registration ν)}
    (h : ((g.pools ++ rs).map Registration.id).Nodup) :
    (rs.foldl (fun g r => g.register r) g).pools = g.pools ++ rs := by
  induction rs generalizing g with
  | nil => exact (List.append_nil _).symm
  | cons r rs ih =>
    have hr : (g.register r).pools = g.pools ++ [r] := by
      rw [register]
      refine congrArg (· ++ [r]) (List.filter_eq_self.2 fun x hx => bne_iff_ne.2 fun hid => ?_)
      rw [List.map_append, List.nodup_append] at h
      exact h.2.2 x.id (List.mem_map_of_mem hx) r.id (List.mem_cons_self ..) hid
    have hassoc : g.pools ++ r :: rs = (g.register r).pools ++ rs := by
      rw [hr, List.append_assoc]
      rfl
    rw [List.foldl_cons, hassoc]
    exact ih (hassoc ▸ h)

theorem flatMap_sublist {α β : Type} {f g : α → List β} {as : List α}
    (h : ∀ a ∈ as, (f a).Sublist (g a)) : (as.flatMap f).Sublist (as.flatMap g) := by
  induction as with
  | nil => exact .slnil
  | cons a as ih =>
    obtain ⟨ha, has⟩ := List.forall_mem_cons.1 h
    exact ha.append (ih has)

namespace ConnectionProvider

variable {κ : Type} {p : ConnectionProvider κ} {ps : List (ConnectionProvider κ)}

def ids (p : ConnectionProvider κ) : List Nat := p.entries.map Prod.snd

theorem nodup_registrations (hps : ∀ p ∈ ps, p.Kept) (hids : (ps.flatMap ids).Nodup) :
    ((ps.flatMap registrations).map Registration.id).Nodup := by
  rw [List.map_flatMap]
  refine (List.map_flatMap ▸ hids.map hexText_injective).sublist (flatMap_sublist fun p hp => ?_)
  rw [(hps p hp).registrations_eq]
  split
  · rw [ids, List.map_map, List.map_map]
    exact List.Sublist.refl _
  · exact List.nil_sublist _

end ConnectionProvider

namespace Providers

/-- Before its `k`-th entry the log has the registration of a pool by a provider. -/
def Announced (log : List ProviderNote) (k i id : Nat) : Prop :=
  ∃ j < k, ∃ g, log[j]? = some (.meter i (.register g)) ∧ g.view = id

theorem Announced.append {log : List ProviderNote} {k i id : Nat} (h : Announced log k i id)
    (notes : List ProviderNote) : Announced (log ++ notes) k i id := by
  obtain ⟨j, hj, g, hg, hview⟩ := h
  have hlt := (List.getElem?_eq_some_iff.1 hg).1
  exact ⟨j, hj, g, (List.getElem?_append_left hlt).trans hg, hview⟩

theorem Announced.of_mem {log : List ProviderNote} {k i : Nat} {g : Registration Nat}
    (h : .meter i (.register g) ∈ log) (hk : log.length ≤ k) : Announced log k i g.view := by
  obtain ⟨j, hj⟩ := List.mem_iff_getElem?.1 h
  exact ⟨j, Nat.lt_of_lt_of_le (List.getElem?_eq_some_iff.1 hj).1 hk, g, hj, rfl⟩

variable {κ : Type} {s s' : Providers κ} {p q : ConnectionProvider κ} {i j id : Nat}
  {es : List (RemoteAddress × Nat)}

/-- What holds of providers between two calls. -/
structure Kept (s : Providers κ) : Prop where
  members : ∀ p ∈ s.members, p.Kept
  ids : (s.members.flatMap ConnectionProvider.ids).Nodup
  below : ∀ id ∈ s.members.flatMap ConnectionProvider.ids, id < s.nextPool
  registered : s.registrar.pools.Perm (s.members.flatMap ConnectionProvider.registrations)
  logged : s.registrar.pools = s.log.filterMap ProviderNote.registration?
  heard : ∀ i p, s.members[i]? = some p → s.callsOf i = p.meterCalls
  announced : ∀ k i id : Nat, s.log[k]? = some (.connecting i id) → ∀ p, s.members[i]? = some p →
    p.isMetered = true → Announced s.log k i id

theorem kept_build (bs : List ConnectionProviderBuilder) (nextPool : Nat) :
    (build bs nextPool : Providers κ).Kept := by
  have hempty {β : Type} {f : ConnectionProvider κ → List β}
      (hf : ∀ b : ConnectionProviderBuilder, f b.build = []) :
      (build bs nextPool : Providers κ).members.flatMap f = [] := by
    rw [build, List.flatMap_map]
    exact List.flatMap_eq_nil_iff.2 fun b _ => hf b
  have hids := hempty (f := ConnectionProvider.ids) fun _ => rfl
  have hregistrations := hempty (f := ConnectionProvider.registrations) fun _ => rfl
  exact {
    members := fun p hp => by
      obtain ⟨b, -, rfl⟩ := List.mem_map.1 hp
      exact ConnectionProvider.kept_build b
    ids := hids ▸ List.nodup_nil
    below := hids ▸ List.forall_mem_nil _
    registered := hregistrations ▸ List.Perm.nil
    logged := rfl
    heard := fun i p hp => by
      obtain ⟨b, -, rfl⟩ := List.mem_map.1 (List.mem_of_getElem? hp)
      rfl
    announced := fun k i id hk => by cases hk }

open ConnectionProvider (calls Adds SamePools)

theorem replace_eq (s : Providers κ) (i : Nat) (h : Adds p es q) :
    s.replace i p q =
      { members := s.members.set i q
        registrar := ((calls p.name p.isMetered es).filterMap MeterCall.registration?).foldl
          (fun g r => g.register r) s.registrar
        nextPool := s.nextPool + es.length
        log := s.log ++ (calls p.name p.isMetered es).map (.meter i) } := by
  have hlength : q.pools.length = p.pools.length + es.length := by
    have hentries := congrArg List.length h.entries
    rwa [List.length_append, ConnectionProvider.entries, ConnectionProvider.entries, List.length_map,
      List.length_map] at hentries
  rw [replace, h.meterCalls, List.drop_left, hlength, Nat.add_sub_cancel_left]

theorem replace_same (s : Providers κ) (i : Nat) (h : SamePools p q) :
    s.replace i p q = { s with members := s.members.set i q } := by
  rw [replace_eq s i h.adds, ConnectionProvider.calls_nil, List.map_nil, List.append_nil]
  rfl

theorem member_of_set {x : ConnectionProvider κ} (hx : (s.members.set i q)[j]? = some x) :
    i = j ∧ x = q ∨ i ≠ j ∧ s.members[j]? = some x := by
  rw [List.getElem?_set] at hx
  split at hx
  · rw [Option.ite_none_right_eq_some, Option.some.injEq] at hx
    exact .inl ⟨‹_›, hx.2.symm⟩
  · exact .inr ⟨‹_›, hx⟩

theorem filterMap_call?_meter (cs : List MeterCall) :
    (cs.map (ProviderNote.meter i)).filterMap (ProviderNote.call? j) = if i = j then cs else [] := by
  rw [List.filterMap_map]
  split
  · subst i
    exact (List.filterMap_congr fun c _ => if_pos rfl).trans List.filterMap_some
  · exact List.filterMap_eq_nil_iff.2 fun c _ => if_neg ‹_›

theorem filterMap_registration?_meter (cs : List MeterCall) :
    (cs.map (ProviderNote.meter i)).filterMap ProviderNote.registration? =
      cs.filterMap MeterCall.registration? := by
  rw [List.filterMap_map]
  rfl

theorem ids_set_perm (hp : s.members[i]? = some p) (h : Adds p es q)
    (hes : es.map Prod.snd = List.range' s.nextPool es.length) :
    ((s.members.set i q).flatMap ConnectionProvider.ids).Perm
      (s.members.flatMap ConnectionProvider.ids ++ List.range' s.nextPool es.length) := by
  refine flatMap_set_perm hp ?_
  rw [ConnectionProvider.ids, h.entries, List.map_append, hes]
  rfl

theorem Kept.nodup_ids_set (hs : s.Kept) (hp : s.members[i]? = some p) (h : Adds p es q)
    (hes : es.map Prod.snd = List.range' s.nextPool es.length) :
    ((s.members.set i q).flatMap ConnectionProvider.ids).Nodup := by
  refine (ids_set_perm hp h hes).nodup_iff.2
    (List.nodup_append.2 ⟨hs.ids, List.nodup_range', fun a ha b hb => ?_⟩)
  have hlt := hs.below a ha
  have hle := (List.mem_range'_1.1 hb).1
  omega

theorem Kept.heard_set {x : ConnectionProvider κ} (hs : s.Kept) (hp : s.members[i]? = some p)
    (h : Adds p es q) (hx : (s.members.set i q)[j]? = some x) :
    (s.log ++ (calls p.name p.isMetered es).map (ProviderNote.meter i)).filterMap
      (ProviderNote.call? j) = x.meterCalls := by
  rw [List.filterMap_append, filterMap_call?_meter]
  rcases member_of_set hx with ⟨rfl, rfl⟩ | ⟨hij, hx⟩
  · rw [if_pos rfl, h.meterCalls, ← hs.heard i p hp, callsOf]
  · rw [if_neg hij, List.append_nil]
    exact hs.heard j x hx

theorem Kept.announced_set {x : ConnectionProvider κ} {k : Nat} {cs : List MeterCall} (hs : s.Kept)
    (hp : s.members[i]? = some p) (h : Adds p es q)
    (hk : (s.log ++ cs.map (.meter i))[k]? = some (.connecting j id))
    (hx : (s.members.set i q)[j]? = some x) (hmetered : x.isMetered = true) :
    Announced (s.log ++ cs.map (.meter i)) k j id := by
  have hold : s.log[k]? = some (.connecting j id) := by
    rw [List.getElem?_append] at hk
    split at hk
    · exact hk
    · obtain ⟨c, -, hc⟩ := List.mem_map.1 (List.mem_of_getElem? hk)
      cases hc
  have hbefore : ∃ y, s.members[j]? = some y ∧ y.isMetered = true := by
    rcases member_of_set hx with ⟨rfl, rfl⟩ | ⟨-, hx⟩
    · exact ⟨p, hp, h.isMetered.symm.trans hmetered⟩
    · exact ⟨x, hx, hmetered⟩
  obtain ⟨y, hy, hmetered⟩ := hbefore
  exact (hs.announced k j id hold y hy hmetered).append _

theorem Kept.replace (hs : s.Kept) (hp : s.members[i]? = some p) (hq : q.Kept) (h : Adds p es q)
    (hes : es.map Prod.snd = List.range' s.nextPool es.length) : (s.replace i p q).Kept := by
  have hmembers : ∀ x ∈ s.members.set i q, x.Kept := fun x hx =>
    (List.mem_or_eq_of_mem_set hx).elim (hs.members x) fun hxq => hxq ▸ hq
  have hnodup := hs.nodup_ids_set hp h hes
  obtain ⟨new, hnew⟩ : ∃ new, (calls p.name p.isMetered es).filterMap MeterCall.registration? = new :=
    ⟨_, rfl⟩
  have hregistrations : q.registrations = p.registrations ++ new := by
    rw [ConnectionProvider.registrations, h.meterCalls, List.filterMap_append, hnew]
    rfl
  have hregistered : ((s.members.set i q).flatMap ConnectionProvider.registrations).Perm
      (s.registrar.pools ++ new) :=
    (flatMap_set_perm hp hregistrations).trans (hs.registered.symm.append_right _)
  -- the registrar has nothing under the new identifiers, so it keeps all that it has
  have hpools := GaugeRegistrar.pools_registerAll ((hregistered.map _).nodup_iff.1
    (ConnectionProvider.nodup_registrations hmembers hnodup))
  rw [replace_eq s i h, hnew]
  exact {
    members := hmembers
    ids := hnodup
    below := fun id hid => by
      rcases List.mem_append.1 ((ids_set_perm hp h hes).mem_iff.1 hid) with hold | hnew
      · exact Nat.lt_add_right _ (hs.below id hold)
      · exact (List.mem_range'_1.1 hnew).2
    registered := hpools ▸ hregistered.symm
    logged := by
      rw [List.filterMap_append, filterMap_registration?_meter, ← hs.logged, hnew]
      exact hpools
    heard := fun _ _ => hs.heard_set hp h
    announced := fun _ _ _ hk _ => hs.announced_set hp h hk }

theorem mem_log_of_mem_callsOf {c : MeterCall} (h : c ∈ s.callsOf i) : .meter i c ∈ s.log := by
  obtain ⟨note, hnote, hcall⟩ := List.mem_filterMap.1 h
  cases note with
  | connecting => cases hcall
  | meter j c' =>
    obtain ⟨rfl, hc⟩ := Option.ite_none_right_eq_some.1 hcall
    exact Option.some.inj hc ▸ hnote

theorem Kept.note_connecting (hs : s.Kept) (hp : s.members[i]? = some p) (hid : id ∈ p.ids) :
    Kept { s with log := s.log ++ [.connecting i id] } where
  members := hs.members
  ids := hs.ids
  below := hs.below
  registered := hs.registered
  logged := by
    rw [List.filterMap_append]
    exact hs.logged.trans (List.append_nil _).symm
  heard := fun j x hx => by
    rw [callsOf, List.filterMap_append]
    exact (List.append_nil _).trans (hs.heard j x hx)
  announced := fun k j id' hk x hx hmetered => by
    rw [List.getElem?_append] at hk
    split at hk
    · exact (hs.announced k j id' hk x hx hmetered).append _
    · obtain ⟨rfl, rfl⟩ : j = i ∧ id' = id := by
        have hnote := List.mem_singleton.1 (List.mem_of_getElem? hk)
        cases hnote
        exact ⟨rfl, rfl⟩
      obtain rfl := Option.some.inj (hp.symm.trans hx)
      obtain ⟨e, he, rfl⟩ := List.mem_map.1 hid
      have hcall : MeterCall.register (ConnectionProvider.registrationOf p.name e) ∈ s.callsOf j := by
        rw [hs.heard j p hp, (hs.members p (List.mem_of_getElem? hp)).calls, hmetered]
        exact List.mem_flatMap.2 ⟨e, he, List.mem_cons_of_mem _ (List.mem_cons_self ..)⟩
      exact (Announced.of_mem (mem_log_of_mem_callsOf hcall) (Nat.le_of_not_lt ‹_›)).append _

/-- What a call does to the books of provider `i`: it makes a pool only for a remote that the provider is
asked for and has no pool for, and only before the provider is disposed of. -/
structure Books (e : ProvidersCall κ) (i : Nat) (p q : ConnectionProvider κ) : Prop where
  adds : ∃ es, Adds p es q ∧ es.map Prod.fst =
    if p.isDisposed then [] else (e.asks? i).toList.filter (· ∉ p.entries.map Prod.fst)
  disposed : q.isDisposed = (p.isDisposed || e.disposes i)

theorem Books.of_same {e : ProvidersCall κ} (h : SamePools p q) (hasks : e.asks? i = none)
    (hdisposed : q.isDisposed = (p.isDisposed || e.disposes i)) : Books e i p q where
  adds := ⟨[], h.adds, by rw [hasks]; exact (ite_self _).symm⟩
  disposed := hdisposed

theorem poll_eq {c d : ConnectionPool κ} {e : PoolEvent κ} (hs : s.Kept) (hp : s.members[i]? = some p)
    (hc : p.pool? id = some c) (hd : c.poll e = some d) :
    s.poll i id e = some
      { s with
        members := s.members.set i (p.modifyPool id fun _ => d)
        log := s.log ++ connects i c d e } := by
  have hsame := ((hs.members p (List.mem_of_getElem? hp)).poll hc hd).2
  rw [poll, hp, Option.bind_some, hc, Option.bind_some, hd, Option.map_some, replace_same s i hsame]

theorem Kept.replace_same (hs : s.Kept) (hp : s.members[i]? = some p) (hq : q.Kept) (h : SamePools p q) :
    Kept { s with members := s.members.set i q } :=
  Providers.replace_same s i h ▸ hs.replace hp hq h.adds rfl

theorem Kept.poll {e : PoolEvent κ} (hs : s.Kept) (h : s.poll i id e = some s') :
    s'.Kept ∧ ∃ p q, s.members[i]? = some p ∧ s'.members = s.members.set i q ∧ SamePools p q ∧
      q.isDisposed = p.isDisposed := by
  obtain ⟨p, hp, h'⟩ := Option.bind_eq_some_iff.1 h
  obtain ⟨c, hc, h'⟩ := Option.bind_eq_some_iff.1 h'
  obtain ⟨d, hd, -⟩ := Option.map_eq_some_iff.1 h'
  obtain rfl := Option.some.inj ((poll_eq hs hp hc hd).symm.trans h)
  have hpk := hs.members p (List.mem_of_getElem? hp)
  obtain ⟨hkept, hsame⟩ := hpk.poll hc hd
  have hset := hs.replace_same hp hkept hsame
  refine ⟨?_, p, _, hp, rfl, hsame, rfl⟩
  rw [connects]
  split
  · obtain ⟨hmem, hid⟩ := ConnectionProvider.mem_of_pool? hc
    have hids : c.id ∈ (p.modifyPool id fun _ => d).ids := by
      rw [ConnectionProvider.ids, hsame.entries]
      exact List.mem_map.2 ⟨c.entry, List.mem_map_of_mem hmem, rfl⟩
    have hlt := (List.getElem?_eq_some_iff.1 hp).1
    exact hset.note_connecting (List.getElem?_set_self hlt) hids
  · rw [List.append_nil]
    exact hset

theorem acquire_of_disposed (hp : s.members[i]? = some p) (hdisposed : p.isDisposed = true)
    (r : RemoteAddress) : s.acquire i r =
      some (.error .disposed, { s with members := s.members.set i (p.begun .refused) }) := by
  rw [acquire, hp, Option.bind_some, ConnectionProvider.poolFor_of_disposed hdisposed]
  exact congrArg (fun s' => some (_, s')) (replace_same s i (p.samePools_begun .refused))

theorem Kept.acquire_of_live (hs : s.Kept) (hp : s.members[i]? = some p) (hlive : p.isDisposed = false)
    (r : RemoteAddress) :
    ∃ id q s', s.acquire i r = some (.ok id, s') ∧ s'.Kept ∧ s'.members = s.members.set i q ∧
      q.isDisposed = false ∧ (r, id) ∈ q.entries ∧
      Adds p (if r ∈ p.entries.map Prod.fst then [] else [(r, s.nextPool)]) q := by
  have hmem := List.mem_of_getElem? hp
  have hlt := (List.getElem?_eq_some_iff.1 hp).1
  have hfresh : s.nextPool ∉ p.entries.map Prod.snd := fun h =>
    Nat.lt_irrefl _ (hs.below _ (List.mem_flatMap.2 ⟨p, hmem, h⟩))
  obtain ⟨id, q, hlook, hq, hqlive, hentry, hadds⟩ :=
    (hs.members p hmem).poolFor_of_live hlive hfresh r
  have hids (b : Prop) [Decidable b] : (if b then [] else [(r, s.nextPool)]).map Prod.snd =
      List.range' s.nextPool (if b then [] else [(r, s.nextPool)]).length := by
    split <;> rfl
  -- the look-up is over, and the pool is one of the provider's now
  have hs₁ := hs.replace hp hq hadds (hids _)
  have hq₁ : (s.replace i p q).members[i]? = some q := List.getElem?_set_self hlt
  obtain ⟨c, hc, hcid⟩ := List.mem_map.1 hentry
  obtain ⟨-, rfl⟩ := Prod.mk.inj hcid
  obtain ⟨d, hd⟩ : ∃ d, c.poll .acquire = some d := ⟨_, rfl⟩
  have hpoll := poll_eq hs₁ hq₁ (hq.pool?_of_mem hc) hd
  obtain ⟨hs₂, q', p', hq', hmembers, hsame, hdisposed⟩ := hs₁.poll hpoll
  obtain rfl := Option.some.inj (hq₁.symm.trans hq')
  refine ⟨c.id, p', _, ?_, hs₂, ?_, hdisposed.trans hqlive, hsame.entries ▸ hentry, ?_⟩
  · rw [acquire, hp, Option.bind_some, hlook]
    exact Option.map_eq_some_iff.2 ⟨_, hpoll, rfl⟩
  · rw [hmembers]
    exact List.set_set ..
  · exact List.append_nil (if r ∈ p.entries.map Prod.fst then [] else [(r, s.nextPool)]) ▸
      hadds.trans hsame.adds

theorem Kept.acquire {r : RemoteAddress} {result : Except PoolError Nat} (hs : s.Kept)
    (h : s.acquire i r = some (result, s')) :
    s'.Kept ∧ ∃ p q, s.members[i]? = some p ∧ s'.members = s.members.set i q ∧
      Books (.acquire i r) i p q := by
  obtain ⟨p, hp, -⟩ := Option.bind_eq_some_iff.1 h
  cases hp' : p.isDisposed with
  | true =>
    obtain ⟨-, rfl⟩ := Prod.mk.inj (Option.some.inj ((acquire_of_disposed hp hp' r).symm.trans h))
    have hkept := (hs.members p (List.mem_of_getElem? hp)).begun .refused
    have hsame := p.samePools_begun .refused
    refine ⟨hs.replace_same hp hkept hsame, p, _, hp, rfl, ⟨[], hsame.adds, ?_⟩, ?_⟩
    · rw [hp']
      rfl
    · rw [hp']
      exact hp'
  | false =>
    obtain ⟨id, q, s₁, hresult, hs₁, hmembers, hlive, -, hadds⟩ := hs.acquire_of_live hp hp' r
    obtain ⟨-, rfl⟩ := Prod.mk.inj (Option.some.inj (hresult.symm.trans h))
    have hasks : (ProvidersCall.acquire i r : ProvidersCall κ).asks? i = some r := if_pos rfl
    refine ⟨hs₁, p, q, hp, hmembers, ⟨_, hadds, ?_⟩, ?_⟩
    · rw [hp', hasks]
      by_cases hr : r ∈ p.entries.map Prod.fst <;> simp [hr]
    · rw [hp']
      exact hlive

theorem Kept.dispose (hs : s.Kept) (h : s.dispose i = some s') :
    s'.Kept ∧ ∃ p q, s.members[i]? = some p ∧ s'.members = s.members.set i q ∧
      Books (.dispose i) i p q := by
  obtain ⟨p, hp, rfl⟩ := Option.map_eq_some_iff.1 h
  obtain ⟨hkept, hsame, hdisposed⟩ := (hs.members p (List.mem_of_getElem? hp)).dispose
  have hs' := hs.replace_same hp hkept hsame
  rw [Providers.replace_same s i hsame]
  refine ⟨hs', p, _, hp, rfl, .of_same hsame rfl ?_⟩
  rw [hdisposed, ProvidersCall.disposes, beq_self_eq_true, Bool.or_true]

/-- Every call is about one provider, and the others do not notice. -/
theorem Kept.step {e : ProvidersCall κ} (hs : s.Kept) (h : s.step e = some s') :
    s'.Kept ∧ ∃ i p q, s.members[i]? = some p ∧ s'.members = s.members.set i q ∧ Books e i p q ∧
      ∀ j ≠ i, e.asks? j = none ∧ e.disposes j = false := by
  cases e with
  | acquire i r =>
    obtain ⟨⟨result, s₁⟩, hacquire, rfl⟩ := Option.map_eq_some_iff.1 h
    obtain ⟨hs', p, q, hp, hmembers, hbooks⟩ := hs.acquire hacquire
    exact ⟨hs', i, p, q, hp, hmembers, hbooks, fun j hj => ⟨if_neg hj.symm, rfl⟩⟩
  | metrics i r =>
    obtain ⟨⟨_, s₁⟩, hmetrics, rfl⟩ := Option.map_eq_some_iff.1 h
    obtain ⟨p, hp, hpair⟩ := Option.map_eq_some_iff.1 hmetrics
    obtain ⟨-, rfl⟩ := Prod.mk.inj hpair
    have hmembers : s.members = s.members.set i p := by
      obtain ⟨hlt, rfl⟩ := List.getElem?_eq_some_iff.1 hp
      exact (List.set_getElem_self hlt).symm
    have hbooks : Books (.metrics i r) i p p :=
      .of_same ⟨rfl, rfl, rfl, rfl, rfl⟩ rfl (Bool.or_false _).symm
    exact ⟨hs, i, p, p, hp, hmembers, hbooks, fun _ _ => ⟨rfl, rfl⟩⟩
  | dispose i =>
    obtain ⟨hs', p, q, hp, hmembers, hbooks⟩ := hs.dispose h
    exact ⟨hs', i, p, q, hp, hmembers, hbooks, fun j hj => ⟨rfl, beq_eq_false_iff_ne.2 hj.symm⟩⟩
  | pool i id e =>
    obtain ⟨hs', p, q, hp, hmembers, hsame, hdisposed⟩ := hs.poll h
    have hbooks : Books (.pool i id e) i p q :=
      .of_same hsame rfl (hdisposed.trans (Bool.or_false _).symm)
    exact ⟨hs', i, p, q, hp, hmembers, hbooks, fun _ _ => ⟨rfl, rfl⟩⟩

def run (s : Providers κ) (es : List (ProvidersCall κ)) : Option (Providers κ) := es.foldlM step s

structure Account (b : ConnectionProviderBuilder) (i : Nat) (es : List (ProvidersCall κ))
    (p : ConnectionProvider κ) : Prop where
  name : p.name = b.name
  limits : p.limits = b.limits
  isMetered : p.isMetered = b.isMetered
  disposed : p.isDisposed = es.any (·.disposes i)
  remotes : p.entries.map Prod.fst = (asked i es).eraseDups

theorem asks?_of_disposes {e : ProvidersCall κ} (h : e.disposes i = true) : e.asks? i = none := by
  cases e with
  | dispose => rfl
  | _ => cases h

theorem asked_concat (i : Nat) (es : List (ProvidersCall κ)) (e : ProvidersCall κ) :
    asked i (es ++ [e]) = asked i es ++ if es.any (·.disposes i) then [] else (e.asks? i).toList := by
  induction es with
  | nil =>
    show asked i [e] = (e.asks? i).toList
    rw [asked, List.takeWhile_cons]
    cases he : e.disposes i with
    | true => exact (congrArg Option.toList (asks?_of_disposes he)).symm
    | false => cases hasks : e.asks? i <;> simp [hasks]
  | cons x es ih =>
    unfold asked at ih ⊢
    rw [List.cons_append, List.takeWhile_cons, List.takeWhile_cons, List.any_cons]
    cases x.disposes i with
    | true => rfl
    | false =>
      simp only [Bool.not_false, if_true, List.filterMap_cons, ih, Bool.false_or]
      split <;> rfl

theorem Account.concat {b : ConnectionProviderBuilder} {es : List (ProvidersCall κ)}
    {e : ProvidersCall κ} (h : Account b i es p) (hbooks : Books e i p q) :
    Account b i (es ++ [e]) q := by
  obtain ⟨new, hadds, hnew⟩ := hbooks.adds
  refine ⟨hadds.name.trans h.name, hadds.limits.trans h.limits, hadds.isMetered.trans h.isMetered, ?_, ?_⟩
  · rw [hbooks.disposed, h.disposed, List.any_append, List.any_cons, List.any_nil, Bool.or_false]
  · rw [hadds.entries, List.map_append, hnew, h.remotes, asked_concat, List.eraseDups_append, h.disposed]
    refine congrArg ((asked i es).eraseDups ++ ·) ?_
    split
    · rfl
    · cases e.asks? i with
      | none => rfl
      | some r => by_cases hr : r ∈ asked i es <;> simp [hr, List.removeAll, List.eraseDups_cons]

structure Recorded (bs : List ConnectionProviderBuilder) (es : List (ProvidersCall κ))
    (s : Providers κ) : Prop where
  kept : s.Kept
  length : s.members.length = bs.length
  accounts : ∀ i b p, bs[i]? = some b → s.members[i]? = some p → Account b i es p

theorem recorded_build (bs : List ConnectionProviderBuilder) (nextPool : Nat) :
    Recorded bs [] (build bs nextPool : Providers κ) where
  kept := kept_build bs nextPool
  length := List.length_map _
  accounts := fun i b p hb hp => by
    have hbuilt := List.getElem?_map ▸ hp
    rw [hb] at hbuilt
    obtain rfl := Option.some.inj hbuilt
    exact ⟨rfl, rfl, rfl, rfl, rfl⟩

/-- All pools are still those of the remotes that they were made for. -/
def Outlasts (s s' : Providers κ) : Prop :=
  ∀ (i : Nat) (p : ConnectionProvider κ), s.members[i]? = some p →
    ∃ p', s'.members[i]? = some p' ∧ p.entries <+: p'.entries

theorem Kept.outlasts_of_step {e : ProvidersCall κ} (hs : s.Kept) (h : s.step e = some s') :
    Outlasts s s' := by
  obtain ⟨-, i, p, q, hp, hmembers, ⟨⟨new, hadds, -⟩, -⟩, -⟩ := hs.step h
  intro j x hx
  rw [hmembers]
  by_cases hij : i = j
  · subst hij
    obtain rfl := Option.some.inj (hp.symm.trans hx)
    refine ⟨q, List.getElem?_set_self (List.getElem?_eq_some_iff.1 hp).1, ?_⟩
    exact hadds.entries ▸ List.prefix_append _ _
  · exact ⟨x, (List.getElem?_set_ne hij).trans hx, List.prefix_refl _⟩

theorem Kept.run {es : List (ProvidersCall κ)} (hs : s.Kept) (h : s.run es = some s') :
    s'.Kept ∧ Outlasts s s' := by
  induction es generalizing s with
  | nil =>
    obtain rfl := Option.some.inj h
    exact ⟨hs, fun i p hp => ⟨p, hp, List.prefix_refl _⟩⟩
  | cons e es ih =>
    obtain ⟨s₁, hstep, hrest⟩ := Option.bind_eq_some_iff.1 h
    obtain ⟨hs', hrest⟩ := ih (hs.step hstep).1 hrest
    refine ⟨hs', fun i p hp => ?_⟩
    obtain ⟨q, hq, hprefix⟩ := hs.outlasts_of_step hstep i p hp
    obtain ⟨q', hq', hprefix'⟩ := hrest i q hq
    exact ⟨q', hq', hprefix.trans hprefix'⟩

theorem Recorded.step {bs : List ConnectionProviderBuilder} {es : List (ProvidersCall κ)}
    {e : ProvidersCall κ} (hs : Recorded bs es s) (h : s.step e = some s') :
    Recorded bs (es ++ [e]) s' := by
  obtain ⟨hs', i, p, q, hp, hmembers, hbooks, hothers⟩ := hs.kept.step h
  refine ⟨hs', ?_, fun j b x hb hx => ?_⟩
  · rw [hmembers, List.length_set, hs.length]
  · rw [hmembers] at hx
    rcases member_of_set hx with ⟨rfl, rfl⟩ | ⟨hij, hx⟩
    · exact (hs.accounts i b p hb hp).concat hbooks
    · obtain ⟨hasks, hdisposes⟩ := hothers j (Ne.symm hij)
      refine (hs.accounts j b x hb hx).concat (.of_same ⟨rfl, rfl, rfl, rfl, rfl⟩ hasks ?_)
      rw [hdisposes, Bool.or_false]

theorem Recorded.run {bs : List ConnectionProviderBuilder} {es es' : List (ProvidersCall κ)}
    (hs : Recorded bs es s) (h : s.run es' = some s') : Recorded bs (es ++ es') s' := by
  induction es' generalizing s es with
  | nil =>
    obtain rfl := Option.some.inj h
    exact (List.append_nil es).symm ▸ hs
  | cons e es' ih =>
    obtain ⟨s₁, hstep, hrest⟩ := Option.bind_eq_some_iff.1 h
    have hall := ih (hs.step hstep) hrest
    rwa [List.append_assoc] at hall

/-- What provider `i`, which was built with the settings `b`, has after the calls `es`, and what it
answers. -/
structure Serves (b : ConnectionProviderBuilder) (i : Nat) (es : List (ProvidersCall κ))
    (s : Providers κ) (p : ConnectionProvider κ) : Prop where
  name : p.name = b.name
  isMetered : p.isMetered = b.isMetered
  limits : ∀ c ∈ p.pools, c.limits = b.limits
  /-- One pool for each remote, in the order in which they were first asked for. -/
  remotes : p.pools.map ConnectionPool.remote = (asked i es).eraseDups
  disposed : p.isDisposed = es.any (·.disposes i)
  /-- Before the disposal all of them are in the map, afterwards none. -/
  mapped : p.isDisposed = false → p.map = p.entries
  /-- No pool gives way to another, whatever follows. -/
  lasting : ∀ es' s', s.run es' = some s' →
    ∃ p', s'.members[i]? = some p' ∧ p.entries <+: p'.entries
  /-- For every pool the supplier is called once and the pool registered once, or nothing is. -/
  calls : s.callsOf i = calls b.name b.isMetered p.entries
  found : p.isDisposed = false → ∀ r, ∃ id s' p', s.acquire i r = some (.ok id, s') ∧
    s'.members[i]? = some p' ∧ (r, id) ∈ p'.map
  shown : p.isDisposed = false → ∀ r,
    s.metrics i r = some ((p.pools.find? (·.remote = r)).map ConnectionPool.snapshot, s)
  emptied : p.isDisposed = true → p.map = [] ∧ ∀ c ∈ p.pools, c.isDisposed = true
  closes : (s.dispose i).isSome = true
  /-- A refusal is all that comes of an acquire: nothing is made, registered or opened. -/
  refused : p.isDisposed = true → ∀ r, s.acquire i r =
    some (.error .disposed, { s with members := s.members.set i (p.begun .refused) })
  hidden : p.isDisposed = true → ∀ r, s.metrics i r = some (none, s)

/-- What providers that share a registrar have after the calls `es`. -/
structure Census (bs : List ConnectionProviderBuilder) (es : List (ProvidersCall κ))
    (s : Providers κ) : Prop where
  serves : ∀ i b, bs[i]? = some b → ∃ p, s.members[i]? = some p ∧ Serves b i es s p
  ids : ((s.members.flatMap ConnectionProvider.pools).map ConnectionPool.idText).Nodup
  /-- The registrar has the pools of the metered providers, and nothing else. -/
  registered : s.registrar.pools.Perm (s.members.flatMap fun p =>
    if p.isMetered then p.pools.map fun c => ⟨c.idText, p.name, c.remote, c.id⟩ else [])
  logged : s.registrar.pools = s.log.filterMap ProviderNote.registration?
  size : s.registrar.size = (s.members.map fun p => if p.isMetered then p.pools.length else 0).sum
  /-- The view of a registration is one of the very pool. -/
  views : ∀ p ∈ s.members, ∀ c ∈ p.pools, s.pool? c.id = some c
  /-- A pool is registered before it opens a connection. -/
  announced : ∀ k i id : Nat, s.log[k]? = some (.connecting i id) → ∀ p, s.members[i]? = some p →
    p.isMetered = true → Announced s.log k i id

theorem Recorded.serves {bs : List ConnectionProviderBuilder} {es : List (ProvidersCall κ)}
    {b : ConnectionProviderBuilder} (hs : Recorded bs es s) (hb : bs[i]? = some b)
    (hp : s.members[i]? = some p) : Serves b i es s p := by
  have hpk := hs.kept.members p (List.mem_of_getElem? hp)
  have hlt := (List.getElem?_eq_some_iff.1 hp).1
  have haccount := hs.accounts i b p hb hp
  exact {
    name := haccount.name
    isMetered := haccount.isMetered
    limits := fun c hc => (hpk.lives c hc).limits_eq.trans haccount.limits
    remotes := by
      rw [← haccount.remotes, ConnectionProvider.entries, List.map_map]
      rfl
    disposed := haccount.disposed
    mapped := hpk.mapped
    lasting := fun es' s' h => (hs.kept.run h).2 i p hp
    calls := by
      rw [hs.kept.heard i p hp, hpk.calls, haccount.name, haccount.isMetered]
    found := fun hlive r => by
      obtain ⟨id, q, s', hacquire, hs', hmembers, hqlive, hentry, -⟩ := hs.kept.acquire_of_live hp hlive r
      have hq : s'.members[i]? = some q := hmembers ▸ List.getElem?_set_self hlt
      refine ⟨id, s', q, hacquire, hq, ?_⟩
      rwa [(hs'.members q (List.mem_of_getElem? hq)).mapped hqlive]
    shown := fun hlive r => by
      rw [metrics, hp, Option.map_some, hpk.metrics?_eq hlive]
    emptied := fun hdisposed => ⟨hpk.emptied hdisposed, hpk.closed hdisposed⟩
    closes := by
      rw [dispose, hp]
      rfl
    refused := fun hdisposed => acquire_of_disposed hp hdisposed
    hidden := fun hdisposed r => by
      rw [metrics, hp, Option.map_some, hpk.metrics?_of_disposed hdisposed] }

theorem Kept.nodup_ids (hs : s.Kept) :
    ((s.members.flatMap ConnectionProvider.pools).map ConnectionPool.id).Nodup := by
  have hids : (fun p : ConnectionProvider κ => p.pools.map ConnectionPool.id) =
      ConnectionProvider.ids := by
    funext p
    rw [ConnectionProvider.ids, ConnectionProvider.entries, List.map_map]
    rfl
  rw [List.map_flatMap, hids]
  exact hs.ids

/-- Whatever is called on the providers, in whatever order, each has one pool for each remote that it was
asked for before it was disposed of, and the registrar has each pool of a metered provider once. -/
theorem census_of_run {bs : List ConnectionProviderBuilder} {nextPool : Nat}
    {es : List (ProvidersCall κ)} (h : (build bs nextPool).run es = some s) : Census bs es s := by
  have hs : Recorded bs es s := (recorded_build bs nextPool).run h
  have hregistered : s.registrar.pools.Perm (s.members.flatMap fun p =>
      if p.isMetered then p.pools.map fun c => ⟨c.idText, p.name, c.remote, c.id⟩ else []) := by
    refine hs.kept.registered.trans (.of_eq (List.flatMap_congr fun p hp => ?_))
    rw [(hs.kept.members p hp).registrations_eq, ConnectionProvider.entries, List.map_map]
    rfl
  exact {
    serves := fun i b hb => by
      have hlt : i < s.members.length := hs.length ▸ (List.getElem?_eq_some_iff.1 hb).1
      exact ⟨_, List.getElem?_eq_getElem hlt, hs.serves hb (List.getElem?_eq_getElem hlt)⟩
    ids := by
      have hids := hs.kept.nodup_ids.map hexText_injective
      rwa [List.map_map] at hids
    registered := hregistered
    logged := hs.kept.logged
    size := by
      rw [GaugeRegistrar.size, hregistered.length_eq, List.length_flatMap]
      refine congrArg List.sum (List.map_congr_left fun p _ => ?_)
      split
      · rw [List.length_map]
      · rfl
    views := fun p hp c hc =>
      ConnectionPool.find?_of_nodup hs.kept.nodup_ids (List.mem_flatMap.2 ⟨p, hp, hc⟩)
    announced := hs.kept.announced }

/-- Two providers that are asked for one remote, and only the first is metered. -/
def pairSettings : List ConnectionProviderBuilder :=
  [(ConnectionProviderBuilder.start "edge").metrics true,
    (ConnectionProviderBuilder.start "bare").metrics false]

def pairCalls : List (ProvidersCall Nat) :=
  [.acquire 0 (.opaqueName "north"), .acquire 1 (.opaqueName "north"), .pool 0 1 (.refused 0 .closed),
    .acquire 0 (.opaqueName "south"), .acquire 0 (.opaqueName "north"), .pool 0 1 (.connected 1 7),
    .metrics 0 (.opaqueName "north"), .dispose 0, .pool 0 1 (.letGo 1 (some 7)),
    .acquire 0 (.opaqueName "north")]

theorem census_of_run_of_pair : ∃ s, (build pairSettings 1).run pairCalls = some s ∧
    Census pairSettings pairCalls s ∧ s.registrar.size = 2 := by
  have hrun : ((build pairSettings 1).run pairCalls).map
      (fun s => (s.members.map fun p => if p.isMetered then p.pools.length else 0).sum) = some 2 := by
    decide
  obtain ⟨s, hs, hsize⟩ := Option.map_eq_some_iff.1 hrun
  have hcensus := census_of_run hs
  exact ⟨s, hs, hcensus, hcensus.size.trans hsize⟩

end Providers
end SecureGateway

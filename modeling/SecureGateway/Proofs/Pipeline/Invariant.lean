import Mathlib.Data.List.Find
import SecureGateway.Proofs.Pipeline.Deliveries

namespace SecureGateway

variable {σ ω : Type}

/-- A walk from a target past stages that left: it comes to a stage, or to the end of the chain. -/
inductive Walks (stages : List (Stage σ)) (departed : List Departed) (inbound : Bool) :
    Option Nat → Option Nat → Prop
  | ended : Walks stages departed inbound none none
  | found {id i : Nat} : positionOfId stages id = some i →
    Walks stages departed inbound (some id) (some i)
  | follow {id : Nat} {gone : Departed} {result : Option Nat} : positionOfId stages id = none →
    departed.find? (·.id == id) = some gone →
    Walks stages departed inbound (gone.link inbound) result →
    Walks stages departed inbound (some id) result

def Hop.isInbound : Hop → Bool
  | inbound .. => true
  | outbound .. => false

namespace Dispatch

/-- A dispatch in a chain that began with stages of these identifiers. -/
structure Sound (b : Behaviour σ ω) (now : Instant) (ids : List Nat) (d : Dispatch σ ω) : Prop where
  wellFormed : d.pipeline.WellFormed
  /-- Every hop is on its way to a stage that stands or that is known to have left. -/
  targets : ∀ hop ∈ d.queue, ∀ id, hop.target = some id →
    (∃ st ∈ d.pipeline.stages, st.id = id) ∨ ∃ gone ∈ d.departed, gone.id = id
  /-- Its walk is not given up. -/
  walks : ∀ hop ∈ d.queue, Walks d.pipeline.stages d.departed hop.isInbound hop.target
    (hop.position? d.pipeline.stages d.departed)
  /-- It passes over stages that left only. -/
  lands : ∀ hop ∈ d.queue, hop.position? d.pipeline.stages d.departed =
    (hop.target.bind fun id => ((hop.signal.course ids).dropWhile (· != id)).find?
      (· ∈ d.pipeline.stages.map (·.id))).bind (positionOfId d.pipeline.stages)
  /-- The stage that it comes to is called, and while that lasts no other slot is empty. -/
  calls : ∀ hop rest, d.queue = hop :: rest →
    ∀ i, hop.position? d.pipeline.stages d.departed = some i →
      ∃ stage h, d.pipeline.stages[i]? = some stage ∧ stage.slot = some h ∧
        d.step b now = { d with queue := rest }.call b now i stage h hop.signal ∧
        ∀ j st, (d.pipeline.stages.set i { stage with slot := none })[j]? = some st →
          (st.slot = none ↔ j = i)

theorem advance_succ (b : Behaviour σ ω) (now : Instant) (n : Nat) (d : Dispatch σ ω) :
    d.advance b now (n + 1) = (d.advance b now n).step b now := by
  induction n generalizing d with
  | zero => rfl
  | succ n ih => exact ih (d.step b now)

end Dispatch

section Walking

variable {places row : List (Place σ)} {departed : List Departed} {inbound : Bool}

theorem walks_of_leadsInto (hn : (places.map (·.id)).Nodup) (hmem : ∀ q ∈ row, q ∈ places)
    (hl : Linked row departed inbound) {target : Option Nat} (ht : LeadsInto row target) :
    Walks (places.filterMap Place.stage?) departed inbound target
      ((row.find? Place.stands).bind fun q =>
        positionOfId (places.filterMap Place.stage?) q.id) := by
  induction row generalizing target with
  | nil =>
    obtain rfl : target = none := ht
    exact .ended
  | cons q row ih =>
    have hq := hmem q (by simp)
    have hmem' : ∀ x ∈ row, x ∈ places := fun x hx => hmem x (by simp [hx])
    have hl' : Linked ([q] ++ row) departed inbound := hl
    cases hh : q.handler with
    | some h =>
      have htarget : target = some q.id := ht.resolve_right fun hnone => by
        rw [hh] at hnone
        cases hnone.1
      obtain ⟨before, after, rfl⟩ := List.append_of_mem hq
      rw [htarget, List.find?_cons_of_pos (by simp [Place.stands, hh]), Option.bind_some,
        positionOfId_split hn hh]
      exact .found (positionOfId_split hn hh)
    | none =>
      rw [List.find?_cons_of_neg (by simp [Place.stands, hh])]
      -- the walk is at a stage that left, or was never led to it
      rcases ht with rfl | ⟨-, ht⟩
      · have hpos : positionOfId (places.filterMap Place.stage?) q.id = none := by
          apply positionOfId_eq_none
          intro x hx hid
          rw [eq_of_id_eq hn hx hq hid, hh]
        obtain ⟨gone, hgone, hlink⟩ := hl [] q row rfl hh
        exact .follow hpos hgone (ih hmem' hl'.suffix hlink)
      · exact ih hmem' hl'.suffix ht

theorem walks_from_target (hn : (places.map (·.id)).Nodup) (hperm : row.Perm places)
    (hl : Linked row departed inbound) {target : Option Nat}
    (htarget : ∀ id, target = some id → id ∈ places.map (·.id)) :
    Walks (places.filterMap Place.stage?) departed inbound target
      ((target.bind fun id => (row.dropWhile (·.id != id)).find? Place.stands).bind fun q =>
        positionOfId (places.filterMap Place.stage?) q.id) := by
  cases target with
  | none => exact .ended
  | some id =>
    obtain ⟨q, hq, rfl⟩ := List.mem_map.1 (htarget id rfl)
    obtain ⟨before, after, rfl⟩ := List.append_of_mem (hperm.mem_iff.2 hq)
    rw [Option.bind_some, dropWhile_to ((hperm.map _).nodup_iff.2 hn)]
    exact walks_of_leadsInto hn (fun x hx => hperm.mem_iff.1 (List.mem_append_right _ hx)) hl.suffix
      (.inl rfl)

end Walking

namespace Mirrors

variable {s : Scene σ ω} {d : Dispatch σ ω} {hop : Hop}

theorem walks (m : Mirrors s d) (htarget : ∀ id, hop.target = some id → id ∈ s.places.map (·.id)) :
    Walks d.pipeline.stages d.departed hop.isInbound hop.target
      (hop.position? d.pipeline.stages d.departed) := by
  rw [m.position_eq, m.pipeline]
  cases hop with
  | inbound t sig => exact walks_from_target m.unique (.refl _) m.ahead htarget
  | outbound t op => exact walks_from_target m.unique (List.reverse_perm _) m.back htarget

theorem stands_iff (m : Mirrors s d) {q : Place σ} (hq : q ∈ s.places) :
    q.id ∈ d.pipeline.stages.map (·.id) ↔ q.stands = true := by
  rw [m.pipeline]
  constructor
  · intro hmem
    obtain ⟨st, hst, hid⟩ := List.mem_map.1 hmem
    obtain ⟨x, hx, hstage⟩ := List.mem_filterMap.1 hst
    obtain ⟨h, hh, rfl⟩ := Option.map_eq_some_iff.1 hstage
    rw [← eq_of_id_eq m.unique hx hq hid, Place.stands, hh, Option.isSome_some]
  · intro hstands
    obtain ⟨h, hh⟩ := Option.isSome_iff_exists.1 hstands
    exact List.mem_map.2
      ⟨⟨q.id, q.name, some h⟩, List.mem_filterMap.2 ⟨q, hq, by rw [Place.stage?, hh]; rfl⟩, rfl⟩

theorem target_known (m : Mirrors s d) {id : Nat} (hid : id ∈ s.places.map (·.id)) :
    (∃ st ∈ d.pipeline.stages, st.id = id) ∨ ∃ gone ∈ d.departed, gone.id = id := by
  obtain ⟨q, hq, rfl⟩ := List.mem_map.1 hid
  cases hh : q.handler with
  | some h =>
    have hmem := (m.stands_iff hq).2 (by rw [Place.stands, hh, Option.isSome_some])
    exact .inl (List.mem_map.1 hmem)
  | none =>
    obtain ⟨before, after, hsplit⟩ := List.append_of_mem hq
    obtain ⟨gone, hgone, -⟩ := m.ahead before q after hsplit hh
    exact .inr ⟨gone, List.mem_of_find?_eq_some hgone, by simpa using List.find?_some hgone⟩

theorem lands (m : Mirrors s d) (hop : Hop) :
    hop.position? d.pipeline.stages d.departed =
      (hop.target.bind fun id => ((hop.signal.course (s.places.map (·.id))).dropWhile
        (· != id)).find? (· ∈ d.pipeline.stages.map (·.id))).bind
          (positionOfId d.pipeline.stages) := by
  have hcourse : hop.signal.course (s.places.map (·.id)) =
      (hop.signal.course s.places).map (·.id) := by
    cases hop with
    | inbound t sig => rfl
    | outbound t op => exact List.map_reverse.symm
  have hmem : ∀ q ∈ hop.signal.course s.places, q ∈ s.places := by
    cases hop with
    | inbound t sig => exact fun q hq => hq
    | outbound t op => exact fun q hq => List.mem_reverse.1 hq
  -- a place stands just if its stage is still in the chain
  have hfind : ∀ id, ((hop.signal.course s.places).dropWhile (·.id != id)).find?
      ((· ∈ d.pipeline.stages.map (·.id)) ∘ (·.id)) =
      ((hop.signal.course s.places).dropWhile (·.id != id)).find? Place.stands := by
    refine fun id => List.find?_congr fun q hq => ?_
    rw [Function.comp_apply, Bool.eq_iff_iff, decide_eq_true_iff]
    exact m.stands_iff (hmem q ((List.dropWhile_sublist _).mem hq))
  rw [m.position_eq, Hop.landing, hcourse, Option.bind_assoc, Option.bind_assoc]
  cases hop.target with
  | none => rfl
  | some id =>
    rw [Option.bind_some, Option.bind_some, List.dropWhile_map, List.find?_map, Option.bind_map]
    refine Eq.trans ?_ (congrArg (Option.bind · _) (hfind id).symm)
    rw [m.pipeline]
    rfl

theorem calls (m : Mirrors s d) (hw : d.pipeline.WellFormed) (b : Behaviour σ ω) (now : Instant)
    {rest : List Hop} (hq : d.queue = hop :: rest) {i : Nat}
    (hpos : hop.position? d.pipeline.stages d.departed = some i) :
    ∃ stage h, d.pipeline.stages[i]? = some stage ∧ stage.slot = some h ∧
      d.step b now = { d with queue := rest }.call b now i stage h hop.signal ∧
      ∀ j st, (d.pipeline.stages.set i { stage with slot := none })[j]? = some st →
        (st.slot = none ↔ j = i) := by
  obtain ⟨id, -, hid⟩ := Option.bind_eq_some_iff.1 ((m.lands hop).symm.trans hpos)
  obtain ⟨hi, -⟩ := List.findIdx?_eq_some_iff_getElem.1 hid
  have hstage : d.pipeline.stages[i]? = some d.pipeline.stages[i] := List.getElem?_eq_getElem hi
  obtain ⟨h, hh⟩ := hw.full _ (List.getElem_mem hi)
  refine ⟨_, h, hstage, hh, ?_, fun j st hst => ?_⟩
  · simp only [Dispatch.step, hq, hpos, Dispatch.deliver, hstage, hh]
  · by_cases hji : j = i
    · subst hji
      rw [List.getElem?_set_self hi] at hst
      obtain rfl := Option.some.inj hst
      exact iff_of_true rfl rfl
    · rw [List.getElem?_set_ne (Ne.symm hji)] at hst
      obtain ⟨h', hh'⟩ := hw.full st (List.mem_of_getElem? hst)
      simp [hh', hji]

theorem sound {p : Pipeline σ} (m : Mirrors s d) (hp : p.WellFormed)
    (hplaces : s.places.map (fun q => (q.id, q.name)) = Pipeline.tags p.stages)
    (hid : s.ends.nextId = p.nextId) (ha : s.Aimed d.queue) (b : Behaviour σ ω) (now : Instant) :
    d.Sound b now (p.stages.map (·.id)) := by
  have hw : d.pipeline.WellFormed := m.pipeline ▸ hp.of_places hplaces hid
  have hids : s.places.map (·.id) = p.stages.map (·.id) := by
    have h := congrArg (List.map Prod.fst) hplaces
    rwa [Pipeline.tags, List.map_map, List.map_map] at h
  exact {
    wellFormed := hw
    targets := fun hop hhop id hid => m.target_known (ha hop hhop id hid)
    walks := fun hop hhop => m.walks (ha hop hhop)
    lands := fun hop _ => hids ▸ m.lands hop
    calls := fun hop rest hq i hpos => m.calls hw b now hq hpos }

end Mirrors

theorem Scene.Takes.nextId_eq {react : React σ σ ω} {now : Instant} {s s' : Scene σ ω} {hop : Hop}
    {rest hops : List Hop} {x : Delivery σ ω} (h : Scene.Takes react now s hop rest x s' hops) :
    s'.ends.nextId = s.ends.nextId := by
  cases h with
  | leave hland => exact s.ends.arrive_nextId hop.signal
  | call hland hsplit hq hc => rfl

namespace Pipeline

variable {p : Pipeline σ} {b : Behaviour σ ω} {now : Instant}

/-- Every point of a dispatch has a scene, in which the places of the chain are as they were. -/
theorem WellFormed.advance_mirrors (hp : p.WellFormed) (b : Behaviour σ ω) (now : Instant)
    (sig : Signal) (w : ω) (n : Nat) :
    ∃ s, Mirrors s ((Dispatch.ofHop p w (p.entry sig)).advance b now n) ∧
      s.places.map (fun q => (q.id, q.name)) = tags p.stages ∧ s.ends.nextId = p.nextId ∧
      s.Aimed ((Dispatch.ofHop p w (p.entry sig)).advance b now n).queue := by
  induction n with
  | zero => exact ⟨_, hp.mirrors w _, tags_eq_places p w, rfl, Scene.aimed_entry p w sig⟩
  | succ n ih =>
    rw [Dispatch.advance_succ]
    generalize (Dispatch.ofHop p w (p.entry sig)).advance b now n = d at ih ⊢
    obtain ⟨s, m, hplaces, hid, ha⟩ := ih
    cases hq : d.queue with
    | nil =>
      rw [Dispatch.step_of_empty hq]
      exact ⟨s, m, hplaces, hid, ha⟩
    | cons hop rest =>
      obtain ⟨x, s', -, htakes, m'⟩ := m.takes b now hq
      rw [hq] at ha
      exact ⟨s', m', htakes.places_eq.trans hplaces, htakes.nextId_eq.trans hid, ha.takes htakes⟩

/-- Stages stay apart by identifier and by name and every slot is full between calls; during a
dispatch only the slot of the running handler is empty, and every signal finds its way. -/
theorem representation_invariant (hp : p.Built ω) (b : Behaviour σ ω) (now : Instant) (sig : Signal)
    (w : ω) (n : Nat) :
    p.WellFormed ∧
      ((Dispatch.ofHop p w (p.entry sig)).advance b now n).Sound b now (p.stages.map (·.id)) := by
  obtain ⟨s, m, hplaces, hid, ha⟩ := hp.wellFormed.advance_mirrors b now sig w n
  exact ⟨hp.wellFormed, m.sound hp.wellFormed hplaces hid ha b now⟩

def doublingTrio : Pipeline Bool :=
  ⟨⟨0, none⟩, [⟨0, .codec, some true⟩, ⟨2, .sslReader, some true⟩, ⟨1, .application, some false⟩],
    3, [], [], false, false⟩

theorem doublingTrio_built : doublingTrio.Built Unit := by
  have hadd : doublingPair.add (.after .codec) .sslReader true = .ok doublingTrio := rfl
  exact doublingPair_built.add hadd

/-- After six steps the stage in the middle has left, and a signal is still on its way to it. -/
theorem representation_invariant_of_doubling :
    doublingTrio.Built Unit ∧
      let d := (Dispatch.ofHop doublingTrio () (.inbound (some 0) .registered)).advance doubling 0 6
      d.queue = [.inbound (some 2) .registered] ∧ d.pipeline.names = [.application] ∧
        Walks d.pipeline.stages d.departed true (some 2) (some 0) :=
  ⟨doublingTrio_built, rfl, rfl,
    (representation_invariant doublingTrio_built doubling 0 (.inbound .registered) () 6).2.walks
      (.inbound (some 2) .registered) (List.mem_singleton.2 rfl)⟩

end Pipeline
end SecureGateway

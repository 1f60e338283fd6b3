import Mathlib.Data.List.Forall2
import Mathlib.Data.List.Nodup
import Mathlib.Data.List.TakeWhile
import SecureGateway.Proofs.Pipeline.Recursion

namespace SecureGateway

variable {σ ω : Type} {row before after places : List (Place σ)} {q : Place σ} {h : σ}
  {ids : List Nat} {departed : List Departed} {inbound : Bool}

def Departed.link (inbound : Bool) (gone : Departed) : Option Nat :=
  if inbound then gone.next else gone.prev

/-- The target is in the row, or its end, and behind vacant places only. -/
def LeadsInto : List (Place σ) → Option Nat → Prop
  | [], target => target = none
  | q :: row, target => target = some q.id ∨ q.handler = none ∧ LeadsInto row target

/-- Every vacant place of a row is known, with a pointer into the row behind it. -/
def Linked (row : List (Place σ)) (departed : List Departed) (inbound : Bool) : Prop :=
  ∀ before q after, row = before ++ q :: after → q.handler = none →
    ∃ gone, departed.find? (·.id == q.id) = some gone ∧ LeadsInto after (gone.link inbound)

theorem leadsInto_nearest (row : List (Place σ)) : LeadsInto row (nearest row) := by
  induction row with
  | nil => rfl
  | cons q row ih =>
    cases hq : q.handler with
    | some h => exact .inl (by simp [nearest, Place.stands, hq])
    | none => exact .inr ⟨hq, by simpa [nearest, Place.stands, hq] using ih⟩

def Place.Becomes (x y : Place σ) : Prop := y.id = x.id ∧ (x.handler = none → y.handler = none)

theorem Place.Becomes.refl (x : Place σ) : x.Becomes x := ⟨rfl, fun hx => hx⟩

theorem Place.Becomes.trans {x y z : Place σ} (h₁ : x.Becomes y) (h₂ : y.Becomes z) :
    x.Becomes z :=
  ⟨h₂.1.trans h₁.1, h₂.2 ∘ h₁.2⟩

theorem LeadsInto.becomes {row' : List (Place σ)} {target : Option Nat}
    (hrow : List.Forall₂ Place.Becomes row row') (hl : LeadsInto row target) :
    LeadsInto row' target := by
  induction hrow with
  | nil => exact hl
  | cons hq _ ih =>
    rcases hl with rfl | ⟨hnone, hl⟩
    · exact .inl (congrArg some hq.1.symm)
    · exact .inr ⟨hq.2 hnone, ih hl⟩

theorem positionOfId_eq_none {id : Nat}
    (hid : ∀ q ∈ places, q.id = id → q.handler = none) :
    positionOfId (places.filterMap Place.stage?) id = none := by
  rw [positionOfId, List.findIdx?_eq_none_iff]
  intro st hst
  obtain ⟨q, hq, hstage⟩ := List.mem_filterMap.1 hst
  obtain ⟨h, hh, rfl⟩ := Option.map_eq_some_iff.1 hstage
  by_contra hne
  have hnone := hid q hq (by simpa using hne)
  rw [hnone] at hh
  cases hh

theorem positionOfId_split (hn : ((before ++ q :: after).map (·.id)).Nodup)
    (hq : q.handler = some h) :
    positionOfId ((before ++ q :: after).filterMap Place.stage?) q.id =
      some (before.filterMap Place.stage?).length := by
  have hbefore : positionOfId (before.filterMap Place.stage?) q.id = none := by
    apply positionOfId_eq_none
    intro x hx hid
    rw [List.map_append, List.nodup_append] at hn
    exact absurd hid (hn.2.2 _ (List.mem_map_of_mem hx) _ (by simp))
  rw [positionOfId] at hbefore ⊢
  rw [List.filterMap_append, List.findIdx?_append, hbefore]
  simp [Place.stage?, hq, List.findIdx?_cons]

theorem eq_of_id_eq {x y : Place σ} (hn : (places.map (·.id)).Nodup) (hx : x ∈ places)
    (hy : y ∈ places) (hid : x.id = y.id) : x = y :=
  List.inj_on_of_nodup_map hn hx hy hid

section Steps

variable {stages : List (Stage σ)} {id i : Nat} {gone : Departed}

theorem resolve_none (fuel : Nat) : resolve stages departed inbound fuel none = none := by
  cases fuel <;> rfl

theorem resolve_of_position (hpos : positionOfId stages id = some i) (fuel : Nat) :
    resolve stages departed inbound fuel (some id) = some i := by
  rw [resolve.eq_def]
  simp only [hpos]

theorem resolve_of_departed (hpos : positionOfId stages id = none)
    (hgone : departed.find? (·.id == id) = some gone) (fuel : Nat) :
    resolve stages departed inbound (fuel + 1) (some id) =
      resolve stages departed inbound fuel (gone.link inbound) := by
  rw [resolve.eq_def]
  simp only [hpos, hgone, Departed.link]

theorem resolve_of_unknown (hpos : positionOfId stages id = none)
    (hgone : departed.find? (·.id == id) = none) (fuel : Nat) :
    resolve stages departed inbound fuel (some id) = none := by
  rw [resolve.eq_def]
  simp only [hpos, hgone]

end Steps

theorem Linked.suffix (hl : Linked (before ++ row) departed inbound) :
    Linked row departed inbound := by
  rintro before' q after rfl hq
  exact hl (before ++ before') q after (by simp) hq

/-- The walk from a target that leads into a row ends at the first stage that stands in it. -/
theorem resolve_of_leadsInto (hn : (places.map (·.id)).Nodup) (hmem : ∀ q ∈ row, q ∈ places)
    (hl : Linked row departed inbound) {target : Option Nat} (ht : LeadsInto row target)
    {fuel : Nat} (hfuel : row.countP (fun q => !q.stands) ≤ fuel) :
    resolve (places.filterMap Place.stage?) departed inbound fuel target =
      (row.find? Place.stands).bind fun q =>
        positionOfId (places.filterMap Place.stage?) q.id := by
  -- one unit of fuel for each vacant place that is still ahead
  induction row generalizing target fuel with
  | nil =>
    obtain rfl : target = none := ht
    exact resolve_none fuel
  | cons q row ih =>
    have hq := hmem q (by simp)
    have hmem' : ∀ x ∈ row, x ∈ places := fun x hx => hmem x (by simp [hx])
    have hl' : Linked ([q] ++ row) departed inbound := hl
    cases hh : q.handler with
    | some h =>
      rcases ht with rfl | ⟨hnone, -⟩
      · obtain ⟨before, after, rfl⟩ := List.append_of_mem hq
        have hpos := positionOfId_split hn hh
        rw [resolve_of_position hpos, List.find?_cons_of_pos (by simp [Place.stands, hh]),
          Option.bind_some, hpos]
      · rw [hh] at hnone
        cases hnone
    | none =>
      have hvacant : q.stands = false := by simp [Place.stands, hh]
      rw [List.countP_cons_of_pos (by simp [hvacant])] at hfuel
      rw [List.find?_cons_of_neg (by simp [hvacant])]
      -- the walk has come to this place and leaves it, or is to go past it anyway
      rcases ht with rfl | ⟨-, ht⟩
      · have hpos : positionOfId (places.filterMap Place.stage?) q.id = none := by
          apply positionOfId_eq_none
          intro x hx hid
          rw [eq_of_id_eq hn hx hq hid, hh]
        obtain ⟨gone, hgone, hlink⟩ := hl [] q row rfl hh
        obtain ⟨fuel, rfl⟩ : ∃ f, fuel = f + 1 := ⟨fuel - 1, by omega⟩
        rw [resolve_of_departed hpos hgone]
        exact ih hmem' hl'.suffix hlink (by omega)
      · exact ih hmem' hl'.suffix ht (by omega)

theorem dropWhile_to (hn : ((before ++ q :: after).map (·.id)).Nodup) :
    (before ++ q :: after).dropWhile (·.id != q.id) = q :: after := by
  induction before with
  | nil => simp
  | cons x before ih =>
    rw [List.cons_append, List.map_cons, List.nodup_cons] at hn
    have hne : x.id ≠ q.id := fun hid => hn.1 (by simp [hid])
    rw [List.cons_append, List.dropWhile_cons_of_pos (by simpa using hne)]
    exact ih hn.2

theorem dropWhile_unknown {id : Nat} (hid : ∀ q ∈ row, q.id ≠ id) :
    row.dropWhile (·.id != id) = [] := by
  rw [List.dropWhile_eq_nil_iff]
  intro q hq
  simpa using hid q hq

/-- A walk from any target ends at the first stage that stands there or further on. -/
theorem resolve_eq (hn : (places.map (·.id)).Nodup) (hperm : row.Perm places)
    (hl : Linked row departed inbound)
    (hknown : ∀ gone ∈ departed, ∃ q ∈ places, q.id = gone.id ∧ q.handler = none)
    (hroom : places.countP (fun q => !q.stands) ≤ departed.length) (target : Option Nat) :
    resolve (places.filterMap Place.stage?) departed inbound departed.length target =
      (target.bind fun id => (row.dropWhile (·.id != id)).find? Place.stands).bind fun q =>
        positionOfId (places.filterMap Place.stage?) q.id := by
  cases target with
  | none => exact resolve_none _
  | some id =>
    by_cases hid : ∃ q ∈ row, q.id = id
    · obtain ⟨q, hq, rfl⟩ := hid
      obtain ⟨before, after, rfl⟩ := List.append_of_mem hq
      rw [Option.bind_some, dropWhile_to ((hperm.map _).nodup_iff.2 hn)]
      refine resolve_of_leadsInto hn ?_ hl.suffix (.inl rfl) ?_
      · intro x hx
        exact hperm.mem_iff.1 (List.mem_append_right _ hx)
      · -- every vacant place behind the target costs one step at most
        rw [← hperm.countP_eq, List.countP_append] at hroom
        omega
    · -- a target that was never in the row is not among the departed stages either
      have hne : ∀ q ∈ row, q.id ≠ id := fun q hq h => hid ⟨q, hq, h⟩
      rw [Option.bind_some, dropWhile_unknown hne]
      refine resolve_of_unknown ?_ ?_ _
      · apply positionOfId_eq_none
        intro q hq h
        exact absurd h (hne q (hperm.mem_iff.2 hq))
      · rw [List.find?_eq_none]
        intro gone hgone
        obtain ⟨q, hq, hqid, -⟩ := hknown gone hgone
        have := hne q (hperm.mem_iff.2 hq)
        rw [hqid] at this
        simpa using this

end SecureGateway

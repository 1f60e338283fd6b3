import SecureGateway.Proofs.Pipeline.Roster

namespace SecureGateway

def Ahead (names : List StageName) (a b : StageName) : Prop :=
  b ∈ names ∧ a ∈ names.takeWhile (· != b)

instance (names : List StageName) (a b : StageName) : Decidable (Ahead names a b) :=
  inferInstanceAs (Decidable (_ ∧ _))

section Names

variable {names front back : List StageName} {a b n : StageName}

theorem takeWhile_ne (hb : b ∉ front) : (front ++ b :: back).takeWhile (· != b) = front := by
  rw [List.takeWhile_append_of_pos, List.takeWhile_cons_of_neg (by simp), List.append_nil]
  intro x hx
  exact bne_iff_ne.2 fun hxb => hb (hxb ▸ hx)

theorem Ahead.mem (h : Ahead names a b) : a ∈ names ∧ b ∈ names :=
  ⟨(List.takeWhile_sublist _).mem h.2, h.1⟩

theorem ahead_split (hb : b ∉ front) : Ahead (front ++ b :: back) a b ↔ a ∈ front := by
  rw [Ahead, takeWhile_ne hb]
  exact and_iff_right (List.mem_append_right _ List.mem_cons_self)

theorem findIdx_split (hb : b ∉ front) :
    (front ++ b :: back).findIdx? (· == b) = some front.length := by
  have hnone : front.findIdx? (· == b) = none :=
    List.findIdx?_eq_none_iff.2 fun x hx => beq_eq_false_iff_ne.2 fun hxb => hb (hxb ▸ hx)
  rw [List.findIdx?_append, hnone, Option.none_or, List.findIdx?_cons, if_pos (beq_self_eq_true b)]
  exact congrArg some (Nat.zero_add _)

theorem ahead_iff_not_ahead (ha : a ∈ names) (hb : b ∈ names) (hne : a ≠ b) :
    Ahead names a b ↔ ¬Ahead names b a := by
  obtain ⟨front, back, rfl, hfront⟩ := List.eq_append_cons_of_mem hb
  rw [ahead_split hfront]
  -- either the first a comes before the first b, or all of b's front is before the first a
  by_cases hmem : a ∈ front
  · obtain ⟨xs, ys, rfl, hxs⟩ := List.eq_append_cons_of_mem hmem
    rw [List.append_assoc, List.cons_append, ahead_split hxs]
    exact iff_of_true hmem fun hb' => hfront (List.mem_append_left _ hb')
  · obtain ⟨xs, ys, rfl, hxs⟩ := List.eq_append_cons_of_mem
      ((List.mem_cons.1 ((List.mem_append.1 ha).resolve_left hmem)).resolve_left hne)
    have hfirst : a ∉ front ++ b :: xs := by simp [hmem, hne, hxs]
    have hrow : front ++ b :: (xs ++ a :: ys) = (front ++ b :: xs) ++ a :: ys := by simp
    rw [hrow, ahead_split hfirst]
    exact iff_of_false hmem (not_not.2 (List.mem_append_right _ List.mem_cons_self))

theorem ahead_insert (ha : a ≠ n) (hb : b ≠ n) :
    Ahead (front ++ n :: back) a b ↔ Ahead (front ++ back) a b := by
  by_cases hfront : b ∈ front
  · obtain ⟨xs, ys, rfl, hxs⟩ := List.eq_append_cons_of_mem hfront
    rw [List.append_assoc, List.append_assoc, List.cons_append, List.cons_append, ahead_split hxs,
      ahead_split hxs]
  by_cases hback : b ∈ back
  · obtain ⟨xs, ys, rfl, hxs⟩ := List.eq_append_cons_of_mem hback
    have hrow : front ++ n :: (xs ++ b :: ys) = (front ++ n :: xs) ++ b :: ys := by simp
    rw [hrow, ← List.append_assoc, ahead_split (by simp [hfront, hb, hxs]),
      ahead_split (by simp [hfront, hxs])]
    simp [ha]
  · exact iff_of_false (fun h => by simpa [hb, hfront, hback] using h.1)
      fun h => by simpa [hfront, hback] using h.1

theorem pair_insert (hpair : [a, b] <:+: front ++ back)
    (hapart : ∀ xs ys, front = xs ++ [a] → back ≠ b :: ys) :
    [a, b] <:+: front ++ n :: back := by
  obtain ⟨s, t, hrow⟩ := hpair
  rcases List.append_eq_append_iff.1 hrow with ⟨w, rfl, rfl⟩ | ⟨w, hw, rfl⟩
  · exact ⟨s, w ++ n :: back, by simp⟩
  rcases List.append_eq_append_iff.1 hw with ⟨v, rfl, hv⟩ | ⟨v, rfl, rfl⟩
  · -- the cut is in front of the pair, between the two, or right behind them
    match v, hv with
    | [], hv =>
      obtain rfl : [a, b] = w := hv
      exact ⟨s ++ [n], t, by simp⟩
    | [_], hv =>
      obtain ⟨rfl, rfl⟩ := List.cons.inj hv
      exact absurd rfl (hapart s t rfl)
    | [_, _], hv =>
      obtain ⟨rfl, htail⟩ := List.cons.inj hv
      obtain ⟨rfl, rfl⟩ := List.cons.inj htail
      exact ⟨s, n :: t, by simp⟩
  · exact ⟨front ++ n :: v, t, by simp⟩

end Names

namespace StagePlace

/-- The place cuts a row of names in two. -/
def Cuts (front back : List StageName) : StagePlace → Prop
  | first => front = []
  | last => back = []
  | after base => ∃ xs, front = xs ++ [base] ∧ base ∉ xs
  | before base => base ∉ front ∧ ∃ ys, back = base :: ys

theorem exists_cut {place : StagePlace} {names : List StageName}
    (hbase : ∀ base, place.base? = some base → base ∈ names) :
    ∃ front back, names = front ++ back ∧ place.Cuts front back ∧
      place.index? names = some front.length := by
  cases place with
  | first => exact ⟨[], names, rfl, rfl, rfl⟩
  | last => exact ⟨names, [], (List.append_nil _).symm, rfl, rfl⟩
  | after base =>
    obtain ⟨xs, ys, rfl, hxs⟩ := List.eq_append_cons_of_mem (hbase base rfl)
    refine ⟨xs ++ [base], ys, by simp, ⟨xs, rfl, hxs⟩, ?_⟩
    rw [index?, findIdx_split hxs, List.length_append, List.length_singleton]
    rfl
  | before base =>
    obtain ⟨xs, ys, rfl, hxs⟩ := List.eq_append_cons_of_mem (hbase base rfl)
    exact ⟨xs, base :: ys, rfl, ⟨hxs, ys, rfl⟩, findIdx_split hxs⟩

end StagePlace

namespace Pipeline

variable {σ : Type} {place : StagePlace} {n m a b : StageName} {h : σ} {p q : Pipeline σ}

/-- What an addition that goes well makes of a pipeline. -/
inductive Joined (place : StagePlace) (n : StageName) (h : σ) (p : Pipeline σ) : Pipeline σ → Prop
  | mk (front back : List (Stage σ)) : n ∉ p.names → p.stages = front ++ back →
    place.Cuts (front.map (·.name)) (back.map (·.name)) →
    Joined place n h p { p with
      stages := front ++ ⟨p.nextId, n, some h⟩ :: back
      nextId := p.nextId + 1 }

theorem add_of_base (place : StagePlace) (n : StageName) (h : σ) (p : Pipeline σ)
    (hbase : ∀ base, place.base? = some base → base ∈ p.names) :
    (n ∈ p.names ∧ p.add place n h = .error (.duplicateStage n)) ∨
      ∃ q, p.add place n h = .ok q ∧ Joined place n h p q := by
  obtain ⟨front, back, hnames, hcut, hindex⟩ := StagePlace.exists_cut hbase
  rw [add_of_index hindex, insertAt, contains_eq]
  by_cases hn : n ∈ p.names
  · exact .inl ⟨hn, if_pos (decide_eq_true hn)⟩
  obtain ⟨xs, ys, hstages, rfl, rfl⟩ := List.map_eq_append_iff.1 hnames
  refine .inr ⟨_, if_neg (by simpa using hn), ?_⟩
  rw [List.length_map, hstages, StagePlace.insertIdx_append]
  exact .mk xs ys hn hstages hcut

namespace Joined

theorem free (hj : Joined place n h p q) : n ∉ p.names := by
  obtain ⟨_, _, hn, -, -⟩ := hj
  exact hn

theorem rest (hj : Joined place n h p q) (stages : List (Stage σ)) (nextId : Nat) :
    { q with stages, nextId } = { p with stages, nextId } := by
  obtain ⟨_, _, -, -, -⟩ := hj
  rfl

theorem names (hj : Joined place n h p q) : ∃ front back, p.names = front ++ back ∧
    place.Cuts front back ∧ q.names = front ++ n :: back := by
  obtain ⟨front, back, -, hstages, hcut⟩ := hj
  refine ⟨_, _, ?_, hcut, ?_⟩
  · rw [Pipeline.names, hstages, List.map_append]
  · rw [Pipeline.names, List.map_append, List.map_cons]

theorem names_perm (hj : Joined place n h p q) : q.names.Perm (n :: p.names) := by
  obtain ⟨front, back, hp, -, hq⟩ := hj.names
  rw [hp, hq]
  exact List.perm_middle

theorem filter_stages (hj : Joined place n h p q) {keep : Stage σ → Bool}
    (hkeep : ∀ st, st.name = n → keep st = false) : q.stages.filter keep = p.stages.filter keep := by
  obtain ⟨front, back, -, hstages, -⟩ := hj
  rw [hstages, List.filter_append, List.filter_append,
    List.filter_cons_of_neg (Bool.eq_false_iff.1 (hkeep _ rfl))]

theorem follows_base {base : StageName} (hj : Joined (.after base) n h p q) :
    [base, n] <:+: q.names := by
  obtain ⟨front, back, -, ⟨xs, rfl, -⟩, hq⟩ := hj.names
  exact ⟨xs, back, by rw [hq]; simp⟩

theorem first_names (hj : Joined .first n h p q) : q.names = n :: p.names := by
  obtain ⟨front, back, hp, rfl, hq⟩ := hj.names
  rw [hq, hp]
  rfl

theorem pair (hj : Joined place n h p q) (hpair : [a, b] <:+: p.names) (hafter : place ≠ .after a)
    (hbefore : place ≠ .before b) : [a, b] <:+: q.names := by
  obtain ⟨front, back, hp, hcut, hq⟩ := hj.names
  rw [hp] at hpair
  rw [hq]
  refine pair_insert hpair ?_
  rintro xs ys rfl rfl
  cases place with
  | first => exact List.append_ne_nil_of_right_ne_nil _ (List.cons_ne_nil _ _) hcut
  | last => exact List.cons_ne_nil _ _ hcut
  | after base =>
    obtain ⟨zs, hzs, -⟩ := hcut
    obtain ⟨-, hbase⟩ := List.append_inj' hzs rfl
    exact hafter (congrArg _ (List.cons.inj hbase).1.symm)
  | before base =>
    obtain ⟨-, zs, hzs⟩ := hcut
    exact hbefore (congrArg _ (List.cons.inj hzs).1.symm)

/-- What goes right ahead of a stage that is there once comes behind its old neighbour. -/
theorem pair_before {base : StageName} (hj : Joined (.before base) n h p q)
    (hpair : [a, base] <:+: p.names) (honce : p.names.count base = 1) :
    [a, n, base] <:+: q.names := by
  obtain ⟨front, back, hp, ⟨hfront, ys, rfl⟩, hq⟩ := hj.names
  obtain ⟨s, t, hrow⟩ := hpair
  have hrow' : (s ++ [a]) ++ base :: t = front ++ base :: ys := by
    rw [← hp, ← hrow]
    simp
  -- the new stage goes ahead of the first base, which is that of the pair as there is no other
  have hs : base ∉ s ++ [a] := by
    rw [hp, ← hrow', List.count_append, List.count_cons_self] at honce
    exact List.count_eq_zero.1 (by omega)
  have hfirst := congrArg (List.takeWhile (· != base)) hrow'
  rw [takeWhile_ne hs, takeWhile_ne hfront] at hfirst
  exact ⟨s, ys, by rw [hq, ← hfirst]; simp⟩

theorem head (hj : Joined place n h p q) (hhead : [a] <+: p.names) (hfirst : place ≠ .first)
    (hbefore : place ≠ .before a) : [a] <+: q.names := by
  obtain ⟨front, back, hp, hcut, hq⟩ := hj.names
  obtain ⟨t, ht⟩ := hhead
  rw [hp] at ht
  cases front with
  | cons x xs =>
    obtain ⟨rfl, -⟩ := List.cons.inj ht
    exact ⟨xs ++ n :: back, by rw [hq]; rfl⟩
  | nil =>
    cases place with
    | first => exact absurd rfl hfirst
    | last =>
      obtain rfl : back = [] := hcut
      cases ht
    | after base =>
      obtain ⟨xs, hxs, -⟩ := hcut
      exact absurd hxs.symm (List.append_ne_nil_of_right_ne_nil _ (List.cons_ne_nil _ _))
    | before base =>
      obtain ⟨-, ys, rfl⟩ := hcut
      exact absurd (congrArg _ (List.cons.inj ht).1.symm) hbefore

theorem head_before {base : StageName} (hj : Joined (.before base) n h p q)
    (hhead : [base] <+: p.names) : [n, base] <+: q.names := by
  obtain ⟨front, back, hp, ⟨hfront, ys, rfl⟩, hq⟩ := hj.names
  obtain ⟨t, ht⟩ := hhead
  rw [hp] at ht
  cases front with
  | nil => exact ⟨ys, by rw [hq]; rfl⟩
  | cons x xs =>
    obtain ⟨rfl, -⟩ := List.cons.inj ht
    exact absurd List.mem_cons_self hfront

theorem ahead_other (hj : Joined place n h p q) (ha : a ≠ n) (hb : b ≠ n) :
    Ahead q.names a b ↔ Ahead p.names a b := by
  obtain ⟨front, back, hp, -, hq⟩ := hj.names
  rw [hq, hp]
  exact ahead_insert ha hb

theorem ahead_of_new {base : StageName} (hj : Joined (.after base) n h p q) (ha : a ≠ base) :
    Ahead q.names a n ↔ Ahead p.names a base := by
  have hn := hj.free
  obtain ⟨front, back, hp, ⟨xs, rfl, hxs⟩, hq⟩ := hj.names
  have hp' : p.names = xs ++ base :: back := by rw [hp]; simp
  rw [hp] at hn
  rw [hq, ahead_split fun hmem => hn (List.mem_append_left _ hmem), hp', ahead_split hxs]
  simp [ha]

theorem base_ahead {base : StageName} (hj : Joined (.after base) n h p q) :
    Ahead q.names base n := by
  have hn := hj.free
  obtain ⟨front, back, hp, ⟨xs, rfl, hxs⟩, hq⟩ := hj.names
  rw [hp] at hn
  rw [hq, ahead_split fun hmem => hn (List.mem_append_left _ hmem)]
  exact List.mem_append_right _ List.mem_cons_self

theorem new_ahead {base : StageName} (hj : Joined (.after base) n h p q) (hb : b ∈ p.names)
    (hne : b ≠ base) : Ahead q.names n b ↔ Ahead p.names base b := by
  have hn := hj.free
  obtain ⟨front, back, hp, ⟨xs, rfl, hxs⟩, hq⟩ := hj.names
  rw [hq]
  rw [hp] at hb hn ⊢
  by_cases hmem : b ∈ xs
  · obtain ⟨us, vs, rfl, hus⟩ := List.eq_append_cons_of_mem hmem
    simp only [List.append_assoc, List.cons_append, ahead_split hus] at hn hxs ⊢
    exact iff_of_false (fun h => hn (List.mem_append_left _ h))
      fun h => hxs (List.mem_append_left _ h)
  · have hback : b ∈ back := (List.mem_append.1 hb).resolve_left (by simp [hmem, hne])
    obtain ⟨us, vs, rfl, hus⟩ := List.eq_append_cons_of_mem hback
    have hbn : b ≠ n := fun h => hn (h ▸ hb)
    rw [← List.append_assoc, ahead_split (by simp [hmem, hne, hus]), ← List.cons_append,
      ← List.append_assoc, ahead_split (by simp [hmem, hne, hbn, hus])]
    exact iff_of_true (by simp) (by simp)

theorem new_ahead_first (hj : Joined .first n h p q) (hb : b ∈ p.names) : Ahead q.names n b := by
  have hbn : b ≠ n := fun h => hj.free (h ▸ hb)
  rw [hj.first_names]
  obtain ⟨us, vs, hp, hus⟩ := List.eq_append_cons_of_mem hb
  rw [hp, ← List.cons_append, ahead_split (by simp [hbn, hus])]
  exact List.mem_cons_self

theorem get?_self (hj : Joined place n h p q) : q.get? n = some h := by
  obtain ⟨front, back, hn, hstages, -⟩ := hj
  have hfront : front.find? (·.name == n) = none := by
    refine List.find?_eq_none.2 fun st hst hname => hn ?_
    rw [Pipeline.names, hstages, ← eq_of_beq hname]
    exact List.mem_map_of_mem (List.mem_append_left _ hst)
  rw [get?, findHandler, List.find?_append, hfront, Option.none_or, List.find?_cons]
  simp

theorem get?_of_ne (hj : Joined place n h p q) (hm : m ≠ n) : q.get? m = p.get? m := by
  obtain ⟨front, back, -, hstages, -⟩ := hj
  rw [get?, get?, findHandler, findHandler, hstages, List.find?_append, List.find?_append,
    List.find?_cons_of_neg (by simpa using hm.symm)]

end Joined
end Pipeline
end SecureGateway

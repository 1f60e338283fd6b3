import Mathlib.Data.List.InsertIdx
import Mathlib.Data.List.Perm.Basic
import SecureGateway.Proofs.Pipeline.Termination

namespace SecureGateway

variable {σ ω : Type}

namespace StagePlace

def base? : StagePlace → Option StageName
  | first | last => none
  | after base | before base => some base

def put (x : StageName × σ) (row : List (StageName × σ)) : StagePlace → List (StageName × σ)
  | first => x :: row
  | last => row ++ [x]
  | after base => row.flatMap fun y => if y.1 = base then [y, x] else [y]
  | before base => row.flatMap fun y => if y.1 = base then [x, y] else [y]

def index? (names : List StageName) : StagePlace → Option Nat
  | first => some 0
  | last => some names.length
  | after base => (names.findIdx? (· == base)).map (· + 1)
  | before base => names.findIdx? (· == base)

theorem index?_isSome {place : StagePlace} {names : List StageName} :
    (place.index? names).isSome = true ↔ ∀ base, place.base? = some base → base ∈ names := by
  cases place <;> simp [index?, base?]

theorem index?_eq_none {place : StagePlace} {names : List StageName} :
    place.index? names = none ↔ ∃ base, place.base? = some base ∧ base ∉ names := by
  rw [← Option.not_isSome_iff_eq_none, index?_isSome]
  push Not
  rfl

section Rows

variable {row : List (StageName × σ)} {base : StageName} {x : StageName × σ} {place : StagePlace}
  {i : Nat}

theorem flatMap_of_absent (hbase : base ∉ row.map Prod.fst)
    (f : StageName × σ → List (StageName × σ)) :
    (row.flatMap fun y => if y.1 = base then f y else [y]) = row := by
  induction row with
  | nil => rfl
  | cons y row ih =>
    rw [List.map_cons, List.mem_cons, not_or] at hbase
    rw [List.flatMap_cons, if_neg (Ne.symm hbase.1), ih hbase.2]
    rfl

theorem flatMap_of_split {front back : List (StageName × σ)} {y : StageName × σ}
    (hn : ((front ++ y :: back).map Prod.fst).Nodup) (f : StageName × σ → List (StageName × σ)) :
    ((front ++ y :: back).flatMap fun z => if z.1 = y.1 then f z else [z]) =
      front ++ f y ++ back := by
  rw [List.map_append, List.map_cons, List.nodup_append, List.nodup_cons] at hn
  have hfront : y.1 ∉ front.map Prod.fst := fun hmem => hn.2.2 _ hmem _ (List.mem_cons_self ..) rfl
  rw [List.flatMap_append, List.flatMap_cons, flatMap_of_absent hfront, if_pos rfl,
    flatMap_of_absent hn.2.1.1, List.append_assoc]

theorem insertIdx_append {α : Type} (front back : List α) (a : α) :
    (front ++ back).insertIdx front.length a = front ++ a :: back := by
  induction front with
  | nil => rfl
  | cons z front ih => rw [List.cons_append, List.length_cons, List.insertIdx_succ_cons, ih]; rfl

theorem split_of_findIdx (hi : (row.map Prod.fst).findIdx? (· == base) = some i) :
    ∃ front y back, row = front ++ y :: back ∧ y.1 = base ∧ i = front.length := by
  obtain ⟨hlt, hbase, -⟩ := List.findIdx?_eq_some_iff_getElem.1 hi
  rw [List.length_map] at hlt
  refine ⟨row.take i, row[i], row.drop (i + 1), ?_, by simpa using hbase, ?_⟩
  · rw [List.getElem_cons_drop, List.take_append_drop]
  · rw [List.length_take, Nat.min_eq_left hlt.le]

theorem put_eq_insertIdx (hn : (row.map Prod.fst).Nodup)
    (hi : place.index? (row.map Prod.fst) = some i) : place.put x row = row.insertIdx i x := by
  cases place with
  | first =>
    obtain rfl := Option.some.inj hi
    rfl
  | last =>
    obtain rfl := Option.some.inj hi
    rw [List.length_map, List.insertIdx_length_self]
    rfl
  | after base =>
    obtain ⟨j, hj, rfl⟩ := Option.map_eq_some_iff.1 hi
    obtain ⟨front, y, back, rfl, rfl, rfl⟩ := split_of_findIdx hj
    have hinsert := insertIdx_append (front ++ [y]) back x
    rw [List.length_append, List.length_singleton, List.append_assoc, List.append_assoc] at hinsert
    rw [put, flatMap_of_split hn, List.append_assoc]
    exact hinsert.symm
  | before base =>
    obtain ⟨front, y, back, rfl, rfl, rfl⟩ := split_of_findIdx hi
    rw [put, flatMap_of_split hn, List.append_assoc, insertIdx_append]
    rfl

theorem index_le (hi : place.index? (row.map Prod.fst) = some i) : i ≤ row.length := by
  cases place with
  | first =>
    obtain rfl := Option.some.inj hi
    exact Nat.zero_le _
  | last =>
    obtain rfl := Option.some.inj hi
    rw [List.length_map]
  | after base =>
    obtain ⟨j, hj, rfl⟩ := Option.map_eq_some_iff.1 hi
    obtain ⟨front, y, back, rfl, -, rfl⟩ := split_of_findIdx hj
    simp
  | before base =>
    obtain ⟨front, y, back, rfl, -, rfl⟩ := split_of_findIdx hi
    simp

theorem put_perm (hn : (row.map Prod.fst).Nodup)
    (hbase : ∀ base, place.base? = some base → base ∈ row.map Prod.fst) :
    (place.put x row).Perm (x :: row) := by
  obtain ⟨i, hi⟩ := Option.isSome_iff_exists.1 (index?_isSome.2 hbase)
  rw [put_eq_insertIdx hn hi]
  exact List.perm_insertIdx x row (index_le hi)

end Rows
end StagePlace

/-- What a call makes of an entry: under its name the handler reacts, and goes on or leaves. -/
def Call.entry? (react : React σ σ ω) (c : Call σ ω) (y : StageName × σ) : Option (StageName × σ) :=
  if y.1 = c.view.name then
    let r := react c.view c.signal y.2 c.world
    if r.leaves then none else some (y.1, r.handler)
  else some y

def Happening.mark (react : React σ σ ω) (row : List (StageName × σ)) :
    Happening σ ω → List (StageName × σ)
  | called c => row.filterMap (c.entry? react)
  | left _ => row

theorem Call.entry?_of_ne {react : React σ σ ω} {c : Call σ ω} {y : StageName × σ}
    (hy : y.1 ≠ c.view.name) : c.entry? react y = some y := if_neg hy

theorem Call.filterMap_of_absent {react : React σ σ ω} {c : Call σ ω} {row : List (StageName × σ)}
    (hc : c.view.name ∉ row.map Prod.fst) : row.filterMap (c.entry? react) = row := by
  have hstays : ∀ y ∈ row, c.entry? react y = some y :=
    fun y hy => entry?_of_ne fun hname => hc (hname ▸ List.mem_map_of_mem hy)
  rw [List.filterMap_congr hstays, List.filterMap_some]

theorem Call.evolves_of_entry {react : React σ σ ω} {c : Call σ ω} {y z : StageName × σ}
    (h : c.entry? react y = some z) :
    z.1 = y.1 ∧ Relation.ReflTransGen (Evolves react) y.2 z.2 := by
  unfold entry? at h
  split at h
  · dsimp only at h
    split at h
    · cases h
    · obtain rfl := Option.some.inj h
      exact ⟨rfl, .single ⟨c.view, c.signal, c.world, rfl⟩⟩
  · obtain rfl := Option.some.inj h
    exact ⟨rfl, .refl⟩

/-- Names with the handlers under them, front to back. No name is there twice. -/
structure Roster (σ : Type) where
  entries : List (StageName × σ)
  distinct : (entries.map Prod.fst).Nodup

theorem Happening.mark_sublist (react : React σ σ ω) (row : List (StageName × σ))
    (x : Happening σ ω) : ((x.mark react row).map Prod.fst).Sublist (row.map Prod.fst) := by
  cases x with
  | left s => exact .refl _
  | called c =>
    induction row with
    | nil => exact .slnil
    | cons y row ih =>
      rw [mark, List.filterMap_cons]
      cases hz : c.entry? react y with
      | none => exact ih.cons _
      | some z =>
        rw [List.map_cons, List.map_cons, (Call.evolves_of_entry hz).1]
        exact ih.cons_cons _

namespace Roster

def empty : Roster σ := ⟨[], List.nodup_nil⟩

def names (r : Roster σ) : List StageName := r.entries.map Prod.fst

def get? (r : Roster σ) (n : StageName) : Option σ :=
  (r.entries.find? (·.1 == n)).map Prod.snd

def enter (place : StagePlace) (n : StageName) (h : σ) (r : Roster σ) :
    Except PipelineError (Roster σ) :=
  match hbase : place.base?.filter (· ∉ r.names) with
  | some base => .error (.noSuchStage base)
  | none =>
    if hn : n ∈ r.names then .error (.duplicateStage n)
    else .ok {
      entries := place.put (n, h) r.entries
      distinct := by
        have hmem : ∀ base, place.base? = some base → base ∈ r.names := by
          simpa using hbase
        have hperm := (StagePlace.put_perm r.distinct hmem (x := (n, h))).map Prod.fst
        exact hperm.nodup_iff.2 (List.nodup_cons.2 ⟨hn, r.distinct⟩) }

def strike (n : StageName) (r : Roster σ) : Roster σ :=
  ⟨r.entries.filter (·.1 ≠ n), r.distinct.sublist (List.filter_sublist.map _)⟩

def follow (react : React σ σ ω) (r : Roster σ) : List (Happening σ ω) → Roster σ
  | [] => r
  | x :: l => follow react ⟨x.mark react r.entries, r.distinct.sublist (x.mark_sublist react _)⟩ l

end Roster

namespace Pipeline

inductive Request (σ : Type) where
  | add (place : StagePlace) (name : StageName) (h : σ)
  | remove (name : StageName)
  | send (now : Instant) (sig : Signal)

inductive Answer (σ : Type) where
  | done
  | refused (e : PipelineError)
  | removed (h : Option σ)

def Answer.Fails : Answer σ → Prop
  | done => False
  | refused _ => True
  | removed h => h = none

structure Exchange (σ ω : Type) where
  request : Request σ
  happenings : List (Happening σ ω)
  answer : Answer σ
  before : Pipeline σ
  after : Pipeline σ

def ask (b : Behaviour σ ω) (p : Pipeline σ) (w : ω) : Request σ → Option (Exchange σ ω × ω)
  | .add place name h =>
    let (q, refusal) := p.addAll [(place, name, h)]
    some (⟨.add place name h, [], refusal.elim .done .refused, p, q⟩, w)
  | .remove name =>
    let (h, q) := p.remove name
    some (⟨.remove name, [], .removed h, p, q⟩, w)
  | .send now sig => (p.perform b now sig w).map fun (q, w') =>
    (⟨.send now sig, p.history b now (p.entry sig) w, .done, p, q⟩, w')

/-- What comes of some calls, and those that are left when one does not return. -/
structure Dealings (σ ω : Type) where
  exchanges : List (Exchange σ ω)
  pipeline : Pipeline σ
  world : ω
  unanswered : List (Request σ)

def serve (b : Behaviour σ ω) (p : Pipeline σ) (w : ω) : List (Request σ) → Dealings σ ω
  | [] => ⟨[], p, w, []⟩
  | x :: xs =>
    match p.ask b w x with
    | some (t, w') =>
      let s := serve b t.after w' xs
      { s with exchanges := t :: s.exchanges }
    | none => ⟨[], p, w, x :: xs⟩

/-- What a caller can see after a call. -/
structure Sight (σ : Type) where
  answer : Answer σ
  names : List StageName
  contains : StageName → Bool
  get? : StageName → Option σ

def Exchange.sight (t : Exchange σ ω) : Sight σ :=
  ⟨t.answer, t.after.names, t.after.contains, t.after.get?⟩

def Exchange.added? (n : StageName) (t : Exchange σ ω) : Option σ :=
  match t.request, t.answer with
  | .add _ name h, .done => if name = n then some h else none
  | _, _ => none

def lastAdded? (n : StageName) (ts : List (Exchange σ ω)) : Option σ :=
  (ts.filterMap (Exchange.added? n)).getLast?

end Pipeline

namespace Roster

open Pipeline

def answer (react : React σ σ ω) (r : Roster σ) (l : List (Happening σ ω)) :
    Request σ → Answer σ × Roster σ
  | .add place n h =>
    match r.enter place n h with
    | .ok r' => (.done, r')
    | .error e => (.refused e, r)
  | .remove n => (.removed (r.get? n), r.strike n)
  | .send _ _ => (.done, r.follow react l)

def sight (r : Roster σ) (a : Answer σ) : Sight σ := ⟨a, r.names, (· ∈ r.names), r.get?⟩

def play (react : React σ σ ω) : Roster σ → List (Request σ × List (Happening σ ω)) → List (Sight σ)
  | _, [] => []
  | r, (x, l) :: rest =>
    let (a, r') := r.answer react l x
    r'.sight a :: play react r' rest

theorem enter_of_missing {r : Roster σ} {place : StagePlace} {base n : StageName} {h : σ}
    (hplace : place.base? = some base) (hbase : base ∉ r.names) :
    r.enter place n h = .error (.noSuchStage base) := by
  unfold enter
  split
  · rename_i base' heq
    obtain ⟨hsome, -⟩ := Option.filter_eq_some_iff.1 heq
    rw [Option.some.inj (hplace.symm.trans hsome)]
  · rename_i heq
    exact absurd (by simpa using Option.filter_eq_none_iff.1 heq base hplace) hbase

theorem enter_of_known {r : Roster σ} {place : StagePlace} {n : StageName} {h : σ}
    (hmem : ∀ base, place.base? = some base → base ∈ r.names) :
    (n ∈ r.names ∧ r.enter place n h = .error (.duplicateStage n)) ∨
      (n ∉ r.names ∧
        ∃ r', r.enter place n h = .ok r' ∧ r'.entries = place.put (n, h) r.entries) := by
  unfold enter
  split
  · rename_i base heq
    obtain ⟨hsome, hbase⟩ := Option.filter_eq_some_iff.1 heq
    exact absurd (hmem base hsome) (by simpa using hbase)
  · by_cases hn : n ∈ r.names
    · rw [dif_pos hn]
      exact .inl ⟨hn, rfl⟩
    · rw [dif_neg hn]
      exact .inr ⟨hn, _, rfl, rfl⟩

theorem strike_of_absent {r : Roster σ} {n : StageName} (hn : n ∉ r.names) :
    r.get? n = none ∧ (r.strike n).entries = r.entries := by
  have hother : ∀ y ∈ r.entries, y.1 ≠ n := fun y hy hname => hn (hname ▸ List.mem_map_of_mem hy)
  refine ⟨?_, List.filter_eq_self.2 fun y hy => by simpa using hother y hy⟩
  rw [get?, List.find?_eq_none.2 fun y hy => by simpa using hother y hy]
  rfl

theorem strike_of_index {r : Roster σ} {n : StageName} {i : Nat}
    (hi : r.names.findIdx? (· == n) = some i) :
    ∃ front y back, r.entries = front ++ y :: back ∧ i = front.length ∧ r.get? n = some y.2 ∧
      (r.strike n).entries = front ++ back := by
  obtain ⟨front, y, back, hsplit, rfl, rfl⟩ := StagePlace.split_of_findIdx hi
  have hdistinct := r.distinct
  rw [hsplit, List.map_append, List.map_cons, List.nodup_append, List.nodup_cons] at hdistinct
  have hfront : ∀ z ∈ front, z.1 ≠ y.1 := fun z hz =>
    hdistinct.2.2 _ (List.mem_map_of_mem hz) _ (List.mem_cons_self ..)
  have hback : ∀ z ∈ back, z.1 ≠ y.1 := fun z hz hname =>
    hdistinct.2.1.1 (hname ▸ List.mem_map_of_mem hz)
  refine ⟨front, y, back, hsplit, rfl, ?_, ?_⟩
  · have hnone : front.find? (·.1 == y.1) = none :=
      List.find?_eq_none.2 fun z hz => by simpa using hfront z hz
    rw [get?, hsplit, List.find?_append, hnone, Option.none_or, List.find?_cons, beq_self_eq_true]
    rfl
  · show r.entries.filter (·.1 ≠ y.1) = _
    rw [hsplit, List.filter_append, List.filter_cons_of_neg (by simp),
      List.filter_eq_self.2 fun z hz => by simpa using hfront z hz,
      List.filter_eq_self.2 fun z hz => by simpa using hback z hz]

end Roster

/-- The stages of a pipeline are the entries of a roster, in order, each with its handler. -/
def Roster.Lists (r : Roster σ) (p : Pipeline σ) : Prop :=
  p.stages.map (fun st => (st.name, st.slot)) = r.entries.map fun y => (y.1, some y.2)

namespace Pipeline

variable {p : Pipeline σ} {r : Roster σ}

theorem positionOf_eq (p : Pipeline σ) (n : StageName) :
    positionOf p.stages n = p.names.findIdx? (· == n) := by
  rw [names, List.findIdx?_map]
  rfl

theorem contains_eq (p : Pipeline σ) (n : StageName) : p.contains n = decide (n ∈ p.names) := by
  rw [contains, positionOf_eq, Bool.eq_iff_iff]
  simp

theorem names_of_lists (hl : r.Lists p) : p.names = r.names := by
  have h := congrArg (List.map Prod.fst) hl
  rwa [List.map_map, List.map_map] at h

theorem get?_of_lists (hl : r.Lists p) (n : StageName) : p.get? n = r.get? n := by
  have hstages : p.get? n = ((p.stages.map fun st => (st.name, st.slot)).find? (·.1 == n)).bind
      Prod.snd := by
    rw [List.find?_map, Option.bind_map]
    rfl
  rw [hstages, hl, List.find?_map, Option.bind_map, Roster.get?, Option.map_eq_bind]
  rfl

theorem add_of_index {place : StagePlace} {i : Nat} (hi : place.index? p.names = some i)
    (n : StageName) (h : σ) : p.add place n h = p.insertAt i n h := by
  cases place with
  | first =>
    obtain rfl := Option.some.inj hi
    rfl
  | last =>
    obtain rfl := Option.some.inj hi
    rw [names, List.length_map]
    rfl
  | after base =>
    obtain ⟨j, hj, rfl⟩ := Option.map_eq_some_iff.1 hi
    rw [add, positionOf_eq, hj]
  | before base =>
    rw [add, positionOf_eq, show p.names.findIdx? (· == base) = some i from hi]

theorem add_of_missing {place : StagePlace} {base : StageName} (hplace : place.base? = some base)
    (hbase : base ∉ p.names) (n : StageName) (h : σ) :
    p.add place n h = .error (.noSuchStage base) := by
  have hnone : positionOf p.stages base = none := by
    rw [positionOf_eq, List.findIdx?_eq_none_iff]
    intro x hx
    exact beq_eq_false_iff_ne.2 fun hxb => hbase (hxb ▸ hx)
  cases place with
  | first | last => cases hplace
  | after base | before base =>
    obtain rfl := Option.some.inj hplace
    rw [add, hnone]

end Pipeline

def Place.entry? (q : Place σ) : Option (StageName × σ) := q.handler.map (q.name, ·)

theorem Place.names_sublist (row : List (Place σ)) :
    ((row.filterMap Place.entry?).map Prod.fst).Sublist (row.map (·.name)) := by
  induction row with
  | nil => exact .slnil
  | cons q row ih =>
    cases hq : q.handler with
    | none =>
      rw [List.filterMap_cons_none (by rw [Place.entry?, hq]; rfl)]
      exact ih.cons _
    | some h =>
      rw [List.filterMap_cons_some (by rw [Place.entry?, hq]; rfl)]
      exact ih.cons_cons _

namespace Scene

variable {react : React σ σ ω} {s : Scene σ ω} {before after : List (Place σ)} {q : Place σ} {h : σ}

def entries (s : Scene σ ω) : List (StageName × σ) := s.places.filterMap Place.entry?

theorem entries_pipeline (s : Scene σ ω) :
    s.pipeline.stages.map (fun st => (st.name, st.slot)) =
      s.entries.map fun y => (y.1, some y.2) := by
  rw [pipeline, entries, List.map_filterMap, List.map_filterMap]
  congr 1
  funext q
  rw [Place.stage?, Place.entry?, Option.map_map, Option.map_map]
  rfl

theorem entries_react (hn : (s.places.map (·.name)).Nodup)
    (hsplit : s.places = before ++ q :: after) (hq : q.handler = some h) (now : Instant)
    (sig : Signal) :
    let c := s.call now before q after sig h
    (s.react before q after (c.reaction react)).entries =
      (Happening.called c).mark react s.entries := by
  intro c
  rw [hsplit, List.map_append, List.map_cons, List.nodup_append, List.nodup_cons] at hn
  have hbefore : (before.filterMap Place.entry?).filterMap (c.entry? react) =
      before.filterMap Place.entry? := Call.filterMap_of_absent fun hmem =>
    hn.2.2 _ ((Place.names_sublist before).mem hmem) _ (List.mem_cons_self ..) rfl
  have hafter : (after.filterMap Place.entry?).filterMap (c.entry? react) =
      after.filterMap Place.entry? := Call.filterMap_of_absent fun hmem =>
    hn.2.1.1 ((Place.names_sublist after).mem hmem)
  have hentry : q.entry? = some (q.name, h) := by rw [Place.entry?, hq]; rfl
  have hcall : c.entry? react (q.name, h) = Place.entry? { q with
      handler := if (c.reaction react).leaves then none else some (c.reaction react).handler } := by
    rw [Call.entry?, if_pos (show (q.name, h).1 = c.view.name from rfl), Place.entry?,
      apply_ite (Option.map _)]
    rfl
  rw [Happening.mark, entries, entries, hsplit, List.filterMap_append, List.filterMap_append,
    hbefore, List.filterMap_cons_some hentry, List.filterMap_cons, hafter, hcall, Scene.react,
    List.filterMap_append, List.filterMap_cons]

end Scene

theorem Delivers.entries_eq {react : React σ σ ω} {now : Instant} {s s' : Scene σ ω}
    {hops : List Hop} {l : List (Happening σ ω)} (hd : Delivers react now s hops l s')
    (hn : (s.places.map (·.name)).Nodup) :
    s'.entries = l.foldl (fun row x => x.mark react row) s.entries := by
  induction hd with
  | done s => rfl
  | leave _ _ ih => exact ih hn
  | @call s s₁ s' hop hops inner outer before after q h c hland hsplit hq hc hin hout ihin ihout =>
    have hreact : (s.react before q after (c.reaction react)).places.map (·.name) =
        s.places.map (·.name) := by
      rw [hsplit]
      simp [Scene.react]
    have hnames : s₁.places.map (·.name) = s.places.map (·.name) := by
      have h := congrArg (List.map Prod.snd) hin.places_eq.1
      rw [List.map_map, List.map_map] at h
      exact h.trans hreact
    rw [ihout (hnames ▸ hn), ihin (hreact ▸ hn), List.foldl_cons, List.foldl_append, hc,
      Scene.entries_react hn hsplit hq]

theorem Roster.entries_follow (react : React σ σ ω) (r : Roster σ) (l : List (Happening σ ω)) :
    (r.follow react l).entries = l.foldl (fun row x => x.mark react row) r.entries := by
  induction l generalizing r with
  | nil => rfl
  | cons x l ih => exact ih _

theorem Roster.evolves_of_follow {react : React σ σ ω} {r : Roster σ} {l : List (Happening σ ω)}
    {z : StageName × σ} (hz : z ∈ (r.follow react l).entries) :
    ∃ y ∈ r.entries, y.1 = z.1 ∧ Relation.ReflTransGen (Evolves react) y.2 z.2 := by
  induction l generalizing r with
  | nil => exact ⟨z, hz, rfl, .refl⟩
  | cons x l ih =>
    obtain ⟨y, hy, hname, hyz⟩ := ih hz
    cases x with
    | left s => exact ⟨y, hy, hname, hyz⟩
    | called c =>
      obtain ⟨v, hv, hentry⟩ := List.mem_filterMap.1 hy
      obtain ⟨hvy, hevolves⟩ := Call.evolves_of_entry hentry
      exact ⟨v, hv, hvy.symm.trans hname, hevolves.trans hyz⟩

namespace Pipeline

variable {b : Behaviour σ ω} {p : Pipeline σ} {r : Roster σ} {past : List (Exchange σ ω)}
  {t : Exchange σ ω} {w w' : ω}

/-- A pipeline that a roster accounts for, after some calls. -/
structure Kept (b : Behaviour σ ω) (past : List (Exchange σ ω)) (r : Roster σ) (p : Pipeline σ) :
    Prop where
  wellFormed : p.WellFormed
  lists : r.Lists p
  /-- What stands under a name was added there last, and has had calls since. -/
  origin : ∀ y ∈ r.entries, ∃ h, lastAdded? y.1 past = some h ∧
    Relation.ReflTransGen (Evolves b.react) h y.2

theorem sight_of_lists {a : Answer σ} (ha : t.answer = a) (hl : r.Lists t.after) :
    t.sight = r.sight a := by
  have hcontains : t.after.contains = fun n => decide (n ∈ r.names) :=
    funext fun n => by rw [contains_eq, names_of_lists hl]
  rw [Exchange.sight, Roster.sight, ha, names_of_lists hl, hcontains, funext (get?_of_lists hl)]

theorem lastAdded?_append_none {n : StageName} (ht : t.added? n = none) :
    lastAdded? n (past ++ [t]) = lastAdded? n past := by
  rw [lastAdded?, List.filterMap_append, List.filterMap_cons_none ht]
  exact congrArg _ (List.append_nil _)

theorem lastAdded?_append_some {n : StageName} {h : σ} (ht : t.added? n = some h) :
    lastAdded? n (past ++ [t]) = some h := by
  rw [lastAdded?, List.filterMap_append, List.filterMap_cons_some ht]
  exact List.getLast?_concat ..

section Add

variable {place : StagePlace} {n : StageName} {h : σ}

theorem addAll_of_ok {q : Pipeline σ} {rest : List (StagePlace × StageName × σ)}
    (hq : p.add place n h = .ok q) : p.addAll ((place, n, h) :: rest) = q.addAll rest := by
  rw [addAll, hq]

theorem addAll_of_error {e : PipelineError} {rest : List (StagePlace × StageName × σ)}
    (he : p.add place n h = .error e) : p.addAll ((place, n, h) :: rest) = (p, some e) := by
  rw [addAll, he]

/-- An addition is refused as the roster refuses it, and leaves the pipeline alone; or the stage
comes to where the roster puts it. -/
theorem add_of_lists (place : StagePlace) (n : StageName) (h : σ) (hl : r.Lists p) :
    (∃ e, p.add place n h = .error e ∧ r.enter place n h = .error e) ∨
      ∃ q r', p.add place n h = .ok q ∧ r.enter place n h = .ok r' ∧ r'.Lists q ∧
        r'.entries.Perm ((n, h) :: r.entries) ∧ n ∉ r.names := by
  have hnames := names_of_lists hl
  cases hi : place.index? p.names with
  | none =>
    obtain ⟨base, hplace, hbase⟩ := StagePlace.index?_eq_none.1 hi
    exact .inl ⟨_, add_of_missing hplace hbase n h, Roster.enter_of_missing hplace (hnames ▸ hbase)⟩
  | some i =>
    have hmem : ∀ base, place.base? = some base → base ∈ r.names :=
      hnames ▸ StagePlace.index?_isSome.1 (Option.isSome_iff_exists.2 ⟨i, hi⟩)
    rw [hnames] at hi
    rw [add_of_index (hnames.symm ▸ hi), insertAt, contains_eq, hnames]
    rcases Roster.enter_of_known (n := n) (h := h) hmem with ⟨hn, henter⟩ | ⟨hn, r', henter, hr'⟩
    · exact .inl ⟨_, if_pos (decide_eq_true hn), henter⟩
    · refine .inr ⟨_, r', if_neg (by simpa using hn), henter, ?_, ?_, hn⟩
      · rw [Roster.Lists, hr', StagePlace.put_eq_insertIdx r.distinct hi, List.map_insertIdx,
          List.map_insertIdx, hl]
      · exact hr' ▸ StagePlace.put_perm r.distinct hmem

end Add

theorem remove_of_lists (hl : r.Lists p) (n : StageName) :
    (p.remove n).1 = r.get? n ∧ (r.strike n).Lists (p.remove n).2 := by
  have hnames := names_of_lists hl
  have hposition := positionOf_eq p n
  rw [hnames] at hposition
  rw [remove]
  cases hi : r.names.findIdx? (· == n) with
  | none =>
    have habsent : n ∉ r.names := fun hmem =>
      beq_eq_false_iff_ne.1 (List.findIdx?_eq_none_iff.1 hi n hmem) rfl
    obtain ⟨hget, hstrike⟩ := Roster.strike_of_absent habsent
    rw [hposition, hi, hget, Roster.Lists, hstrike]
    exact ⟨rfl, hl⟩
  | some i =>
    obtain ⟨front, y, back, hsplit, rfl, hget, hstrike⟩ := Roster.strike_of_index hi
    have hstage : p.stages[front.length]?.bind (·.slot) = some y.2 := by
      have h := congrArg (·[front.length]?.bind Prod.snd) hl
      simpa [hsplit, Option.bind_map, Function.comp_def] using h
    rw [hposition, hi, hget]
    refine ⟨hstage, ?_⟩
    rw [Roster.Lists, hstrike, ← List.eraseIdx_map, hl, hsplit, List.eraseIdx_map]
    simp [List.eraseIdx_append_of_length_le]

theorem WellFormed.remove_of_none {n : StageName} (hp : p.WellFormed) (hn : (p.remove n).1 = none) :
    (p.remove n).2 = p := by
  rw [Pipeline.remove] at hn ⊢
  cases hi : positionOf p.stages n with
  | none => rfl
  | some i =>
    obtain ⟨hlt, -⟩ := List.findIdx?_eq_some_iff_getElem.1 hi
    obtain ⟨h, hh⟩ := hp.full _ (List.getElem_mem hlt)
    rw [hi] at hn
    dsimp only at hn
    rw [List.getElem?_eq_getElem hlt, Option.bind_some, hh] at hn
    cases hn

theorem send_of_lists (hp : p.WellFormed) (hl : r.Lists p) {now : Instant} {sig : Signal}
    {q : Pipeline σ} (hq : p.perform b now sig w = some (q, w')) :
    q.WellFormed ∧ (r.follow b.react (p.history b now (p.entry sig) w)).Lists q := by
  rw [perform_eq] at hq
  obtain ⟨s, hd, rfl, -⟩ := hp.delivers hq
  refine ⟨hp.of_delivers hd, ?_⟩
  have hnames : ((Scene.ofPipeline p w).places.map (·.name)).Nodup := by
    have h := congrArg (List.map Prod.snd) (tags_eq_places p w)
    rw [List.map_map] at h
    exact h ▸ hp.names
  have hstart : (Scene.ofPipeline p w).entries = r.entries := by
    have h := Scene.entries_pipeline (Scene.ofPipeline p w)
    rw [hp.pipeline_ofPipeline, hl] at h
    exact (List.map_injective_iff.2 (fun x y hxy => by grind) h).symm
  rw [Roster.Lists, Scene.entries_pipeline, hd.entries_eq hnames, hstart, Roster.entries_follow]

theorem Kept.origin_of_old {r' : Roster σ} (hk : Kept b past r p)
    (hold : ∀ z ∈ r'.entries, t.added? z.1 = none ∧
      ∃ y ∈ r.entries, y.1 = z.1 ∧ Relation.ReflTransGen (Evolves b.react) y.2 z.2) :
    ∀ z ∈ r'.entries, ∃ h, lastAdded? z.1 (past ++ [t]) = some h ∧
      Relation.ReflTransGen (Evolves b.react) h z.2 := by
  intro z hz
  obtain ⟨hnone, y, hy, hname, hyz⟩ := hold z hz
  obtain ⟨h, hadded, hhy⟩ := hk.origin y hy
  exact ⟨h, by rw [lastAdded?_append_none hnone, ← hname, hadded], hhy.trans hyz⟩

/-- A call is answered as the roster answers it, and a call that fails changes nothing. -/
theorem Kept.ask {x : Request σ} (hk : Kept b past r p) (ht : p.ask b w x = some (t, w')) :
    let y := r.answer b.react t.happenings x
    t.request = x ∧ t.sight = y.2.sight y.1 ∧ (t.answer.Fails → t.after = t.before) ∧
      Kept b (past ++ [t]) y.2 t.after := by
  cases x with
  | add place n h =>
    rcases add_of_lists place n h hk.lists with
      ⟨e, hadd, henter⟩ | ⟨q, r', hadd, henter, hlists, hperm, hn⟩
    · rw [Pipeline.ask, addAll_of_error hadd] at ht
      obtain ⟨rfl, -⟩ := Prod.mk.inj (Option.some.inj ht)
      rw [Roster.answer, henter]
      exact ⟨rfl, sight_of_lists rfl hk.lists, fun _ => rfl, hk.wellFormed, hk.lists,
        hk.origin_of_old fun z hz => ⟨rfl, z, hz, rfl, .refl⟩⟩
    · rw [Pipeline.ask, addAll_of_ok hadd] at ht
      obtain ⟨rfl, -⟩ := Prod.mk.inj (Option.some.inj ht)
      rw [Roster.answer, henter]
      refine ⟨rfl, sight_of_lists rfl hlists, False.elim, hk.wellFormed.add hadd, hlists, ?_⟩
      intro z hz
      rcases List.mem_cons.1 (hperm.mem_iff.1 hz) with rfl | hz
      · exact ⟨h, lastAdded?_append_some (if_pos rfl), .refl⟩
      · have hne : n ≠ z.1 := fun hname => hn (hname ▸ List.mem_map_of_mem hz)
        obtain ⟨h', hadded, hh'⟩ := hk.origin z hz
        -- an addition under another name does not count
        have hother : Exchange.added? z.1
            (⟨.add place n h, [], .done, p, q⟩ : Exchange σ ω) = none := if_neg hne
        exact ⟨h', (lastAdded?_append_none hother).trans hadded, hh'⟩
  | remove n =>
    obtain ⟨hhandler, hlists⟩ := remove_of_lists hk.lists n
    rw [Pipeline.ask] at ht
    obtain ⟨rfl, -⟩ := Prod.mk.inj (Option.some.inj ht)
    exact ⟨rfl, sight_of_lists (congrArg Answer.removed hhandler) hlists,
      hk.wellFormed.remove_of_none, hk.wellFormed.remove n, hlists,
      hk.origin_of_old fun z hz => ⟨rfl, z, (List.mem_filter.1 hz).1, rfl, .refl⟩⟩
  | send now sig =>
    obtain ⟨⟨q, w₁⟩, hq, hsome⟩ := Option.map_eq_some_iff.1 ht
    obtain ⟨rfl, -⟩ := Prod.mk.inj hsome
    obtain ⟨hwell, hlists⟩ := send_of_lists hk.wellFormed hk.lists hq
    exact ⟨rfl, sight_of_lists rfl hlists, False.elim, hwell, hlists,
      hk.origin_of_old fun z hz => ⟨rfl, Roster.evolves_of_follow hz⟩⟩

/-- Calls that a roster accounts for. -/
structure Dealings.Refines (b : Behaviour σ ω) (requests : List (Request σ)) (s : Dealings σ ω) :
    Prop where
  /-- What a caller sees after each call is what the roster shows. -/
  sights : s.exchanges.map Exchange.sight =
    Roster.empty.play b.react (s.exchanges.map fun t => (t.request, t.happenings))
  /-- A call that fails leaves everything as it was. -/
  failures : ∀ t ∈ s.exchanges, t.answer.Fails → t.after = t.before
  /-- A handler that is found was added last under its name, and has had calls since. -/
  origin : ∀ n h, s.pipeline.get? n = some h → ∃ h₀, lastAdded? n s.exchanges = some h₀ ∧
    Relation.ReflTransGen (Evolves b.react) h₀ h
  requests : s.exchanges.map (·.request) ++ s.unanswered = requests
  /-- Only a dispatch that does not end is not answered. -/
  unanswered : s.unanswered ≠ [] → ∃ now sig rest, s.unanswered = .send now sig :: rest ∧
    s.pipeline.perform b now sig s.world = none

theorem Kept.get?_origin {n : StageName} {h : σ} (hk : Kept b past r p) (hh : p.get? n = some h) :
    ∃ h₀, lastAdded? n past = some h₀ ∧ Relation.ReflTransGen (Evolves b.react) h₀ h := by
  rw [get?_of_lists hk.lists] at hh
  obtain ⟨y, hy, rfl⟩ := Option.map_eq_some_iff.1 hh
  have hname : y.1 = n := by simpa using List.find?_some hy
  exact hname ▸ hk.origin y (List.mem_of_find?_eq_some hy)

theorem ask_eq_none {x : Request σ} (hx : p.ask b w x = none) :
    ∃ now sig, x = .send now sig ∧ p.perform b now sig w = none := by
  cases x with
  | add place n h => cases hx
  | remove n => cases hx
  | send now sig => exact ⟨now, sig, rfl, Option.map_eq_none_iff.1 hx⟩

theorem serve_of_none {x : Request σ} {xs : List (Request σ)} (hx : p.ask b w x = none) :
    p.serve b w (x :: xs) = ⟨[], p, w, x :: xs⟩ := by
  rw [serve, hx]

theorem serve_of_some {x : Request σ} {xs : List (Request σ)} (ht : p.ask b w x = some (t, w')) :
    p.serve b w (x :: xs) =
      { t.after.serve b w' xs with exchanges := t :: (t.after.serve b w' xs).exchanges } := by
  rw [serve, ht]

theorem Kept.serve {requests : List (Request σ)} {s : Dealings σ ω} (hk : Kept b past r p)
    (hs : p.serve b w requests = s) :
    s.exchanges.map Exchange.sight =
        r.play b.react (s.exchanges.map fun t => (t.request, t.happenings)) ∧
      (∀ t ∈ s.exchanges, t.answer.Fails → t.after = t.before) ∧
      (∃ r', Kept b (past ++ s.exchanges) r' s.pipeline) ∧
      s.exchanges.map (·.request) ++ s.unanswered = requests ∧
      (s.unanswered ≠ [] → ∃ now sig rest, s.unanswered = .send now sig :: rest ∧
        s.pipeline.perform b now sig s.world = none) := by
  induction requests generalizing past r p w s with
  | nil =>
    obtain rfl := hs
    exact ⟨rfl, List.forall_mem_nil _, ⟨r, by rwa [← List.append_nil past] at hk⟩, rfl,
      fun h => (h rfl).elim⟩
  | cons x xs ih =>
    -- only a dispatch without end stays without an answer, and all that comes after it
    cases ht : p.ask b w x with
    | none =>
      obtain ⟨now, sig, rfl, hnone⟩ := ask_eq_none ht
      rw [serve_of_none ht] at hs
      subst hs
      exact ⟨rfl, List.forall_mem_nil _, ⟨r, by rwa [← List.append_nil past] at hk⟩, rfl,
        fun _ => ⟨now, sig, xs, rfl, hnone⟩⟩
    | some y =>
      obtain ⟨t, w'⟩ := y
      rw [serve_of_some ht] at hs
      subst hs
      obtain ⟨hrequest, hsight, hfails, hkept⟩ := hk.ask ht
      obtain ⟨hsights, hfailures, ⟨r', hend⟩, hrequests, hunanswered⟩ := ih hkept rfl
      refine ⟨?_, List.forall_mem_cons.2 ⟨hfails, hfailures⟩, ⟨r', ?_⟩, ?_, hunanswered⟩
      · rw [List.map_cons, List.map_cons, Roster.play, hsight, hsights, hrequest]
      · rwa [List.append_assoc] at hend
      · rw [List.map_cons, List.cons_append, hrequests, hrequest]

/-- A pipeline answers additions, removals and signals as a duplicate-free row of names with
handlers does. -/
theorem serve_refines_roster (b : Behaviour σ ω) (channel : Channel) (w : ω)
    (requests : List (Request σ)) : ((new channel).serve b w requests).Refines b requests := by
  have hkept : Kept b [] Roster.empty (new channel) :=
    ⟨(Built.new (ω := ω) channel).wellFormed, rfl, nofun⟩
  obtain ⟨hsights, hfailures, ⟨r, hend⟩, hrequests, hunanswered⟩ := hkept.serve (w := w) rfl
  exact ⟨hsights, hfailures, fun n h hh => hend.get?_origin hh, hrequests, hunanswered⟩

/-- A stage is put before another, stands in the way of a second one of its name, leaves in a
dispatch and is added again. -/
example :
    let s := (new ⟨0, none⟩).serve (doubling.within 9) ()
      [.add .last .codec false, .add (.before .codec) .ssl true, .add (.after .codec) .ssl false,
        .send 0 (.inbound .registered), .add .first .ssl false, .remove .logging]
    s.exchanges.map (·.after.names) =
      [[.codec], [.ssl, .codec], [.ssl, .codec], [.codec], [.ssl, .codec], [.ssl, .codec]] :=
  rfl

end Pipeline
end SecureGateway

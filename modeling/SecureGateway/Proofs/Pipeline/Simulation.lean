import Mathlib.Data.List.Induction
import SecureGateway.Proofs.Pipeline.Resolution

namespace SecureGateway

variable {σ ω : Type} {row before after places : List (Place σ)} {q q' : Place σ} {h : σ}
  {departed : List Departed} {inbound : Bool} {b : Behaviour σ ω} {now : Instant}
  {s : Scene σ ω} {d : Dispatch σ ω} {hop : Hop} {rest : List Hop}

theorem becomes_at (hq : q.handler = some h) (hid : q'.id = q.id) :
    List.Forall₂ Place.Becomes (before ++ q :: after) (before ++ q' :: after) := by
  induction before with
  | nil => exact .cons ⟨hid, by simp [hq]⟩ (List.forall₂_same.2 fun x _ => .refl x)
  | cons x before ih => exact .cons (.refl x) ih

theorem append_cons_cases {α : Type} {xs ys front back : List α} {x y : α}
    (h : xs ++ x :: ys = front ++ y :: back) :
    (∃ mid, front = xs ++ x :: mid ∧ ys = mid ++ y :: back) ∨
      (xs = front ∧ x = y ∧ ys = back) ∨
      ∃ mid, xs = front ++ y :: mid ∧ back = mid ++ x :: ys := by
  rcases List.append_eq_append_iff.1 h with ⟨mid, rfl, htail⟩ | ⟨mid, rfl, htail⟩
  · cases mid with
    | nil =>
      obtain ⟨rfl, rfl⟩ := List.cons_eq_cons.1 htail
      exact .inr (.inl ⟨by simp, rfl, rfl⟩)
    | cons z mid =>
      obtain ⟨rfl, rfl⟩ := List.cons_eq_cons.1 htail
      exact .inl ⟨mid, rfl, rfl⟩
  · cases mid with
    | nil =>
      obtain ⟨rfl, rfl⟩ := List.cons_eq_cons.1 htail
      exact .inr (.inl ⟨by simp, rfl, rfl⟩)
    | cons z mid =>
      obtain ⟨rfl, rfl⟩ := List.cons_eq_cons.1 htail
      exact .inr (.inr ⟨mid, rfl, rfl⟩)

theorem Linked.change {more : List Departed} (hl : Linked (before ++ q :: after) departed inbound)
    (hq : q.handler = some h) (hid : q'.id = q.id)
    (hleft : q'.handler = none → ∃ gone, (departed ++ more).find? (·.id == q.id) = some gone ∧
      LeadsInto after (gone.link inbound)) :
    Linked (before ++ q' :: after) (departed ++ more) inbound := by
  intro front x back hrow hx
  -- the vacant place is behind the changed one, is the changed one, or is before it
  rcases append_cons_cases hrow with ⟨mid, rfl, rfl⟩ | ⟨rfl, rfl, rfl⟩ | ⟨mid, rfl, rfl⟩
  · obtain ⟨gone, hgone, hlead⟩ := hl (before ++ q :: mid) x back (by simp) hx
    exact ⟨gone, by rw [List.find?_append, hgone, Option.some_or], hlead⟩
  · rw [hid]
    exact hleft hx
  · obtain ⟨gone, hgone, hlead⟩ := hl front x (mid ++ q :: after) (by simp) hx
    exact ⟨gone, by rw [List.find?_append, hgone, Option.some_or],
      hlead.becomes (becomes_at hq hid)⟩

/-- A row stays linked when a stage of it is called: one that leaves has a pointer from then on. -/
theorem Linked.react (hl : Linked (before ++ q :: after) departed inbound) (hq : q.handler = some h)
    (hfresh : departed.find? (·.id == q.id) = none) (gone : Departed) (hid : gone.id = q.id)
    (hlead : LeadsInto after (gone.link inbound)) (r : Reaction σ ω) :
    Linked (before ++ { q with handler := if r.leaves then none else some r.handler } :: after)
      (if r.leaves then departed ++ [gone] else departed) inbound := by
  cases r.leaves with
  | false =>
    have hsame : Linked (before ++ { q with handler := some r.handler } :: after)
        (departed ++ []) inbound := hl.change hq rfl nofun
    rwa [List.append_nil] at hsame
  | true =>
    refine hl.change hq rfl fun _ => ⟨gone, ?_, hlead⟩
    rw [List.find?_append, hfresh, Option.none_or, List.find?_cons_of_pos (by simp [hid])]

theorem Hop.exists_split_of_landing (hop : Hop) (hland : hop.landing places = some q) :
    ∃ before after h, places = before ++ q :: after ∧ q.handler = some h := by
  obtain ⟨id, -, hfind⟩ := Option.bind_eq_some_iff.1 hland
  have hstands : q.stands = true := List.find?_some hfind
  obtain ⟨h, hh⟩ := Option.isSome_iff_exists.1 hstands
  have hmem := (List.dropWhile_sublist _).mem (List.mem_of_find?_eq_some hfind)
  have hplaces : q ∈ places := by
    cases hop with
    | inbound t sig => exact hmem
    | outbound t op => exact List.mem_reverse.1 hmem
  obtain ⟨before, after, hsplit⟩ := List.append_of_mem hplaces
  exact ⟨before, after, h, hsplit, hh⟩

theorem nearest_eq_head (row : List (Place σ)) :
    nearest row = (row.filterMap Place.stage?).head?.map (·.id) := by
  induction row with
  | nil => rfl
  | cons q row ih =>
    cases hq : q.handler with
    | some h => simp [nearest, Place.stands, Place.stage?, hq]
    | none => simpa [nearest, Place.stands, Place.stage?, hq] using ih

theorem nearest_reverse (row : List (Place σ)) :
    nearest row.reverse = (row.filterMap Place.stage?).getLast?.map (·.id) := by
  rw [nearest_eq_head, List.filterMap_reverse, List.head?_reverse]

section Positions

variable {A B : List (Stage σ)} {st : Stage σ}

theorem idAt_append (A B : List (Stage σ)) : idAt (A ++ B) A.length = B.head?.map (·.id) := by
  rw [idAt, List.getElem?_append_right (Nat.le_refl _), Nat.sub_self, List.head?_eq_getElem?]

theorem idAt_append_cons (A B : List (Stage σ)) (st : Stage σ) :
    idAt (A ++ st :: B) (A.length + 1) = B.head?.map (·.id) := by
  have h := idAt_append (A ++ [st]) B
  rwa [List.append_assoc, List.length_append] at h

theorem idBefore_append (A B : List (Stage σ)) :
    idBefore (A ++ B) A.length = A.getLast?.map (·.id) := by
  induction A using List.reverseRecOn with
  | nil => rfl
  | append_singleton A st =>
    rw [List.length_append, List.length_singleton, idBefore, List.append_assoc, idAt_append]
    simp

theorem idAt_zero (stages : List (Stage σ)) :
    idAt stages 0 = (stages.map Place.ofStage).head?.map (·.id) := by
  rw [idAt, List.head?_map, List.head?_eq_getElem?, Option.map_map]
  rfl

theorem fromPosition_of_left (A B : List (Stage σ)) :
    Hop.fromPosition (A ++ B) A.length true =
      fun | .inbound s => .inbound (B.head?.map (·.id)) s
          | .outbound op => .outbound (A.getLast?.map (·.id)) op := by
  funext sig
  cases sig with
  | inbound s => simp only [Hop.fromPosition, if_true, idAt_append]
  | outbound op => simp only [Hop.fromPosition, idBefore_append]

theorem fromPosition_of_stays (A B : List (Stage σ)) (st : Stage σ) :
    Hop.fromPosition (A ++ st :: B) A.length false =
      fun | .inbound s => .inbound (B.head?.map (·.id)) s
          | .outbound op => .outbound (A.getLast?.map (·.id)) op := by
  funext sig
  cases sig with
  | inbound s => simp only [Hop.fromPosition, Bool.false_eq_true, if_false, idAt_append_cons]
  | outbound op => simp only [Hop.fromPosition, idBefore_append]

end Positions

theorem fromPosition_eq (before after : List (Place σ)) (q : Place σ) (r : Reaction σ ω) :
    Hop.fromPosition
        ((before ++ { q with
            handler := if r.leaves then none else some r.handler } :: after).filterMap Place.stage?)
        (before.filterMap Place.stage?).length r.leaves =
      Signal.hopBetween before after := by
  rw [List.filterMap_append, List.filterMap_cons]
  cases r.leaves with
  | true =>
    funext sig
    simp only [Place.stage?, if_true, Option.map_none, fromPosition_of_left]
    cases sig with
    | inbound s => simp only [Signal.hopBetween, nearest_eq_head]
    | outbound op => simp only [Signal.hopBetween, nearest_reverse]
  | false =>
    funext sig
    simp only [Place.stage?, Bool.false_eq_true, if_false, Option.map_some, fromPosition_of_stays]
    cases sig with
    | inbound s => simp only [Signal.hopBetween, nearest_eq_head]
    | outbound op => simp only [Signal.hopBetween, nearest_reverse]

/-- The dispatch is at the same point as the scene, and knows its way past the vacant places. -/
structure Mirrors (s : Scene σ ω) (d : Dispatch σ ω) : Prop where
  unique : (s.places.map (·.id)).Nodup
  pipeline : d.pipeline = s.pipeline
  world : d.world = s.world
  known : ∀ gone ∈ d.departed, ∃ q ∈ s.places, q.id = gone.id ∧ q.handler = none
  ahead : Linked s.places d.departed true
  back : Linked s.places.reverse d.departed false
  room : s.places.countP (fun q => !q.stands) ≤ d.departed.length

namespace Mirrors

theorem position_eq (m : Mirrors s d) (hop : Hop) :
    hop.position? d.pipeline.stages d.departed =
      (hop.landing s.places).bind fun q =>
        positionOfId (s.places.filterMap Place.stage?) q.id := by
  rw [m.pipeline]
  cases hop with
  | inbound t sig => exact resolve_eq m.unique (.refl _) m.ahead m.known m.room t
  | outbound t op => exact resolve_eq m.unique (List.reverse_perm _) m.back m.known m.room t

theorem step_leave (m : Mirrors s d) (b : Behaviour σ ω) (now : Instant)
    (hq : d.queue = hop :: rest) (hland : hop.landing s.places = none) :
    Mirrors (s.arrive hop.signal) (d.step b now) ∧ (d.step b now).queue = rest := by
  have hpos : hop.position? d.pipeline.stages d.departed = none := by
    rw [m.position_eq, hland, Option.bind_none]
  have hstep : d.step b now =
      { d with queue := rest, pipeline := d.pipeline.arrive hop.signal } := by
    simp only [Dispatch.step, hq, hpos]
  rw [hstep]
  refine ⟨⟨m.unique, ?_, m.world, m.known, m.ahead, m.back, m.room⟩, rfl⟩
  rw [m.pipeline, Scene.pipeline, Scene.pipeline, Scene.arrive]
  cases hop with
  | inbound t sig => rfl
  | outbound t op => cases op <;> rfl

theorem stages_eq (m : Mirrors s d) (hsplit : s.places = before ++ q :: after)
    (hh : q.handler = some h) :
    d.pipeline.stages =
      before.filterMap Place.stage? ++ ⟨q.id, q.name, some h⟩ :: after.filterMap Place.stage? := by
  rw [m.pipeline, Scene.pipeline, hsplit]
  simp [Place.stage?, hh]

theorem position_of_landing (m : Mirrors s d) (hsplit : s.places = before ++ q :: after)
    (hland : hop.landing s.places = some q) (hh : q.handler = some h) :
    hop.position? d.pipeline.stages d.departed = some (before.filterMap Place.stage?).length := by
  have hn := m.unique
  rw [hsplit] at hn
  rw [m.position_eq, hland, Option.bind_some, hsplit, positionOfId_split hn hh]

theorem call_eq (m : Mirrors s d) (hsplit : s.places = before ++ q :: after)
    (hh : q.handler = some h) (sig : Signal) :
    d.call b now (before.filterMap Place.stage?).length ⟨q.id, q.name, some h⟩ h sig =
      let r := (s.call now before q after sig h).reaction b.react
      { pipeline := (s.react before q after r).pipeline
        world := r.world
        departed := if r.leaves then
            d.departed ++ [⟨q.id, nearest after, nearest before.reverse⟩]
          else d.departed
        queue := r.emitted.map (Signal.hopBetween before after) ++ d.queue } := by
  have hstages := m.stages_eq hsplit hh
  have hends : d.pipeline.channel = s.ends.channel := by rw [m.pipeline]; rfl
  -- the handler is asked the same, so everything else follows from one reaction `r`
  have hview : b.react ⟨d.pipeline.channel, q.name,
      d.pipeline.stages.set (before.filterMap Place.stage?).length ⟨q.id, q.name, none⟩, now⟩
      sig h d.world = (s.call now before q after sig h).reaction b.react := by
    rw [hstages, hends, m.world, Scene.call, Call.reaction]
    simp
  simp only [Dispatch.call, hview]
  generalize (s.call now before q after sig h).reaction b.react = r
  have hafter : (if r.leaves = true then
        d.pipeline.stages.eraseIdx (before.filterMap Place.stage?).length
      else d.pipeline.stages.set (before.filterMap Place.stage?).length
        ⟨q.id, q.name, some r.handler⟩) = (s.react before q after r).pipeline.stages := by
    rw [hstages, Scene.pipeline, Scene.react]
    cases r.leaves <;>
      simp [Place.stage?, List.filterMap_cons, List.eraseIdx_append_of_length_le]
  rw [hafter]
  congr 1
  · rw [m.pipeline]
    rfl
  · rw [hstages, idAt_append_cons, idBefore_append, nearest_eq_head, nearest_reverse]
  · congr 2
    exact fromPosition_eq before after q r

theorem fresh (m : Mirrors s d) (hmem : q ∈ s.places) (hh : q.handler = some h) :
    d.departed.find? (·.id == q.id) = none := by
  rw [List.find?_eq_none]
  intro gone hgone hid
  obtain ⟨x, hx, hxid, hnone⟩ := m.known gone hgone
  have hxq := eq_of_id_eq m.unique hx hmem (by simpa [hxid] using hid)
  rw [hxq, hh] at hnone
  cases hnone

theorem known_react (m : Mirrors s d) (hsplit : s.places = before ++ q :: after)
    (hh : q.handler = some h) {gone : Departed} (hid : gone.id = q.id) (r : Reaction σ ω) :
    ∀ x ∈ if r.leaves then d.departed ++ [gone] else d.departed,
      ∃ y ∈ (s.react before q after r).places, y.id = x.id ∧ y.handler = none := by
  intro x hx
  have hcases : x ∈ d.departed ∨ r.leaves = true ∧ x = gone := by
    cases hl : r.leaves with
    | false =>
      rw [hl] at hx
      exact .inl hx
    | true =>
      rw [hl] at hx
      exact (List.mem_append.1 hx).imp id fun hx => ⟨rfl, List.mem_singleton.1 hx⟩
  rcases hcases with hx | ⟨hl, rfl⟩
  · obtain ⟨y, hy, hyid, hnone⟩ := m.known x hx
    refine ⟨y, ?_, hyid, hnone⟩
    -- a vacant place is not the one of the call
    rw [hsplit] at hy
    rcases List.mem_append.1 hy with hy | hy
    · exact List.mem_append_left _ hy
    · rcases List.mem_cons.1 hy with rfl | hy
      · rw [hh] at hnone
        cases hnone
      · exact List.mem_append_right _ (List.mem_cons_of_mem _ hy)
  · exact ⟨_, List.mem_append_right _ (List.mem_cons_self ..), hid.symm, by rw [if_pos hl]⟩

theorem react (m : Mirrors s d) (hsplit : s.places = before ++ q :: after)
    (hh : q.handler = some h) (r : Reaction σ ω) (queue : List Hop) :
    Mirrors (s.react before q after r)
      { pipeline := (s.react before q after r).pipeline
        world := r.world
        departed := if r.leaves then
            d.departed ++ [⟨q.id, nearest after, nearest before.reverse⟩]
          else d.departed
        queue } := by
  let gone : Departed := ⟨q.id, nearest after, nearest before.reverse⟩
  have hfresh := m.fresh (by simp [hsplit]) hh
  refine ⟨?_, rfl, rfl, m.known_react hsplit hh rfl r, ?_, ?_, ?_⟩
  · have hn := m.unique
    rw [hsplit] at hn
    simpa [Scene.react] using hn
  · have hahead : Linked (before ++ q :: after) d.departed true := hsplit ▸ m.ahead
    exact hahead.react hh hfresh gone rfl (leadsInto_nearest after) r
  · -- the pointers to the front are those of the reversed row
    have hback : Linked (after.reverse ++ q :: before.reverse) d.departed false := by
      have := m.back
      rwa [hsplit, List.reverse_append, List.reverse_cons, List.append_assoc] at this
    rw [Scene.react, List.reverse_append, List.reverse_cons, List.append_assoc]
    exact hback.react hh hfresh gone rfl (leadsInto_nearest before.reverse) r
  · have hroom := m.room
    rw [hsplit] at hroom
    cases hl : r.leaves <;> simp [Scene.react, Place.stands, hh, hl] at hroom ⊢ <;> omega

theorem step_call (m : Mirrors s d) (b : Behaviour σ ω) (now : Instant)
    (hq : d.queue = hop :: rest)
    (hland : hop.landing s.places = some q) (hsplit : s.places = before ++ q :: after)
    (hh : q.handler = some h) {c : Call σ ω} (hc : c = s.call now before q after hop.signal h) :
    Mirrors (s.react before q after (c.reaction b.react)) (d.step b now) ∧
      (d.step b now).queue =
        (c.reaction b.react).emitted.map (Signal.hopBetween before after) ++ rest := by
  have hstage : d.pipeline.stages[(before.filterMap Place.stage?).length]? =
      some ⟨q.id, q.name, some h⟩ := by
    rw [m.stages_eq hsplit hh]
    simp
  have m' : Mirrors s { d with queue := rest } :=
    ⟨m.unique, m.pipeline, m.world, m.known, m.ahead, m.back, m.room⟩
  have hstep : d.step b now = { d with queue := rest }.call b now
      (before.filterMap Place.stage?).length ⟨q.id, q.name, some h⟩ h hop.signal := by
    simp only [Dispatch.step, hq, m.position_of_landing hsplit hland hh, Dispatch.deliver, hstage]
  rw [hstep, m'.call_eq hsplit hh, ← hc]
  exact ⟨m.react hsplit hh _ _, rfl⟩

end Mirrors
end SecureGateway

import SecureGateway.Proofs.Pipeline.Invariant

namespace SecureGateway

variable {σ ω : Type} {b : Behaviour σ ω} {now : Instant} {names : List StageName}

def Happening.leaver? (react : React σ σ ω) : Happening σ ω → Option StageName
  | called c => if (c.reaction react).leaves then some c.view.name else none
  | left _ => none

namespace Dispatch

/-- The stages whose handlers asked to leave within so many steps. -/
def leavers (b : Behaviour σ ω) (now : Instant) (n : Nat) (d : Dispatch σ ω) : List StageName :=
  (d.history b now n).filterMap (Happening.leaver? b.react)

theorem history_add_one (b : Behaviour σ ω) (now : Instant) (n : Nat) (d : Dispatch σ ω) :
    d.history b now (n + 1) =
      d.history b now n ++ ((d.advance b now n).happening? now).toList := by
  induction n generalizing d with
  | zero =>
    have hstop : ∀ d' : Dispatch σ ω, d'.history b now 0 = [] := fun d' => by
      rw [history.eq_def]
      exact ite_self _
    cases hq : d.queue with
    | nil =>
      have hnone : d.happening? now = none := by rw [happening?, hq]
      rw [history_of_empty hq, hstop, advance, hnone]
      rfl
    | cons hop rest => rw [history_succ hq, hstop, hstop, advance, List.append_nil, List.nil_append]
  | succ n ih =>
    cases hq : d.queue with
    | nil =>
      have hnone : d.happening? now = none := by rw [happening?, hq]
      rw [history_of_empty hq, history_of_empty hq, advance_of_empty hq, hnone]
      rfl
    | cons hop rest => rw [history_succ hq, history_succ hq, ih, advance, List.append_assoc]

/-- A dispatch in a chain of these stages, from which those of the given names have left. -/
structure Thinned (now : Instant) (start : List (Stage σ)) (names : List StageName)
    (d : Dispatch σ ω) : Prop where
  standing : Pipeline.tags d.pipeline.stages = (Pipeline.tags start).filter (·.2 ∉ names)
  once : names.Nodup
  running : ∀ c, d.happening? now = some (.called c) →
    Pipeline.tags c.view.stages = Pipeline.tags d.pipeline.stages
  targets : ∀ hop ∈ d.queue, ∀ id, hop.target = some id → id ∈ start.map (·.id)
  /-- No walk goes on for ever, and none is given up. -/
  walks : ∀ id ∈ start.map (·.id), ∀ inbound,
    Walks d.pipeline.stages d.departed inbound (some id)
      (resolve d.pipeline.stages d.departed inbound d.departed.length (some id))
  /-- Inbound it comes to the first stage at the target or behind it. -/
  behind : ∀ id ∈ start.map (·.id),
    resolve d.pipeline.stages d.departed true d.departed.length (some id) =
      (((start.map (·.id)).dropWhile (· != id)).find? (· ∈ d.pipeline.stages.map (·.id))).bind
        (positionOfId d.pipeline.stages)
  /-- Outbound it comes to the first stage at the target or before it. -/
  before : ∀ id ∈ start.map (·.id),
    resolve d.pipeline.stages d.departed false d.departed.length (some id) =
      (((start.map (·.id)).reverse.dropWhile (· != id)).find?
        (· ∈ d.pipeline.stages.map (·.id))).bind (positionOfId d.pipeline.stages)

end Dispatch

namespace Scene

variable {s s' : Scene σ ω} {hop : Hop} {rest hops : List Hop}

/-- The vacant places are those of the stages that left. -/
structure Lacks (s : Scene σ ω) (names : List StageName) : Prop where
  once : names.Nodup
  vacant : ∀ q ∈ s.places, q.handler = none ↔ q.name ∈ names

theorem tags_standing {row : List (Place σ)} (h : ∀ q ∈ row, q.handler = none ↔ q.name ∈ names) :
    Pipeline.tags (row.filterMap Place.stage?) =
      (row.map fun q => (q.id, q.name)).filter (·.2 ∉ names) := by
  induction row with
  | nil => rfl
  | cons q row ih =>
    have hq := h q (List.mem_cons_self ..)
    have htail := ih fun x hx => h x (List.mem_cons_of_mem _ hx)
    rw [List.map_cons]
    cases hh : q.handler with
    | none =>
      have hvacant : q.stage? = none := by rw [Place.stage?, hh]; rfl
      rw [List.filterMap_cons_none hvacant, List.filter_cons_of_neg (by simpa using hq.1 hh), htail]
    | some h =>
      have hstays : q.name ∉ names := fun hmem => by cases hh.symm.trans (hq.2 hmem)
      have hstage : q.stage? = some ⟨q.id, q.name, some h⟩ := by rw [Place.stage?, hh]; rfl
      rw [List.filterMap_cons_some hstage, List.filter_cons_of_pos (by simpa using hstays), ← htail]
      rfl

theorem lacks_ofPipeline {p : Pipeline σ} (hp : p.WellFormed) (w : ω) :
    (ofPipeline p w).Lacks [] := by
  refine ⟨List.nodup_nil, fun q hq => iff_of_false ?_ List.not_mem_nil⟩
  obtain ⟨st, hst, rfl⟩ := List.mem_map.1 hq
  obtain ⟨h, hh⟩ := hp.full st hst
  rw [Place.ofStage, hh]
  exact Option.some_ne_none h

theorem Lacks.react_stays {before after : List (Place σ)} {q : Place σ} {h : σ} (hl : s.Lacks names)
    (hsplit : s.places = before ++ q :: after) (hh : q.handler = some h) {r : Reaction σ ω}
    (hr : r.leaves = false) : (s.react before q after r).Lacks names := by
  refine ⟨hl.once, fun y hy => ?_⟩
  have hvacant := hl.vacant
  rw [hsplit] at hvacant
  rw [react, hr] at hy
  rcases List.mem_append.1 hy with hy | hy
  · exact hvacant y (List.mem_append_left _ hy)
  rcases List.mem_cons.1 hy with rfl | hy
  · have hq := hvacant q (List.mem_append_right _ (List.mem_cons_self ..))
    exact iff_of_false (Option.some_ne_none _) fun hmem => by cases hh.symm.trans (hq.2 hmem)
  · exact hvacant y (List.mem_append_right _ (List.mem_cons_of_mem _ hy))

theorem Lacks.react_leaves {before after : List (Place σ)} {q : Place σ} {h : σ} (hl : s.Lacks names)
    (hn : (s.places.map (·.name)).Nodup) (hsplit : s.places = before ++ q :: after)
    (hh : q.handler = some h) {r : Reaction σ ω} (hr : r.leaves = true) :
    (s.react before q after r).Lacks (names ++ [q.name]) := by
  obtain ⟨honce, hvacant⟩ := hl
  rw [hsplit] at hn hvacant
  rw [List.map_append, List.map_cons, List.nodup_append, List.nodup_cons] at hn
  have hstood : q.name ∉ names := fun hmem => by
    cases hh.symm.trans ((hvacant q (List.mem_append_right _ (List.mem_cons_self ..))).2 hmem)
  have hother : ∀ y ∈ before ++ q :: after, y.name ≠ q.name →
      (y.handler = none ↔ y.name ∈ names ++ [q.name]) := fun y hy hne => by
    rw [hvacant y hy, List.mem_append, List.mem_singleton]
    exact (or_iff_left hne).symm
  refine ⟨List.concat_eq_append ▸ honce.concat hstood, fun y hy => ?_⟩
  rw [react, hr] at hy
  rcases List.mem_append.1 hy with hy | hy
  · exact hother y (List.mem_append_left _ hy)
      (hn.2.2 _ (List.mem_map_of_mem hy) _ (List.mem_cons_self ..))
  rcases List.mem_cons.1 hy with rfl | hy
  · exact iff_of_true rfl (List.mem_append_right _ (List.mem_singleton.2 rfl))
  · exact hother y (List.mem_append_right _ (List.mem_cons_of_mem _ hy))
      fun heq => hn.2.1.1 (heq ▸ List.mem_map_of_mem hy)

theorem Lacks.takes {x : Delivery σ ω} (hl : s.Lacks names) (hn : (s.places.map (·.name)).Nodup)
    (h : Takes b.react now s hop rest x s' hops) :
    s'.Lacks (names ++ (x.happening.leaver? b.react).toList) := by
  cases h with
  | leave hland => exact (List.append_nil names).symm ▸ ⟨hl.once, hl.vacant⟩
  | @call before after q h c hland hsplit hh hc =>
    have hname : c.view.name = q.name := by rw [hc]; rfl
    cases hr : (c.reaction b.react).leaves with
    | false =>
      have hnone : (Happening.called c).leaver? b.react = none := by simp [Happening.leaver?, hr]
      rw [hnone, Option.toList_none, List.append_nil]
      exact hl.react_stays hsplit hh hr
    | true =>
      have hsome : (Happening.called c).leaver? b.react = some q.name := by
        simp [Happening.leaver?, hr, hname]
      rw [hsome, Option.toList_some]
      exact hl.react_leaves hn hsplit hh hr

end Scene

namespace Mirrors

variable {s : Scene σ ω} {d : Dispatch σ ω}

theorem tags_view {c : Call σ ω} (h : d.happening? now = some (.called c)) :
    Pipeline.tags c.view.stages = Pipeline.tags d.pipeline.stages := by
  unfold Dispatch.happening? at h
  split at h
  · cases h
  split at h
  · cases Option.some.inj h
  obtain ⟨stage, hstage, h⟩ := Option.bind_eq_some_iff.1 h
  obtain ⟨handler, -, hc⟩ := Option.map_eq_some_iff.1 h
  obtain rfl := Happening.called.inj hc
  obtain ⟨hi, rfl⟩ := List.getElem?_eq_some_iff.1 hstage
  have htags : _ < (Pipeline.tags d.pipeline.stages).length := List.length_map _ ▸ hi
  have hset := List.set_getElem_self htags
  simp only [Pipeline.tags, List.getElem_map] at hset
  -- emptying a slot changes neither identifier nor name
  simpa only [Pipeline.tags, List.map_set] using hset

theorem thinned {p : Pipeline σ} (m : Mirrors s d)
    (hplaces : s.places.map (fun q => (q.id, q.name)) = Pipeline.tags p.stages)
    (ha : s.Aimed d.queue) (hl : s.Lacks names) : d.Thinned now p.stages names := by
  have hids : s.places.map (·.id) = p.stages.map (·.id) := by
    have h := congrArg (List.map Prod.fst) hplaces
    rwa [Pipeline.tags, List.map_map, List.map_map] at h
  -- a walk does not depend on the signal that is on its way
  have hwalks : ∀ id ∈ p.stages.map (·.id), ∀ hop : Hop, hop.target = some id →
      Walks d.pipeline.stages d.departed hop.isInbound hop.target
        (hop.position? d.pipeline.stages d.departed) := by
    rintro id hid hop htarget
    refine m.walks fun id' htarget' => ?_
    obtain rfl := Option.some.inj (htarget.symm.trans htarget')
    exact hids ▸ hid
  exact {
    standing := by rw [m.pipeline, ← hplaces]; exact Scene.tags_standing hl.vacant
    once := hl.once
    running := fun c => tags_view
    targets := fun hop hhop id hid => hids ▸ ha hop hhop id hid
    walks := fun id hid inbound => by
      cases inbound with
      | true => exact hwalks id hid (.inbound (some id) .registered) rfl
      | false => exact hwalks id hid (.outbound (some id) .read) rfl
    behind := fun id _ => hids ▸ m.lands (.inbound (some id) .registered)
    before := fun id _ => hids ▸ m.lands (.outbound (some id) .read) }

end Mirrors

namespace Pipeline

variable {p : Pipeline σ}

theorem WellFormed.advance_lacks (hp : p.WellFormed) (b : Behaviour σ ω) (now : Instant)
    (sig : Signal) (w : ω) (n : Nat) :
    let d := Dispatch.ofHop p w (p.entry sig)
    ∃ s, Mirrors s (d.advance b now n) ∧
      s.places.map (fun q => (q.id, q.name)) = tags p.stages ∧
      s.Aimed (d.advance b now n).queue ∧ s.Lacks (d.leavers b now n) := by
  intro d
  -- one delivery adds one happening to the history and at most one stage to the leavers
  induction n with
  | zero =>
    have hnone : d.leavers b now 0 = [] := by
      rw [Dispatch.leavers, Dispatch.history.eq_def]
      exact congrArg _ (ite_self _)
    exact ⟨_, hp.mirrors w _, tags_eq_places p w, Scene.aimed_entry p w sig,
      hnone ▸ Scene.lacks_ofPipeline hp w⟩
  | succ n ih =>
    obtain ⟨s, m, hplaces, ha, hl⟩ := ih
    have hleavers : d.leavers b now (n + 1) = d.leavers b now n ++
        ((d.advance b now n).happening? now).toList.filterMap (Happening.leaver? b.react) := by
      rw [Dispatch.leavers, Dispatch.history_add_one, List.filterMap_append]
      rfl
    rw [Dispatch.advance_succ, hleavers]
    generalize d.advance b now n = d' at m ha ⊢
    cases hq : d'.queue with
    | nil =>
      have hnone : d'.happening? now = none := by rw [Dispatch.happening?, hq]
      rw [Dispatch.step_of_empty hq, hnone, Option.toList_none, List.filterMap_nil, List.append_nil]
      exact ⟨s, m, hplaces, ha, hl⟩
    | cons hop rest =>
      obtain ⟨x, s', hx, htakes, m'⟩ := m.takes b now hq
      rw [hq] at ha
      have hhappening : d'.happening? now = some x.happening := by
        rw [Dispatch.delivery?, hq] at hx
        obtain ⟨y, hy, rfl⟩ := Option.map_eq_some_iff.1 hx
        exact hy
      have hnames : (s.places.map (·.name)).Nodup := by
        have h := congrArg (List.map Prod.snd) hplaces
        rw [List.map_map] at h
        exact h ▸ hp.names
      refine ⟨s', m', htakes.places_eq.trans hplaces, ha.takes htakes, ?_⟩
      have hleaver : [x.happening].filterMap (Happening.leaver? b.react) =
          (x.happening.leaver? b.react).toList := by
        cases h : x.happening.leaver? b.react <;> simp [h]
      rw [hhappening, Option.toList_some, hleaver]
      exact hl.takes hnames htakes

/-- Whatever handlers do, the stages that asked to leave are gone and no others, and every signal that is
on its way to one of them finds the next stage that stands. -/
theorem thinned_by_leavers (hp : p.Built ω) (b : Behaviour σ ω) (now : Instant) (sig : Signal)
    (w : ω) (n : Nat) :
    let d := Dispatch.ofHop p w (p.entry sig)
    (d.advance b now n).Thinned now p.stages (d.leavers b now n) := by
  obtain ⟨s, m, hplaces, ha, hl⟩ := hp.wellFormed.advance_lacks b now sig w n
  exact m.thinned hplaces ha hl

/-- After six steps two neighbours have left. Each was pointed at the next, and the walk from the first
comes to the stage behind both. -/
theorem thinned_by_leavers_of_doubling :
    doublingTrio.Built Unit ∧
      let d := Dispatch.ofHop doublingTrio () (doublingTrio.entry (.inbound .registered))
      d.leavers doubling 0 6 = [.codec, .sslReader] ∧
        (d.advance doubling 0 6).departed = [⟨0, some 2, none⟩, ⟨2, some 1, none⟩] ∧
        Walks (d.advance doubling 0 6).pipeline.stages (d.advance doubling 0 6).departed true
          (some 0) (some 0) :=
  ⟨doublingTrio_built, rfl, rfl,
    (thinned_by_leavers doublingTrio_built doubling 0 (.inbound .registered) () 6).walks 0
      (List.mem_cons_self ..) true⟩

end Pipeline
end SecureGateway

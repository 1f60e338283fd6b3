import SecureGateway.Proofs.Pipeline.DepthFirst

namespace SecureGateway

variable {σ ω : Type}

/-- A signal that is handed over: its way, the stages that stand at that moment, and what happens. -/
structure Delivery (σ ω : Type) where
  hop : Hop
  standing : List StageName
  happening : Happening σ ω

namespace Happening

def signal : Happening σ ω → Signal
  | called c => c.signal
  | left s => s

def taker? : Happening σ ω → Option StageName
  | called c => some c.view.name
  | left _ => none

end Happening

/-- The stages that a signal comes to after a place with the given rows on either side. -/
def Signal.beyond {α : Type} (front back : List α) : Signal → List α
  | inbound _ => back
  | outbound _ => front.reverse

/-- The signal is taken, as it is, by the first stage that stands beyond the place, if any. -/
def Delivery.Passes (front back : List StageName) (x : Delivery σ ω) : Prop :=
  x.happening.signal = x.hop.signal ∧
    x.happening.taker? = (x.hop.signal.beyond front back).find? (· ∈ x.standing)

namespace Dispatch

variable {b : Behaviour σ ω} {now : Instant} {d : Dispatch σ ω}

def delivery? (now : Instant) (d : Dispatch σ ω) : Option (Delivery σ ω) :=
  match d.queue with
  | [] => none
  | hop :: _ => (d.happening? now).map fun x => ⟨hop, d.pipeline.names, x⟩

def advance (b : Behaviour σ ω) (now : Instant) : Nat → Dispatch σ ω → Dispatch σ ω
  | 0, d => d
  | n + 1, d => advance b now n (d.step b now)

def deliveries (b : Behaviour σ ω) (now : Instant) : Nat → Dispatch σ ω → List (Delivery σ ω)
  | 0, _ => []
  | n + 1, d => (d.delivery? now).toList ++ deliveries b now n (d.step b now)

theorem step_of_empty (hq : d.queue = []) : d.step b now = d := by
  simp only [step, hq]

theorem advance_of_empty (hq : d.queue = []) (n : Nat) : d.advance b now n = d := by
  induction n with
  | zero => rfl
  | succ n ih => rw [advance, step_of_empty hq, ih]

theorem run_eq (b : Behaviour σ ω) (now : Instant) (n : Nat) (d : Dispatch σ ω) :
    d.run b now n =
      if (d.advance b now n).queue.isEmpty then some (d.advance b now n) else none := by
  induction n generalizing d with
  | zero => rw [run.eq_def, advance]
  | succ n ih =>
    cases hq : d.queue with
    | nil => rw [run_of_empty hq, advance_of_empty hq, hq, List.isEmpty_nil, if_pos rfl]
    | cons hop rest => rw [run_succ hq, advance, ih]

end Dispatch

namespace Pipeline

variable {b : Behaviour σ ω} {now : Instant} {p q : Pipeline σ} {w w' : ω}

def entry (p : Pipeline σ) : Signal → Hop
  | .inbound s => .inbound (idAt p.stages 0) s
  | .outbound op => .outbound (idBefore p.stages p.stages.length) op

def perform (b : Behaviour σ ω) (now : Instant) : Signal → Pipeline σ → ω → Option (Pipeline σ × ω)
  | .inbound s => fire b now s
  | .outbound op => submit b now op

/-- What comes of some calls: the deliveries, and the pipeline and the surroundings afterwards. -/
structure Operated (σ ω : Type) where
  deliveries : List (Delivery σ ω)
  pipeline : Pipeline σ
  world : ω

def operate (b : Behaviour σ ω) : List (Instant × Signal) → Pipeline σ → ω → Operated σ ω
  | [], p, w => ⟨[], p, w⟩
  | (now, sig) :: calls, p, w =>
    let d := Dispatch.ofHop p w (p.entry sig)
    match p.perform b now sig w with
    | some (q, w') =>
      let r := operate b calls q w'
      { r with deliveries := d.deliveries b now b.limit ++ r.deliveries }
    | none =>
      ⟨d.deliveries b now b.limit, (d.advance b now b.limit).pipeline,
        (d.advance b now b.limit).world⟩

theorem perform_eq (b : Behaviour σ ω) (now : Instant) (sig : Signal) (p : Pipeline σ) (w : ω) :
    p.perform b now sig w = p.dispatch b now (p.entry sig) w := by
  cases sig <;> rfl

theorem advance_of_perform {sig : Signal} (h : p.perform b now sig w = some (q, w')) :
    let d := (Dispatch.ofHop p w (p.entry sig)).advance b now b.limit
    d.queue = [] ∧ d.pipeline = q ∧ d.world = w' := by
  rw [perform_eq, dispatch, Dispatch.run_eq] at h
  split at h
  · rename_i hempty
    obtain ⟨rfl, rfl⟩ := Prod.mk.inj (Option.some.inj h)
    exact ⟨List.isEmpty_iff.1 hempty, rfl, rfl⟩
  · cases h

end Pipeline

namespace Scene

variable {s s' : Scene σ ω} {hop : Hop} {hops rest : List Hop}

/-- The first hop of a queue is taken. -/
inductive Takes (react : React σ σ ω) (now : Instant) (s : Scene σ ω) (hop : Hop)
    (rest : List Hop) : Delivery σ ω → Scene σ ω → List Hop → Prop
  | leave : hop.landing s.places = none →
    Takes react now s hop rest ⟨hop, s.pipeline.names, .left hop.signal⟩ (s.arrive hop.signal) rest
  | call {before after : List (Place σ)} {q : Place σ} {h : σ} {c : Call σ ω} :
    hop.landing s.places = some q → s.places = before ++ q :: after → q.handler = some h →
      c = s.call now before q after hop.signal h →
      Takes react now s hop rest ⟨hop, s.pipeline.names, .called c⟩
        (s.react before q after (c.reaction react))
        ((c.reaction react).emitted.map (Signal.hopBetween before after) ++ rest)

/-- Deliveries one after the other; when the queue is empty a new call can be made, for which the
vacant places are forgotten. -/
inductive Proceeds (react : React σ σ ω) :
    Instant → Scene σ ω → List Hop → List (Delivery σ ω) → Scene σ ω → Prop
  | stop (now : Instant) (s : Scene σ ω) (hops : List Hop) : Proceeds react now s hops [] s
  | take {now : Instant} {s s₁ s' : Scene σ ω} {hop : Hop} {rest hops : List Hop}
    {x : Delivery σ ω} {l : List (Delivery σ ω)} :
    Takes react now s hop rest x s₁ hops → Proceeds react now s₁ hops l s' →
      Proceeds react now s (hop :: rest) (x :: l) s'
  | enter {now later : Instant} {s s' : Scene σ ω} {l : List (Delivery σ ω)} (sig : Signal) :
    Proceeds react later (.ofPipeline s.pipeline s.world) [s.pipeline.entry sig] l s' →
      Proceeds react now s [] l s'

theorem Takes.places_eq {react : React σ σ ω} {now : Instant} {x : Delivery σ ω}
    (h : Takes react now s hop rest x s' hops) :
    s'.places.map (fun q => (q.id, q.name)) = s.places.map fun q => (q.id, q.name) := by
  cases h with
  | leave hland => rfl
  | call hland hsplit hq hc =>
    rw [hsplit]
    simp [Scene.react]

/-- Hops are on their way to stages of the chain, or out of it. -/
def Aimed (s : Scene σ ω) (hops : List Hop) : Prop :=
  ∀ hop ∈ hops, ∀ id, hop.target = some id → id ∈ s.places.map (·.id)

theorem mem_of_nearest {row : List (Place σ)} {id : Nat} (h : nearest row = some id) :
    id ∈ row.map (·.id) := by
  obtain ⟨q, hq, rfl⟩ := Option.map_eq_some_iff.1 h
  exact List.mem_map_of_mem (List.mem_of_find?_eq_some hq)

theorem Aimed.takes {react : React σ σ ω} {now : Instant} {x : Delivery σ ω}
    (ha : s.Aimed (hop :: rest)) (h : Takes react now s hop rest x s' hops) : s'.Aimed hops := by
  have hids : s'.places.map (·.id) = s.places.map (·.id) := by
    have heq := congrArg (List.map Prod.fst) h.places_eq
    rwa [List.map_map, List.map_map] at heq
  intro y hy id hid
  rw [hids]
  cases h with
  | leave hland => exact ha y (List.mem_cons_of_mem _ hy) id hid
  | @call before after q h c hland hsplit hq hc =>
    rcases List.mem_append.1 hy with hy | hy
    · obtain ⟨sig, -, rfl⟩ := List.mem_map.1 hy
      rw [hsplit]
      cases sig with
      | inbound sig =>
        have hmem := mem_of_nearest hid
        simp only [List.map_append, List.map_cons, List.mem_append, List.mem_cons]
        exact .inr (.inr hmem)
      | outbound op =>
        have hmem := mem_of_nearest hid
        rw [List.map_reverse, List.mem_reverse] at hmem
        simp only [List.map_append, List.mem_append]
        exact .inl hmem
    · exact ha y (List.mem_cons_of_mem _ hy) id hid

theorem aimed_entry (p : Pipeline σ) (w : ω) (sig : Signal) :
    (Scene.ofPipeline p w).Aimed [p.entry sig] := by
  intro hop hhop id hid
  obtain rfl := List.mem_singleton.1 hhop
  rw [ofPipeline, List.map_map]
  cases sig with
  | inbound sig =>
    obtain ⟨st, hst, rfl⟩ := Option.map_eq_some_iff.1 hid
    exact List.mem_map_of_mem (List.mem_of_getElem? hst)
  | outbound op =>
    have hlast : p.stages.getLast?.map (·.id) = some id := by
      rw [← hid]
      have h := idBefore_append p.stages []
      rw [List.append_nil] at h
      exact h.symm
    obtain ⟨st, hst, rfl⟩ := Option.map_eq_some_iff.1 hlast
    exact List.mem_map_of_mem (List.mem_of_getLast? hst)

end Scene

theorem find?_of_sublist {α : Type} {xs ys : List α} {p : α → Bool} (h : xs.Sublist ys)
    (hn : ys.Nodup) (hp : ∀ y ∈ ys, p y = true → y ∈ xs) : ys.find? p = xs.find? p := by
  induction h with
  | slnil => rfl
  | cons y hsub ih =>
    obtain ⟨hnew, hn⟩ := List.nodup_cons.1 hn
    have hy : ¬p y = true := fun hy => hnew (hsub.mem (hp y (by simp) hy))
    rw [List.find?_cons_of_neg hy]
    exact ih hn fun z hz => hp z (List.mem_cons_of_mem _ hz)
  | cons_cons y hsub ih =>
    obtain ⟨hnew, hn⟩ := List.nodup_cons.1 hn
    rw [List.find?_cons, List.find?_cons, ih hn]
    intro z hz hpz
    rcases List.mem_cons.1 (hp z (List.mem_cons_of_mem _ hz) hpz) with rfl | hmem
    · exact absurd hz hnew
    · exact hmem

section Standing

variable {now : Instant} {s s' : Scene σ ω} {hop : Hop} {hops rest : List Hop} {q : Place σ}
  {n : StageName}

theorem Scene.mem_names (hmem : n ∈ s.pipeline.names) :
    ∃ q ∈ s.places, q.stands = true ∧ q.name = n := by
  obtain ⟨st, hst, rfl⟩ := List.mem_map.1 hmem
  obtain ⟨q, hq, hstage⟩ := List.mem_filterMap.1 hst
  obtain ⟨h, hh, rfl⟩ := Option.map_eq_some_iff.1 hstage
  exact ⟨q, hq, Option.isSome_iff_exists.2 ⟨h, hh⟩, rfl⟩

theorem Scene.name_mem_names_iff (hn : (s.places.map (·.name)).Nodup) (hq : q ∈ s.places) :
    q.name ∈ s.pipeline.names ↔ q.stands = true := by
  constructor
  · intro hmem
    obtain ⟨x, hx, hstands, hname⟩ := mem_names hmem
    rwa [List.inj_on_of_nodup_map hn hx hq hname] at hstands
  · intro hstands
    obtain ⟨h, hh⟩ := Option.isSome_iff_exists.1 hstands
    refine List.mem_map.2 ⟨⟨q.id, q.name, some h⟩, List.mem_filterMap.2 ⟨q, hq, ?_⟩, rfl⟩
    rw [Place.stage?, hh]
    rfl

theorem Scene.find?_names {row : List (Place σ)} {names : List StageName}
    (hn : (s.places.map (·.name)).Nodup) (hrow : ∀ q ∈ row, q ∈ s.places)
    (hsub : (row.map (·.name)).Sublist names) (hnames : names.Nodup)
    (hmem : ∀ q ∈ s.places, q.stands = true → q.name ∈ names → q ∈ row) :
    names.find? (· ∈ s.pipeline.names) = (row.find? Place.stands).map (·.name) := by
  have hp : ∀ n ∈ names, decide (n ∈ s.pipeline.names) = true → n ∈ row.map (·.name) := by
    intro n hn hdecide
    obtain ⟨q, hq, hstands, rfl⟩ := mem_names (of_decide_eq_true hdecide)
    exact List.mem_map_of_mem (hmem q hq hstands hn)
  have hstands : ∀ q ∈ row, decide (q.name ∈ s.pipeline.names) = q.stands := by
    intro q hq
    rw [Bool.eq_iff_iff, decide_eq_true_iff]
    exact name_mem_names_iff hn (hrow q hq)
  rw [find?_of_sublist hsub hnames hp, List.find?_map, ← List.head?_filter, ← List.head?_filter]
  exact congrArg (fun l => l.head?.map (·.name)) (List.filter_congr hstands)

theorem Scene.Takes.shows {react : React σ σ ω} {x : Delivery σ ω}
    (h : s.Takes react now hop rest x s' hops) :
    x.hop = hop ∧ x.standing = s.pipeline.names ∧ x.happening.signal = hop.signal ∧
      x.happening.taker? = (hop.landing s.places).map (·.name) := by
  cases h with
  | leave hland => exact ⟨rfl, rfl, rfl, by rw [hland]; rfl⟩
  | call hland hsplit hq hc =>
    subst hc
    exact ⟨rfl, rfl, rfl, by rw [hland]; rfl⟩

theorem landing_vacant {before after : List (Place σ)} {v : Place σ}
    (hn : ((before ++ v :: after).map (·.id)).Nodup) (hv : v.handler = none)
    (htarget : hop.target = some v.id) :
    hop.landing (before ++ v :: after) = (hop.signal.beyond before after).find? Place.stands := by
  have hstands : ¬v.stands = true := by simp [Place.stands, hv]
  cases hop with
  | inbound t sig =>
    obtain rfl : t = some v.id := htarget
    show ((before ++ v :: after).dropWhile (·.id != v.id)).find? Place.stands = _
    rw [dropWhile_to hn, List.find?_cons_of_neg hstands]
    rfl
  | outbound t op =>
    obtain rfl : t = some v.id := htarget
    have hreverse : (before ++ v :: after).reverse = after.reverse ++ v :: before.reverse := by simp
    have hn' : ((after.reverse ++ v :: before.reverse).map (·.id)).Nodup := by
      rw [← hreverse, List.map_reverse]
      exact List.nodup_reverse.2 hn
    show ((before ++ v :: after).reverse.dropWhile (·.id != v.id)).find? Place.stands = _
    rw [hreverse, dropWhile_to hn', List.find?_cons_of_neg hstands]
    rfl

end Standing

namespace Mirrors

variable {b : Behaviour σ ω} {now : Instant} {s : Scene σ ω} {d : Dispatch σ ω} {hop : Hop}
  {rest : List Hop}

theorem takes (m : Mirrors s d) (b : Behaviour σ ω) (now : Instant) (hq : d.queue = hop :: rest) :
    ∃ x s', d.delivery? now = some x ∧
      Scene.Takes b.react now s hop rest x s' (d.step b now).queue ∧ Mirrors s' (d.step b now) := by
  have hnames : d.pipeline.names = s.pipeline.names := by rw [m.pipeline]
  cases hland : hop.landing s.places with
  | none =>
    obtain ⟨m', hq'⟩ := m.step_leave b now hq hland
    refine ⟨⟨hop, s.pipeline.names, .left hop.signal⟩, s.arrive hop.signal, ?_, ?_, m'⟩
    · rw [Dispatch.delivery?, hq, m.happening_leave hq hland, hnames]
      rfl
    · rw [hq']
      exact .leave hland
  | some q =>
    obtain ⟨before, after, h, hsplit, hh⟩ := hop.exists_split_of_landing hland
    obtain ⟨m', hq'⟩ := m.step_call b now hq hland hsplit hh rfl
    refine ⟨⟨hop, s.pipeline.names, .called (s.call now before q after hop.signal h)⟩, _, ?_, ?_,
      m'⟩
    · rw [Dispatch.delivery?, hq, m.happening_call hq hland hsplit hh, hnames]
      rfl
    · rw [hq']
      exact .call hland hsplit hh rfl

theorem proceeds {n : Nat} {l : List (Delivery σ ω)} {P : Scene σ ω → Prop} (m : Mirrors s d)
    (hthen : ∀ s₁, Mirrors s₁ (d.advance b now n) →
      ∃ s', Scene.Proceeds b.react now s₁ (d.advance b now n).queue l s' ∧ P s') :
    ∃ s', Scene.Proceeds b.react now s d.queue (d.deliveries b now n ++ l) s' ∧ P s' := by
  induction n generalizing s d with
  | zero => exact hthen s m
  | succ n ih =>
    cases hq : d.queue with
    | nil =>
      have hstep : d.step b now = d := Dispatch.step_of_empty hq
      have hnone : d.delivery? now = none := by rw [Dispatch.delivery?, hq]
      rw [Dispatch.advance, hstep] at hthen
      rw [Dispatch.deliveries, hnone, hstep, ← hq]
      exact ih m hthen
    | cons hop rest =>
      obtain ⟨x, s₁, hx, htakes, m₁⟩ := m.takes b now hq
      obtain ⟨s', hrest, hs'⟩ := ih m₁ hthen
      rw [Dispatch.deliveries, hx]
      exact ⟨s', .take htakes hrest, hs'⟩

end Mirrors

namespace Pipeline

variable {b : Behaviour σ ω} {p : Pipeline σ}

theorem WellFormed.pipeline_ofPipeline (hp : p.WellFormed) (w : ω) :
    (Scene.ofPipeline p w).pipeline = p :=
  (hp.mirrors w (p.entry (.outbound .read))).pipeline.symm

/-- Calls on a pipeline proceed by deliveries, from any scene that is at that point. -/
theorem WellFormed.operate_proceeds {w : ω} {s₀ : Scene σ ω} (hp : p.WellFormed)
    (hs₀ : s₀.pipeline = p) (hw₀ : s₀.world = w) (calls : List (Instant × Signal)) (now : Instant) :
    let r := p.operate b calls w
    ∃ s, Scene.Proceeds b.react now s₀ [] r.deliveries s ∧ r.pipeline = s.pipeline ∧
      r.world = s.world := by
  induction calls generalizing p w now s₀ with
  | nil => exact ⟨s₀, .stop now s₀ [], hs₀.symm, hw₀.symm⟩
  | cons call calls ih =>
    obtain ⟨later, sig⟩ := call
    have m := hp.mirrors w (p.entry sig)
    have henter : ∀ {l s}, Scene.Proceeds b.react later (.ofPipeline p w) [p.entry sig] l s →
        Scene.Proceeds b.react now s₀ [] l s := by
      subst hs₀ hw₀
      exact fun h => .enter sig h
    let d := (Dispatch.ofHop p w (p.entry sig)).advance b later b.limit
    rw [operate]
    cases hperform : p.perform b later sig w with
    -- a call that does not end within the limit stops in the middle, and nothing follows it
    | none =>
      obtain ⟨s, hproceeds, ms⟩ := m.proceeds (n := b.limit) (l := []) (P := (Mirrors · d))
        fun s₁ m₁ => ⟨s₁, .stop later s₁ _, m₁⟩
      rw [List.append_nil] at hproceeds
      exact ⟨s, henter hproceeds, ms.pipeline, ms.world⟩
    | some x =>
      obtain ⟨q, w'⟩ := x
      obtain ⟨hqueue, hpipeline, hworld⟩ := advance_of_perform hperform
      have hq : q.WellFormed := by
        obtain ⟨s₁, hd, rfl, -⟩ := hp.delivers (perform_eq b later sig p w ▸ hperform)
        exact hp.of_delivers hd
      obtain ⟨s, hproceeds, hs⟩ := m.proceeds (n := b.limit)
        (P := fun s => (q.operate b calls w').pipeline = s.pipeline ∧
          (q.operate b calls w').world = s.world) fun s₁ m₁ => by
            rw [hqueue]
            exact ih hq (m₁.pipeline.symm.trans hpipeline) (m₁.world.symm.trans hworld) later
      exact ⟨s, henter hproceeds, hs⟩

end Pipeline
end SecureGateway

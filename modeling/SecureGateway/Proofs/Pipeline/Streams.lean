import SecureGateway.Proofs.Pipeline.DepthFirst
import SecureGateway.Proofs.Pipeline.Transducer

namespace SecureGateway

inductive Way where
  | inbound
  | outbound

namespace Way

variable {σ ω : Type} {way : Way}

abbrev Item : Way → Type
  | inbound => Inbound
  | outbound => Outbound

def signal : (way : Way) → way.Item → Signal
  | inbound => .inbound
  | outbound => .outbound

def course {α : Type} : Way → List α → List α
  | inbound, l => l
  | outbound, l => l.reverse

def hop (way : Way) (target : Option Nat) (a : way.Item) : Hop := (way.signal a).aimedAt target

/-- What a handler does with a signal of this way depends on its state and the signal only, and it
emits signals of this way only. It may do anything to its surroundings. -/
def Oblivious (way : Way) (react : React σ σ ω) (t : σ → way.Item → Reply σ way.Item) : Prop :=
  ∀ v a h w, (react v (way.signal a) h w).handler = (t h a).handler ∧
    (react v (way.signal a) h w).emitted = (t h a).emitted.map way.signal ∧
    (react v (way.signal a) h w).leaves = (t h a).leaves

theorem course_map {α β : Type} (f : α → β) (l : List α) :
    way.course (l.map f) = (way.course l).map f := by
  cases way with
  | inbound => rfl
  | outbound => exact List.map_reverse.symm

/-- The target is in the row, or is behind a gap of vacant places that the row ends. -/
def Aims (front row : List (Place σ)) (target : Option Nat) : Prop :=
  ∃ far gap, front = far ++ gap ∧ (∀ q ∈ gap, q.handler = none) ∧ LeadsInto (gap ++ row) target

variable {front row row' : List (Place σ)} {q : Place σ} {target : Option Nat}

theorem aims_nearest (front row : List (Place σ)) : Aims front row (nearest row) :=
  ⟨front, [], by simp, nofun, leadsInto_nearest row⟩

theorem aims_head (front row : List (Place σ)) (q : Place σ) :
    Aims front (q :: row) (some q.id) :=
  ⟨front, [], by simp, nofun, .inl rfl⟩

theorem Aims.becomes (ha : Aims front row target) (hr : List.Forall₂ Place.Becomes row row') :
    Aims front row' target := by
  obtain ⟨far, gap, hfront, hgap, hl⟩ := ha
  have hsame := List.forall₂_same.2 fun x (_ : x ∈ gap) => Place.Becomes.refl x
  exact ⟨far, gap, hfront, hgap, hl.becomes (List.rel_append hsame hr)⟩

theorem Aims.behind (ha : Aims front (q :: row) target) (hq : q.handler = none) :
    Aims (front ++ [q]) row target := by
  obtain ⟨far, gap, rfl, hgap, hl⟩ := ha
  refine ⟨far, gap ++ [q], by simp, ?_, by simpa using hl⟩
  intro x hx
  rcases List.mem_append.1 hx with hx | hx
  · exact hgap x hx
  · rw [List.mem_singleton.1 hx, hq]

theorem find_from_target (hn : ((front ++ row).map (·.id)).Nodup) (hl : LeadsInto row target) :
    (target.bind fun id => ((front ++ row).dropWhile (·.id != id)).find? Place.stands) =
      row.find? Place.stands := by
  induction row generalizing front with
  | nil =>
    obtain rfl : target = none := hl
    rfl
  | cons q row ih =>
    rcases hl with rfl | ⟨hq, hl⟩
    · rw [Option.bind_some, dropWhile_to hn]
    · rw [List.append_cons] at hn
      rw [List.append_cons, ih hn hl, List.find?_cons_of_neg (by simp [Place.stands, hq])]

theorem Aims.landing_eq {places : List (Place σ)} (ha : Aims front row target)
    (hrow : way.course places = front ++ row) (hn : ((front ++ row).map (·.id)).Nodup)
    (a : way.Item) : (way.hop target a).landing places = row.find? Place.stands := by
  obtain ⟨far, gap, rfl, hgap, hl⟩ := ha
  have hvacant : gap.find? Place.stands = none := by
    rw [List.find?_eq_none]
    intro x hx
    simp [Place.stands, hgap x hx]
  have hfind : (way.hop target a).landing places = target.bind fun id =>
      ((way.course places).dropWhile (·.id != id)).find? Place.stands := by
    cases way <;> rfl
  rw [List.append_assoc] at hn
  rw [hfind, hrow, List.append_assoc, find_from_target hn hl, List.find?_append, hvacant,
    Option.none_or]

/-- The stages of a row have worked on a stream, and what it came to has arrived. -/
structure Passage (t : σ → way.Item → Reply σ way.Item) (front row : List (Place σ))
    (as : List way.Item) (s s' : Scene σ ω) (row' : List (Place σ)) : Prop where
  course : way.course s'.places = front ++ row'
  becomes : List.Forall₂ Place.Becomes row row'
  handlers : row'.map (·.handler) = (compose t (row.map (·.handler)) as).1
  ends : s'.ends =
    ((compose t (row.map (·.handler)) as).2.map way.signal).foldl Pipeline.arrive s.ends

variable {t : σ → way.Item → Reply σ way.Item} {as bs : List way.Item} {s s₁ s' : Scene σ ω}
  {row₁ : List (Place σ)} {react : React σ σ ω} {now : Instant} {h : σ}

theorem becomes_trans {x y z : List (Place σ)} (h₁ : List.Forall₂ Place.Becomes x y)
    (h₂ : List.Forall₂ Place.Becomes y z) : List.Forall₂ Place.Becomes x z := by
  induction h₁ generalizing z with
  | nil => exact h₂
  | cons hxy _ ih =>
    cases h₂ with
    | cons hyz h₂ => exact .cons (hxy.trans hyz) (ih h₂)

theorem ids_of_becomes (hr : List.Forall₂ Place.Becomes row row') :
    row'.map (·.id) = row.map (·.id) := by
  induction hr with
  | nil => rfl
  | cons hq _ ih => rw [List.map_cons, List.map_cons, ih, hq.1]

namespace Passage

theorem refl (hrow : way.course s.places = front ++ row) : Passage t front row [] s s row :=
  ⟨hrow, List.forall₂_same.2 fun x _ => .refl x, by rw [compose_nil], by rw [compose_nil]; rfl⟩

theorem trans (h₁ : Passage t front row as s s₁ row₁) (h₂ : Passage t front row₁ bs s₁ s' row') :
    Passage t front row (as ++ bs) s s' row' where
  course := h₂.course
  becomes := becomes_trans h₁.becomes h₂.becomes
  handlers := by rw [compose_append, h₂.handlers, h₁.handlers]
  ends := by rw [compose_append, h₂.ends, h₁.ends, h₁.handlers, List.map_append, List.foldl_append]

theorem behind (hq : q.handler = none) (hp : Passage t (front ++ [q]) row as s s' row') :
    Passage t front (q :: row) as s s' (q :: row') where
  course := by rw [hp.course, List.append_assoc, List.singleton_append]
  becomes := .cons (.refl q) hp.becomes
  handlers := by rw [List.map_cons, List.map_cons, hq, compose_none_cons, hp.handlers]
  ends := by rw [List.map_cons, hq, compose_none_cons, hp.ends]

theorem call {a : way.Item} {q' : Place σ} (hq : q.handler = some h)
    (hq' : q' = { q with handler := (t h a).next }) (hs : s₁.ends = s.ends)
    (hp : Passage t (front ++ [q']) row (t h a).emitted s₁ s' row') :
    Passage t front (q :: row) [a] s s' (q' :: row') where
  course := by rw [hp.course, List.append_assoc, List.singleton_append]
  becomes := .cons ⟨by rw [hq'], by simp [hq]⟩ hp.becomes
  handlers := by
    rw [List.map_cons, List.map_cons, hq, compose_cons_singleton, hp.handlers, hq']
    rfl
  ends := by
    rw [List.map_cons, hq, compose_cons_singleton, hp.ends, hs]
    rfl

theorem nodup (hp : Passage t front row as s s' row')
    (hn : ((front ++ row).map (·.id)).Nodup) : ((front ++ row').map (·.id)).Nodup := by
  rwa [List.map_append, ids_of_becomes hp.becomes, ← List.map_append]

end Passage

theorem exists_rows {places : List (Place σ)} (hrow : way.course places = front ++ q :: row) :
    ∃ before after, places = before ++ q :: after ∧
      (∀ x, way.course (before ++ x :: after) = front ++ x :: row) ∧
      Signal.hopBetween before after ∘ way.signal = way.hop (nearest row) := by
  cases way with
  | inbound => exact ⟨front, row, hrow, fun _ => rfl, rfl⟩
  | outbound =>
    refine ⟨row.reverse, front.reverse, ?_, fun x => by simp [course], ?_⟩
    · rw [← List.reverse_reverse places]
      exact (congrArg List.reverse hrow).trans (by simp)
    · funext a
      simp [Signal.hopBetween, signal, hop, Signal.aimedAt]

theorem exists_call (ht : way.Oblivious react t) (now : Instant)
    (hrow : way.course s.places = front ++ q :: row)
    (hq : q.handler = some h) (a : way.Item) :
    ∃ s₁, way.course s₁.places = front ++ { q with handler := (t h a).next } :: row ∧
      s₁.ends = s.ends ∧ ∀ {target hops inner outer s₂ s'},
        (way.hop target a).landing s.places = some q →
        Delivers react now s₁ ((t h a).emitted.map (way.hop (nearest row))) inner s₂ →
        Delivers react now s₂ hops outer s' →
        ∃ l, Delivers react now s (way.hop target a :: hops) l s' := by
  obtain ⟨before, after, hplaces, hcourse, hnext⟩ := exists_rows hrow
  obtain ⟨hh, hemitted, hl⟩ := ht (s.call now before q after (way.signal a) h).view a h s.world
  let c := s.call now before q after (way.signal a) h
  refine ⟨s.react before q after (c.reaction react), ?_, rfl, ?_⟩
  · rw [Scene.react, hcourse]
    simp only [c, Scene.call, Call.reaction] at hh hl ⊢
    rw [hh, hl]
    rfl
  · intro target hops inner outer s₂ s' hland hin hout
    have hsignal : (way.hop target a).signal = way.signal a := by cases way <;> rfl
    have hemit : (c.reaction react).emitted.map (Signal.hopBetween before after) =
        (t h a).emitted.map (way.hop (nearest row)) := by
      rw [← hnext, ← List.map_map, ← hemitted]
      rfl
    exact ⟨_, .call hland hplaces hq (by rw [hsignal]) (hemit ▸ hin) hout⟩

theorem exists_passage_nil (hrow : way.course s.places = front ++ [])
    (hn : ((front ++ []).map Place.id).Nodup) (xs : List (Option Nat × way.Item))
    (hxs : ∀ x ∈ xs, Aims front [] x.1) :
    ∃ l s', Delivers react now s (xs.map fun x => way.hop x.1 x.2) l s' ∧
      Passage t front [] (xs.map (·.2)) s s' [] := by
  induction xs generalizing s with
  | nil => exact ⟨[], s, .done s, .refl hrow⟩
  | cons x xs ih =>
    have hland : (way.hop x.1 x.2).landing s.places = none :=
      (hxs x (by simp)).landing_eq hrow hn x.2
    have hsignal : (way.hop x.1 x.2).signal = way.signal x.2 := by cases way <;> rfl
    obtain ⟨l, s', hd, hp⟩ :=
      ih (s := s.arrive (way.signal x.2)) hrow fun y hy => hxs y (by simp [hy])
    have hfirst : Passage t front [] [x.2] s (s.arrive (way.signal x.2)) [] :=
      ⟨hrow, .nil, rfl, rfl⟩
    exact ⟨_, s', .leave hland (by rwa [hsignal]), hfirst.trans hp⟩

theorem exists_passage (ht : way.Oblivious react t) (now : Instant) (n : Nat)
    (hlen : row.length = n) (hrow : way.course s.places = front ++ row)
    (hn : ((front ++ row).map (·.id)).Nodup) (xs : List (Option Nat × way.Item))
    (hxs : ∀ x ∈ xs, Aims front row x.1) :
    ∃ l s' row', Delivers react now s (xs.map fun x => way.hop x.1 x.2) l s' ∧
      Passage t front row (xs.map (·.2)) s s' row' := by
  -- the row shrinks from stage to stage, and within one stage the stream from signal to signal
  induction n generalizing front row s xs with
  | zero =>
    obtain rfl := List.length_eq_zero_iff.1 hlen
    obtain ⟨l, s', hd, hp⟩ := exists_passage_nil hrow hn xs hxs
    exact ⟨l, s', [], hd, hp⟩
  | succ n ihn =>
    induction xs generalizing s row with
    | nil => exact ⟨[], s, row, .done s, .refl hrow⟩
    | cons x xs ihx =>
      obtain ⟨q, row, rfl⟩ := List.exists_cons_of_length_eq_add_one hlen
      have hlen : row.length = n := by simpa using hlen
      cases hq : q.handler with
      | none =>
        rw [List.append_cons] at hrow hn
        obtain ⟨l, s', row', hd, hp⟩ :=
          ihn hlen hrow hn (x :: xs) fun y hy => (hxs y hy).behind hq
        exact ⟨l, s', q :: row', hd, hp.behind hq⟩
      | some h =>
        obtain ⟨s₁, hrow₁, hends, hcall⟩ := exists_call ht now hrow hq x.2
        generalize hq' : ({ q with handler := (t h x.2).next } : Place σ) = q' at hrow₁
        have hid : q'.id = q.id := by rw [← hq']
        have hland : (way.hop x.1 x.2).landing s.places = some q := by
          rw [(hxs x (by simp)).landing_eq hrow hn,
            List.find?_cons_of_pos (by simp [Place.stands, hq])]
        rw [List.append_cons] at hrow₁
        have hn₁ : ((front ++ [q'] ++ row).map (·.id)).Nodup := by simpa [hid] using hn
        -- what the call emits passes the rest of the row before the next signal is looked at
        obtain ⟨inner, s₂, row₂, hin, hp⟩ := ihn hlen hrow₁ hn₁
          ((t h x.2).emitted.map fun a => (nearest row, a)) (by
            intro y hy
            obtain ⟨a, -, rfl⟩ := List.mem_map.1 hy
            exact aims_nearest _ _)
        simp only [List.map_map, Function.comp_def, List.map_id'] at hin hp
        have hfirst := hp.call hq hq'.symm hends
        have hlen₂ : (q' :: row₂).length = n + 1 := by
          rw [← hfirst.becomes.length_eq, List.length_cons, hlen]
        obtain ⟨outer, s', row', hout, hrest⟩ :=
          ihx hlen₂ hfirst.course (hfirst.nodup hn) fun y hy =>
            (hxs y (by simp [hy])).becomes hfirst.becomes
        obtain ⟨l, hl⟩ := hcall hland hin hout
        exact ⟨l, s', row', hl, hfirst.trans hrest⟩

def send (b : Behaviour σ ω) (now : Instant) :
    (way : Way) → way.Item → Pipeline σ → ω → Option (Pipeline σ × ω)
  | inbound => Pipeline.fire b now
  | outbound => Pipeline.submit b now

abbrev Parcel : Way → Type
  | inbound => Inbound
  | outbound => Bytes

def take : (way : Way) → Pipeline σ → List way.Parcel × Pipeline σ
  | inbound => Pipeline.takeInbound
  | outbound => Pipeline.takeOutbound

/-- The parcels of a stream; requests to read and to close only raise a flag. -/
def parcels : (way : Way) → List way.Item → List way.Parcel
  | inbound, l => l
  | outbound, l => l.filterMap fun | .write data => some data | _ => none

def asks (op : Outbound) : (way : Way) → List way.Item → Bool
  | inbound, _ => false
  | outbound, l => l.contains op

/-- What a driver does with one end of a chain and the other. -/
inductive Turn (α : Type) where
  | send (now : Instant) (a : α)
  | take

def sent {α : Type} (turns : List (Turn α)) : List α :=
  turns.filterMap fun | .send _ a => some a | .take => none

def feed (b : Behaviour σ ω) (way : Way) :
    List (Turn way.Item) → Pipeline σ → ω → Option (List way.Parcel × Pipeline σ × ω)
  | [], p, w => some ([], p, w)
  | .send now a :: rest, p, w => (way.send b now a p w).bind fun (p, w) => feed b way rest p w
  | .take :: rest, p, w =>
    (feed b way rest (way.take p).2 w).map fun (taken, q, w) => ((way.take p).1 ++ taken, q, w)

/-- The handlers of a pipeline in the order in which the signals of this way meet them. -/
def handlers (way : Way) (p : Pipeline σ) : List (Option σ) := way.course (p.stages.map (·.slot))

variable {p q : Pipeline σ} {b : Behaviour σ ω}

/-- The pipeline `q` is `p` after these arrivals, up to its stages. -/
structure Received (p : Pipeline σ) (out : List way.Item) (q : Pipeline σ) : Prop where
  parcels : (way.take q).1 = (way.take p).1 ++ way.parcels out
  read : q.readRequested = (p.readRequested || way.asks .read out)
  close : q.closeRequested = (p.closeRequested || way.asks .close out)

theorem received_arrive (p : Pipeline σ) (a : way.Item) :
    Received p [a] (p.arrive (way.signal a)) := by
  cases way with
  | inbound => exact ⟨rfl, (Bool.or_false _).symm, (Bool.or_false _).symm⟩
  | outbound =>
    cases a with
    | write data => exact ⟨rfl, (Bool.or_false _).symm, (Bool.or_false _).symm⟩
    | read => exact ⟨(List.append_nil _).symm, (Bool.or_true _).symm, (Bool.or_false _).symm⟩
    | close => exact ⟨(List.append_nil _).symm, (Bool.or_false _).symm, (Bool.or_true _).symm⟩

theorem parcels_append (as bs : List way.Item) :
    way.parcels (as ++ bs) = way.parcels as ++ way.parcels bs := by
  cases way with
  | inbound => rfl
  | outbound => exact List.filterMap_append

theorem asks_append (op : Outbound) (as bs : List way.Item) :
    way.asks op (as ++ bs) = (way.asks op as || way.asks op bs) := by
  cases way with
  | inbound => rfl
  | outbound => exact List.contains_append

theorem Received.trans {r : Pipeline σ} (h₁ : Received p as q) (h₂ : Received q bs r) :
    Received p (as ++ bs) r where
  parcels := by rw [h₂.parcels, h₁.parcels, parcels_append, List.append_assoc]
  read := by rw [h₂.read, h₁.read, asks_append, Bool.or_assoc]
  close := by rw [h₂.close, h₁.close, asks_append, Bool.or_assoc]

theorem received_nil (way : Way) (p : Pipeline σ) : Received p ([] : List way.Item) p := by
  cases way <;> exact ⟨(List.append_nil _).symm, (Bool.or_false _).symm, (Bool.or_false _).symm⟩

theorem received_foldl (out : List way.Item) (p : Pipeline σ) :
    Received p out ((out.map way.signal).foldl Pipeline.arrive p) := by
  induction out generalizing p with
  | nil => exact received_nil way p
  | cons a out ih => exact (received_arrive p a).trans (ih _)

theorem slots_of_stages (row : List (Place σ)) :
    (row.filterMap Place.stage?).map (·.slot) = (row.map (·.handler)).filter Option.isSome := by
  induction row with
  | nil => rfl
  | cons q row ih => cases hq : q.handler <;> simp [Place.stage?, hq, ih]

theorem handlers_pipeline (s : Scene σ ω) :
    way.handlers s.pipeline =
      ((way.course s.places).map (·.handler)).filter Option.isSome := by
  rw [handlers, Scene.pipeline, slots_of_stages]
  cases way with
  | inbound => rfl
  | outbound => simp only [course, List.map_reverse, List.filter_reverse]

theorem handlers_ofPipeline (way : Way) (p : Pipeline σ) (w : ω) :
    (way.course (Scene.ofPipeline p w).places).map (·.handler) = way.handlers p := by
  rw [handlers, ← course_map, Scene.ofPipeline, List.map_map]
  rfl

theorem send_eq_dispatch (b : Behaviour σ ω) (now : Instant) (a : way.Item) (p : Pipeline σ)
    (w : ω) :
    way.send b now a p w = p.dispatch b now
      (way.hop ((way.course (Scene.ofPipeline p w).places).head?.map (·.id)) a) w := by
  cases way with
  | inbound =>
    rw [send, Pipeline.fire, idAt_zero]
    rfl
  | outbound =>
    have htarget : idBefore p.stages p.stages.length =
        (p.stages.map Place.ofStage).reverse.head?.map (·.id) := by
      have h := idBefore_append p.stages []
      rw [List.append_nil] at h
      rw [h, List.head?_reverse, List.getLast?_map, Option.map_map]
      rfl
    rw [send, Pipeline.submit, htarget]
    rfl

theorem exists_send (hp : p.WellFormed) (ht : way.Oblivious b.react t) (now : Instant)
    (a : way.Item) (w : ω) :
    ∃ n q w', (∀ limit ≥ n, way.send (b.within limit) now a p w = some (q, w')) ∧
      q.WellFormed ∧ Received p (compose t (way.handlers p) [a]).2 q ∧
      way.handlers q = (compose t (way.handlers p) [a]).1.filter Option.isSome := by
  have hn : (([] ++ way.course (Scene.ofPipeline p w).places).map Place.id).Nodup := by
    have h := (hp.mirrors w (way.hop none a)).unique
    rw [List.nil_append, ← course_map]
    cases way with
    | inbound => exact h
    | outbound => exact List.nodup_reverse.2 h
  have haim : Aims [] (way.course (Scene.ofPipeline p w).places)
      ((way.course (Scene.ofPipeline p w).places).head?.map (·.id)) := by
    cases way.course (Scene.ofPipeline p w).places with
    | nil => exact aims_nearest [] []
    | cons q row => exact aims_head [] row q
  -- every limit that the deliveries fit in gives the same result
  obtain ⟨l, s', row', hd, hpass⟩ := exists_passage ht now _ rfl rfl hn
    [(_, a)] (by
      intro x hx
      rw [List.mem_singleton.1 hx]
      exact haim)
  have hhandlers := hpass.handlers
  have hends := hpass.ends
  rw [handlers_ofPipeline] at hhandlers hends
  refine ⟨l.length, s'.pipeline, s'.world, ?_, hp.of_delivers hd, ?_, ?_⟩
  · intro limit hlimit
    rw [send_eq_dispatch]
    exact (hp.dispatch_of_delivers hd hlimit).1
  · have hreceived := received_foldl (compose t (way.handlers p) [a]).2 p
    have htake : (way.take s'.pipeline).1 = (way.take s'.ends).1 := by cases way <;> rfl
    exact ⟨by rw [htake, hends]; exact hreceived.parcels,
      by rw [Scene.pipeline, hends]; exact hreceived.read,
      by rw [Scene.pipeline, hends]; exact hreceived.close⟩
  · rw [handlers_pipeline, hpass.course, List.nil_append, hhandlers]
    rfl

theorem handlers_take (way : Way) (p : Pipeline σ) :
    way.handlers (way.take p).2 = way.handlers p := by
  cases way <;> rfl

theorem wellFormed_take (way : Way) (hp : p.WellFormed) : (way.take p).2.WellFormed := by
  cases way <;> exact hp.of_sublist (.refl _) rfl hp.full

theorem received_take (way : Way) (p : Pipeline σ) : (way.take (way.take p).2).1 = [] ∧
    (way.take p).2.readRequested = p.readRequested ∧
    (way.take p).2.closeRequested = p.closeRequested := by
  cases way <;> exact ⟨rfl, rfl, rfl⟩

/-- From `p` to `q` the stages have worked on a stream, and these parcels were taken meanwhile. -/
structure Collected (t : σ → way.Item → Reply σ way.Item) (p : Pipeline σ) (as : List way.Item)
    (taken : List way.Parcel) (q : Pipeline σ) : Prop where
  parcels : taken ++ (way.take q).1 =
    (way.take p).1 ++ way.parcels (compose t (way.handlers p) as).2
  read : q.readRequested = (p.readRequested || way.asks .read (compose t (way.handlers p) as).2)
  close : q.closeRequested =
    (p.closeRequested || way.asks .close (compose t (way.handlers p) as).2)
  handlers : way.handlers q = (compose t (way.handlers p) as).1.filter Option.isSome

namespace Collected

variable {r : Pipeline σ} {a : way.Item} {taken : List way.Parcel}

theorem refl (hp : p.WellFormed) : Collected t p [] [] p := by
  have hfull : (way.handlers p).filter Option.isSome = way.handlers p := by
    rw [List.filter_eq_self]
    intro o ho
    have hmem : o ∈ p.stages.map (·.slot) := by
      cases way with
      | inbound => exact ho
      | outbound => exact List.mem_reverse.1 ho
    obtain ⟨st, hst, rfl⟩ := List.mem_map.1 hmem
    obtain ⟨h, hh⟩ := hp.full st hst
    rw [hh]
    rfl
  have hnil := received_nil way p
  have hcompose := compose_nil t (way.handlers p)
  constructor
  · rw [hcompose]
    exact hnil.parcels
  · rw [hcompose]
    exact hnil.read
  · rw [hcompose]
    exact hnil.close
  · rw [hcompose, hfull]

theorem send (hq : Received p (compose t (way.handlers p) [a]).2 q)
    (hhandlers : way.handlers q = (compose t (way.handlers p) [a]).1.filter Option.isSome)
    (hc : Collected t q as taken r) : Collected t p (a :: as) taken r := by
  -- the pipeline has dropped the stages that left, the composition keeps them as identities
  obtain ⟨hout, hleft⟩ := compose_filter t (compose t (way.handlers p) [a]).1 as
  have happend := compose_append t (way.handlers p) [a] as
  rw [List.singleton_append] at happend
  constructor
  · rw [hc.parcels, hq.parcels, hhandlers, hout, happend, parcels_append, List.append_assoc]
  · rw [hc.read, hq.read, hhandlers, hout, happend, asks_append, Bool.or_assoc]
  · rw [hc.close, hq.close, hhandlers, hout, happend, asks_append, Bool.or_assoc]
  · rw [hc.handlers, hhandlers, hleft, happend]

theorem take (hc : Collected t (way.take p).2 as taken q) :
    Collected t p as ((way.take p).1 ++ taken) q := by
  obtain ⟨hempty, hread, hclose⟩ := received_take way p
  have hhandlers := handlers_take way p
  constructor
  · rw [List.append_assoc, hc.parcels, hempty, hhandlers, List.nil_append]
  · rw [hc.read, hread, hhandlers]
  · rw [hc.close, hclose, hhandlers]
  · rw [hc.handlers, hhandlers]

end Collected

theorem exists_feed (hp : p.WellFormed) (ht : way.Oblivious b.react t)
    (turns : List (Turn way.Item)) (w : ω) :
    ∃ n taken q w', (∀ limit ≥ n, way.feed (b.within limit) turns p w = some (taken, q, w')) ∧
      Collected t p (sent turns) taken q := by
  induction turns generalizing p w with
  | nil => exact ⟨0, [], p, w, fun _ _ => rfl, .refl hp⟩
  | cons turn turns ih =>
    cases turn with
    | send now a =>
      obtain ⟨n₁, p₁, w₁, hsend, hp₁, hreceived, hhandlers⟩ := exists_send hp ht now a w
      obtain ⟨n₂, taken, q, w', hfeed, hc⟩ := ih hp₁ w₁
      refine ⟨max n₁ n₂, taken, q, w', ?_, hc.send hreceived hhandlers⟩
      intro limit hlimit
      rw [feed, hsend limit (le_trans (Nat.le_max_left ..) hlimit), Option.bind_some]
      exact hfeed limit (le_trans (Nat.le_max_right ..) hlimit)
    | take =>
      obtain ⟨n, taken, q, w', hfeed, hc⟩ := ih (wellFormed_take way hp) w
      refine ⟨n, (way.take p).1 ++ taken, q, w', ?_, hc.take⟩
      intro limit hlimit
      rw [feed, hfeed limit hlimit]
      rfl

/-- Whatever is sent through a chain and whenever the driver takes what came out, nothing is lost,
doubled or put in another order: the whole is what the composed stages make of the whole stream. The
stages that are left are those that have not left their transducer. -/
theorem feed_eq_compose (hp : p.Built ω) (ht : way.Oblivious b.react t)
    (turns : List (Turn way.Item)) (w : ω) :
    ∃ n taken q w', (∀ limit ≥ n, way.feed (b.within limit) turns p w = some (taken, q, w')) ∧
      taken ++ (way.take q).1 =
        (way.take p).1 ++ way.parcels (compose t (way.handlers p) (sent turns)).2 ∧
      q.readRequested =
        (p.readRequested || way.asks .read (compose t (way.handlers p) (sent turns)).2) ∧
      q.closeRequested =
        (p.closeRequested || way.asks .close (compose t (way.handlers p) (sent turns)).2) ∧
      way.handlers q = (compose t (way.handlers p) (sent turns)).1.filter Option.isSome := by
  obtain ⟨n, taken, q, w', hfeed, hc⟩ := exists_feed hp.wellFormed ht turns w
  exact ⟨n, taken, q, w', hfeed, hc.parcels, hc.read, hc.close, hc.handlers⟩

def doublingReply {α : Type} (h : Bool) (a : α) : Reply Bool α :=
  if h then ⟨h, [a, a], true⟩ else ⟨h, [a], false⟩

theorem doubling_oblivious (way : Way) :
    way.Oblivious Pipeline.doubling.react doublingReply := by
  intro v a h w
  cases h <;> exact ⟨rfl, rfl, rfl⟩

theorem feed_eq_compose_of_doubling :
    Pipeline.doublingPair.Built Unit ∧ inbound.Oblivious Pipeline.doubling.react doublingReply ∧
      ∃ n taken q w',
        (∀ limit ≥ n, inbound.feed (Pipeline.doubling.within limit)
          [.send 0 .registered, .take, .send 1 .active] Pipeline.doublingPair () =
            some (taken, q, w')) ∧
        taken ++ q.tail = [.registered, .registered, .active] ∧
        q.stages.map (·.slot) = [some false] := by
  refine ⟨Pipeline.doublingPair_built, doubling_oblivious inbound, ?_⟩
  obtain ⟨n, taken, q, w', hfeed, hparcels, -, -, hrest⟩ :=
    feed_eq_compose Pipeline.doublingPair_built (doubling_oblivious inbound)
      [.send 0 .registered, .take, .send 1 .active] ()
  exact ⟨n, taken, q, w', hfeed, hparcels, hrest⟩

end Way
end SecureGateway

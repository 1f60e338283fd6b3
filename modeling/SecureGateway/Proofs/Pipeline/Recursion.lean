import SecureGateway.Pipeline.Dispatch

namespace SecureGateway

variable {σ ω : Type}

structure Call (σ ω : Type) where
  view : View σ
  signal : Signal
  handler : σ
  world : ω

def Call.reaction (react : React σ σ ω) (c : Call σ ω) : Reaction σ ω :=
  react c.view c.signal c.handler c.world

/-- What happens in a dispatch: handlers are called, and signals leave the chain at its ends. -/
inductive Happening (σ ω : Type) where
  | called (c : Call σ ω)
  | left (s : Signal)

/-- A place in a chain, vacant once its stage has left. -/
structure Place (σ : Type) where
  id : Nat
  name : StageName
  handler : Option σ

namespace Place

def stage? (q : Place σ) : Option (Stage σ) := q.handler.map fun h => ⟨q.id, q.name, some h⟩

def stands (q : Place σ) : Bool := q.handler.isSome

def ofStage (s : Stage σ) : Place σ := ⟨s.id, s.name, s.slot⟩

end Place

namespace Signal

def course {α : Type} : Signal → List α → List α
  | inbound _, l => l
  | outbound _, l => l.reverse

theorem course_map {α β : Type} (sig : Signal) (f : α → β) (l : List α) :
    sig.course (l.map f) = (sig.course l).map f := by
  cases sig with
  | inbound s => rfl
  | outbound op => exact List.map_reverse.symm

theorem nodup_course {α : Type} (sig : Signal) {l : List α} (hn : l.Nodup) : (sig.course l).Nodup := by
  cases sig with
  | inbound s => exact hn
  | outbound op => exact List.pairwise_reverse.2 (hn.imp Ne.symm)

def aimedAt (target : Option Nat) : Signal → Hop
  | inbound s => .inbound target s
  | outbound op => .outbound target op

end Signal

def Hop.target : Hop → Option Nat
  | inbound t _ => t
  | outbound t _ => t

/-- The first stage that stands at the hop's target or further on. -/
def Hop.landing (places : List (Place σ)) (hop : Hop) : Option (Place σ) :=
  hop.target.bind fun id => ((hop.signal.course places).dropWhile (·.id != id)).find? Place.stands

def nearest (row : List (Place σ)) : Option Nat := (row.find? Place.stands).map (·.id)

/-- The way of a signal to the neighbour, from a place with the given rows on either side. -/
def Signal.hopBetween (before after : List (Place σ)) : Signal → Hop
  | .inbound s => .inbound (nearest after) s
  | .outbound op => .outbound (nearest before.reverse) op

/-- A chain in the course of a dispatch. -/
structure Scene (σ ω : Type) where
  places : List (Place σ)
  /-- The rest of the pipeline; its own stage list does not count. -/
  ends : Pipeline σ
  world : ω

namespace Scene

def ofPipeline (p : Pipeline σ) (w : ω) : Scene σ ω := ⟨p.stages.map .ofStage, p, w⟩

def pipeline (s : Scene σ ω) : Pipeline σ :=
  { s.ends with stages := s.places.filterMap Place.stage? }

def arrive (sig : Signal) (s : Scene σ ω) : Scene σ ω := { s with ends := s.ends.arrive sig }

/-- The call of the handler `h` at a place. It sees the other stages and its own empty slot. -/
def call (now : Instant) (before : List (Place σ)) (q : Place σ) (after : List (Place σ))
    (sig : Signal) (h : σ) (s : Scene σ ω) : Call σ ω :=
  ⟨⟨s.ends.channel, q.name, before.filterMap Place.stage? ++ ⟨q.id, q.name, none⟩ ::
    after.filterMap Place.stage?, now⟩, sig, h, s.world⟩

def react (before : List (Place σ)) (q : Place σ) (after : List (Place σ)) (r : Reaction σ ω)
    (s : Scene σ ω) : Scene σ ω where
  places := before ++ { q with handler := if r.leaves then none else some r.handler } :: after
  ends := s.ends
  world := r.world

end Scene

/-- Hops are delivered one after the other, each with everything that follows from it. -/
inductive Delivers (react : React σ σ ω) (now : Instant) :
    Scene σ ω → List Hop → List (Happening σ ω) → Scene σ ω → Prop
  | done (s : Scene σ ω) : Delivers react now s [] [] s
  | leave {s s' : Scene σ ω} {hop : Hop} {hops : List Hop} {l : List (Happening σ ω)} :
    hop.landing s.places = none → Delivers react now (s.arrive hop.signal) hops l s' →
      Delivers react now s (hop :: hops) (.left hop.signal :: l) s'
  | call {s s₁ s' : Scene σ ω} {hop : Hop} {hops : List Hop} {inner outer : List (Happening σ ω)}
    {before after : List (Place σ)} {q : Place σ} {h : σ} {c : Call σ ω} :
    hop.landing s.places = some q → s.places = before ++ q :: after → q.handler = some h →
      c = s.call now before q after hop.signal h →
      Delivers react now (s.react before q after (c.reaction react))
        ((c.reaction react).emitted.map (Signal.hopBetween before after)) inner s₁ →
      Delivers react now s₁ hops outer s' →
      Delivers react now s (hop :: hops) (.called c :: (inner ++ outer)) s'

namespace Delivers

variable {react : React σ σ ω} {now : Instant} {s s' s₁ : Scene σ ω} {xs ys : List Hop}
  {l l₁ l₂ : List (Happening σ ω)}

theorem cons_inv {hop : Hop} (hd : Delivers react now s (hop :: xs) l s') :
    (hop.landing s.places = none ∧ ∃ l', l = .left hop.signal :: l' ∧
      Delivers react now (s.arrive hop.signal) xs l' s') ∨
    ∃ before q after h inner outer s₁, hop.landing s.places = some q ∧
      s.places = before ++ q :: after ∧ q.handler = some h ∧
      l = .called (s.call now before q after hop.signal h) :: (inner ++ outer) ∧
      Delivers react now
        (s.react before q after ((s.call now before q after hop.signal h).reaction react))
        (((s.call now before q after hop.signal h).reaction react).emitted.map
          (Signal.hopBetween before after)) inner s₁ ∧
      Delivers react now s₁ xs outer s' := by
  cases hd with
  | leave hland hd => exact .inl ⟨hland, _, rfl, hd⟩
  | call hland hsplit hq hc hin hout =>
    subst hc
    exact .inr ⟨_, _, _, _, _, _, _, hland, hsplit, hq, rfl, hin, hout⟩

theorem append (h₁ : Delivers react now s xs l₁ s₁) (h₂ : Delivers react now s₁ ys l₂ s') :
    Delivers react now s (xs ++ ys) (l₁ ++ l₂) s' := by
  induction h₁ with
  | done => exact h₂
  | leave hland _ ih => exact .leave hland (ih h₂)
  | call hland hsplit hq hc hin _ _ ih =>
    rw [List.cons_append, List.cons_append, List.append_assoc]
    exact .call hland hsplit hq hc hin (ih h₂)

theorem split (h : Delivers react now s (xs ++ ys) l s') :
    ∃ l₁ l₂ s₁, Delivers react now s xs l₁ s₁ ∧ Delivers react now s₁ ys l₂ s' ∧ l = l₁ ++ l₂ := by
  -- the first hop belongs to the first part, or that part is empty and all is left to the second
  generalize hz : xs ++ ys = zs at h
  induction h generalizing xs with
  | done s =>
    obtain ⟨rfl, rfl⟩ := List.append_eq_nil_iff.1 hz
    exact ⟨[], [], s, .done s, .done s, rfl⟩
  | @leave s s' hop hops l hland hd ih =>
    cases xs with
    | nil =>
      rw [List.nil_append] at hz
      subst hz
      exact ⟨[], _, s, .done s, .leave hland hd, rfl⟩
    | cons x xs =>
      obtain ⟨rfl, htail⟩ := List.cons_eq_cons.1 hz
      obtain ⟨l₁, l₂, s₁, h₁, h₂, rfl⟩ := ih htail
      exact ⟨_, l₂, s₁, .leave hland h₁, h₂, rfl⟩
  | @call s s₀ s' hop hops inner outer before after q h c hland hsplit hq hc hin hout _ ih =>
    cases xs with
    | nil =>
      rw [List.nil_append] at hz
      subst hz
      exact ⟨[], _, s, .done s, .call hland hsplit hq hc hin hout, rfl⟩
    | cons x xs =>
      obtain ⟨rfl, htail⟩ := List.cons_eq_cons.1 hz
      obtain ⟨l₁, l₂, s₁, h₁, h₂, rfl⟩ := ih htail
      exact ⟨_, l₂, s₁, .call hland hsplit hq hc hin h₁, h₂, by simp⟩

end Delivers
end SecureGateway

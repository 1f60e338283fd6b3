import Mathlib.Logic.Relation
import SecureGateway.Proofs.Pipeline.Invariant

namespace SecureGateway

variable {σ ω : Type} {react : React σ σ ω} {now : Instant}

def Evolves (react : React σ σ ω) (h h' : σ) : Prop :=
  ∃ v sig w, (react v sig h w).handler = h'

/-- Whatever calls it has had, the handler answers an operation with operations only. -/
def OneWay (react : React σ σ ω) (h : σ) : Prop :=
  ∀ h', Relation.ReflTransGen (Evolves react) h h' →
    ∀ v op w s, Signal.inbound s ∉ (react v (.outbound op) h' w).emitted

theorem OneWay.handler {h : σ} (ho : OneWay react h) (v : View σ) (sig : Signal) (w : ω) :
    OneWay react (react v sig h w).handler :=
  fun h' hh' => ho h' (.head ⟨v, sig, w, rfl⟩ hh')

section Rows

variable {α : Type} {front back : List α} {x : α}

theorem length_lt_of_mem_dropWhile {p : α → Bool} (hn : (front ++ x :: back).Nodup)
    (hx : x ∈ (front ++ x :: back).dropWhile p) :
    back.length < ((front ++ x :: back).dropWhile p).length := by
  induction front with
  | nil =>
    rw [List.nil_append] at hn hx ⊢
    cases hp : p x with
    | true =>
      rw [List.dropWhile_cons_of_pos hp] at hx
      exact absurd ((List.dropWhile_sublist p).mem hx) (List.nodup_cons.1 hn).1
    | false =>
      rw [List.dropWhile_cons_of_neg (by simp [hp])]
      exact Nat.lt_succ_self _
  | cons y front ih =>
    rw [List.cons_append] at hn hx ⊢
    cases hp : p y with
    | true =>
      rw [List.dropWhile_cons_of_pos hp] at hx ⊢
      exact ih (List.nodup_cons.1 hn).2 hx
    | false =>
      rw [List.dropWhile_cons_of_neg (by simp [hp])]
      simp only [List.length_cons, List.length_append]
      omega

theorem length_dropWhile_le [DecidableEq α] (hn : (front ++ back).Nodup) (hx : x ∈ back) :
    ((front ++ back).dropWhile (· != x)).length ≤ back.length := by
  have hfront : ∀ y ∈ front, (y != x) = true := fun y hy =>
    bne_iff_ne.2 ((List.nodup_append.1 hn).2.2 y hy x hx)
  rw [List.dropWhile_append_of_pos hfront]
  exact (List.dropWhile_sublist _).length_le

end Rows

namespace Hop

def ahead (ids : List Nat) (hop : Hop) : Nat :=
  match hop.target with
  | none => 0
  | some id => ((hop.signal.course ids).dropWhile (· != id)).length

/-- Inbound signals rank above operations. -/
def rank (ids : List Nat) (hop : Hop) : Nat :=
  hop.ahead ids + if hop.isInbound then ids.length + 1 else 0

theorem ahead_le (ids : List Nat) (hop : Hop) : hop.ahead ids ≤ ids.length := by
  unfold ahead
  split
  · exact Nat.zero_le _
  · refine (List.dropWhile_sublist _).length_le.trans (Nat.le_of_eq ?_)
    cases hop with
    | inbound t s => rfl
    | outbound t op => exact List.length_reverse

end Hop

theorem Signal.course_split {α : Type} (sig : Signal) (front back : List α) (x : α) :
    sig.course (front ++ x :: back) = sig.beyond back front ++ x :: sig.beyond front back := by
  cases sig with
  | inbound s => rfl
  | outbound op => simp [course, beyond]

namespace Hop

variable {places before after : List (Place σ)} {q : Place σ} {hop : Hop}

theorem lt_ahead_of_landing (hn : (places.map (·.id)).Nodup) (hsplit : places = before ++ q :: after)
    (hland : hop.landing places = some q) :
    (hop.signal.beyond before after).length < hop.ahead (places.map (·.id)) := by
  obtain ⟨id, hid, hfind⟩ := Option.bind_eq_some_iff.1 hland
  have hmem := List.mem_of_find?_eq_some hfind
  have hnodup := hop.signal.nodup_course (List.Nodup.of_map _ hn)
  have hahead : hop.ahead (places.map (·.id)) =
      ((hop.signal.course places).dropWhile (·.id != id)).length := by
    rw [ahead, hid, Signal.course_map]
    exact (congrArg List.length List.dropWhile_map).trans (List.length_map _)
  rw [hahead]
  rw [hsplit, Signal.course_split] at hmem hnodup ⊢
  exact length_lt_of_mem_dropWhile hnodup hmem

theorem ahead_hopBetween_le (hn : (places.map (·.id)).Nodup) (hsplit : places = before ++ q :: after)
    (sig : Signal) :
    (sig.hopBetween before after).ahead (places.map (·.id)) ≤ (sig.beyond before after).length := by
  have htarget : (sig.hopBetween before after).target = nearest (sig.beyond before after) := by
    cases sig <;> rfl
  have hsignal : (sig.hopBetween before after).signal = sig := by cases sig <;> rfl
  rw [ahead, htarget, hsignal]
  cases hnear : nearest (sig.beyond before after) with
  | none => exact Nat.zero_le _
  | some id =>
    have hid := Scene.mem_of_nearest hnear
    have hnodup := sig.nodup_course hn
    rw [Signal.course_map, hsplit, Signal.course_split, ← List.singleton_append,
      ← List.append_assoc, List.map_append] at hnodup ⊢
    exact (length_dropWhile_le hnodup hid).trans (Nat.le_of_eq (List.length_map _))

/-- Whatever a call sends on ranks below the hop that led to the call. -/
theorem rank_hopBetween_lt (hn : (places.map (·.id)).Nodup) (hsplit : places = before ++ q :: after)
    (hland : hop.landing places = some q) {sig : Signal}
    (hdown : ∀ t op s, hop = .outbound t op → sig ≠ .inbound s) :
    (sig.hopBetween before after).rank (places.map (·.id)) < hop.rank (places.map (·.id)) := by
  have hfrom := lt_ahead_of_landing hn hsplit hland
  have hto := ahead_hopBetween_le hn hsplit sig
  cases sig with
  | inbound s =>
    cases hop with
    | inbound t s' => exact Nat.add_lt_add_right (hto.trans_lt hfrom) _
    | outbound t op => exact absurd rfl (hdown t op s rfl)
  | outbound op =>
    cases hop with
    | inbound t s =>
      -- operations rank below every inbound signal, wherever they go
      have hall := ahead_le (places.map (·.id)) (Signal.hopBetween before after (.outbound op))
      exact hall.trans_lt (Nat.lt_add_left _ (Nat.lt_succ_self _))
    | outbound t op' => exact hto.trans_lt hfrom

end Hop

def Scene.AllOneWay (react : React σ σ ω) (s : Scene σ ω) : Prop :=
  ∀ q ∈ s.places, ∀ h, q.handler = some h → OneWay react h

namespace Scene

variable {s : Scene σ ω}

theorem AllOneWay.call {before after : List (Place σ)} {q : Place σ} {h : σ} {c : Call σ ω}
    (ho : s.AllOneWay react) (hsplit : s.places = before ++ q :: after) (hh : q.handler = some h)
    (hc : c.handler = h) : (s.react before q after (c.reaction react)).AllOneWay react := by
  intro x hx y hy
  rw [AllOneWay, hsplit] at ho
  rcases List.mem_append.1 hx with hx | hx
  · exact ho x (List.mem_append_left _ hx) y hy
  rcases List.mem_cons.1 hx with rfl | hx
  · have hq := ho q (List.mem_append_right _ (List.mem_cons_self ..)) h hh
    obtain rfl := Option.some.inj (Option.ite_none_left_eq_some.1 hy).2
    exact (hc ▸ hq).handler c.view c.signal c.world
  · exact ho x (List.mem_append_right _ (List.mem_cons_of_mem _ hx)) y hy

/-- Hops below some rank are delivered, with all that follows from them. -/
theorem exists_delivers (bound : Nat) (now : Instant) (s : Scene σ ω) (hops : List Hop)
    (hn : (s.places.map (·.id)).Nodup) (ho : s.AllOneWay react)
    (hrank : ∀ hop ∈ hops, hop.rank (s.places.map (·.id)) < bound) :
    ∃ l s', Delivers react now s hops l s' ∧ s'.AllOneWay react := by
  -- on the bound, since what a call sends on ranks below the hop that led to the call, and then hop
  -- by hop
  induction bound generalizing s hops with
  | zero =>
    cases hops with
    | nil => exact ⟨[], s, .done s, ho⟩
    | cons hop hops => exact absurd (hrank hop (List.mem_cons_self ..)) (Nat.not_lt_zero _)
  | succ bound ihbound =>
    induction hops generalizing s with
    | nil => exact ⟨[], s, .done s, ho⟩
    | cons hop hops ihhops =>
      have hrest : ∀ x ∈ hops, x.rank (s.places.map (·.id)) < bound + 1 := fun x hx =>
        hrank x (List.mem_cons_of_mem _ hx)
      cases hland : hop.landing s.places with
      | none =>
        obtain ⟨l, s', hd, ho'⟩ := ihhops (s.arrive hop.signal) hn ho hrest
        exact ⟨_, s', .leave hland hd, ho'⟩
      | some q =>
        obtain ⟨before, after, h, hsplit, hh⟩ := hop.exists_split_of_landing hland
        let c := s.call now before q after hop.signal h
        have hids := Scene.ids_react hsplit (c.reaction react)
        have hemitted : ∀ x ∈ (c.reaction react).emitted.map (Signal.hopBetween before after),
            x.rank (s.places.map (·.id)) < bound := by
          intro x hx
          obtain ⟨sig, hsig, rfl⟩ := List.mem_map.1 hx
          refine (Hop.rank_hopBetween_lt hn hsplit hland ?_).trans_le
            (Nat.le_of_lt_succ (hrank hop (List.mem_cons_self ..)))
          rintro t op a rfl rfl
          have hq : q ∈ s.places := hsplit ▸ List.mem_append_right _ (List.mem_cons_self ..)
          exact ho q hq h hh h .refl _ op _ a hsig
        obtain ⟨inner, s₁, hin, ho₁⟩ := ihbound _ _ (hids ▸ hn) (ho.call hsplit hh rfl)
          (hids ▸ hemitted)
        have hids₁ := hin.ids_eq.trans hids
        obtain ⟨outer, s', hout, ho'⟩ := ihhops s₁ (hids₁ ▸ hn) ho₁ (hids₁ ▸ hrest)
        exact ⟨_, s', .call hland hsplit hh rfl hin hout, ho'⟩

end Scene

theorem Dispatch.advance_within (b : Behaviour σ ω) (now : Instant) (limit n : Nat)
    (d : Dispatch σ ω) : d.advance (b.within limit) now n = d.advance b now n := by
  induction n generalizing d with
  | zero => rfl
  | succ n ih => exact ih (d.step b now)

namespace Pipeline

variable {p : Pipeline σ} {b : Behaviour σ ω}

/-- A dispatch of a chain whose handlers answer operations with operations only comes to its end,
whatever else they do, and from then on the limit makes no difference. -/
theorem dispatch_ends (hp : p.Built ω) (ho : ∀ st ∈ p.stages, ∀ h, st.slot = some h → OneWay b.react h)
    (now : Instant) (sig : Signal) (w : ω) :
    ∃ n, let d := (Dispatch.ofHop p w (p.entry sig)).advance b now n
      d.queue = [] ∧ ∀ limit ≥ n, p.perform (b.within limit) now sig w = some (d.pipeline, d.world) := by
  have hwell := hp.wellFormed
  let s := Scene.ofPipeline p w
  have hall : s.AllOneWay b.react := by
    intro q hq h hh
    obtain ⟨st, hst, rfl⟩ := List.mem_map.1 hq
    exact ho st hst h hh
  obtain ⟨l, s', hd, -⟩ := Scene.exists_delivers ((p.entry sig).rank (s.places.map (·.id)) + 1) now s
    [p.entry sig] hwell.ids_places hall fun hop hhop => by
      rw [List.mem_singleton.1 hhop]
      exact Nat.lt_succ_self _
  have hperform : ∀ limit ≥ l.length,
      p.perform (b.within limit) now sig w = some (s'.pipeline, s'.world) := fun limit hlimit => by
    rw [perform_eq]
    exact (hwell.dispatch_of_delivers hd hlimit).1
  obtain ⟨hqueue, hpipeline, hworld⟩ := advance_of_perform (hperform l.length (Nat.le_refl _))
  rw [Dispatch.advance_within] at hqueue hpipeline hworld
  refine ⟨l.length, hqueue, fun limit hlimit => ?_⟩
  rw [hperform limit hlimit, ← hpipeline, ← hworld]
  rfl

theorem oneWay_doubling (h : Bool) : OneWay doubling.react h := by
  rintro h' - v op w s hmem
  cases h' <;> simp [doubling] at hmem

/-- Two of the three stages double what they are given and leave while signals are on their way to
them. -/
theorem dispatch_ends_of_doubling :
    doublingTrio.Built Unit ∧
      (∀ st ∈ doublingTrio.stages, ∀ h, st.slot = some h → OneWay doubling.react h) ∧
      ∃ n, let d := (Dispatch.ofHop doublingTrio () (doublingTrio.entry (.inbound .registered))).advance
            doubling 0 n
        d.queue = [] ∧ ∀ limit ≥ n, doublingTrio.perform (doubling.within limit) 0
          (.inbound .registered) () = some (d.pipeline, d.world) :=
  ⟨doublingTrio_built, fun _ _ h _ => oneWay_doubling h,
    dispatch_ends doublingTrio_built (fun _ _ h _ => oneWay_doubling h) 0 (.inbound .registered) ()⟩

/-- A stage with `true` answers operations with an inbound signal, one with `false` inbound signals with
an operation. -/
def bouncing : Behaviour Bool Unit where
  react _ sig h w :=
    match h, sig with
    | true, .outbound _ => ⟨h, [.inbound .registered], false, w⟩
    | false, .inbound _ => ⟨h, [.outbound .read], false, w⟩
    | _, sig => ⟨h, [sig], false, w⟩
  limit := 0

/-- Without the condition a dispatch can go on for ever. -/
theorem endless_bouncing (n : Nat) :
    ((Dispatch.ofHop doublingPair () (doublingPair.entry (.inbound .registered))).advance bouncing 0
      n).queue ≠ [] := by
  let out : Dispatch Bool Unit := Dispatch.ofHop doublingPair () (.outbound (some 0) .read)
  let back : Dispatch Bool Unit := Dispatch.ofHop doublingPair () (.inbound (some 1) .registered)
  have hturns : ∀ n, out.advance bouncing 0 n = out ∨ out.advance bouncing 0 n = back := by
    intro n
    induction n with
    | zero => exact .inl rfl
    | succ n ih =>
      rw [Dispatch.advance_succ]
      rcases ih with h | h <;> rw [h]
      · exact .inr rfl
      · exact .inl rfl
  -- the signal first passes the stage at the transport, and is then sent to and fro
  match n with
  | 0 => exact List.cons_ne_nil _ _
  | 1 => exact List.cons_ne_nil _ _
  | n + 2 =>
    show (out.advance bouncing 0 n).queue ≠ []
    rcases hturns n with h | h <;> rw [h] <;> exact List.cons_ne_nil _ _

end Pipeline
end SecureGateway

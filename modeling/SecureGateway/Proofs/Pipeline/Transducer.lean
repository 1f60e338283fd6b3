import SecureGateway.Pipeline.Dispatch

namespace SecureGateway

/-- What a handler does with a signal: its next state, what it emits, and whether it leaves. -/
structure Reply (σ α : Type) where
  handler : σ
  emitted : List α
  leaves : Bool

variable {σ α : Type}

def Reply.next (r : Reply σ α) : Option σ := if r.leaves then none else some r.handler

def pass (t : σ → α → Reply σ α) : Option σ → α → Option σ × List α
  | none, a => (none, [a])
  | some h, a => ((t h a).next, (t h a).emitted)

def transduce (t : σ → α → Reply σ α) : Option σ → List α → Option σ × List α
  | o, [] => (o, [])
  | o, a :: as =>
    ((transduce t (pass t o a).1 as).1, (pass t o a).2 ++ (transduce t (pass t o a).1 as).2)

/-- A stream through a row of stages, each working on the whole output of the one before it. -/
def compose (t : σ → α → Reply σ α) : List (Option σ) → List α → List (Option σ) × List α
  | [], as => ([], as)
  | o :: os, as =>
    ((transduce t o as).1 :: (compose t os (transduce t o as).2).1,
      (compose t os (transduce t o as).2).2)

variable (t : σ → α → Reply σ α)

theorem transduce_append (o : Option σ) (as bs : List α) :
    transduce t o (as ++ bs) =
      ((transduce t (transduce t o as).1 bs).1,
        (transduce t o as).2 ++ (transduce t (transduce t o as).1 bs).2) := by
  induction as generalizing o with
  | nil => rfl
  | cons a as ih => simp only [List.cons_append, transduce, ih, List.append_assoc]

theorem transduce_none (as : List α) : transduce t none as = (none, as) := by
  induction as with
  | nil => rfl
  | cons a as ih => simp only [transduce, pass, ih, List.singleton_append]

theorem compose_nil (os : List (Option σ)) : compose t os [] = (os, []) := by
  induction os with
  | nil => rfl
  | cons o os ih => simp only [compose, transduce, ih]

/-- What comes first is through the whole row before the rest need to be begun. -/
theorem compose_append (os : List (Option σ)) (as bs : List α) :
    compose t os (as ++ bs) =
      ((compose t (compose t os as).1 bs).1,
        (compose t os as).2 ++ (compose t (compose t os as).1 bs).2) := by
  induction os generalizing as bs with
  | nil => rfl
  | cons o os ih => simp only [compose, transduce_append, ih]

theorem compose_none_cons (os : List (Option σ)) (as : List α) :
    compose t (none :: os) as = (none :: (compose t os as).1, (compose t os as).2) := by
  simp only [compose, transduce_none]

theorem compose_cons_singleton (o : Option σ) (os : List (Option σ)) (a : α) :
    compose t (o :: os) [a] =
      ((pass t o a).1 :: (compose t os (pass t o a).2).1, (compose t os (pass t o a).2).2) := by
  simp only [compose, transduce, List.append_nil]

theorem compose_filter (os : List (Option σ)) (as : List α) :
    (compose t (os.filter Option.isSome) as).2 = (compose t os as).2 ∧
      (compose t (os.filter Option.isSome) as).1.filter Option.isSome =
        (compose t os as).1.filter Option.isSome := by
  induction os generalizing as with
  | nil => exact ⟨rfl, rfl⟩
  | cons o os ih =>
    cases o with
    | none =>
      rw [List.filter_cons_of_neg (by simp), compose_none_cons,
        List.filter_cons_of_neg (by simp)]
      exact ih as
    | some h =>
      rw [List.filter_cons_of_pos rfl]
      obtain ⟨h₁, h₂⟩ := ih (transduce t (some h) as).2
      refine ⟨h₁, ?_⟩
      simp only [compose, List.filter_cons, h₂]

end SecureGateway

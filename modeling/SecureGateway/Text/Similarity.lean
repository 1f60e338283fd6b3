namespace SecureGateway.Text

/-- A fraction; nothing at all has the denominator one. -/
structure Similarity where
  part : Nat
  whole : Nat
  deriving DecidableEq, Repr

namespace Similarity

def partner? (b : List Char) (taken : List Nat) (c : Char) (low high : Nat) : Option Nat :=
  (List.range (min high b.length)).find? fun j =>
    decide (low ≤ j) && b[j]? == some c && !taken.contains j

/-- Characters with a partner not too far away, and the places of the partners. -/
def partners (b : List Char) (reach : Nat) :
    Nat → List Nat → List Char → List Char × List Nat
  | _, taken, [] => ([], taken)
  | i, taken, c :: r =>
    match partner? b taken c (i - reach) (i + reach + 1) with
    | none => partners b reach (i + 1) taken r
    | some j =>
      let (cs, taken) := partners b reach (i + 1) (j :: taken) r
      (c :: cs, taken)

def ofWords (a b : List Char) : Similarity :=
  let (left, taken) := partners b (max a.length b.length / 2 - 1) 0 [] a
  let right := (List.range b.length).filter taken.contains |>.filterMap fun j => b[j]?
  let m := left.length
  let swapped := ((left.zip right).filter fun (x, y) => x != y).length / 2
  if m = 0 then ⟨0, 1⟩
  else
    ⟨m * m * b.length + m * m * a.length + (m - swapped) * a.length * b.length,
      3 * a.length * b.length * m⟩

def le (x y : Similarity) : Bool := x.part * y.whole ≤ y.part * x.whole

/-- Seven tenths are enough for a suggestion. -/
def isSuggestive (x : Similarity) : Bool := le ⟨7, 10⟩ x

def insert (x : Similarity × String) : List (Similarity × String) → List (Similarity × String)
  | [] => [x]
  | y :: r => if le y.1 x.1 then y :: insert x r else x :: y :: r

end Similarity

/-- The known words that resemble a word, the most similar one last. -/
def resembling (word : String) (known : List String) : List String :=
  let scored := (known.map fun k => (Similarity.ofWords word.toList k.toList, k)).filter
    fun x => x.1.isSuggestive
  (scored.foldl (fun xs x => Similarity.insert x xs) []).map (·.2)

end SecureGateway.Text

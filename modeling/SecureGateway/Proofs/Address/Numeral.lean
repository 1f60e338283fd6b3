import Mathlib.Algebra.GroupWithZero.Nat
import Mathlib.Data.List.Induction
import Mathlib.Data.List.TakeWhile
import SecureGateway.Address.Socket

namespace SecureGateway.Address

open Text

variable {base bound n d : Nat} {width : Option Nat} {zeros : Bool} {c : Char}
  {cs ds rest : List Char}

def IsDigit (base : Nat) (c : Char) : Prop := (digitOf? base c).isSome = true

theorem notMem_of_isDigit (hds : ∀ x ∈ ds, IsDigit base x) (hc : digitOf? base c = none) :
    c ∉ ds := by
  intro h
  have hdigit := hds c h
  rw [IsDigit, hc] at hdigit
  cases hdigit

theorem digitOf?_digitChar (hd : d < 10) : digitOf? 10 d.digitChar = some d := by
  revert d
  decide

theorem digitOf?_hexDigit (hd : d < 16) : digitOf? 16 (hexDigit d) = some d := by
  revert d
  decide

theorem lt_of_digitOf? (h : digitOf? base c = some d) : d < base := by
  obtain ⟨-, hd⟩ := Option.filter_eq_some_iff.1 h
  exact of_decide_eq_true hd

theorem hexDigitValue?_lt_ten (h : hexDigitValue? c = some d) (hd : d < 10) :
    c = d.digitChar := by
  unfold hexDigitValue? at h
  have hval : ∀ {x y : Char}, x ≤ y ↔ x.toNat ≤ y.toNat := by
    intro x y
    rw [Char.le_def, UInt32.le_iff_toNat_le]
    rfl
  simp only [hval] at h
  have hzero : ('0' : Char).toNat = 48 := rfl
  have hnine : ('9' : Char).toNat = 57 := rfl
  have ha : ('a' : Char).toNat = 97 := rfl
  have hA : ('A' : Char).toNat = 65 := rfl
  have hnum : c.toNat = d.digitChar.toNat := by
    rw [Nat.toNat_digitChar_of_lt_ten hd]
    split at h
    · have := Option.some.inj h
      omega
    · split at h
      · have := Option.some.inj h
        omega
      · split at h
        · have := Option.some.inj h
          omega
        · cases h
  exact Char.toNat_inj.1 hnum

theorem eq_digitChar (h : digitOf? 10 c = some d) : c = d.digitChar :=
  hexDigitValue?_lt_ten (Option.filter_eq_some_iff.1 h).1 (lt_of_digitOf? h)

def digitsValue (base : Nat) (ds : List Char) : Nat :=
  ds.foldl (fun n c => n * base + (digitOf? base c).getD 0) 0

theorem digitsValue_concat (base : Nat) (ds : List Char) (c : Char) :
    digitsValue base (ds ++ [c]) = digitsValue base ds * base + (digitOf? base c).getD 0 := by
  rw [digitsValue, List.foldl_append]
  rfl

def Stops (base : Nat) (rest : List Char) : Prop := ∀ c r, rest = c :: r → digitOf? base c = none

theorem stops_nil (base : Nat) : Stops base [] := nofun

theorem stops_cons (h : digitOf? base c = none) (rest : List Char) : Stops base (c :: rest) := by
  intro c' r heq
  obtain ⟨rfl, -⟩ := List.cons_eq_cons.1 heq
  exact h

/-- The digits of a number, with leading zeros only where `zeros` allows them. -/
structure Numeral (base bound : Nat) (width : Option Nat) (zeros : Bool) (ds : List Char) (n : Nat) :
    Prop where
  digits : ∀ c ∈ ds, IsDigit base c
  nonempty : ds ≠ []
  fits : ∀ w ∈ width, ds.length ≤ w
  leading : zeros = false → ds.head? = some '0' → ds.length ≤ 1
  value : digitsValue base ds = n
  small : n < bound

theorem takeWhile_digits (hds : ∀ c ∈ ds, IsDigit base c) (hrest : Stops base rest) :
    (ds ++ rest).takeWhile (fun c => (digitOf? base c).isSome) = ds ∧
      (ds ++ rest).dropWhile (fun c => (digitOf? base c).isSome) = rest := by
  rw [List.takeWhile_append_of_pos hds, List.dropWhile_append_of_pos hds]
  cases rest with
  | nil => exact ⟨List.append_nil ds, rfl⟩
  | cons c r =>
    simp [hrest c r rfl]

theorem Numeral.read (h : Numeral base bound width zeros ds n) (hrest : Stops base rest) :
    readNumber base bound width zeros (ds ++ rest) = some (n, rest) := by
  obtain ⟨htake, hdrop⟩ := takeWhile_digits h.digits hrest
  have hempty : ds.isEmpty = false := by simpa using h.nonempty
  have hwidth : width.any (fun w => w < ds.length) = false := by
    cases width with
    | none => rfl
    | some w => simpa using h.fits w rfl
  have hleading : (!zeros && decide (ds.head? = some '0') && decide (1 < ds.length)) = false := by
    cases zeros with
    | true => rfl
    | false =>
      by_cases hhead : ds.head? = some '0'
      · simpa [hhead] using h.leading rfl hhead
      · simp [hhead]
  have hvalue : ds.foldl (fun n c => n * base + (digitOf? base c).getD 0) 0 = n := h.value
  have hsmall : ¬bound ≤ n := Nat.not_le.2 h.small
  simp only [readNumber, htake, hdrop, hvalue, hempty, hwidth, hleading, hsmall, if_false,
    Bool.false_eq_true]

/-- What is taken is a numeral, and it is all the digits there are. -/
theorem numeral_of_read (h : readNumber base bound width zeros cs = some (n, rest)) :
    ∃ ds, cs = ds ++ rest ∧ Stops base rest ∧ Numeral base bound width zeros ds n := by
  unfold readNumber at h
  simp only at h
  -- a reader fails for want of digits, too many of them, a leading zero or too large a number
  split at h
  · cases h
  rename_i hempty
  split at h
  · cases h
  rename_i hwidth
  split at h
  · cases h
  rename_i hleading
  split at h
  · cases h
  rename_i hsmall
  obtain ⟨hvalue, rfl⟩ := Prod.mk.inj (Option.some.inj h)
  refine ⟨_, List.takeWhile_append_dropWhile.symm, ?_, ?_⟩
  · intro c r heq
    have hc := List.head?_dropWhile_not (fun c => (digitOf? base c).isSome) cs
    rw [heq] at hc
    simpa using hc
  · have hdigits : ∀ c ∈ cs.takeWhile (fun c => (digitOf? base c).isSome), IsDigit base c :=
      fun c hc => List.mem_takeWhile_imp (p := fun c => (digitOf? base c).isSome) hc
    refine ⟨hdigits, by simpa using hempty, ?_, ?_, hvalue, hvalue ▸ Nat.not_le.1 hsmall⟩
    · rintro w rfl
      simpa using hwidth
    · rintro rfl hhead
      simpa [hhead] using hleading

theorem readNumber_cons_of_none (h : digitOf? base c = none) :
    readNumber base bound width zeros (c :: cs) = none := by
  rw [Option.eq_none_iff_forall_ne_some]
  rintro ⟨n, rest⟩ hread
  obtain ⟨ds, hcs, -, hds⟩ := numeral_of_read hread
  cases ds with
  | nil => exact hds.nonempty rfl
  | cons d ds =>
    obtain ⟨rfl, -⟩ := List.cons_eq_cons.1 hcs
    exact notMem_of_isDigit hds.digits h List.mem_cons_self

theorem isDigit_of_mem_toDigits (h : c ∈ Nat.toDigits 10 n) : IsDigit 10 c := by
  have hc := Nat.isDigit_of_mem_toDigits (by decide) (by decide) h
  have hval : ('0' : Char) ≤ c ∧ c ≤ '9' := by simpa [Char.isDigit, Char.le_def] using hc
  have hhex : hexDigitValue? c = some (c.toNat - 48) := if_pos hval
  have hle : c.toNat ≤ 57 := by
    have h9 := hval.2
    rw [Char.le_def, UInt32.le_iff_toNat_le] at h9
    exact h9
  rw [IsDigit, digitOf?, hhex, Option.filter_some_pos]
  · rfl
  · exact decide_eq_true (by omega)

theorem digitsValue_toDigits (n : Nat) : digitsValue 10 (Nat.toDigits 10 n) = n := by
  induction n using Nat.strongRecOn with
  | ind n ih =>
    rw [Nat.toDigits_eq_if (by decide)]
    split
    · rename_i hn
      rw [← List.nil_append [n.digitChar], digitsValue_concat, digitOf?_digitChar hn]
      exact Nat.zero_add n
    · rename_i hn
      rw [digitsValue_concat, ih (n / 10) (by omega), digitOf?_digitChar (by omega)]
      exact Nat.div_add_mod' n 10

theorem head?_toDigits_ne_zero (hn : 0 < n) : (Nat.toDigits 10 n).head? ≠ some '0' := by
  induction n using Nat.strongRecOn with
  | ind n ih =>
    rw [Nat.toDigits_eq_if (by decide)]
    split
    · rw [List.head?_cons, Option.some_inj.ne, Ne, Nat.digitChar_eq_zero]
      omega
    · rename_i hlt
      have hinit := ih (n / 10) (by omega) (by omega)
      obtain ⟨c, cs, hcs⟩ := List.exists_cons_of_ne_nil (Nat.toDigits_ne_nil (n := n / 10) (b := 10))
      rw [hcs] at hinit ⊢
      exact hinit

theorem numeral_toDigits (hn : n < bound) (hwidth : ∀ w ∈ width, 0 < w ∧ n < 10 ^ w) :
    Numeral 10 bound width zeros (Nat.toDigits 10 n) n where
  digits _ hc := isDigit_of_mem_toDigits hc
  nonempty := Nat.toDigits_ne_nil
  fits w hw := (Nat.length_toDigits_le_iff (by decide) (hwidth w hw).1).2 (hwidth w hw).2
  leading _ hhead := by
    obtain rfl : n = 0 := Nat.eq_zero_of_not_pos fun hpos => head?_toDigits_ne_zero hpos hhead
    exact Nat.le_refl 1
  value := digitsValue_toDigits n
  small := hn

theorem digitsValue_pos (hds : ∀ c ∈ ds, IsDigit 10 c) (hne : ds ≠ []) (hhead : ds.head? ≠ some '0') :
    0 < digitsValue 10 ds := by
  induction ds using List.reverseRecOn with
  | nil => exact absurd rfl hne
  | append_singleton ds c ih =>
    rw [digitsValue_concat]
    obtain ⟨d, hd⟩ := Option.isSome_iff_exists.1 (hds c (by simp))
    cases ds with
    | nil =>
      -- a single digit that is not zero
      rw [eq_digitChar hd, List.nil_append, List.head?_cons, Option.some_inj.ne, Ne,
        Nat.digitChar_eq_zero] at hhead
      rw [hd, Option.getD_some]
      omega
    | cons c' ds =>
      have := ih (fun x hx => hds x (List.mem_append_left _ hx)) nofun (by simpa using hhead)
      omega

/-- Without leading zeros, digits are the printed form of their value. -/
theorem eq_toDigits (hds : ∀ c ∈ ds, IsDigit 10 c) (hne : ds ≠ [])
    (hleading : ds.head? = some '0' → ds.length ≤ 1) : ds = Nat.toDigits 10 (digitsValue 10 ds) := by
  induction ds using List.reverseRecOn with
  | nil => exact absurd rfl hne
  | append_singleton ds c ih =>
    obtain ⟨d, hd⟩ := Option.isSome_iff_exists.1 (hds c (by simp))
    have hlt := lt_of_digitOf? hd
    rw [digitsValue_concat, hd, Option.getD_some]
    cases ds with
    | nil =>
      rw [eq_digitChar hd]
      show _ = Nat.toDigits 10 (0 * 10 + d)
      rw [Nat.zero_mul, Nat.zero_add, Nat.toDigits_of_lt_base hlt]
      rfl
    | cons c' ds =>
      have hinit : ∀ x ∈ c' :: ds, IsDigit 10 x := fun x hx => hds x (List.mem_append_left _ hx)
      have hhead : (c' :: ds).head? ≠ some '0' := fun h => by simpa using hleading (by simpa using h)
      have hpos := digitsValue_pos hinit nofun hhead
      have hprefix := ih hinit nofun fun h => absurd h hhead
      rw [Nat.mul_comm, ← Nat.toDigits_append_toDigits (by decide) hpos hlt, ← hprefix,
        Nat.toDigits_of_lt_base hlt, eq_digitChar hd]

theorem Numeral.eq_toDigits (h : Numeral 10 bound width false ds n) : ds = Nat.toDigits 10 n := by
  rw [← h.value]
  exact Address.eq_toDigits h.digits h.nonempty (h.leading rfl)

theorem isDigit_of_mem_hexDigits (n : Nat) (h : c ∈ hexDigits n) : IsDigit 16 c := by
  induction n using hexDigits.induct with
  | case1 n hn =>
    rw [hexDigits, dif_pos hn, List.mem_singleton] at h
    rw [h, IsDigit, digitOf?_hexDigit hn]
    rfl
  | case2 n hn ih =>
    rw [hexDigits, dif_neg hn, List.mem_append, List.mem_singleton] at h
    rcases h with h | rfl
    · exact ih h
    · rw [IsDigit, digitOf?_hexDigit (by omega)]
      rfl

theorem hexDigits_ne_nil (n : Nat) : hexDigits n ≠ [] := by
  rw [hexDigits]
  split
  · exact List.cons_ne_nil _ _
  · exact List.append_ne_nil_of_right_ne_nil _ (List.cons_ne_nil _ _)

theorem digitsValue_hexDigits (n : Nat) : digitsValue 16 (hexDigits n) = n := by
  induction n using hexDigits.induct with
  | case1 n hn =>
    rw [hexDigits, dif_pos hn, ← List.nil_append [hexDigit n], digitsValue_concat,
      digitOf?_hexDigit hn]
    exact Nat.zero_add n
  | case2 n hn ih =>
    rw [hexDigits, dif_neg hn, digitsValue_concat, ih, digitOf?_hexDigit (by omega)]
    exact Nat.div_add_mod' n 16

theorem length_hexDigits_le (k : Nat) (hn : n < 16 ^ (k + 1)) : (hexDigits n).length ≤ k + 1 := by
  induction k generalizing n with
  | zero =>
    rw [hexDigits, dif_pos (by simpa using hn)]
    exact Nat.le_refl 1
  | succ k ih =>
    rw [hexDigits]
    split
    · exact Nat.le_add_left 1 (k + 1)
    · rw [List.length_append]
      exact Nat.add_le_add_right (ih (Nat.div_lt_of_lt_mul (by rwa [← Nat.pow_succ']))) 1

theorem numeral_hexDigits (hn : n < 65536) : Numeral 16 65536 (some 4) true (hexDigits n) n where
  digits _ hc := isDigit_of_mem_hexDigits n hc
  nonempty := hexDigits_ne_nil n
  fits _ hw := Option.some.inj hw ▸ length_hexDigits_le 3 hn
  leading := nofun
  value := digitsValue_hexDigits n
  small := hn

end SecureGateway.Address

import Mathlib.Data.List.DropRight
import Mathlib.Data.Nat.Digits.Defs
import SecureGateway.Text.Blank
import SecureGateway.Text.Numeral

namespace SecureGateway.Text

variable {raw value cs ds : List Char} {c : Char} {m n : Nat} {i j : Int}

/-- The part of a text between the blanks at its two ends. -/
structure Trimmed (raw value : List Char) : Prop where
  between : ∃ before after, raw = before ++ value ++ after ∧ (∀ c ∈ before, isBlank c = true) ∧
    ∀ c ∈ after, isBlank c = true
  head : ∀ c ∈ value.head?, isBlank c = false
  last : ∀ c ∈ value.getLast?, isBlank c = false

theorem dropWhile_of_head {p : Char → Bool} (h : ∀ c ∈ cs.head?, p c = false) : cs.dropWhile p = cs := by
  cases cs with
  | nil => rfl
  | cons c cs => exact List.dropWhile_cons_of_neg (Bool.eq_false_iff.1 (h c rfl))

theorem head?_dropWhile {p : Char → Bool} (h : c ∈ (cs.dropWhile p).head?) : p c = false := by
  have hnot := List.head?_dropWhile_not p cs
  rw [Option.mem_def.1 h] at hnot
  exact hnot

theorem trimmed_trimChars (raw : List Char) : Trimmed raw (trimChars raw) := by
  have hcut : raw.dropWhile isBlank = trimChars raw ++ (raw.dropWhile isBlank).rtakeWhile isBlank := by
    rw [trimChars, List.rtakeWhile, ← List.reverse_append, List.takeWhile_append_dropWhile,
      List.reverse_reverse]
  refine ⟨⟨raw.takeWhile isBlank, (raw.dropWhile isBlank).rtakeWhile isBlank, ?_,
    fun _ => List.mem_takeWhile_imp, fun _ => List.mem_rtakeWhile_imp⟩, fun c hc => ?_, fun c hc => ?_⟩
  · rw [List.append_assoc, ← hcut, List.takeWhile_append_dropWhile]
  · have hfirst : c ∈ (raw.dropWhile isBlank).head? := by
      rw [hcut, List.head?_append, Option.mem_def.1 hc]
      rfl
    exact head?_dropWhile hfirst
  · rw [trimChars, List.getLast?_reverse] at hc
    exact head?_dropWhile hc

theorem Trimmed.eq_trimChars (h : Trimmed raw value) : value = trimChars raw := by
  obtain ⟨before, after, rfl, hbefore, hafter⟩ := h.between
  have hreverse : ∀ c ∈ after.reverse, isBlank c = true := fun c hc => hafter c (List.mem_reverse.1 hc)
  rw [trimChars, List.append_assoc, List.dropWhile_append_of_pos hbefore]
  cases hvalue : value with
  | nil =>
    rw [List.nil_append, List.dropWhile_eq_nil_iff.2 hafter]
    rfl
  | cons c cs =>
    have hhead : ∀ d ∈ (value ++ after).head?, isBlank d = false := by
      rw [List.head?_append, hvalue]
      exact fun d hd => h.head d (hvalue ▸ hd)
    have hlast : ∀ d ∈ value.reverse.head?, isBlank d = false := by
      rw [List.head?_reverse]
      exact h.last
    rw [← hvalue, dropWhile_of_head hhead, List.reverse_append, List.dropWhile_append_of_pos hreverse,
      dropWhile_of_head hlast, List.reverse_reverse]

theorem trimmed_iff : Trimmed raw value ↔ value = trimChars raw :=
  ⟨Trimmed.eq_trimChars, fun h => h ▸ trimmed_trimChars raw⟩

theorem trimChars_eq_nil_iff : trimChars raw = [] ↔ ∀ c ∈ raw, isBlank c = true := by
  constructor
  · intro h
    obtain ⟨before, after, hraw, hbefore, hafter⟩ := (trimmed_trimChars raw).between
    rw [h, List.append_nil] at hraw
    rw [hraw]
    exact fun c hc => (List.mem_append.1 hc).elim (hbefore c) (hafter c)
  · intro h
    rw [trimChars, List.dropWhile_eq_nil_iff.2 h]
    rfl

def IsDecimal (ds : List Char) : Prop := ds ≠ [] ∧ ∀ c ∈ ds, c.isDigit = true

def decimal (ds : List Char) : Nat := Nat.ofDigits 10 (ds.reverse.map fun c => c.toNat - '0'.toNat)

/-- A decimal integer, with a sign or without. -/
inductive IsInteger : List Char → Int → Prop
  | unsigned {ds : List Char} : IsDecimal ds → IsInteger ds (decimal ds)
  | plus {ds : List Char} : IsDecimal ds → IsInteger ('+' :: ds) (decimal ds)
  | minus {ds : List Char} : IsDecimal ds → IsInteger ('-' :: ds) (-decimal ds)

theorem decimal_cons (c : Char) (ds : List Char) :
    decimal (c :: ds) = (c.toNat - '0'.toNat) * 10 ^ ds.length + decimal ds := by
  rw [decimal, List.reverse_cons, List.map_append, Nat.ofDigits_append, List.length_map,
    List.length_reverse, Nat.mul_comm, Nat.add_comm]
  rfl

theorem isDigit_iff : c.isDigit = true ↔ '0' ≤ c ∧ c ≤ '9' := by
  simp [Char.isDigit, Char.le_def]

theorem digitValue?_eq : digitValue? c = if c.isDigit then some (c.toNat - 48) else none := by
  simp only [digitValue?, isDigit_iff]

theorem sub_lt_ten (h : c.isDigit = true) : c.toNat - 48 < 10 := by
  have hle := (isDigit_iff.1 h).2
  rw [Char.le_def, UInt32.le_iff_toNat_le] at hle
  have : c.toNat ≤ 57 := hle
  omega

theorem foldDigits?_eq_some_iff : foldDigits? 10 digitValue? m cs = some n ↔
    (∀ c ∈ cs, c.isDigit = true) ∧ m * 10 ^ cs.length + decimal cs = n := by
  induction cs generalizing m with
  | nil => simp [foldDigits?, decimal]
  | cons c cs ih =>
    rw [foldDigits?, digitValue?_eq]
    by_cases hc : c.isDigit = true
    · have hvalue : m * 10 ^ (cs.length + 1) + ((c.toNat - 48) * 10 ^ cs.length + decimal cs) =
          (m * 10 + (c.toNat - 48)) * 10 ^ cs.length + decimal cs := by
        rw [Nat.pow_succ]
        ring
      have hzero : '0'.toNat = 48 := rfl
      rw [if_pos hc]
      simp only [sub_lt_ten hc, if_true, ih, List.forall_mem_cons, hc, true_and, List.length_cons,
        decimal_cons, hzero, hvalue]
    · simp [hc]

theorem natOfDigits?_eq_some_iff : natOfDigits? cs = some n ↔ IsDecimal cs ∧ decimal cs = n := by
  rw [natOfDigits?, IsDecimal]
  cases cs with
  | nil => simp
  | cons c cs =>
    have hempty : ¬(c :: cs).isEmpty = true := Bool.false_ne_true
    rw [if_neg hempty, foldDigits?_eq_some_iff, Nat.zero_mul, Nat.zero_add]
    simp

theorem not_isDecimal_cons (h : c.isDigit = false) : ¬IsDecimal (c :: cs) :=
  fun hcs => Bool.false_ne_true (h.symm.trans (hcs.2 c List.mem_cons_self))

theorem isInteger_plus_iff : IsInteger ('+' :: ds) i ↔ IsDecimal ds ∧ i = decimal ds := by
  constructor
  · intro h
    cases h with
    | unsigned hds => exact absurd hds (not_isDecimal_cons rfl)
    | plus hds => exact ⟨hds, rfl⟩
  · rintro ⟨hds, rfl⟩
    exact .plus hds

theorem isInteger_minus_iff : IsInteger ('-' :: ds) i ↔ IsDecimal ds ∧ i = -decimal ds := by
  constructor
  · intro h
    cases h with
    | unsigned hds => exact absurd hds (not_isDecimal_cons rfl)
    | minus hds => exact ⟨hds, rfl⟩
  · rintro ⟨hds, rfl⟩
    exact .minus hds

theorem isInteger_unsigned_iff (hplus : ∀ ds, cs ≠ '+' :: ds) (hminus : ∀ ds, cs ≠ '-' :: ds) :
    IsInteger cs i ↔ IsDecimal cs ∧ i = decimal cs := by
  constructor
  · intro h
    cases h with
    | unsigned hds => exact ⟨hds, rfl⟩
    | plus => exact absurd rfl (hplus _)
    | minus => exact absurd rfl (hminus _)
  · rintro ⟨hds, rfl⟩
    exact .unsigned hds

def FitsInt64 (i : Int) : Prop := -9_223_372_036_854_775_808 ≤ i ∧ i ≤ 9_223_372_036_854_775_807

/-- A number is taken if it fits with its sign. -/
theorem bind_natOfDigits?_eq_some_iff {p : Nat → Prop} [DecidablePred p] {f : Nat → Int}
    (hfits : ∀ n, p n ↔ FitsInt64 (f n)) :
    ((natOfDigits? ds).bind fun n => if p n then some (f n) else none) = some i ↔
      (IsDecimal ds ∧ i = f (decimal ds)) ∧ FitsInt64 i := by
  simp only [Option.bind_eq_some_iff, natOfDigits?_eq_some_iff, Option.ite_none_right_eq_some,
    Option.some_inj, hfits]
  constructor
  · rintro ⟨n, ⟨hds, rfl⟩, hn, rfl⟩
    exact ⟨⟨hds, rfl⟩, hn⟩
  · rintro ⟨⟨hds, rfl⟩, hi⟩
    exact ⟨_, ⟨hds, rfl⟩, hi, rfl⟩

theorem parseInt64?_eq_some_iff : parseInt64? cs = some i ↔ IsInteger cs i ∧ FitsInt64 i := by
  unfold parseInt64?
  split
  · rw [isInteger_minus_iff]
    exact bind_natOfDigits?_eq_some_iff fun n => by unfold FitsInt64; omega
  · rw [isInteger_plus_iff]
    exact bind_natOfDigits?_eq_some_iff fun n => by unfold FitsInt64; omega
  · rename_i hminus hplus
    rw [isInteger_unsigned_iff hplus hminus]
    exact bind_natOfDigits?_eq_some_iff fun n => by unfold FitsInt64; omega

end SecureGateway.Text

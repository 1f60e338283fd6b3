import Mathlib.Data.List.Basic
import SecureGateway.Proofs.Address.Numeral

namespace SecureGateway

namespace IpAddress

def IsQuad (octets : List Nat) : Prop := octets.length = 4 ∧ ∀ o ∈ octets, o < 256

def IsGroups (groups : List Nat) : Prop := groups.length = 8 ∧ ∀ g ∈ groups, g < 65536

def WellFormed : IpAddress → Prop
  | v4 octets => IsQuad octets
  | v6 groups => IsGroups groups

theorem isQuad_iff {octets : List Nat} :
    IsQuad octets ↔ ∃ a b c d, octets = [a, b, c, d] ∧ a < 256 ∧ b < 256 ∧ c < 256 ∧ d < 256 := by
  constructor
  · rintro ⟨hlen, hlt⟩
    match octets, hlen with
    | [a, b, c, d], _ =>
      exact ⟨a, b, c, d, rfl, hlt a (by simp), hlt b (by simp), hlt c (by simp), hlt d (by simp)⟩
  · rintro ⟨a, b, c, d, rfl, ha, hb, hc, hd⟩
    exact ⟨rfl, by simp [ha, hb, hc, hd]⟩

end IpAddress

namespace Address

open Text IpAddress

variable {c : Char} {cs ds rest : List Char} {first quad : Bool} {limit : Nat}

@[simp]
theorem readChar_eq_some_iff {u : Unit} : readChar c cs = some (u, rest) ↔ cs = c :: rest := by
  cases cs with
  | nil => simp [readChar]
  | cons d r =>
    rw [readChar, List.cons_eq_cons]
    split
    · rename_i h
      simp [h]
    · rename_i h
      simp [Ne.symm h]

theorem readChar_self (c : Char) (r : List Char) : readChar c (c :: r) = some ((), r) := by simp

theorem readChar_of_ne {d : Char} (h : d ≠ c) (r : List Char) : readChar c (d :: r) = none :=
  if_neg (Ne.symm h)

def quadChars (a b c d : Nat) : List Char :=
  Nat.toDigits 10 a ++ '.' :: (Nat.toDigits 10 b ++ '.' :: (Nat.toDigits 10 c ++ '.' ::
    Nat.toDigits 10 d))

theorem toList_quadText (a b c d : Nat) : (quadText [a, b, c, d]).toList = quadChars a b c d := by
  simp [quadText, quadChars, Nat.toString_eq_repr, Nat.toList_repr]

theorem readOctet_eq_some_iff {n : Nat} :
    readOctet cs = some (n, rest) ↔
      n < 256 ∧ Stops 10 rest ∧ cs = Nat.toDigits 10 n ++ rest := by
  constructor
  · intro h
    obtain ⟨ds, rfl, hrest, hds⟩ := numeral_of_read h
    exact ⟨hds.small, hrest, by rw [← hds.eq_toDigits]⟩
  · rintro ⟨hn, hrest, rfl⟩
    refine (numeral_toDigits hn ?_).read hrest
    rintro w hw
    obtain rfl := Option.some.inj hw
    exact ⟨by decide, by omega⟩

theorem stops_dot (base : Nat) (r : List Char) : Stops base ('.' :: r) :=
  stops_cons rfl r

theorem readV4_eq_some_iff {octets : List Nat} :
    readV4 cs = some (octets, rest) ↔
      IsQuad octets ∧ Stops 10 rest ∧ cs = (quadText octets).toList ++ rest := by
  rw [isQuad_iff]
  simp only [readV4, Option.bind_eq_bind, Option.bind_eq_some_iff, Prod.exists,
    readChar_eq_some_iff, readOctet_eq_some_iff, Option.some.injEq, Prod.mk.injEq]
  constructor
  · rintro ⟨a, _, ⟨ha, -, rfl⟩, _, _, rfl, b, _, ⟨hb, -, rfl⟩, _, _, rfl, c, _, ⟨hc, -, rfl⟩, _, _, rfl,
      d, _, ⟨hd, hrest, rfl⟩, rfl, rfl⟩
    refine ⟨⟨a, b, c, d, rfl, ha, hb, hc, hd⟩, hrest, ?_⟩
    rw [toList_quadText]
    simp [quadChars]
  · rintro ⟨⟨a, b, c, d, rfl, ha, hb, hc, hd⟩, hrest, rfl⟩
    rw [toList_quadText]
    refine ⟨a, _, ⟨ha, stops_dot 10 _, by simp [quadChars]⟩, (), _, rfl,
      b, _, ⟨hb, stops_dot 10 _, rfl⟩, (), _, rfl, c, _, ⟨hc, stops_dot 10 _, rfl⟩, (), _, rfl,
      d, rest, ⟨hd, hrest, rfl⟩, rfl, rfl⟩

theorem readV4_of_no_dot (h : '.' ∉ cs) : readV4 cs = none := by
  rw [Option.eq_none_iff_forall_ne_some]
  rintro ⟨octets, rest⟩ hread
  obtain ⟨hquad, -, rfl⟩ := readV4_eq_some_iff.1 hread
  obtain ⟨a, b, c, d, rfl, -⟩ := isQuad_iff.1 hquad
  exact h (by simp [toList_quadText, quadChars])

theorem readV4_cons_of_none (h : digitOf? 10 c = none) : readV4 (c :: cs) = none := by
  rw [readV4, readOctet, readNumber_cons_of_none h]
  rfl

def chainChars (groups : List Nat) : List Char := groups.flatMap fun g => ':' :: hexDigits g

theorem toList_groupsText_cons (g : Nat) (gs : List Nat) :
    (groupsText (g :: gs)).toList = hexDigits g ++ chainChars gs := by
  induction gs generalizing g with
  | nil => simp [groupsText, chainChars, hexText]
  | cons g' gs ih =>
    have hcons : groupsText (g :: g' :: gs) = hexText g ++ ":" ++ groupsText (g' :: gs) :=
      String.intercalate_cons_cons
    rw [hcons, String.toList_append, String.toList_append, ih g', hexText, String.toList_ofList]
    simp [chainChars]

theorem dot_notMem_hexDigits (g : Nat) : '.' ∉ hexDigits g :=
  notMem_of_isDigit (fun _ => isDigit_of_mem_hexDigits g) rfl

theorem dot_notMem_chainChars (gs : List Nat) : '.' ∉ chainChars gs := by
  simp [chainChars, dot_notMem_hexDigits]

/-- A row of groups ends at the bracket, and where some are left out. -/
def RowEnds (rest : List Char) : Prop := (∃ r, rest = ']' :: r) ∨ ∃ r, rest = ':' :: ':' :: r

theorem RowEnds.stops (h : RowEnds rest) : Stops 16 rest := by
  rcases h with ⟨r, rfl⟩ | ⟨r, rfl⟩
  · exact stops_cons rfl r
  · exact stops_cons rfl _

theorem stops_chain (h : RowEnds rest) (gs : List Nat) : Stops 16 (chainChars gs ++ rest) := by
  cases gs with
  | nil => exact h.stops
  | cons g gs => exact stops_cons rfl _

theorem readAfter_of_rowEnds {α : Type} {p : Reader α} (h : RowEnds rest)
    (hbracket : ∀ r, p (']' :: r) = none) (hcolon : ∀ r, p (':' :: r) = none) :
    readAfter first p rest = none := by
  rcases h with ⟨r, rfl⟩ | ⟨r, rfl⟩
  · cases first with
    | true => exact hbracket r
    | false =>
      simp only [readAfter, if_neg Bool.false_ne_true, readChar_of_ne (by decide : ']' ≠ ':')]
      rfl
  · cases first with
    | true => exact hcolon _
    | false =>
      simp only [readAfter, if_neg Bool.false_ne_true, readChar_self]
      exact hcolon r

theorem readGroups_of_rowEnds (h : RowEnds rest) (first : Bool) (limit : Nat) :
    readGroups first limit rest = ([], false, rest) := by
  cases limit with
  | zero => rfl
  | succ limit =>
    have hquad : readAfter first readV4 rest = none := readAfter_of_rowEnds h
      (fun _ => readV4_cons_of_none rfl) fun _ => readV4_cons_of_none rfl
    have hgroup : readAfter first (readNumber 16 65536 (some 4) true) rest = none :=
      readAfter_of_rowEnds h (fun _ => readNumber_cons_of_none rfl)
        fun _ => readNumber_cons_of_none rfl
    simp only [readGroups, hquad, hgroup, ite_self]

theorem readGroups_group {g : Nat} {gs : List Nat} {r : List Char}
    (hquad : readAfter first readV4 cs = none)
    (hgroup : readAfter first (readNumber 16 65536 (some 4) true) cs = some (g, r))
    (hrest : readGroups false limit r = (gs, quad, rest)) :
    readGroups first (limit + 1) cs = (g :: gs, quad, rest) := by
  simp only [readGroups, hquad, hgroup, hrest, ite_self]

theorem readGroups_chain {gs : List Nat} (hgs : ∀ g ∈ gs, g < 65536) (hlimit : gs.length ≤ limit)
    (hdot : '.' ∉ rest) (hrest : RowEnds rest) :
    readGroups false limit (chainChars gs ++ rest) = (gs, false, rest) := by
  induction gs generalizing limit with
  | nil => exact readGroups_of_rowEnds hrest false limit
  | cons g gs ih =>
    obtain ⟨limit, rfl⟩ : ∃ n, limit = n + 1 := ⟨limit - 1, by simp at hlimit; omega⟩
    have hg := hgs g List.mem_cons_self
    have hread : readNumber 16 65536 (some 4) true (hexDigits g ++ (chainChars gs ++ rest)) =
        some (g, chainChars gs ++ rest) := (numeral_hexDigits hg).read (stops_chain hrest gs)
    have hnodot : '.' ∉ hexDigits g ++ (chainChars gs ++ rest) := by
      simp [dot_notMem_hexDigits, dot_notMem_chainChars, hdot]
    have hcs : chainChars (g :: gs) ++ rest =
        ':' :: (hexDigits g ++ (chainChars gs ++ rest)) := by simp [chainChars]
    rw [hcs]
    refine readGroups_group ?_ ?_
      (ih (fun x hx => hgs x (List.mem_cons_of_mem _ hx)) (by simpa using hlimit))
    · simp only [readAfter, if_neg Bool.false_ne_true, readChar_self]
      exact readV4_of_no_dot hnodot
    · simp only [readAfter, if_neg Bool.false_ne_true, readChar_self]
      exact hread

theorem readGroups_row {gs : List Nat} (hgs : ∀ g ∈ gs, g < 65536) (hlimit : gs.length ≤ limit)
    (hdot : '.' ∉ rest) (hrest : RowEnds rest) :
    readGroups true limit ((groupsText gs).toList ++ rest) = (gs, false, rest) := by
  cases gs with
  | nil => exact readGroups_of_rowEnds hrest true limit
  | cons g gs =>
    obtain ⟨limit, rfl⟩ : ∃ n, limit = n + 1 := ⟨limit - 1, by simp at hlimit; omega⟩
    rw [toList_groupsText_cons, List.append_assoc]
    refine readGroups_group ?_ ?_ (readGroups_chain (fun x hx => hgs x (List.mem_cons_of_mem _ hx))
      (by simpa using hlimit) hdot hrest)
    · exact readV4_of_no_dot (by simp [dot_notMem_hexDigits, dot_notMem_chainChars, hdot])
    · exact (numeral_hexDigits (hgs g List.mem_cons_self)).read (stops_chain hrest gs)

theorem head_zeroRuns (groups : List Nat) :
    ∃ rest, groups = List.replicate ((zeroRuns groups).headD 0) 0 ++ rest := by
  induction groups with
  | nil => exact ⟨[], rfl⟩
  | cons g r ih =>
    obtain ⟨rest, hrest⟩ := ih
    by_cases hg : g = 0
    · subst hg
      refine ⟨rest, ?_⟩
      rw [zeroRuns]
      simp only [if_true, List.headD_cons, List.replicate_succ, List.cons_append, ← hrest]
    · refine ⟨g :: r, ?_⟩
      rw [zeroRuns]
      simp only [if_neg hg, List.headD_cons]
      rfl

theorem drop_eq_of_zeroRuns {groups : List Nat} {i n : Nat} (h : (zeroRuns groups)[i]? = some n) :
    ∃ rest, groups.drop i = List.replicate n 0 ++ rest := by
  induction groups generalizing i with
  | nil => cases h
  | cons g r ih =>
    cases i with
    | zero =>
      obtain ⟨rest, hrest⟩ := head_zeroRuns (g :: r)
      have hn : (zeroRuns (g :: r)).headD 0 = n := by
        rw [List.headD_eq_head?_getD, List.head?_eq_getElem?, h]
        rfl
      exact ⟨rest, by rw [← hn]; exact hrest⟩
    | succ i => exact ih h

theorem foldl_max_mem {l : List Nat} (h : 0 < l.foldl max 0) : l.foldl max 0 ∈ l := by
  rw [List.foldl_max] at h ⊢
  cases hmax : l.max? with
  | none => simp [hmax] at h
  | some m => simpa using List.max?_mem hmax

/-- The run that is left out consists of zeros. -/
theorem eq_of_longestZeroRun {groups : List Nat} {start length : Nat}
    (h : longestZeroRun groups = (start, length)) (hlength : 0 < length) :
    groups = groups.take start ++ List.replicate length 0 ++ groups.drop (start + length) := by
  obtain ⟨rfl, rfl⟩ := Prod.mk.inj h
  obtain ⟨rest, hrest⟩ := drop_eq_of_zeroRuns (List.getElem?_idxOf (foldl_max_mem hlength))
  rw [← List.drop_drop, hrest, List.drop_left' List.length_replicate, List.append_assoc, ← hrest,
    List.take_append_drop]

theorem readV6_full {groups : List Nat} (h : IsGroups groups) (hdot : '.' ∉ rest)
    (hrest : RowEnds rest) : readV6 ((groupsText groups).toList ++ rest) = some (groups, rest) := by
  simp only [readV6, readGroups_row h.2 h.1.le hdot hrest, h.1, if_true]

theorem readV6_short {front back : List Nat} {length : Nat}
    (h : IsGroups (front ++ List.replicate length 0 ++ back)) (hlength : 1 < length)
    (hdot : '.' ∉ rest) (hrest : RowEnds rest) :
    readV6 ((groupsText front).toList ++ ':' :: ':' :: ((groupsText back).toList ++ rest)) =
      some (front ++ List.replicate length 0 ++ back, rest) := by
  obtain ⟨hlen, hlt⟩ := h
  simp only [List.length_append, List.length_replicate] at hlen
  have hfront : ∀ g ∈ front, g < 65536 := fun g hg => hlt g (by simp [hg])
  have hback : ∀ g ∈ back, g < 65536 := fun g hg => hlt g (by simp [hg])
  have hnodot : '.' ∉ ':' :: ':' :: ((groupsText back).toList ++ rest) := by
    cases back with
    | nil => simpa [groupsText] using hdot
    | cons g gs =>
      simp [toList_groupsText_cons, dot_notMem_hexDigits, dot_notMem_chainChars, hdot]
  have hgap : 8 - front.length - back.length = length := by omega
  have hne : front.length ≠ 8 := by omega
  simp only [readV6, readGroups_row hfront (by omega : front.length ≤ 8) hnodot (.inr ⟨_, rfl⟩),
    if_neg hne, if_neg Bool.false_ne_true, readChar_self, Option.bind_eq_bind, Option.bind_some,
    readGroups_row hback (by omega : back.length ≤ 7 - front.length) hdot hrest, hgap]

theorem readGroups_quad {a b : Nat} (ha : a < 65536) (hb : b < 65536) :
    readGroups false (limit + 2)
        (':' :: ((quadText [a / 256, a % 256, b / 256, b % 256]).toList ++ ']' :: rest)) =
      ([a, b], true, ']' :: rest) := by
  have hquad : IsQuad [a / 256, a % 256, b / 256, b % 256] :=
    isQuad_iff.2 ⟨_, _, _, _, rfl, by omega, by omega, by omega, by omega⟩
  have hread : readV4 ((quadText [a / 256, a % 256, b / 256, b % 256]).toList ++ ']' :: rest) =
      some ([a / 256, a % 256, b / 256, b % 256], ']' :: rest) :=
    readV4_eq_some_iff.2 ⟨hquad, stops_cons rfl rest, rfl⟩
  simp only [readGroups, readAfter, if_neg Bool.false_ne_true, Nat.zero_lt_succ, if_true,
    readChar_self, Option.bind_eq_bind, Option.bind_some, hread, Nat.div_add_mod']

theorem readV6_embedded {a b : Nat} (ha : a < 65536) (hb : b < 65536) :
    readV6 (':' :: ':' :: (hexDigits 0xffff ++
        ':' :: ((quadText [a / 256, a % 256, b / 256, b % 256]).toList ++ ']' :: rest))) =
      some ([0, 0, 0, 0, 0, 0xffff, a, b], ']' :: rest) := by
  have hfirst : ∃ r, hexDigits 0xffff = 'f' :: r := ⟨['f', 'f', 'f'], by simp [hexDigits, hexDigit]⟩
  have hgroup := (numeral_hexDigits (by decide : 0xffff < 65536)).read (stops_cons (c := ':') rfl
    ((quadText [a / 256, a % 256, b / 256, b % 256]).toList ++ ']' :: rest))
  have hnoquad : readV4 (hexDigits 0xffff ++
      ':' :: ((quadText [a / 256, a % 256, b / 256, b % 256]).toList ++ ']' :: rest)) = none := by
    obtain ⟨r, hr⟩ := hfirst
    rw [hr]
    exact readV4_cons_of_none rfl
  have hback : readGroups true 7 (hexDigits 0xffff ++
      ':' :: ((quadText [a / 256, a % 256, b / 256, b % 256]).toList ++ ']' :: rest)) =
        ([0xffff, a, b], true, ']' :: rest) :=
    readGroups_group hnoquad hgroup (readGroups_quad ha hb)
  simp only [readV6, readGroups_of_rowEnds (.inr ⟨_, rfl⟩), List.length_nil, if_neg Bool.false_ne_true,
    readChar_self, Option.bind_eq_bind, Option.bind_some, hback]
  rfl

theorem readV6_v6Text {groups : List Nat} (h : IsGroups groups) (hdot : '.' ∉ rest) :
    readV6 ((v6Text groups).toList ++ ']' :: rest) = some (groups, ']' :: rest) := by
  have hend : RowEnds (']' :: rest) := .inl ⟨rest, rfl⟩
  have hdot' : '.' ∉ ']' :: rest := by simp [hdot]
  unfold v6Text
  split
  · rename_i a b
    have htext : ("::ffff:" ++ quadText [a / 256, a % 256, b / 256, b % 256]).toList =
        ':' :: ':' :: (hexDigits 0xffff ++
          ':' :: (quadText [a / 256, a % 256, b / 256, b % 256]).toList) := by
      simp [hexDigits, hexDigit]
    rw [htext, List.cons_append, List.cons_append, List.append_assoc, List.cons_append]
    exact readV6_embedded (h.2 a (by simp)) (h.2 b (by simp))
  · cases hrun : longestZeroRun groups with
    | mk start length =>
      simp only
      split
      · rename_i hlength
        have hsplit := eq_of_longestZeroRun hrun (by omega)
        have hshort := readV6_short (hsplit ▸ h) hlength hdot' hend
        rw [← hsplit] at hshort
        simpa using hshort
      · exact readV6_full h hdot' hend

end Address
end SecureGateway

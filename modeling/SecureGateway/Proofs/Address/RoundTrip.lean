import SecureGateway.Address.Remote
import SecureGateway.Proofs.Address.Literal

namespace SecureGateway

open Address Text IpAddress

namespace Address

variable {c : Char} {cs rest : List Char} {first quad : Bool} {limit : Nat} {gs groups : List Nat}

theorem readAfter_eq_some {α : Type} {p : Reader α} {x : α}
    (h : readAfter first p cs = some (x, rest)) :
    ∃ cs', p cs' = some (x, rest) ∧ cs = (if first then [] else [':']) ++ cs' := by
  cases first with
  | true => exact ⟨cs, h, rfl⟩
  | false =>
    simp only [readAfter, if_neg Bool.false_ne_true, Option.bind_eq_bind,
      Option.bind_eq_some_iff, Prod.exists, readChar_eq_some_iff] at h
    obtain ⟨-, cs', rfl, hp⟩ := h
    exact ⟨cs', hp, rfl⟩

/-- Groups are small, there are no more of them than wanted, and only one of them, or a quad, comes
without a separator. -/
theorem readGroups_takes (h : readGroups first limit cs = (gs, quad, rest)) :
    gs.length ≤ limit ∧ (∀ g ∈ gs, g < 65536) ∧
      ∃ used, cs = used ++ rest ∧ (gs ≠ [] → first = false → ':' ∈ used) ∧
        (2 < gs.length → ':' ∈ used) := by
  induction limit generalizing first cs gs quad rest with
  | zero =>
    obtain ⟨rfl, -, rfl⟩ : [] = gs ∧ false = quad ∧ cs = rest := by simpa [readGroups] using h
    exact ⟨Nat.le_refl 0, by simp, [], rfl, by simp, by simp⟩
  | succ limit ih =>
    rw [readGroups] at h
    split at h
    · rename_i a b c d r hread
      split at hread
      · rename_i hlimit
        obtain ⟨rfl, -, rfl⟩ : [a * 256 + b, c * 256 + d] = gs ∧ true = quad ∧ r = rest := by
          simpa using h
        obtain ⟨cs', hquad, rfl⟩ := readAfter_eq_some hread
        obtain ⟨⟨-, hlt⟩, -, rfl⟩ := readV4_eq_some_iff.1 hquad
        have ha := hlt a (by simp)
        have hb := hlt b (by simp)
        have hc := hlt c (by simp)
        have hd := hlt d (by simp)
        refine ⟨Nat.succ_le_succ hlimit, ?_, _, (List.append_assoc _ _ _).symm, ?_, by simp⟩
        · intro g hg
          simp only [List.mem_cons, List.not_mem_nil, or_false] at hg
          omega
        · rintro - rfl
          simp
      · cases hread
    · split at h
      · rename_i g r hread
        cases hgroups : readGroups false limit r with
        | mk gs' x =>
          obtain ⟨quad', rest'⟩ := x
          obtain ⟨rfl, -, rfl⟩ : g :: gs' = gs ∧ quad' = quad ∧ rest' = rest := by
            simpa [hgroups] using h
          obtain ⟨hlen, hlt, used, rfl, hcolon, -⟩ := ih hgroups
          obtain ⟨cs', hnumber, rfl⟩ := readAfter_eq_some hread
          obtain ⟨ds, rfl, -, hds⟩ := numeral_of_read hnumber
          refine ⟨Nat.succ_le_succ hlen, ?_, (if first then [] else [':']) ++ (ds ++ used), by simp,
            ?_, ?_⟩
          · rintro x (_ | ⟨_, hx⟩)
            · exact hds.small
            · exact hlt x hx
          · rintro - rfl
            simp
          · intro hmany
            -- a first group has no separator, but the second one has
            have hne : gs' ≠ [] := by
              rintro rfl
              simp at hmany
            simp [hcolon hne rfl]
      · obtain ⟨rfl, -, rfl⟩ : [] = gs ∧ false = quad ∧ cs = rest := by simpa using h
        exact ⟨Nat.zero_le _, by simp, [], rfl, by simp, by simp⟩

theorem readV6_takes (h : readV6 cs = some (groups, rest)) :
    IsGroups groups ∧ ∃ used, cs = used ++ rest ∧ ':' ∈ used := by
  unfold readV6 at h
  cases hfront : readGroups true 8 cs with
  | mk front x =>
    obtain ⟨quad, rest₁⟩ := x
    obtain ⟨hlen, hlt, used, rfl, -, hmany⟩ := readGroups_takes hfront
    simp only [hfront] at h
    split at h
    · rename_i hall
      obtain ⟨rfl, rfl⟩ := Prod.mk.inj (Option.some.inj h)
      exact ⟨⟨hall, hlt⟩, used, rfl, hmany (by omega)⟩
    · -- too few groups: a gap stands for the missing ones, with more groups behind it
      rename_i hfew
      split at h
      · cases h
      · simp only [Option.bind_eq_bind, Option.bind_eq_some_iff, Prod.exists,
          readChar_eq_some_iff] at h
        obtain ⟨-, _, rfl, -, rest₂, rfl, h⟩ := h
        cases hback : readGroups true (7 - front.length) rest₂ with
        | mk back y =>
          obtain ⟨quad', rest₃⟩ := y
          obtain ⟨hlen', hlt', used', rfl, -, -⟩ := readGroups_takes hback
          simp only [hback] at h
          obtain ⟨rfl, rfl⟩ := Prod.mk.inj (Option.some.inj h)
          refine ⟨⟨?_, ?_⟩, used ++ ':' :: ':' :: used', by simp, by simp⟩
          · simp only [List.length_append, List.length_replicate]
            omega
          · intro g hg
            simp only [List.mem_append, List.mem_replicate] at hg
            rcases hg with (hg | ⟨-, rfl⟩) | hg
            · exact hlt g hg
            · decide
            · exact hlt' g hg

theorem readScope_takes (cs : List Char) : ∃ used, cs = used ++ readScope cs := by
  unfold readScope
  split
  · rename_i r hpercent
    obtain rfl := readChar_eq_some_iff.1 hpercent
    split
    · rename_i n r' hnumber
      obtain ⟨ds, rfl, -⟩ := numeral_of_read hnumber
      exact ⟨'%' :: ds, rfl⟩
    · exact ⟨[], rfl⟩
  · exact ⟨[], rfl⟩

end Address

namespace SocketAddress

structure WellFormed (a : SocketAddress) : Prop where
  ip : a.ip.WellFormed
  port : a.port < 65536

end SocketAddress

namespace Address

variable {c : Char} {cs : List Char} {a : SocketAddress}

theorem readSocketV4_eq_some (h : readSocketV4 cs = some (a, [])) :
    a.WellFormed ∧ ∃ octets ds, a.ip = .v4 octets ∧ Numeral 10 65536 none true ds a.port ∧
      cs = (quadText octets).toList ++ ':' :: ds := by
  simp only [readSocketV4, Option.bind_eq_bind, Option.bind_eq_some_iff, Prod.exists,
    readChar_eq_some_iff, Option.some.injEq, Prod.mk.injEq] at h
  obtain ⟨octets, _, hquad, -, _, rfl, port, rest, hport, rfl, rfl⟩ := h
  obtain ⟨hoctets, -, rfl⟩ := readV4_eq_some_iff.1 hquad
  obtain ⟨ds, rfl, -, hds⟩ := numeral_of_read hport
  exact ⟨⟨hoctets, hds.small⟩, octets, ds, rfl, hds, by simp⟩

theorem readSocketV6_eq_some (h : readSocketV6 cs = some (a, [])) :
    a.WellFormed ∧ 2 ≤ cs.count ':' := by
  simp only [readSocketV6, Option.bind_eq_bind, Option.bind_eq_some_iff, Prod.exists,
    readChar_eq_some_iff, Option.some.injEq, Prod.mk.injEq] at h
  obtain ⟨-, _, rfl, groups, rest, hread, -, _, hbracket, -, _, rfl, port, _, hport, rfl, rfl⟩ := h
  obtain ⟨hgroups, used, rfl, hcolon⟩ := readV6_takes hread
  obtain ⟨scope, hscope⟩ := readScope_takes rest
  obtain ⟨ds, rfl, -, hds⟩ := numeral_of_read hport
  refine ⟨⟨hgroups, hds.small⟩, ?_⟩
  have hpos := List.count_pos_iff.2 hcolon
  rw [hscope, hbracket]
  simp only [List.count_cons, List.count_append, beq_self_eq_true, if_true]
  omega

theorem whole_eq_some_iff {α : Type} {p : Reader α} {x : α} :
    whole p cs = some x ↔ p cs = some (x, []) := by
  unfold whole
  split
  · rename_i y h
    simp [h]
  · rename_i h
    constructor
    · nofun
    · exact fun hp => absurd hp (h x)

theorem notMem_toDigits (hc : digitOf? 10 c = none) (n : Nat) : c ∉ Nat.toDigits 10 n :=
  notMem_of_isDigit (fun _ => isDigit_of_mem_toDigits) hc

theorem readPort_toDigits {port : Nat} (h : port < 65536) :
    readPort (Nat.toDigits 10 port) = some (port, []) := by
  have hnumeral : Numeral 10 65536 none true (Nat.toDigits 10 port) port :=
    numeral_toDigits h nofun
  have hread := hnumeral.read (stops_nil 10)
  rwa [List.append_nil] at hread

end Address

namespace SocketAddress

variable {s : String} {a : SocketAddress}

theorem parse?_eq_some (h : parse? s = some a) :
    readSocketV4 s.toList = some (a, []) ∨ readSocketV6 s.toList = some (a, []) := by
  rw [parse?, Option.orElse_eq_orElse, Option.orElse_eq_or, Option.or_eq_some_iff] at h
  exact h.imp whole_eq_some_iff.1 fun h => whole_eq_some_iff.1 h.2

theorem wellFormed_of_parse? (h : parse? s = some a) : a.WellFormed := by
  rcases parse?_eq_some h with h | h
  · exact (readSocketV4_eq_some h).1
  · exact (readSocketV6_eq_some h).1

theorem toList_text_v4 (octets : List Nat) (port : Nat) :
    (text ⟨.v4 octets, port⟩).toList =
      (quadText octets).toList ++ ':' :: Nat.toDigits 10 port := by
  simp [text, Nat.toString_eq_repr, Nat.toList_repr]

theorem toList_text_v6 (groups : List Nat) (port : Nat) :
    (text ⟨.v6 groups, port⟩).toList =
      '[' :: ((v6Text groups).toList ++ ']' :: ':' :: Nat.toDigits 10 port) := by
  simp [text, Nat.toString_eq_repr, Nat.toList_repr]

theorem parse?_text (h : a.WellFormed) : parse? a.text = some a := by
  obtain ⟨ip, port⟩ := a
  have hport := readPort_toDigits h.port
  unfold parse?
  cases ip with
  | v4 octets =>
    have hquad : readV4 ((quadText octets).toList ++ ':' :: Nat.toDigits 10 port) =
        some (octets, ':' :: Nat.toDigits 10 port) :=
      readV4_eq_some_iff.2 ⟨h.ip, stops_cons rfl _, rfl⟩
    have hread : readSocketV4 (text ⟨.v4 octets, port⟩).toList = some (⟨.v4 octets, port⟩, []) := by
      simp only [toList_text_v4, readSocketV4, hquad, readChar_self, hport, Option.bind_eq_bind,
        Option.bind_some]
    rw [whole_eq_some_iff.2 hread]
    rfl
  | v6 groups =>
    have hgroups : readV6 ((v6Text groups).toList ++ ']' :: ':' :: Nat.toDigits 10 port) =
        some (groups, ']' :: ':' :: Nat.toDigits 10 port) :=
      readV6_v6Text h.ip (by simp [notMem_toDigits (c := '.') rfl])
    have hscope : readScope (']' :: ':' :: Nat.toDigits 10 port) =
        ']' :: ':' :: Nat.toDigits 10 port := by
      simp only [readScope, readChar_of_ne (by decide : ']' ≠ '%')]
    have hread : readSocketV6 (text ⟨.v6 groups, port⟩).toList = some (⟨.v6 groups, port⟩, []) := by
      simp only [toList_text_v6, readSocketV6, readChar_self, hgroups, hscope, hport,
        Option.bind_eq_bind, Option.bind_some]
    -- the text in brackets is no address of the short form, which is tried first
    have hnone : whole readSocketV4 (text ⟨.v6 groups, port⟩).toList = none := by
      rw [toList_text_v6, whole, readSocketV4, readV4_cons_of_none rfl]
      rfl
    rw [hnone, whole_eq_some_iff.2 hread]
    rfl

end SocketAddress

namespace IpAddress

theorem colon_notMem_quadText {octets : List Nat} (h : IsQuad octets) :
    ':' ∉ (quadText octets).toList := by
  obtain ⟨a, b, c, d, rfl, -⟩ := isQuad_iff.1 h
  simp [toList_quadText, quadChars, notMem_toDigits (c := ':') rfl]

theorem colon_mem_v6Text {groups : List Nat} (h : IsGroups groups) :
    ':' ∈ (v6Text groups).toList := by
  have hread : readV6 ((v6Text groups).toList ++ [']']) = some (groups, [']']) :=
    readV6_v6Text h List.not_mem_nil
  obtain ⟨-, used, hused, hcolon⟩ := readV6_takes hread
  rwa [List.append_cancel_right hused]

end IpAddress

namespace Text

variable {bound n : Nat} {cs ds : List Char}

theorem foldDigits?_append (base : Nat) (digit? : Char → Option Nat) (cs ds : List Char) :
    foldDigits? base digit? n (cs ++ ds) =
      (foldDigits? base digit? n cs).bind fun m => foldDigits? base digit? m ds := by
  induction cs generalizing n with
  | nil => rfl
  | cons c cs ih =>
    simp only [List.cons_append, foldDigits?]
    cases digit? c with
    | none => rfl
    | some d =>
      simp only
      split
      · exact ih
      · rfl

theorem foldDigits?_digitChar {d : Nat} (hd : d < 10) :
    foldDigits? 10 digitValue? n [d.digitChar] = some (n * 10 + d) := by
  have hvalue : digitValue? d.digitChar = some d := by
    revert d
    decide
  simp only [foldDigits?, hvalue, if_pos hd]

theorem foldDigits?_toDigits (n : Nat) :
    foldDigits? 10 digitValue? 0 (Nat.toDigits 10 n) = some n := by
  induction n using Nat.strongRecOn with
  | ind n ih =>
    rw [Nat.toDigits_eq_if (by decide)]
    split
    · rename_i hn
      rw [foldDigits?_digitChar hn, Nat.zero_mul, Nat.zero_add]
    · rw [foldDigits?_append, ih (n / 10) (by omega), Option.bind_some,
        foldDigits?_digitChar (by omega), Nat.div_add_mod']

theorem parseUnsigned?_toDigits (h : n < bound) :
    parseUnsigned? bound (Nat.toDigits 10 n) = some n := by
  have hread : natOfDigits? (Nat.toDigits 10 n) = some n := by
    rw [natOfDigits?, if_neg (by simp), foldDigits?_toDigits]
  unfold parseUnsigned?
  split
  · rename_i r hplus
    exact absurd (hplus ▸ List.mem_cons_self) (notMem_toDigits (c := '+') rfl n)
  · simp only [hread]
    exact Option.filter_some_pos (decide_eq_true h)

theorem parseUnsigned?_lt (h : parseUnsigned? bound cs = some n) : n < bound :=
  of_decide_eq_true (Option.filter_eq_some_iff.1 h).2

end Text

namespace RemoteAddress

variable {s host : String} {port : Nat} {cs front back : List Char} {r : RemoteAddress}

theorem drop_past {t : List Char} (h : cs = t ++ ':' :: back) : cs.drop (t.length + 1) = back := by
  rw [h, ← List.drop_drop, List.drop_left]
  rfl

theorem splitLastColon_eq_some_iff :
    splitLastColon cs = some (front, back) ↔ cs = front ++ ':' :: back ∧ ':' ∉ back := by
  constructor
  · intro h
    unfold splitLastColon at h
    split at h
    · rename_i hcolon
      obtain ⟨hfront, hback⟩ := Prod.mk.inj (Option.some.inj h)
      -- read from the end, the colon is the first character that is not part of the port
      obtain ⟨last, r, hr⟩ : ∃ last r, cs.reverse.dropWhile (· != ':') = last :: r := by
        refine List.exists_cons_of_ne_nil fun hnil => ?_
        have hall := List.dropWhile_eq_nil_iff.1 hnil ':' (by simpa using hcolon)
        simp at hall
      have hlast : last = ':' := by
        have hnot := List.head?_dropWhile_not (· != ':') cs.reverse
        rw [hr] at hnot
        simpa using hnot
      subst hlast
      have hsplit : cs.reverse = cs.reverse.takeWhile (· != ':') ++ ':' :: r := by
        rw [← hr, List.takeWhile_append_dropWhile]
      have hdrop : cs.reverse.drop ((cs.reverse.takeWhile (· != ':')).length + 1) = r :=
        drop_past hsplit
      have hcs := congrArg List.reverse hsplit
      rw [List.reverse_reverse, List.reverse_append, List.reverse_cons, hback, ← hdrop, hfront,
        List.append_assoc] at hcs
      refine ⟨hcs, fun hmem => ?_⟩
      rw [← hback, List.mem_reverse] at hmem
      simpa using List.mem_takeWhile_imp hmem
    · cases h
  · rintro ⟨rfl, hback⟩
    have htake : (back.reverse ++ ':' :: front.reverse).takeWhile (· != ':') = back.reverse := by
      rw [List.takeWhile_append_of_pos fun c hc => ?_]
      · simp
      · have hne : c ≠ ':' := fun h => hback (h ▸ List.mem_reverse.1 hc)
        simpa using hne
    have hdrop : (back.reverse ++ ':' :: front.reverse).drop (back.length + 1) = front.reverse := by
      rw [← List.length_reverse]
      exact drop_past rfl
    simp [splitLastColon, htake, hdrop]

theorem hostAndPort?_eq_some_iff :
    hostAndPort? s = some r ↔ ∃ front back port, s.toList = front ++ ':' :: back ∧ ':' ∉ back ∧
      front ≠ [] ∧ ':' ∉ front ∧ parseUnsigned? 65536 back = some port ∧
      r = inet (String.ofList front) port := by
  simp only [hostAndPort?, Option.bind_eq_bind, Option.bind_eq_some_iff, Prod.exists,
    splitLastColon_eq_some_iff]
  constructor
  · rintro ⟨front, back, ⟨hs, hback⟩, h⟩
    split at h
    · cases h
    · rename_i hfront
      obtain ⟨port, hport, hr⟩ := Option.bind_eq_some_iff.1 h
      simp only [Bool.or_eq_true, not_or, List.isEmpty_iff, List.contains_iff_mem] at hfront
      exact ⟨front, back, port, hs, hback, hfront.1, hfront.2, hport, (Option.some.inj hr).symm⟩
  · rintro ⟨front, back, port, hs, hback, hne, hcolon, hport, rfl⟩
    refine ⟨front, back, ⟨hs, hback⟩, ?_⟩
    rw [if_neg (by simp [hne, hcolon]), hport]
    rfl

theorem text_ofSocket {a : SocketAddress} (h : a.WellFormed) : (ofSocket a).text = a.text := by
  obtain ⟨ip, port⟩ := a
  cases ip with
  | v4 octets =>
    exact if_neg (by simpa [ofSocket, IpAddress.text] using colon_notMem_quadText h.ip)
  | v6 groups =>
    exact if_pos (by simpa [ofSocket, IpAddress.text] using colon_mem_v6Text h.ip)

theorem parse_text_ofSocket {a : SocketAddress} (h : a.WellFormed) :
    parse (ofSocket a).text = ofSocket a := by
  rw [text_ofSocket h, parse, SocketAddress.parse?_text h]

/-- A host without a colon and its port are read back, though their text may be a numeric address. -/
theorem parse_text_inet (hne : host.toList ≠ []) (hcolon : ':' ∉ host.toList) (hport : port < 65536) :
    parse (inet host port).text = inet host port := by
  have htext : (inet host port).text.toList = host.toList ++ ':' :: Nat.toDigits 10 port := by
    simp [text, hcolon, Nat.toString_eq_repr, Nat.toList_repr]
  have hdigits := notMem_toDigits (c := ':') rfl port
  rw [parse]
  cases hparse : SocketAddress.parse? (inet host port).text with
  | none =>
    have hsplit : hostAndPort? (inet host port).text = some (inet host port) :=
      hostAndPort?_eq_some_iff.2 ⟨_, _, port, htext, hdigits, hne, hcolon,
        parseUnsigned?_toDigits hport, by rw [String.ofList_toList]⟩
    simp only [hsplit, Option.getD_some]
  | some a =>
    rcases SocketAddress.parse?_eq_some hparse with hread | hread
    · obtain ⟨-, octets, ds, hip, hds, hcs⟩ := readSocketV4_eq_some hread
      rw [htext, List.append_cons_inj_of_notMem hcolon hdigits] at hcs
      obtain ⟨hhost, -, rfl⟩ := hcs
      have hvalue : a.port = port := hds.value.symm.trans (digitsValue_toDigits port)
      simp only [ofSocket, hip, hvalue, IpAddress.text, ← String.toList_inj.1 hhost]
    · -- a bracketed address has more colons than one
      have hmany := (readSocketV6_eq_some hread).2
      rw [htext, List.count_append, List.count_cons_self, List.count_eq_zero.2 hcolon,
        List.count_eq_zero.2 hdigits] at hmany
      omega

/-- The text of a remote is read as the remote that it is the text of: of one read from any text,
and of one made of any numeric address. -/
theorem parse_text_stable :
    (∀ s, parse (parse s).text = parse s) ∧
      ∀ a : SocketAddress, a.WellFormed → parse (ofSocket a).text = ofSocket a := by
  refine ⟨fun s => ?_, fun a => parse_text_ofSocket⟩
  cases haddress : SocketAddress.parse? s with
  | some a =>
    have hs : parse s = ofSocket a := by rw [parse, haddress]
    rw [hs]
    exact parse_text_ofSocket (SocketAddress.wellFormed_of_parse? haddress)
  | none =>
    have hs : parse s = (hostAndPort? s).getD (opaqueName s) := by rw [parse, haddress]
    cases hhost : hostAndPort? s with
    | some r =>
      obtain ⟨front, back, port, -, -, hne, hcolon, hport, rfl⟩ := hostAndPort?_eq_some_iff.1 hhost
      rw [hs, hhost]
      exact parse_text_inet (by rwa [String.toList_ofList]) (by rwa [String.toList_ofList])
        (parseUnsigned?_lt hport)
    | none =>
      rw [hhost] at hs
      rw [hs]
      exact hs

theorem parse_text_stable_of_mapped :
    parse "1.2.3.4:+0080" = inet "1.2.3.4" 80 ∧
      parse (parse "1.2.3.4:+0080").text = parse "1.2.3.4:+0080" ∧
      (⟨.v6 [0, 0, 0, 0, 0, 0xffff, 0x102, 0x304], 80⟩ : SocketAddress).WellFormed ∧
      parse (ofSocket ⟨.v6 [0, 0, 0, 0, 0, 0xffff, 0x102, 0x304], 80⟩).text =
        ofSocket ⟨.v6 [0, 0, 0, 0, 0, 0xffff, 0x102, 0x304], 80⟩ := by
  have hmapped : (⟨.v6 [0, 0, 0, 0, 0, 0xffff, 0x102, 0x304], 80⟩ : SocketAddress).WellFormed :=
    ⟨⟨rfl, by decide⟩, by decide⟩
  exact ⟨by cbv, parse_text_stable.1 _, hmapped, parse_text_stable.2 _ hmapped⟩

end RemoteAddress
end SecureGateway

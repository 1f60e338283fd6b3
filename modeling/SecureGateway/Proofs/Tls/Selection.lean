import SecureGateway.Tls.EngineContext
import Mathlib.Data.List.Nodup

namespace SecureGateway
namespace CipherSuite

variable {available r r' : List CipherSuite} {requested : List String} {n : String} {s : CipherSuite}
  {e : TlsError}

def names (suites : List CipherSuite) : List String := suites.map (·.name)

def newest (suites : List CipherSuite) : List CipherSuite := suites.filter (·.isTls13)

def older (suites : List CipherSuite) : List CipherSuite := suites.filter (!·.isTls13)

def unsupported (n : String) : TlsError := .contextResolution ("unsupported cipher suite: " ++ n)

theorem mem_names_iff : n ∈ names available ↔ ∃ s ∈ available, s.name = n := List.mem_map

theorem mem_older_iff : s ∈ older available ↔ s ∈ available ∧ s.isTls13 = false := by
  simp [older]

theorem newest_subset : newest available ⊆ available := List.filter_sublist.subset

theorem older_subset : older available ⊆ available := List.filter_sublist.subset

theorem older_of_subset (h : r ⊆ older available) : older r = r :=
  List.filter_eq_self.2 fun _ hs => (List.mem_filter.1 (h hs)).2

theorem newest_of_subset (h : r ⊆ older available) : newest r = [] :=
  List.filter_eq_nil_iff.2 fun _ hs => by simp [(mem_older_iff.1 (h hs)).2]

theorem newest_newest : newest (newest available) = newest available := by
  simp [newest]

theorem older_newest : older (newest available) = [] := by
  simp [newest, older, List.filter_filter]

theorem find?_eq_none_iff : find? available n = none ↔ n ∉ names available := by
  simp [find?, names]

section Distinct

variable (hn : (names available).Nodup)

include hn

theorem eq_of_name_eq {s' : CipherSuite} (hs : s ∈ available) (hs' : s' ∈ available)
    (h : s.name = s'.name) : s = s' :=
  List.inj_on_of_nodup_map hn hs hs' h

theorem find?_eq_some_iff : find? available n = some s ↔ s ∈ available ∧ s.name = n := by
  constructor
  · intro h
    exact ⟨List.mem_of_find?_eq_some h, by simpa using List.find?_some h⟩
  · rintro ⟨hs, rfl⟩
    cases hfound : find? available s.name with
    | none => exact absurd (mem_names_iff.2 ⟨s, hs, rfl⟩) (find?_eq_none_iff.1 hfound)
    | some s' =>
      have hname : s'.name = s.name := by simpa using List.find?_some hfound
      rw [eq_of_name_eq hn (List.mem_of_find?_eq_some hfound) hs hname]

theorem eq_of_names_eq (hr : r ⊆ available) (hr' : r' ⊆ available) (h : names r = names r') :
    r = r' := by
  induction r generalizing r' with
  | nil => exact (List.map_eq_nil_iff.1 h.symm).symm
  | cons s r ih =>
    obtain ⟨s', rest, rfl, hs', hrest⟩ := List.map_eq_cons_iff.1 h.symm
    obtain ⟨hs, hr⟩ := List.cons_subset.1 hr
    obtain ⟨hmem', hr'⟩ := List.cons_subset.1 hr'
    rw [eq_of_name_eq hn hs hmem' hs'.symm, ih hr hr' hrest.symm]

end Distinct

theorem selectAll_eq_error_iff : selectAll available requested = .error e ↔
    ∃ before n after, requested = before ++ n :: after ∧ before ⊆ names available ∧
      n ∉ names available ∧ e = unsupported n := by
  induction requested with
  | nil => simp [selectAll]
  | cons m requested ih =>
    simp only [selectAll, List.cons_eq_append_iff]
    -- the first unknown name is this one, or one of the rest behind known names
    cases hfound : find? available m with
    | none =>
      have hm := find?_eq_none_iff.1 hfound
      constructor
      · intro h
        exact ⟨[], m, requested, .inl ⟨rfl, rfl⟩, List.nil_subset _, hm, (Except.error.inj h).symm⟩
      · rintro ⟨before, n, after, ⟨rfl, h⟩ | ⟨before, rfl, -⟩, hbefore, -, rfl⟩
        · rw [← (List.cons.inj h).1]
          rfl
        · exact absurd (hbefore List.mem_cons_self) hm
    | some s =>
      have hm : m ∈ names available := by
        by_contra hm
        cases hfound.symm.trans (find?_eq_none_iff.2 hm)
      have hrest : (selectAll available requested).map (s :: ·) = .error e ↔
          selectAll available requested = .error e := by
        cases selectAll available requested <;> simp [Except.map]
      rw [hrest, ih]
      constructor
      · rintro ⟨before, n, after, rfl, hbefore, hn, he⟩
        exact ⟨m :: before, n, after, .inr ⟨before, rfl, rfl⟩, List.cons_subset.2 ⟨hm, hbefore⟩, hn,
          he⟩
      · rintro ⟨before, n, after, ⟨rfl, h⟩ | ⟨before, rfl, h⟩, hbefore, hn, he⟩
        · exact absurd ((List.cons.inj h).1 ▸ hm) hn
        · exact ⟨before, n, after, h, (List.cons_subset.1 hbefore).2, hn, he⟩

theorem selected_of_selectAll (h : selectAll available requested = .ok r) :
    names r = requested ∧ r ⊆ available := by
  induction requested generalizing r with
  | nil =>
    obtain rfl := Except.ok.inj h
    exact ⟨rfl, List.nil_subset _⟩
  | cons m requested ih =>
    simp only [selectAll] at h
    cases hfound : find? available m with
    | none =>
      rw [hfound] at h
      cases h
    | some s =>
      rw [hfound] at h
      cases hrest : selectAll available requested with
      | error e =>
        rw [hrest] at h
        cases h
      | ok rest =>
        rw [hrest] at h
        obtain rfl := Except.ok.inj h
        obtain ⟨hnames, hsubset⟩ := ih hrest
        have hname : s.name = m := by simpa using List.find?_some hfound
        exact ⟨congrArg₂ List.cons hname hnames,
          List.cons_subset.2 ⟨List.mem_of_find?_eq_some hfound, hsubset⟩⟩

theorem exists_selectAll_iff :
    (∃ r, selectAll available requested = .ok r) ↔ requested ⊆ names available := by
  constructor
  · rintro ⟨r, h⟩
    obtain ⟨rfl, hsubset⟩ := selected_of_selectAll h
    exact List.map_subset _ hsubset
  · intro h
    cases hselect : selectAll available requested with
    | ok r => exact ⟨r, rfl⟩
    | error e =>
      obtain ⟨before, n, after, rfl, -, hn, -⟩ := selectAll_eq_error_iff.1 hselect
      exact absurd (h (by simp)) hn

theorem selectAll_eq_ok_iff (hn : (names available).Nodup) :
    selectAll available requested = .ok r ↔ names r = requested ∧ r ⊆ available := by
  refine ⟨selected_of_selectAll, ?_⟩
  rintro ⟨rfl, hsubset⟩
  obtain ⟨r', hr'⟩ : ∃ r', selectAll available (names r) = .ok r' :=
    exists_selectAll_iff.2 (List.map_subset _ hsubset)
  obtain ⟨hnames, hsubset'⟩ := selected_of_selectAll hr'
  rw [hr', eq_of_names_eq hn hsubset' hsubset hnames]

/-- What a request picks from the older suites: those that it names, in its order. -/
structure Picks (available : List CipherSuite) (requested : List String) (r : List CipherSuite) :
    Prop where
  subset : r ⊆ older available
  named : names r = requested.filter (· ∈ names (older available))

theorem newest_append_picked (h : Picks available requested r) :
    newest (newest available ++ r) = newest available := by
  rw [newest, List.filter_append, ← newest, ← newest, newest_newest, newest_of_subset h.subset,
    List.append_nil]

theorem older_append_picked (h : Picks available requested r) :
    older (newest available ++ r) = r := by
  rw [older, List.filter_append, ← older, ← older, older_newest, older_of_subset h.subset,
    List.nil_append]

section Distinct

variable (hn : (names available).Nodup)

include hn

theorem mem_names_older_iff :
    n ∈ names (older available) ↔ ∃ s, find? available n = some s ∧ s.isTls13 = false := by
  simp only [mem_names_iff, mem_older_iff, find?_eq_some_iff hn]
  exact exists_congr fun s => ⟨fun ⟨⟨hs, hold⟩, hname⟩ => ⟨⟨hs, hname⟩, hold⟩,
    fun ⟨⟨hs, hname⟩, hold⟩ => ⟨⟨hs, hold⟩, hname⟩⟩

theorem names_picked : names ((requested.filterMap (find? available)).filter (!·.isTls13)) =
    requested.filter (· ∈ names (older available)) := by
  induction requested with
  | nil => rfl
  | cons n requested ih =>
    have hmem := mem_names_older_iff hn (n := n)
    cases hfound : find? available n with
    | none =>
      rw [List.filterMap_cons_none hfound, ih, List.filter_cons_of_neg]
      simp [hmem, hfound]
    | some s =>
      have hname : s.name = n := ((find?_eq_some_iff hn).1 hfound).2
      rw [List.filterMap_cons_some hfound]
      cases hs : s.isTls13 with
      | true =>
        rw [List.filter_cons_of_neg (by simp [hs]), ih, List.filter_cons_of_neg]
        simp [hmem, hfound, hs]
      | false =>
        rw [List.filter_cons_of_pos (by simp [hs]), List.filter_cons_of_pos]
        · exact congrArg₂ List.cons hname ih
        · simp [hmem, hfound, hs]

/-- The filter for what is at hand refuses nothing, and what it picks is fixed by the request. -/
theorem selectSupported_eq_iff : selectSupported available requested = r ↔
    ∃ picked, Picks available requested picked ∧ r = newest available ++ picked := by
  have hpicks : Picks available requested
      ((requested.filterMap (find? available)).filter (!·.isTls13)) := by
    refine ⟨fun s hs => ?_, names_picked hn⟩
    obtain ⟨hs, hnot⟩ := List.mem_filter.1 hs
    obtain ⟨n, -, hfound⟩ := List.mem_filterMap.1 hs
    exact mem_older_iff.2 ⟨((find?_eq_some_iff hn).1 hfound).1, by simpa using hnot⟩
  constructor
  · rintro rfl
    exact ⟨_, hpicks, rfl⟩
  · rintro ⟨picked, h, rfl⟩
    rw [eq_of_names_eq hn (List.Subset.trans h.subset older_subset)
      (List.Subset.trans hpicks.subset older_subset) (h.named.trans hpicks.named.symm)]
    rfl

end Distinct
end CipherSuite

open CipherSuite

namespace DefaultProfile

variable {available picked : List CipherSuite}

/-- What the profile for HTTP/2 makes of the suites at hand: all that are of TLS 1.3 stay, and of the
others those on its list, in the order of the list. -/
structure Admits (available r : List CipherSuite) : Prop where
  kept : newest r = newest available
  subset : r ⊆ available
  listed : names (older r) = h2Ciphers.filter (· ∈ names (older available))
  /-- All that is at hand counts, as long as the list names no suite of TLS 1.3. -/
  offered : (∀ s ∈ newest available, s.name ∉ h2Ciphers) →
    names (older r) = h2Ciphers.filter (· ∈ names available)

theorem mem_names_older_of_listed (hnew : ∀ s ∈ newest available, s.name ∉ h2Ciphers) {n : String}
    (hn : n ∈ h2Ciphers) : n ∈ names (older available) ↔ n ∈ names available := by
  simp only [mem_names_iff, mem_older_iff]
  constructor
  · rintro ⟨s, ⟨hs, -⟩, hname⟩
    exact ⟨s, hs, hname⟩
  · rintro ⟨s, hs, rfl⟩
    refine ⟨s, ⟨hs, ?_⟩, rfl⟩
    by_contra htls
    exact hnew s (List.mem_filter.2 ⟨hs, by simpa using htls⟩) hn

theorem admits_of_picks (h : Picks available h2Ciphers picked) :
    Admits available (newest available ++ picked) where
  kept := newest_append_picked h
  subset := List.append_subset.2 ⟨newest_subset, List.Subset.trans h.subset older_subset⟩
  listed := by rw [older_append_picked h, h.named]
  offered hnew := by
    rw [older_append_picked h, h.named]
    exact List.filter_congr fun n hn => by simp [mem_names_older_of_listed hnew hn]

end DefaultProfile

namespace CipherSuite

/-- The whole law of a selection among suites with different names. Without a request all of them are
offered. A request to be taken whole is taken just when there is a suite for each name, in its order,
and is else refused with the first name without one. A request for what is at hand is never refused,
and so the profile for HTTP/2 has its outcome for whatever suites there are. -/
theorem selection_laws {available : List CipherSuite} (hn : (names available).Nodup) :
    (∀ filter, select available none filter = .ok available) ∧
    (∀ requested,
      ((∃ r, select available (some requested) .identity = .ok r) ↔ requested ⊆ names available) ∧
      (∀ r, select available (some requested) .identity = .ok r ↔
        names r = requested ∧ r ⊆ available) ∧
      (∀ e, select available (some requested) .identity = .error e ↔
        ∃ before n after, requested = before ++ n :: after ∧ before ⊆ names available ∧
          n ∉ names available ∧ e = unsupported n) ∧
      (∃ r, select available (some requested) .supported = .ok r) ∧
      ∀ r, select available (some requested) .supported = .ok r ↔
        ∃ picked, Picks available requested picked ∧ r = newest available ++ picked) ∧
    ∀ b : EngineBuilder, let profiled := DefaultProfile.h2.apply b
      profiled.selectSuites = select builtIn profiled.ciphers profiled.cipherFilter ∧
      ∃ r, select available profiled.ciphers profiled.cipherFilter = .ok r ∧
        DefaultProfile.Admits available r := by
  refine ⟨fun _ => rfl, fun requested => ⟨exists_selectAll_iff, fun r => selectAll_eq_ok_iff hn,
    fun e => selectAll_eq_error_iff, ⟨_, rfl⟩, fun r => ?_⟩, fun b => ⟨rfl, ?_⟩⟩
  · rw [← selectSupported_eq_iff hn]
    exact ⟨Except.ok.inj, congrArg Except.ok⟩
  · -- the profile filters by what is supported, so it picks among the older suites
    obtain ⟨picked, hpicks, hr⟩ : ∃ picked, Picks available DefaultProfile.h2Ciphers picked ∧
        selectSupported available DefaultProfile.h2Ciphers = newest available ++ picked :=
      (selectSupported_eq_iff hn).1 rfl
    exact ⟨_, rfl, hr ▸ DefaultProfile.admits_of_picks hpicks⟩

/-- A provider with a weak suite, and with two listed ones out of the order of the list. -/
def mixedSuites : List CipherSuite := [
  ⟨"TLS13_AES_128_GCM_SHA256", .tls13⟩,
  ⟨"TLS_RSA_WITH_NULL_MD5", .tls12 .rsa⟩,
  ⟨"TLS_ECDHE_RSA_WITH_AES_128_GCM_SHA256", .tls12 .rsa⟩,
  ⟨"TLS_ECDHE_ECDSA_WITH_AES_256_GCM_SHA384", .tls12 .ecdsa⟩]

theorem selection_laws_of_mixed : (names mixedSuites).Nodup ∧
    select mixedSuites (some ["TLS_RSA_WITH_NULL_MD5", "TLS_NONE", "TLS_OTHER"]) .identity =
      .error (unsupported "TLS_NONE") ∧
    ∃ r, select mixedSuites (some DefaultProfile.h2Ciphers) .supported = .ok r ∧
      newest r = newest mixedSuites ∧ names (older r) =
        ["TLS_ECDHE_ECDSA_WITH_AES_256_GCM_SHA384", "TLS_ECDHE_RSA_WITH_AES_128_GCM_SHA256"] := by
  have hn : (names mixedSuites).Nodup := by decide
  obtain ⟨-, hrequests, hprofile⟩ := selection_laws hn
  obtain ⟨-, -, hrefused, -⟩ := hrequests ["TLS_RSA_WITH_NULL_MD5", "TLS_NONE", "TLS_OTHER"]
  obtain ⟨-, r, hr, hadmits⟩ := hprofile .client
  refine ⟨hn, (hrefused _).2 ⟨["TLS_RSA_WITH_NULL_MD5"], "TLS_NONE", ["TLS_OTHER"], rfl, ?_, ?_, rfl⟩,
    r, hr, hadmits.kept, hadmits.listed.trans ?_⟩
  · decide
  · decide
  · decide

end CipherSuite
end SecureGateway

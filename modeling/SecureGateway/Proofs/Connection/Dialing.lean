import SecureGateway.Connection.Dial

namespace SecureGateway

theorem Elapsed.within_eq_ok_iff {α : Type} {limit : Span} {e : Elapsed (Except ConnectError α)}
    {x : α} : e.within limit = .ok x ↔ e.took.nanos ≤ limit.nanos ∧ e.value = .ok x := by
  unfold within
  by_cases hlate : limit.nanos < e.took.nanos
  · rw [if_pos hlate]
    exact iff_of_false nofun fun h => absurd h.1 (Nat.not_le.2 hlate)
  · rw [if_neg hlate]
    exact (and_iff_right (Nat.not_lt.1 hlate)).symm

def Elapsed.waited {α : Type} (limit : Span) (e : Elapsed α) : Nat := min limit.nanos e.took.nanos

namespace Opening

variable {σ κ : Type} {n : Network σ} {establish : σ → Elapsed (Except ConnectError κ)}
  {limit : Span} {metrics : Bool} {r : RemoteAddress} {host : String} {port : Nat} {c : κ} {s : σ}

theorem dial_eq_ok_iff : dial n limit host port = .ok s ↔
    (n host port).took.nanos ≤ limit.nanos ∧ (n host port).value = .ok s := by
  rw [dial, Elapsed.within_eq_ok_iff]
  refine and_congr_right fun _ => ?_
  cases (n host port).value with
  | ok s' => exact ⟨fun h => congrArg _ (Except.ok.inj h), fun h => congrArg _ (Except.ok.inj h)⟩
  | error e => exact iff_of_false nofun nofun

theorem result_eq_ok_iff : (ofNetwork n establish limit metrics r).result = .ok c ↔
    ∃ host port s, r.hostPort? = some (host, port) ∧
      ((n host port).took.nanos ≤ limit.nanos ∧ (n host port).value = .ok s) ∧
      (establish s).took.nanos ≤ limit.nanos ∧ (establish s).value = .ok c := by
  unfold ofNetwork
  cases hhost : r.hostPort? with
  | none => exact iff_of_false nofun fun ⟨_, _, _, h, _⟩ => nomatch h
  | some target =>
    obtain ⟨host, port⟩ := target
    -- the limit is spent on the dial, and again on what is established over it
    constructor
    · intro hresult
      have hbind : ((dial n limit host port).bind fun s => (establish s).within limit) = .ok c :=
        hresult
      cases hdial : dial n limit host port with
      | error e =>
        rw [hdial] at hbind
        cases hbind
      | ok s =>
        rw [hdial] at hbind
        exact ⟨host, port, s, rfl, dial_eq_ok_iff.1 hdial, Elapsed.within_eq_ok_iff.1 hbind⟩
    · rintro ⟨_, _, s, ⟨⟩, hdial, hestablish⟩
      have hbind : ((dial n limit host port).bind fun s => (establish s).within limit) = .ok c := by
        rw [dial_eq_ok_iff.2 hdial]
        exact Elapsed.within_eq_ok_iff.2 hestablish
      exact hbind

/-- How long an opening takes: the dial is waited for, and then what is done with its socket. -/
def duration (n : Network σ) (establish : σ → Elapsed (Except ConnectError κ)) (limit : Span)
    (r : RemoteAddress) : Nat :=
  match r.hostPort? with
  | none => 0
  | some (host, port) =>
    (n host port).waited limit +
      match dial n limit host port with
      | .ok s => (establish s).waited limit
      | .error _ => 0

/-- An opening takes no longer than twice the limit, however it ends. One that succeeds has taken as
long as its two parts, and a network and a peer can be as slow as that for any limit. -/
theorem duration_within_twice (limit : Span) :
    (∀ (σ κ : Type) (n : Network σ) (establish : σ → Elapsed (Except ConnectError κ)) r,
      duration n establish limit r ≤ 2 * limit.nanos) ∧
    (∀ (σ κ : Type) (n : Network σ) (establish : σ → Elapsed (Except ConnectError κ)) metrics r c,
      (ofNetwork n establish limit metrics r).result = .ok c →
      ∃ host port s, (n host port).value = .ok s ∧
        duration n establish limit r = (n host port).took.nanos + (establish s).took.nanos) ∧
    ∃ (n : Network Unit) (establish : Unit → Elapsed (Except ConnectError Unit)),
      ∀ metrics host port, (ofNetwork n establish limit metrics (.inet host port)).result = .ok () ∧
        duration n establish limit (.inet host port) = 2 * limit.nanos := by
  have hwaited : ∀ {α : Type} (e : Elapsed α), e.waited limit ≤ limit.nanos :=
    fun e => Nat.min_le_left _ _
  refine ⟨fun σ κ n establish r => ?_, fun σ κ n establish metrics r c hresult => ?_, ?_⟩
  · unfold duration
    split
    · exact Nat.zero_le _
    rename_i host port _
    have hdial := hwaited (n host port)
    split
    · rename_i s _
      have hestablish := hwaited (establish s)
      omega
    · omega
  · obtain ⟨host, port, s, hhost, hdial, hestablish⟩ := result_eq_ok_iff.1 hresult
    refine ⟨host, port, s, hdial.2, ?_⟩
    simp only [duration, hhost, dial_eq_ok_iff.2 hdial]
    rw [Elapsed.waited, Elapsed.waited, Nat.min_eq_right hdial.1, Nat.min_eq_right hestablish.1]
  · -- a network that dials and a peer that answers in just the time there is
    refine ⟨fun _ _ => ⟨limit, .ok ()⟩, fun _ => ⟨limit, .ok ()⟩, fun metrics host port => ?_⟩
    have hdial : dial (fun _ _ => ⟨limit, .ok ()⟩ : Network Unit) limit host port = .ok () :=
      dial_eq_ok_iff.2 ⟨Nat.le_refl _, rfl⟩
    refine ⟨result_eq_ok_iff.2 ⟨host, port, (), rfl, ⟨Nat.le_refl _, rfl⟩, Nat.le_refl _, rfl⟩, ?_⟩
    simp only [duration, RemoteAddress.hostPort?, hdial, Elapsed.waited, Nat.min_self]
    omega

end Opening
end SecureGateway

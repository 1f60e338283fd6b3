import SecureGateway.Proofs.Connection.Opening
import SecureGateway.Proofs.Connection.Oversight

namespace SecureGateway

namespace Connection

theorem decideOpening_cons (s : Inbound) (xs : List Inbound) : decideOpening (s :: xs) =
    match decideOpening [s] with
    | some (r, _) => some (r, xs)
    | none => decideOpening xs := by
  cases s <;> rfl

theorem decideOpening_append (xs ys : List Inbound) :
    decideOpening (xs ++ ys) =
      match decideOpening xs with
      | some (r, rest) => some (r, rest ++ ys)
      | none => decideOpening ys := by
  induction xs with
  | nil => rfl
  | cons s xs ih => cases s <;> first | rfl | exact ih

theorem decideOpening_split {xs rest : List Inbound} {r : Except ConnectError Unit}
    (h : decideOpening xs = some (r, rest)) :
    ∃ early s, xs = (early ++ [s]) ++ rest ∧ decideOpening early = none ∧
      ∃ later, decideOpening [s] = some (r, later) := by
  induction xs with
  | nil => cases h
  | cons s xs ih =>
    rw [decideOpening_cons] at h
    cases hs : decideOpening [s] with
    | some x =>
      rw [hs] at h
      obtain ⟨rfl, rfl⟩ := Prod.mk.inj (Option.some.inj h)
      exact ⟨[], s, rfl, rfl, x.2, hs⟩
    | none =>
      rw [hs] at h
      obtain ⟨early, s', rfl, hearly, hs'⟩ := ih h
      exact ⟨s :: early, s', rfl, by rw [decideOpening_cons, hs]; exact hearly, hs'⟩

theorem eq_active_of_decideOpening {s : Inbound} {later : List Inbound}
    (h : decideOpening [s] = some (.ok (), later)) : s = .active := by
  cases s with
  | active => rfl
  | _ => simp [decideOpening] at h

theorem decideOpening_ok {xs rest : List Inbound} (h : decideOpening xs = some (.ok (), rest)) :
    .active ∈ xs := by
  obtain ⟨early, s, rfl, -, later, hs⟩ := decideOpening_split h
  obtain rfl := eq_active_of_decideOpening hs
  simp

theorem decideOpening_exception {xs : List Inbound} (hxs : .active ∉ xs) (cause : Cause)
    (ys : List Inbound) : ∃ e rest,
      decideOpening (xs ++ .exception cause :: ys) = some (.error e, rest) := by
  induction xs with
  | nil => exact ⟨_, _, rfl⟩
  | cons s xs ih =>
    have hrest := ih fun h => hxs (List.mem_cons_of_mem _ h)
    cases s with
    | active => exact absurd (List.mem_cons_self ..) hxs
    | exception cause => exact ⟨_, _, rfl⟩
    | inactive => exact ⟨_, _, rfl⟩
    | _ => exact hrest

theorem incoming_ne_completion {data : Bytes} {s : Inbound} (hs : s ∈ incoming data)
    (out : HandshakeOutcome) : .inbound s ≠ completion out := by
  unfold incoming at hs
  split at hs <;> simp at hs <;> rcases hs with rfl | rfl <;> nofun

theorem prompted_ne_completion {η ξ ω : Type} {c : Connection η ξ ω} {now : Instant}
    {ev : SocketEvent} {s : Inbound} (hs : s ∈ c.prompted now ev)
    (out : HandshakeOutcome) : .inbound s ≠ completion out := by
  unfold prompted at hs
  split at hs
  · split at hs
    · exact incoming_ne_completion hs out
    · cases hs
  · rw [List.mem_singleton.1 hs]
    nofun
  · cases hs

variable {η ξ ω : Type} [Recorder ω] {k : StageKit η ξ ω}
  {log : List (Happening (Occupant η ξ) (Env ω))} {c c' : Connection η ξ ω} {a a' : Advance η ξ ω}
  {now : Instant}

theorem decideOpening_of_failure (hv : Vouched k log) {cause : Cause}
    (hcause : firstCompletion log = some (.failure cause)) :
    ∃ e rest, decideOpening (arrivals log) = some (.error e, rest) := by
  rcases hv.gated with hsealed | ⟨out, hdecided⟩
  · rw [hsealed.firstCompletion_eq] at hcause
    cases hcause
  · rw [hdecided.firstCompletion_eq] at hcause
    obtain rfl := Option.some.inj hcause
    obtain ⟨xs, ys, harrivals, hxs⟩ := hdecided.arrivals_eq
    rw [harrivals]
    exact decideOpening_exception hxs cause ys

theorem firstCompletion_of_ok (hv : Vouched k log) {rest : List Inbound}
    (hdecide : decideOpening (arrivals log) = some (.ok (), rest)) :
    firstCompletion log = some .success := by
  have hactive := decideOpening_ok hdecide
  rcases hv.gated with hsealed | ⟨out, hdecided⟩
  · exact absurd hactive hsealed.no_activity
  · have hfirst := hdecided.firstCompletion_eq
    cases out with
    | success => exact hfirst
    | failure cause =>
      obtain ⟨e, rest', herror⟩ := decideOpening_of_failure hv hfirst
      rw [hdecide] at herror
      cases herror

/-- The connection is being opened, and what it saw so far settles nothing. -/
structure Underway (k : StageKit η ξ ω) (log : List (Happening (Occupant η ξ) (Env ω)))
    (c : Connection η ξ ω) : Prop where
  overseen : Overseen k log c.pipeline
  looked : ∃ seen, arrivals log = seen ++ (c.pending ++ c.pipeline.tail) ∧ decideOpening seen = none

/-- How far an opening has come: it is under way, or what arrived has settled it. -/
def Reached (k : StageKit η ξ ω) (log : List (Happening (Occupant η ξ) (Env ω))) :
    Advance η ξ ω → Prop
  | (c, none) => Underway k log c ∧
      (c.job = .awaitingActive ∧ decideOpening (arrivals log) = none ∨
        ∃ unsent, c.job = .sending .opening unsent)
  | (_, some (.ok _)) =>
    Vouched k log ∧ ∃ rest, decideOpening (arrivals log) = some (.ok (), rest)
  | (_, some (.error _)) => Vouched k log

theorem Reached.vouched (hr : Reached k log a) : Vouched k log := by
  obtain ⟨c, _ | e | outcome⟩ := a
  · exact hr.1.overseen.vouched
  · exact hr
  · exact hr.1

theorem Underway.continueOpening (hu : Underway k log c) : Reached k log c.continueOpening := by
  obtain ⟨seen, harrivals, hseen⟩ := hu.looked
  have hdecide : decideOpening (arrivals log) = decideOpening (c.pending ++ c.pipeline.tail) := by
    rw [harrivals, decideOpening_append, hseen]
  have hpending : c.collect.pending = c.pending ++ c.pipeline.tail := rfl
  unfold Connection.continueOpening
  simp only [hpending, ← hdecide]
  split
  · rename_i pending hsome
    exact ⟨hu.overseen.vouched, pending, hsome⟩
  · exact hu.overseen.vouched
  · -- nothing is settled yet: all that arrived has been looked at
    rename_i hnone
    split
    · exact hu.overseen.vouched
    · refine ⟨⟨hu.overseen.congr rfl rfl, arrivals log, ?_, hnone⟩, .inl ⟨rfl, hnone⟩⟩
      exact (List.append_nil _).symm

theorem Underway.fireAll {sigs : List Inbound} {q : Pipeline (Occupant η ξ)} {e : Env ω}
    (hu : Underway k log c) (hsigs : ∀ s ∈ sigs, ∀ out, .inbound s ≠ completion out)
    (hq : c.pipeline.fireAll k.behaviour now sigs c.env = some (q, e)) :
    Underway k (log ++ c.pipeline.fireHistory k.behaviour now sigs c.env)
      { c with pipeline := q, env := e } := by
  induction sigs generalizing c log with
  | nil =>
    obtain ⟨rfl, rfl⟩ := Prod.mk.inj (Option.some.inj hq)
    rw [Pipeline.fireHistory, List.append_nil]
    exact hu
  | cons s sigs ih =>
    obtain ⟨⟨p, e₁⟩, hp, hrest⟩ := Option.bind_eq_some_iff.1 hq
    obtain ⟨ho, htail⟩ := hu.overseen.fire (hsigs s (by simp)) hp
    obtain ⟨seen, harrivals, hseen⟩ := hu.looked
    have hu' : Underway k
        (log ++ c.pipeline.history k.behaviour now (.inbound (idAt c.pipeline.stages 0) s) c.env)
        { c with pipeline := p, env := e₁ } := by
      refine ⟨ho, seen, ?_, hseen⟩
      rw [arrivals, List.filterMap_append, ← arrivals, ← arrivals, harrivals, htail]
      simp
    have := ih hu' (fun x hx => hsigs x (by simp [hx])) hrest
    rw [Pipeline.fireHistory, hp, ← List.append_assoc]
    exact this

theorem Underway.congr (hu : Underway k log c) (hp : c'.pipeline = c.pipeline)
    (hpending : c'.pending = c.pending) : Underway k log c' :=
  ⟨hp ▸ hu.overseen, by rw [hp, hpending]; exact hu.looked⟩

variable [Secured η]

theorem Underway.sendRest {unsent : List Bytes} (hu : Underway k log c)
    (h : c.sendRest k now .opening unsent = some a) : Reached k log a := by
  rcases sendRest_opening h with rfl | ⟨chunk, rest, -, rfl⟩
  · exact hu.continueOpening
  · exact ⟨hu.congr rfl rfl, .inr ⟨_, rfl⟩⟩

theorem Underway.flush (hu : Underway k log c) (h : c.flush k now .opening = some a) :
    Reached k log a := by
  have hu' : Underway k log { c with pipeline := c.pipeline.takeOutbound.2 } :=
    ⟨hu.overseen.congr rfl rfl, hu.looked⟩
  exact hu'.sendRest h

theorem Reached.respond {ev : SocketEvent} (hr : Reached k log (c, none))
    (h : c.respond k now ev = some a) :
    Reached k (log ++ c.pipeline.fireHistory k.behaviour now (c.prompted now ev) c.env) a := by
  obtain ⟨hu, hjob⟩ := hr
  have hc : c.IsOpening := hjob.imp And.left fun h => h
  obtain ⟨c', ⟨hfire, hsame, hpending, -, -⟩, hresponse⟩ := respond_cases hc h
  have hu' : Underway k
      (log ++ c.pipeline.fireHistory k.behaviour now (c.prompted now ev) c.env) c' :=
    (hu.fireAll (fun s hs => prompted_ne_completion hs) hfire).congr rfl hpending
  cases hresponse with
  | ignored hprompted =>
    obtain rfl := hsame hprompted
    rw [hprompted, Pipeline.fireHistory, List.append_nil]
    exact ⟨hu, hjob⟩
  | refused e _ _ _ => exact hu'.overseen.vouched
  | resumed unsent hrest => exact hu'.sendRest hrest
  | flushed hflush => exact hu'.flush hflush

theorem Reached.follow {events : List (Instant × SocketEvent)} (hr : Reached k log a)
    (h : follow k events a = some a') : Reached k (log ++ followHistory k events a) a' :=
  follow_induction (P := Reached k) (fun _ hr h => hr.respond h) log hr h

section Establishing

variable {κ β : Type} [Timed η] [TlsContext κ η] {o : ConnectOptions κ β η} {id : Nat}
  {remote : RemoteAddress} {env : Env ω} {events : List (Instant × SocketEvent)}
  {ssl : SslConfiguration κ β η}

theorem reached_of_opened {p : Pipeline (Occupant η ξ)} (hssl : o.ssl = some ssl)
    (hp : o.assemble ⟨id, some remote⟩ = .ok p)
    (h : (start now o remote p env).opened k now = some a) :
    Reached k (p.fireHistory k.behaviour now [.registered, .active] env) a := by
  rw [opened_eq] at h
  obtain ⟨⟨q, e⟩, hall, hflush⟩ := Option.bind_eq_some_iff.1 h
  have hu : Underway k [] (start now o remote p env) := by
    refine ⟨overseen_of_assemble k hssl hp, [], ?_, rfl⟩
    exact (assemble_eq hssl hp).1.symm
  have hu' := hu.fireAll (by simp [completion]) hall
  refine Underway.flush ?_ hflush
  exact ⟨hu'.overseen, hu'.looked⟩

theorem reached_of_opening (hssl : o.ssl = some ssl)
    (h : opening k now o id remote env events = some a) :
    Reached k (openingHistory k now o id remote env events) a := by
  obtain ⟨a₁, hestablish, hfollow⟩ := Option.bind_eq_some_iff.1 h
  rw [openingHistory, hestablish]
  unfold establish at hestablish
  split at hestablish
  · rename_i p hp
    rw [hp]
    exact (reached_of_opened hssl hp hestablish).follow hfollow
  · rename_i e he
    rw [he]
    rw [← Option.some.inj hestablish, finish, follow_settled] at hfollow
    rw [← Option.some.inj hfollow]
    exact ⟨sourced_nil, .inl (by simp [Sealed])⟩

/-- A secured connection is opened by a handshake. Whatever the handshake stage does, in whatever
order the socket and the clock act: activity leaves the pipeline only after a completion has reached
the observer, which the handshake stage emitted; where the first one is a failure, that failure
leaves the pipeline before any activity and the opening ends in an error, as soon as what is to be
sent is out; and a connection that is open has had a first completion that was a success. -/
theorem opened_after_handshake (hssl : o.ssl = some ssl) {c : Connection η ξ ω}
    {r : Option (Except ConnectError Outcome)}
    (h : opening k now o id remote env events = some (c, r)) :
    let l := openingHistory k now o id remote env events
    Gated l ∧ Sourced k l ∧
      (∀ outcome, r = some (.ok outcome) → firstCompletion l = some .success) ∧
      ∀ cause, firstCompletion l = some (.failure cause) →
        (∃ e, r = some (.error e)) ∨ (r = none ∧ ∃ unsent, c.job = .sending .opening unsent) := by
  intro l
  have hreached : Reached k l (c, r) := reached_of_opening hssl h
  have hvouched : Vouched k l := hreached.vouched
  refine ⟨hvouched.isGated, hvouched.sourced, ?_, ?_⟩
  · rintro outcome rfl
    obtain ⟨-, rest, hdecide⟩ := hreached
    exact firstCompletion_of_ok hvouched hdecide
  · -- after a failure the opening is not settled before what is in hand was sent
    intro cause hcause
    obtain ⟨e, rest, herror⟩ := decideOpening_of_failure hvouched hcause
    cases r with
    | none =>
      obtain ⟨-, ⟨-, hnone⟩ | hsending⟩ := hreached
      · rw [hnone] at herror
        cases herror
      · exact .inr ⟨rfl, hsending⟩
    | some result =>
      cases result with
      | error e => exact .inl ⟨e, rfl⟩
      | ok outcome =>
        obtain ⟨-, rest', hdecide⟩ := hreached
        rw [hdecide] at herror
        cases herror

end Establishing
end Connection

/-- A handshake that is over with the first bytes of the peer. -/
structure BriefStage where
  timing : TimingPolicy

namespace BriefStage

structure Context where

instance : Timed BriefStage where
  timing s := s.timing
  withTiming timing _ := ⟨timing⟩

instance : Secured BriefStage := ⟨fun _ => none, fun _ => none, fun _ => none, fun _ => false⟩

instance : TlsContext Context BriefStage where
  newHandler _ _ := .ok ⟨.none⟩
  engineName _ := "brief"
  debugText _ := "brief"

def react : React (Occupant BriefStage Empty) BriefStage Unit := fun _ sig s w =>
  match sig with
  | .inbound (.read _) => ⟨s, [completion .success], true, w⟩
  | _ => .pass s sig w

def options : ConnectOptions Context Unit BriefStage where
  ssl := some ⟨⟨0, ⟨⟩⟩, none, none, .none, [], ⟨.prebuilt 0, none, .none, none⟩⟩
  metrics := true

end BriefStage

namespace Connection

open BriefStage in
theorem opened_after_handshake_of_brief :
    ∃ c, opening (.closed react) 0 options 0 (.opaqueName "peer") ⟨[], ()⟩ [(1, .received [0])] =
        some (c, some (.ok .opened)) ∧
      firstCompletion (openingHistory (.closed react) 0 options 0 (.opaqueName "peer") ⟨[], ()⟩
        [(1, .received [0])]) = some .success := by
  have hrun : (opening (.closed react) 0 options 0 (.opaqueName "peer") ⟨[], ()⟩
      [(1, .received [0])]).map (·.2) = some (some (.ok .opened)) := by
    decide +kernel
  obtain ⟨⟨c, r⟩, h, hr⟩ := Option.map_eq_some_iff.1 hrun
  obtain rfl : r = some (.ok .opened) := hr
  exact ⟨c, h, (opened_after_handshake rfl h).2.2.1 .opened rfl⟩

end Connection
end SecureGateway

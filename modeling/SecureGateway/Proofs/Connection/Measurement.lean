import SecureGateway.Proofs.Connection.Installed
import SecureGateway.Tls.EngineContext

namespace SecureGateway

open Connection (decideOpening)

/-- What an attempt to open a connection starts from: its peer, the handshakes that were measured
before and the time it is given. -/
structure Attempt where
  peer : RemoteAddress
  before : List Record
  limit : Span

namespace Attempt

open Connection (Fired Response Interruption)

def Recorded {ω : Type} (a : Attempt) (ok : Bool) (e : Env ω) : Prop :=
  ∃ elapsed, e.handshakes = a.before ++ [.handshake a.peer elapsed (Record.statusOf ok)]

/-- The measurement says what came of the attempt; or the socket or the clock cut it short, and then
nothing was measured, or a success. -/
def Accounted {ω : Type} (a : Attempt) (events : List (Instant × SocketEvent))
    (r : Except ConnectError Outcome) (e : Env ω) : Prop :=
  a.Recorded r.isOk e ∨ ∃ x ∈ events, ∃ err, Interruption a.limit x.2 err ∧ r = .error err ∧
    (e.handshakes = a.before ∨ a.Recorded true e)

section Connections

variable {η ξ ω : Type} {a : Attempt} {c c' : Connection η ξ ω} {out : HandshakeOutcome}

/-- Nothing has come of the handshake, and nothing that arrived settles the opening. -/
structure Unmeasured (a : Attempt) (c : Connection η ξ ω) : Prop where
  wellFormed : c.pipeline.WellFormed
  peer : c.pipeline.channel.peer = a.peer
  limit : c.connectTimeout = a.limit
  handshakes : c.env.handshakes = a.before
  undecided : decideOpening (c.pending ++ c.pipeline.tail) = none
  closeRequested : c.pipeline.closeRequested = false
  endOfStream : c.endOfStream = false

/-- The handshake was measured, and what the observer announced settles the opening. -/
structure Measured (a : Attempt) (out : HandshakeOutcome) (c : Connection η ξ ω) : Prop where
  wellFormed : c.pipeline.WellFormed
  limit : c.connectTimeout = a.limit
  recorded : a.Recorded out.isSuccess c.env
  announced : ∃ xs ys, c.pending ++ c.pipeline.tail = xs ++ ObserverState.announce out :: ys ∧
    decideOpening xs = none
  unwatched : Unwatched (.ofPipeline c.pipeline c.env)

theorem Unmeasured.quiet (hu : a.Unmeasured c) (hw : c'.pipeline.WellFormed)
    (hq : Quiet (.ofPipeline c.pipeline c.env) (.ofPipeline c'.pipeline c'.env))
    (hpending : c'.pending = c.pending) (hlimit : c'.connectTimeout = c.connectTimeout)
    (hend : c'.endOfStream = false) : a.Unmeasured c' := by
  obtain ⟨xs, htail, hxs⟩ := hq.tail
  have htail' : c'.pipeline.tail = c.pipeline.tail ++ xs := htail
  have hchannel : c'.pipeline.channel = c.pipeline.channel := hq.channel
  have hclose : c'.pipeline.closeRequested = c.pipeline.closeRequested := hq.close
  have hrecords : c'.env.handshakes = c.env.handshakes := hq.handshakes
  refine ⟨hw, ?_, hlimit.trans hu.limit, hrecords.trans hu.handshakes, ?_,
    hclose.trans hu.closeRequested, hend⟩
  · rw [hchannel, hu.peer]
  · rw [hpending, htail', ← List.append_assoc, Connection.decideOpening_append, hu.undecided]
    exact hxs

theorem Unmeasured.concluded (hu : a.Unmeasured c) (hw : c'.pipeline.WellFormed)
    (hc : Concluded out (.ofPipeline c.pipeline c.env) (.ofPipeline c'.pipeline c'.env))
    (hpending : c'.pending = c.pending) (hlimit : c'.connectTimeout = c.connectTimeout) :
    a.Measured out c' := by
  obtain ⟨xs, ys, htail, hxs⟩ := hc.tail
  obtain ⟨elapsed, hrecords⟩ := hc.handshakes
  have htail' : c'.pipeline.tail = c.pipeline.tail ++ (xs ++ ObserverState.announce out :: ys) :=
    htail
  have hrecords' : c'.env.handshakes = c.env.handshakes ++
      [.handshake c.pipeline.channel.peer elapsed (Record.statusOf out.isSuccess)] := hrecords
  refine ⟨hw, hlimit.trans hu.limit, ⟨elapsed, ?_⟩,
    ⟨(c.pending ++ c.pipeline.tail) ++ xs, ys, ?_, ?_⟩, hc.unwatched⟩
  · rw [hrecords', hu.handshakes, hu.peer]
  · rw [hpending, htail']
    simp
  · rw [Connection.decideOpening_append, hu.undecided]
    exact hxs

theorem Measured.spent (hm : a.Measured out c) (hw : c'.pipeline.WellFormed)
    (hs : Spent (.ofPipeline c.pipeline c.env) (.ofPipeline c'.pipeline c'.env))
    (hpending : c'.pending = c.pending) (hlimit : c'.connectTimeout = c.connectTimeout) :
    a.Measured out c' := by
  obtain ⟨xs, ys, hannounced, hxs⟩ := hm.announced
  obtain ⟨zs, htail⟩ := hs.tail
  obtain ⟨elapsed, hrecords⟩ := hm.recorded
  have htail' : c'.pipeline.tail = c.pipeline.tail ++ zs := htail
  have hrecords' : c'.env.handshakes = c.env.handshakes := hs.handshakes
  refine ⟨hw, hlimit.trans hm.limit, ⟨elapsed, ?_⟩, ⟨xs, ys ++ zs, ?_, hxs⟩, hs.unwatched⟩
  · rw [hrecords', hrecords]
  · rw [hpending, htail', ← List.append_assoc, hannounced]
    simp

theorem decideOpening_announce {xs : List Inbound} (hxs : decideOpening xs = none)
    (out : HandshakeOutcome) (ys : List Inbound) :
    ∃ r, decideOpening (xs ++ ObserverState.announce out :: ys) = some (r, ys) ∧
      r.isOk = out.isSuccess := by
  rw [Connection.decideOpening_append, hxs]
  cases out with
  | success => exact ⟨.ok (), rfl, rfl⟩
  | failure cause => exact ⟨.error (.tls cause), rfl, rfl⟩

theorem Measured.continueOpening (hm : a.Measured out c) :
    ∃ c' r, c.continueOpening = (c', some r) ∧ r.isOk = out.isSuccess ∧ c'.env = c.env := by
  obtain ⟨xs, ys, hannounced, hxs⟩ := hm.announced
  obtain ⟨r, hdecide, hr⟩ := decideOpening_announce hxs out ys
  have hpending : c.collect.pending = xs ++ ObserverState.announce out :: ys := hannounced
  unfold Connection.continueOpening
  simp only [hpending, hdecide]
  cases r with
  | ok u => exact ⟨_, _, rfl, hr, rfl⟩
  | error e => exact ⟨_, _, rfl, hr, rfl⟩

end Connections

section Openings

variable {ε ξ ω : Type} {a : Attempt} {c c' : Connection (TlsStage ε) ξ ω}
  {L : Layout (TlsStage ε) ξ} {now : Instant} {sigs : List Inbound}
  {events : List (Instant × SocketEvent)}

structure Handshaking (a : Attempt) (L : Layout (TlsStage ε) ξ) (c : Connection (TlsStage ε) ξ ω) :
    Prop extends a.Unmeasured c where
  engaged : L.Engaged c.pipeline

def GoesOn (a : Attempt) (L : Layout (TlsStage ε) ξ) (c : Connection (TlsStage ε) ξ ω) : Prop :=
  a.Handshaking L c ∨ ∃ out, a.Measured out c

def Stands (a : Attempt) (L : Layout (TlsStage ε) ξ) (events : List (Instant × SocketEvent)) :
    Advance (TlsStage ε) ξ ω → Prop
  | (c, none) => c.IsOpening ∧ a.GoesOn L c
  | (c, some r) => a.Accounted events r c.env

theorem Handshaking.continueOpening (hh : a.Handshaking L c) :
    a.Stands L events c.continueOpening := by
  have hundecided : decideOpening c.collect.pending = none := hh.undecided
  have hopen : (c.collect.pipeline.closeRequested || c.collect.endOfStream) = false :=
    Bool.or_eq_false_iff.2 ⟨hh.closeRequested, hh.endOfStream⟩
  unfold Connection.continueOpening
  simp only [hundecided, hopen, Bool.false_eq_true, if_false]
  refine ⟨.inl rfl, .inl ⟨⟨?_, hh.peer, hh.limit, hh.handshakes, rfl, hh.closeRequested,
    hh.endOfStream⟩, hh.engaged⟩⟩
  exact hh.wellFormed.of_sublist (.refl _) rfl hh.wellFormed.full

theorem GoesOn.continueOpening (hg : a.GoesOn L c) : a.Stands L events c.continueOpening := by
  rcases hg with hh | ⟨out, hm⟩
  · exact hh.continueOpening
  · obtain ⟨c', r, hc', hr, henv⟩ := hm.continueOpening
    have hrecorded : a.Recorded r.isOk c'.env := by
      rw [hr, henv]
      exact hm.recorded
    rw [hc']
    exact .inl hrecorded

theorem GoesOn.resume (hg : a.GoesOn L c) (chunks : List Bytes) (job : Job) :
    a.GoesOn L { c with pipeline := { c.pipeline with transport := chunks }, job } := by
  rcases hg with hh | ⟨out, hm⟩
  · have hw := hh.wellFormed
    exact .inl ⟨⟨hw.of_sublist (.refl _) rfl hw.full, hh.peer, hh.limit, hh.handshakes, hh.undecided,
      hh.closeRequested, hh.endOfStream⟩, hh.engaged⟩
  · have hw := hm.wellFormed
    exact .inr ⟨out, hw.of_sublist (.refl _) rfl hw.full, hm.limit, hm.recorded, hm.announced,
      hm.unwatched⟩

theorem GoesOn.limit (hg : a.GoesOn L c) : c.connectTimeout = a.limit := by
  rcases hg with hh | ⟨out, hm⟩
  · exact hh.limit
  · exact hm.limit

/-- An interruption leaves what was measured by then. -/
theorem GoesOn.interrupted {x : Instant × SocketEvent} {err : ConnectError} (hg : a.GoesOn L c)
    (hx : x ∈ events) (hi : Interruption c.connectTimeout x.2 err) :
    a.Accounted events (.error err) c.env := by
  have hi' : Interruption a.limit x.2 err := hg.limit ▸ hi
  rcases hg with hh | ⟨out, hm⟩
  · exact .inr ⟨x, hx, err, hi', rfl, .inl hh.handshakes⟩
  · have hrecorded := hm.recorded
    cases out with
    | success => exact .inr ⟨x, hx, err, hi', rfl, .inr hrecorded⟩
    | failure cause => exact .inl hrecorded

theorem outer_of_prompted {ev : SocketEvent} {s : Inbound} (hs : s ∈ c.prompted now ev) :
    s.Outer := by
  unfold Connection.prompted at hs
  split at hs
  · split at hs
    · unfold Connection.incoming at hs
      split at hs
      · rw [List.mem_singleton.1 hs]
        exact .inactive
      · rcases List.mem_cons.1 hs with rfl | hs
        · exact .read _
        · rw [List.mem_singleton.1 hs]
          exact .readComplete
    · cases hs
  · rw [List.mem_singleton.1 hs]
    exact .tick now
  · cases hs

section Events

variable [Recorder ω] {m : EngineModel ε} {k : StageKit (TlsStage ε) ξ ω}
  {x x' : Advance (TlsStage ε) ξ ω}

theorem GoesOn.fired (hk : k.handshake = TlsStage.react m) (hL : L.Sound) (hg : a.GoesOn L c)
    (hsigs : ∀ s ∈ sigs, s.Outer) (hf : Fired k now sigs c c') : a.GoesOn L c' := by
  rcases hg with hh | ⟨out, hm⟩
  · have hw : c'.pipeline.WellFormed := hh.wellFormed.fireAll hf.fired
    rcases fireAll_engaged hk hL hh.wellFormed hh.engaged hsigs hf.fired with
      ⟨hnot, hengaged, hquiet⟩ | ⟨out, hconcluded⟩
    · have hend : c'.endOfStream = false := by
        rw [← Bool.not_eq_true]
        intro hend
        rcases hf.endOfStream hend with hend | hmem
        · rw [hh.endOfStream] at hend
          cases hend
        · exact hnot hmem
      exact .inl ⟨hh.toUnmeasured.quiet hw hquiet hf.pending hf.connectTimeout hend, hengaged⟩
    · exact .inr ⟨out, hh.toUnmeasured.concluded hw hconcluded hf.pending hf.connectTimeout⟩
  · have hw : c'.pipeline.WellFormed := hm.wellFormed.fireAll hf.fired
    have hspent := fireAll_spent hm.wellFormed hm.unwatched hf.fired
    exact .inr ⟨out, hm.spent hw hspent hf.pending hf.connectTimeout⟩

variable [Secured (TlsStage ε)]

theorem GoesOn.sendRest {unsent : List Bytes} (hg : a.GoesOn L c)
    (h : c.sendRest k now .opening unsent = some x) : a.Stands L events x := by
  rcases Connection.sendRest_opening h with rfl | ⟨chunk, rest, -, rfl⟩
  · exact hg.continueOpening
  · exact ⟨.inr ⟨_, rfl⟩, hg.resume c.pipeline.transport _⟩

theorem GoesOn.flush (hg : a.GoesOn L c) (h : c.flush k now .opening = some x) :
    a.Stands L events x :=
  (hg.resume [] c.job).sendRest h

theorem Stands.respond {ev : SocketEvent} (hk : k.handshake = TlsStage.react m) (hL : L.Sound)
    (hs : a.Stands L events (c, none)) (hmem : (now, ev) ∈ events)
    (h : c.respond k now ev = some x) : a.Stands L events x := by
  obtain ⟨hc, hg⟩ := hs
  obtain ⟨c', hfired, hresponse⟩ := Connection.respond_cases hc h
  have hg' : a.GoesOn L c' := hg.fired hk hL (fun s hs => outer_of_prompted hs) hfired
  cases hresponse with
  | ignored hprompted =>
    obtain rfl := hfired.same hprompted
    exact ⟨hc, hg'⟩
  | refused err hi hp he =>
    have haccounted : a.Accounted events (.error err) c'.env := hg'.interrupted hmem hi
    rw [← he] at haccounted
    exact haccounted
  | resumed unsent hrest => exact hg'.sendRest hrest
  | flushed hflush => exact hg'.flush hflush

theorem Stands.follow (hk : k.handshake = TlsStage.react m) (hL : L.Sound)
    (hs : a.Stands L events x) (h : Connection.follow k events x = some x') :
    a.Stands L events x' :=
  Connection.follow_induction (P := fun _ x => a.Stands L events x)
    (fun hmem hs h => hs.respond hk hL hmem h) [] hs h

end Events

end Openings
end Attempt

theorem SslConfiguration.configure_idle {κ β ε : Type} (ssl : SslConfiguration κ β (TlsStage ε))
    (hcustom : ∀ f ∈ ssl.customizers, ∀ t, t.state = .idle → (f t).state = .idle) {t : TlsStage ε}
    (ht : t.state = .idle) : (ssl.configure t).state = .idle := by
  have hstart : (withTiming ssl.timing t).state = .idle := ht
  exact List.foldlRecOn (motive := fun u => u.state = .idle) ssl.customizers (fun h f => f h) hstart
    fun u hu f hf => hcustom f hf u hu

namespace Connection

variable {κ β ε ξ ω : Type} [Recorder ω] [Secured (TlsStage ε)] [TlsContext κ (TlsStage ε)]
  {m : EngineModel ε} {k : StageKit (TlsStage ε) ξ ω} {now : Instant}
  {o : ConnectOptions κ β (TlsStage ε)} {ssl : SslConfiguration κ β (TlsStage ε)} {id : Nat}
  {remote : RemoteAddress} {env : Env ω} {events : List (Instant × SocketEvent)}

theorem stands_of_opened {p : Pipeline (Occupant (TlsStage ε) ξ)} {x : Advance (TlsStage ε) ξ ω}
    (hk : k.handshake = TlsStage.react m) (hssl : o.ssl = some ssl) (hmetrics : o.metrics = true)
    (hnew : ∀ sni t, TlsContext.newHandler ssl.context.value sni = .ok t → t.state = .idle)
    (hcustom : ∀ f ∈ ssl.customizers, ∀ t, t.state = .idle → (f t).state = .idle)
    (hp : o.assemble ⟨id, some remote⟩ = .ok p)
    (h : (start now o remote p env).opened k now = some x) :
    ∃ L : Layout (TlsStage ε) ξ, L.Sound ∧
      Attempt.Stands ⟨remote, env.handshakes, o.connectTimeout⟩ L events x := by
  let a : Attempt := ⟨remote, env.handshakes, o.connectTimeout⟩
  obtain ⟨hchannel, htail, hclose, t, ht, hstages⟩ := assemble_spec hssl hp
  have hw : p.WellFormed := assemble_wellFormed hp
  rw [hmetrics] at hstages
  have hplaces : (p.stages.map Place.ofStage).map (fun q => (q.name, q.handler)) =
      securedChain o.wiretap o.sslDebug true (ssl.configure t) := by
    rw [← hstages, List.map_map]
    rfl
  obtain ⟨L, hL, hp₀⟩ := exists_layout hplaces hw.ids_places
  have hu : a.Unmeasured (start now o remote p env) := by
    refine ⟨hw, ?_, rfl, rfl, ?_, hclose, rfl⟩
    · show p.channel.peer = remote
      rw [hchannel]
      rfl
    · show decideOpening ([] ++ p.tail) = none
      rw [htail]
      rfl
  obtain ⟨c₁, hregistered, hrest⟩ := Option.bind_eq_some_iff.1 h
  obtain ⟨⟨p₁, e₁⟩, hp₁, rfl⟩ := Option.map_eq_some_iff.1 hregistered
  obtain ⟨c₂, hactive, hflush⟩ := Option.bind_eq_some_iff.1 hrest
  obtain ⟨⟨p₂, e₂⟩, hp₂, rfl⟩ := Option.map_eq_some_iff.1 hactive
  have hw₁ : p₁.WellFormed := hw.fire hp₁
  have hw₂ : p₂.WellFormed := hw₁.fire hp₂
  obtain ⟨hplaces₁, hquiet₁⟩ := fire_registered hk hL hw hp₀ hp₁
  have hidle : (ssl.configure t).state = .idle := ssl.configure_idle hcustom (hnew _ t ht)
  refine ⟨L, hL, Attempt.GoesOn.flush (a := a) ?_ hflush⟩
  rcases fire_engaged hk hL hw₁ hplaces₁ .active (.inr ⟨hidle, rfl⟩) hp₂ with
    ⟨-, hengaged, hquiet₂⟩ | ⟨out, hconcluded⟩
  · exact .inl ⟨hu.quiet hw₂ (hquiet₁.trans hquiet₂) rfl rfl rfl, hengaged⟩
  · exact .inr ⟨out, hu.concluded hw₂ (hquiet₁.concluded hconcluded) rfl rfl⟩

/-- The handshake of an attempt whose chain was assembled is measured once, with the status of the
result, whatever the peer sends and however the engine takes it, unless an error of the socket or
the time limit ends the attempt. Then there is no measurement, or that of a success whose last
bytes did not get out. -/
theorem handshake_recorded_once (hk : k.handshake = TlsStage.react m) (hssl : o.ssl = some ssl)
    (hmetrics : o.metrics = true)
    (hnew : ∀ sni t, TlsContext.newHandler ssl.context.value sni = .ok t → t.state = .idle)
    (hcustom : ∀ f ∈ ssl.customizers, ∀ t, t.state = .idle → (f t).state = .idle)
    {p : Pipeline (Occupant (TlsStage ε) ξ)} (hp : o.assemble ⟨id, some remote⟩ = .ok p)
    {c : Connection (TlsStage ε) ξ ω} {r : Except ConnectError Outcome}
    (h : opening k now o id remote env events = some (c, some r)) :
    (∃ elapsed, c.env.handshakes =
        env.handshakes ++ [.handshake remote elapsed (Record.statusOf r.isOk)]) ∨
      ∃ x ∈ events, ∃ e, Interruption o.connectTimeout x.2 e ∧ r = .error e ∧
        (c.env.handshakes = env.handshakes ∨ ∃ elapsed, c.env.handshakes =
          env.handshakes ++ [.handshake remote elapsed Record.succeeded]) := by
  obtain ⟨x, hestablish, hfollow⟩ := Option.bind_eq_some_iff.1 h
  rw [establish, hp] at hestablish
  obtain ⟨L, hL, hstands⟩ : ∃ L : Layout (TlsStage ε) ξ, L.Sound ∧
      Attempt.Stands ⟨remote, env.handshakes, o.connectTimeout⟩ L events x :=
    stands_of_opened hk hssl hmetrics hnew hcustom hp hestablish
  exact hstands.follow hk hL hfollow

end Connection

/-- An engine whose handshake is over with the first bytes of the peer, which it answers. -/
structure PromptEngine where
  answers : Bool

namespace PromptEngine

structure Context where

def model : EngineModel PromptEngine where
  readTls bytes _ := (.ok bytes.length, ⟨true⟩)
  process e := (.ok (), e)
  readPlain e := (.wouldBlock, e)
  writePlain _ e := (.ok (), e)
  wantsWrite e := e.answers
  writeTls _ := (.ok [0], ⟨false⟩)
  isHandshaking _ := false
  sendCloseNotify e := e
  alpn _ := none
  version _ := none
  suite _ := none
  limit := 2

instance : Secured (TlsStage PromptEngine) :=
  ⟨fun _ => none, fun _ => none, fun _ => none, fun _ => false⟩

instance : TlsContext Context (TlsStage PromptEngine) where
  newHandler _ _ := .ok (.new ⟨false⟩)
  engineName _ := "prompt"
  debugText _ := "prompt"

def options : ConnectOptions Context Unit (TlsStage PromptEngine) where
  ssl := some ⟨⟨0, ⟨⟩⟩, none, none, .none, [], ⟨.prebuilt 0, none, .none, none⟩⟩
  metrics := true

def attempt (events : List (Instant × SocketEvent)) :
    Option (Advance (TlsStage PromptEngine) Empty Unit) :=
  Connection.opening (.closed (TlsStage.react model)) 0 options 0 (.opaqueName "peer") ⟨[], ()⟩
    events

end PromptEngine

namespace Connection

theorem handshake_recorded_once_of_prompt :
    ∃ c elapsed,
      PromptEngine.attempt [(1, .received [0]), (2, .sent 1)] = some (c, some (.ok .opened)) ∧
        c.env.handshakes = [.handshake (.opaqueName "peer") elapsed Record.succeeded] := by
  have hrun : (PromptEngine.attempt [(1, .received [0]), (2, .sent 1)]).map (·.2) =
      some (some (.ok .opened)) := by
    decide +kernel
  obtain ⟨⟨c, r⟩, h, hr⟩ := Option.map_eq_some_iff.1 hrun
  obtain rfl : r = some (.ok .opened) := hr
  have hnew : ∀ (sni : Option SniTarget) (t : TlsStage PromptEngine),
      TlsContext.newHandler PromptEngine.Context.mk sni = .ok t → t.state = .idle := by
    intro sni t ht
    rw [← Except.ok.inj ht]
    rfl
  rcases handshake_recorded_once rfl rfl rfl hnew (List.forall_mem_nil _) rfl h with
    ⟨elapsed, hrecords⟩ | ⟨_, _, _, _, hr, _⟩
  · exact ⟨c, elapsed, h, hrecords⟩
  · cases hr

/-- The status is that of the handshake where the answer to it does not get out. -/
example : (PromptEngine.attempt [(1, .received [0]), (2, .failed (.custom "reset"))]).map
    (fun a => (a.1.env.handshakes, a.2)) =
      some ([.handshake (.opaqueName "peer") ⟨1⟩ Record.succeeded],
        some (.error (.io (.custom "reset")))) := by
  decide +kernel

def bareServer : ConnectOptions EngineContext EngineBuilder (TlsStage Session) where
  ssl := some ⟨⟨0, ⟨[], [], .server [] ⟨.ed25519, []⟩, 0⟩⟩, none, none, .none, [],
    ⟨.prebuilt 0, none, .none, none⟩⟩
  metrics := true

/-- An attempt that hears nothing until its time is up leaves no measurement. -/
theorem unmeasured_when_silent :
    (opening (.closed (TlsStage.react sessionEngine)) 0 bareServer 0 (.opaqueName "peer")
      (⟨[], ()⟩ : Env Unit) [(Instant.after 0 bareServer.connectTimeout, .expired)]).map
        (fun a => (a.1.env.handshakes, a.2)) =
          some ([], some (.error (.timeout bareServer.connectTimeout))) := by
  decide +kernel

end Connection
end SecureGateway

import SecureGateway.Proofs.Pipeline.Insertion
import SecureGateway.Proofs.Tls.Derivation
import SecureGateway.Tls.Install

namespace SecureGateway

open Pipeline (Joined)
open SslConfigurationBuilder (stagedConfiguration)

variable {κ β η ξ σ : Type} {p p₁ p₂ q : Pipeline (Occupant η ξ)} {h : η} {debug : Bool}

def handshakePlace (p : Pipeline σ) : StagePlace :=
  if .proxy ∈ p.names then .after .proxy else .first

def observerPlace (p : Pipeline σ) : StagePlace :=
  .after (if .logging ∈ p.names then .logging else .ssl)

def Recorded (p : Pipeline σ) (debug : Bool) : Prop := debug = true ∧ .logging ∈ p.names

instance (p : Pipeline σ) (debug : Bool) : Decidable (Recorded p debug) :=
  inferInstanceAs (Decidable (_ ∧ _))

theorem securingStages_eq (p : Pipeline (Occupant η ξ)) (h : η) (debug : Bool) :
    securingStages p h debug = (handshakePlace p, .ssl, .handshake h) ::
      (observerPlace p, .sslReader, .observer .unarmed) ::
        if Recorded p debug then [(.before .ssl, .sslLogging, .logging .tls)] else [] := by
  unfold securingStages handshakePlace observerPlace Recorded
  rw [Pipeline.contains_eq, Pipeline.contains_eq]
  by_cases hproxy : .proxy ∈ p.names <;> by_cases hlogging : .logging ∈ p.names <;>
    cases debug <;> simp [hproxy, hlogging]

/-- The ways in which it can end that a chain `p` is secured by a new handler. -/
inductive Secures (made : Except TlsError η) (p : Pipeline (Occupant η ξ)) (debug : Bool) :
    Pipeline (Occupant η ξ) → Option TlsError → Prop
  | unmade {e : TlsError} : made = .error e → Secures made p debug p (some e)
  | handshakeTaken {h : η} : made = .ok h → .ssl ∈ p.names →
    Secures made p debug p (some (.pipeline (.duplicateStage .ssl)))
  | observerTaken {h : η} {p₁ : Pipeline (Occupant η ξ)} : made = .ok h →
    Joined (handshakePlace p) .ssl (.handshake h) p p₁ → .sslReader ∈ p.names →
    Secures made p debug p₁ (some (.pipeline (.duplicateStage .sslReader)))
  | recordTaken {h : η} {p₁ p₂ : Pipeline (Occupant η ξ)} : made = .ok h →
    Joined (handshakePlace p) .ssl (.handshake h) p p₁ →
    Joined (observerPlace p) .sslReader (.observer .unarmed) p₁ p₂ →
    Recorded p debug → .sslLogging ∈ p.names →
    Secures made p debug p₂ (some (.pipeline (.duplicateStage .sslLogging)))
  | plain {h : η} {p₁ p₂ : Pipeline (Occupant η ξ)} : made = .ok h →
    Joined (handshakePlace p) .ssl (.handshake h) p p₁ →
    Joined (observerPlace p) .sslReader (.observer .unarmed) p₁ p₂ →
    ¬Recorded p debug → Secures made p debug p₂ none
  | recorded {h : η} {p₁ p₂ p₃ : Pipeline (Occupant η ξ)} : made = .ok h →
    Joined (handshakePlace p) .ssl (.handshake h) p p₁ →
    Joined (observerPlace p) .sslReader (.observer .unarmed) p₁ p₂ →
    Recorded p debug → Joined (.before .ssl) .sslLogging (.logging .tls) p₂ p₃ →
    Secures made p debug p₃ none

theorem Pipeline.Joined.mem_names {place : StagePlace} {n m : StageName} {x : σ}
    {p q : Pipeline σ} (hj : Joined place n x p q) : m ∈ q.names ↔ m = n ∨ m ∈ p.names := by
  rw [hj.names_perm.mem_iff, List.mem_cons]

theorem secures_addAll (p : Pipeline (Occupant η ξ)) (h : η) (debug : Bool) :
    Secures (.ok h) p debug (p.addAll (securingStages p h debug)).1
      ((p.addAll (securingStages p h debug)).2.map .pipeline) := by
  have hproxy : ∀ base, (handshakePlace p).base? = some base → base ∈ p.names := by
    intro base hbase
    unfold handshakePlace at hbase
    split at hbase
    · rename_i hmem
      exact Option.some.inj hbase ▸ hmem
    · cases hbase
  -- the places are chosen by the old chain, but each addition meets the chain that the one before it
  -- left; the bases are there by then, so only a name can stand in the way
  rw [securingStages_eq]
  rcases p.add_of_base (handshakePlace p) .ssl (.handshake h) hproxy with
    ⟨hssl, herror⟩ | ⟨p₁, hadd₁, hj₁⟩
  · rw [Pipeline.addAll_of_error herror]
    exact .handshakeTaken rfl hssl
  have hlogging : ∀ base, (observerPlace p).base? = some base → base ∈ p₁.names := by
    intro base hbase
    obtain rfl := Option.some.inj hbase
    rw [hj₁.mem_names]
    split
    · exact .inr ‹_›
    · exact .inl rfl
  rw [Pipeline.addAll_of_ok hadd₁]
  rcases p₁.add_of_base (observerPlace p) .sslReader (.observer .unarmed) hlogging with
    ⟨hreader, herror⟩ | ⟨p₂, hadd₂, hj₂⟩
  · rw [Pipeline.addAll_of_error herror]
    exact .observerTaken rfl hj₁ ((hj₁.mem_names.1 hreader).resolve_left nofun)
  rw [Pipeline.addAll_of_ok hadd₂]
  by_cases hrecorded : Recorded p debug
  · have hssl : ∀ base, (StagePlace.before .ssl).base? = some base → base ∈ p₂.names := by
      intro base hbase
      obtain rfl := Option.some.inj hbase
      exact hj₂.mem_names.2 (.inr (hj₁.mem_names.2 (.inl rfl)))
    rw [if_pos hrecorded]
    rcases p₂.add_of_base (.before .ssl) .sslLogging (.logging .tls) hssl with
      ⟨htaken, herror⟩ | ⟨p₃, hadd₃, hj₃⟩
    · rw [Pipeline.addAll_of_error herror]
      have hmem := (hj₂.mem_names.1 htaken).resolve_left nofun
      exact .recordTaken rfl hj₁ hj₂ hrecorded ((hj₁.mem_names.1 hmem).resolve_left nofun)
    · rw [Pipeline.addAll_of_ok hadd₃]
      exact .recorded rfl hj₁ hj₂ hrecorded hj₃
  · rw [if_neg hrecorded]
    exact .plain rfl hj₁ hj₂ hrecorded

def offeredName : Option RemoteAddress → Option SniTarget
  | some (.inet host port) => some ⟨host, port⟩
  | _ => none

theorem offeredName_eq (remote : Option RemoteAddress) :
    remote.bind RemoteAddress.sniTarget? = offeredName remote := by
  match remote with
  | none => rfl
  | some (.inet _ _) => rfl
  | some (.opaqueName _) => rfl

theorem secures_install [Timed η] [TlsContext κ η] (p : Pipeline (Occupant η ξ))
    (remote : Option RemoteAddress) (c : SslConfiguration κ β η) (debug : Bool) :
    Secures ((TlsContext.newHandler c.context.value (offeredName remote)).map c.configure) p debug
      (install p remote c debug).1 (install p remote c debug).2 := by
  unfold install
  rw [offeredName_eq]
  cases hmade : TlsContext.newHandler c.context.value (offeredName remote) with
  | error e => exact .unmade rfl
  | ok h => exact secures_addAll p (c.configure h) debug

/-- The chain `q` is `p` with stages of these names, a new handshake stage among them. -/
structure Gains (names : List StageName) (p q : Pipeline (Occupant η ξ)) (h : η) : Prop where
  /-- Without the stages that were added the row is the old one: the others are there as they were, in
  their order and with their handlers. -/
  kept : q.stages.filter (fun st => st.name ∉ names) = p.stages
  added : q.names.Perm (names ++ p.names)
  rest : { q with stages := p.stages, nextId := p.nextId } = p
  handshake : q.get? .ssl = some (.handshake h)

namespace Gains

variable {place : StagePlace} {names : List StageName} {n : StageName} {x : Occupant η ξ}

theorem of_first (hj : Joined place .ssl (.handshake h) p q) : Gains [.ssl] p q h where
  kept := by
    rw [hj.filter_stages fun st hst => by simp [hst]]
    refine List.filter_eq_self.2 fun st hst => decide_eq_true fun hmem => hj.free ?_
    exact List.mem_singleton.1 hmem ▸ List.mem_map_of_mem hst
  added := hj.names_perm
  rest := hj.rest _ _
  handshake := hj.get?_self

theorem joined (hg : Gains names p q h) (hj : Joined place n x q p₁) (hn : n ≠ .ssl) :
    Gains (names ++ [n]) p p₁ h where
  kept := by
    rw [hj.filter_stages fun st hst => by simp [hst], ← hg.kept]
    refine List.filter_congr fun st hst => ?_
    have hne : st.name ≠ n := fun hname => hj.free (hname ▸ List.mem_map_of_mem hst)
    simp [hne]
  added := by
    refine hj.names_perm.trans ((hg.added.cons n).trans ?_)
    rw [List.append_assoc]
    exact List.perm_middle.symm
  rest := (hj.rest _ _).trans hg.rest
  handshake := (hj.get?_of_ne hn.symm).trans hg.handshake

theorem free (hg : Gains names p q h) : ∀ n ∈ names, n ∉ p.names := by
  intro n hn hmem
  rw [Pipeline.names, ← hg.kept] at hmem
  obtain ⟨st, hst, rfl⟩ := List.mem_map.1 hmem
  exact of_decide_eq_true (List.mem_filter.1 hst).2 hn

theorem count_eq_one (hg : Gains names p q h) (hn : names.count n = 1) : q.names.count n = 1 := by
  have hfree : n ∉ p.names := hg.free n (List.count_pos_iff.1 (by omega))
  rw [hg.added.count_eq, List.count_append, hn, List.count_eq_zero.2 hfree]

end Gains

def recordStage (p : Pipeline σ) (debug : Bool) : List StageName :=
  if Recorded p debug then [.sslLogging] else []

/-- How a chain `q` looks that was `p` before it was secured by the handler `h`, with these stages for
the logging of records. -/
structure Arranged (record : List StageName) (p q : Pipeline (Occupant η ξ)) (h : η) : Prop extends
    Gains (.ssl :: .sslReader :: record) p q h where
  behindProxy : .proxy ∈ p.names → .proxy :: (record ++ [.ssl]) <:+: q.names
  foremost : .proxy ∉ p.names → record ++ [.ssl] <+: q.names
  behindLogging : .logging ∈ p.names → [.logging, .sslReader] <:+: q.names
  behindHandshake : .logging ∉ p.names → [.ssl, .sslReader] <:+: q.names
  observer : q.get? .sslReader = some (.observer .unarmed)
  recorder : ∀ n ∈ record, n = .sslLogging ∧ q.get? .sslLogging = some (.logging .tls)

theorem arranged_of_pair (hj₁ : Joined (handshakePlace p) .ssl (.handshake h) p p₁)
    (hj₂ : Joined (observerPlace p) .sslReader (.observer .unarmed) p₁ p₂) :
    Arranged [] p p₂ h where
  toGains := (Gains.of_first hj₁).joined hj₂ (by decide)
  behindProxy hproxy := by
    rw [handshakePlace, if_pos hproxy] at hj₁
    refine hj₂.pair hj₁.follows_base ?_ nofun
    unfold observerPlace
    split <;> nofun
  foremost hproxy := by
    rw [handshakePlace, if_neg hproxy] at hj₁
    exact hj₂.head ⟨p.names, hj₁.first_names.symm⟩ nofun nofun
  behindLogging hlogging := by
    rw [observerPlace, if_pos hlogging] at hj₂
    exact hj₂.follows_base
  behindHandshake hlogging := by
    rw [observerPlace, if_neg hlogging] at hj₂
    exact hj₂.follows_base
  observer := hj₂.get?_self
  recorder := List.forall_mem_nil _

theorem Arranged.recorded (ha : Arranged [] p p₂ h)
    (hj : Joined (.before .ssl) .sslLogging (.logging .tls) p₂ q) :
    Arranged [.sslLogging] p q h where
  toGains := ha.toGains.joined hj (by decide)
  behindProxy hproxy := hj.pair_before (ha.behindProxy hproxy) (ha.count_eq_one (by decide))
  foremost hproxy := hj.head_before (ha.foremost hproxy)
  behindLogging hlogging := hj.pair (ha.behindLogging hlogging) nofun nofun
  behindHandshake hlogging := hj.pair (ha.behindHandshake hlogging) nofun nofun
  observer := (hj.get?_of_ne (by decide)).trans ha.observer
  recorder := by
    intro n hn
    exact ⟨List.mem_singleton.1 hn, hj.get?_self⟩

theorem Secures.arranged {made : Except TlsError η} (hs : Secures made p debug q none) :
    ∃ h, made = .ok h ∧ Arranged (recordStage p debug) p q h := by
  cases hs with
  | plain hmade hj₁ hj₂ hrecorded =>
    rw [recordStage, if_neg hrecorded]
    exact ⟨_, hmade, arranged_of_pair hj₁ hj₂⟩
  | recorded hmade hj₁ hj₂ hrecorded hj₃ =>
    rw [recordStage, if_pos hrecorded]
    exact ⟨_, hmade, (arranged_of_pair hj₁ hj₂).recorded hj₃⟩

theorem Secures.refused {made : Except TlsError η} {e : TlsError}
    (hs : Secures made p debug q (some e)) : made = .error e ∨
      ∃ n ∈ .ssl :: .sslReader :: recordStage p debug, n ∈ p.names ∧
        e = .pipeline (.duplicateStage n) := by
  cases hs with
  | unmade hmade => exact .inl hmade
  | handshakeTaken _ hssl => exact .inr ⟨_, List.mem_cons_self, hssl, rfl⟩
  | observerTaken _ _ hreader =>
    exact .inr ⟨_, List.mem_cons_of_mem _ List.mem_cons_self, hreader, rfl⟩
  | recordTaken _ _ _ hrecorded htaken =>
    refine .inr ⟨_, ?_, htaken, rfl⟩
    rw [recordStage, if_pos hrecorded]
    simp

theorem map_configure_ok {f : η → η} {x : Except TlsError η} (hx : x.map f = .ok h) :
    ∃ h₀, x = .ok h₀ ∧ h = f h₀ := by
  cases x with
  | error e => cases hx
  | ok h₀ => exact ⟨h₀, rfl, (Except.ok.inj hx).symm⟩

/-- A chain is secured just when the context makes a handler and the names to add are free. The
handshake stage comes right behind the proxy, or else first, with the logging of records between the
two where debugging is asked for and there is wire logging; the observer comes right behind wire
logging, or else behind the handshake stage. The handler was made for the host of the connection, if
it has one, and has been given the limits and then run through the customizers. -/
theorem install_arranges [Timed η] [TlsContext κ η] (p : Pipeline (Occupant η ξ))
    (remote : Option RemoteAddress) (c : SslConfiguration κ β η) (debug : Bool) :
    ((install p remote c debug).2 = none ↔
      (∃ h, TlsContext.newHandler c.context.value (offeredName remote) = .ok h) ∧
        ∀ n ∈ .ssl :: .sslReader :: recordStage p debug, n ∉ p.names) ∧
    ∀ q, install p remote c debug = (q, none) →
      ∃ h, TlsContext.newHandler c.context.value (offeredName remote) = .ok h ∧
        Arranged (recordStage p debug) p q
          (c.customizers.foldl (fun h f => f h) (withTiming c.timing h)) := by
  have hs := secures_install p remote c debug
  have hsecured : ∀ q, install p remote c debug = (q, none) →
      ∃ h, TlsContext.newHandler c.context.value (offeredName remote) = .ok h ∧
        Arranged (recordStage p debug) p q (c.configure h) := by
    intro q hq
    rw [hq] at hs
    obtain ⟨h, hmade, harranged⟩ := hs.arranged
    obtain ⟨h₀, hnew, rfl⟩ := map_configure_ok hmade
    exact ⟨h₀, hnew, harranged⟩
  refine ⟨⟨fun hnone => ?_, ?_⟩, hsecured⟩
  · obtain ⟨h, hmade, harranged⟩ := hsecured _ (Prod.ext rfl hnone)
    exact ⟨⟨h, hmade⟩, harranged.free⟩
  · -- a refusal has one of two causes, a handler that is not made or a name that is taken
    rintro ⟨⟨h, hmade⟩, hfree⟩
    cases hrefusal : (install p remote c debug).2 with
    | none => rfl
    | some e =>
      rw [hrefusal, hmade] at hs
      rcases hs.refused with herror | ⟨n, hn, hmem, -⟩
      · cases herror
      · exact absurd hmem (hfree n hn)

def rowOf (names : List StageName) : Pipeline (Occupant ClearStage Empty) :=
  ((Pipeline.new ⟨0, none⟩).addAll (names.map fun n => (.last, n, .plain))).1

/-- Wire logging ahead of a proxy, with records to be logged. -/
theorem install_arranges_of_crossed :
    let p := rowOf [.logging, .application, .proxy]
    let x := install p (some (.inet "peer" 443)) stagedConfiguration true
    x.2 = none ∧ Arranged [.sslLogging] p x.1 (stagedConfiguration.configure .new) := by
  intro p x
  have hnone : x.2 = none := by decide +kernel
  obtain ⟨h, hmade, harranged⟩ := (install_arranges p (some (.inet "peer" 443)) stagedConfiguration
    true).2 x.1 (Prod.ext rfl hnone)
  have hmade' : TlsContext.newHandler stagedConfiguration.context.value
      (offeredName (some (.inet "peer" 443))) = .ok ClearStage.new := by decide +kernel
  obtain rfl := Except.ok.inj (hmade'.symm.trans hmade)
  have hrecord : recordStage p true = [.sslLogging] := by decide +kernel
  rw [hrecord] at harranged
  exact ⟨hnone, harranged⟩

theorem ahead_of_pair (hj₁ : Joined (handshakePlace p) .ssl (.handshake h) p p₁)
    (hj₂ : Joined (observerPlace p) .sslReader (.observer .unarmed) p₁ p₂) :
    Ahead p₂.names .ssl .sslReader ↔ ¬Ahead p.names .logging .proxy := by
  by_cases hlogging : .logging ∈ p.names
  · rw [observerPlace, if_pos hlogging] at hj₂
    rw [hj₂.ahead_of_new (by decide)]
    by_cases hproxy : .proxy ∈ p.names
    · rw [handshakePlace, if_pos hproxy] at hj₁
      rw [hj₁.new_ahead hlogging (by decide)]
      exact ahead_iff_not_ahead hproxy hlogging (by decide)
    · rw [handshakePlace, if_neg hproxy] at hj₁
      exact iff_of_true (hj₁.new_ahead_first hlogging) fun hahead => hproxy hahead.mem.2
  · rw [observerPlace, if_neg hlogging] at hj₂
    exact iff_of_true hj₂.base_ahead fun hahead => hlogging hahead.mem.1

/-- The observer comes behind the handshake stage just when wire logging does not stand ahead of a
proxy. -/
theorem observer_behind_handshake_iff [Timed η] [TlsContext κ η] {remote : Option RemoteAddress}
    {c : SslConfiguration κ β η} (hq : install p remote c debug = (q, none)) :
    Ahead q.names .ssl .sslReader ↔ ¬Ahead p.names .logging .proxy := by
  have hs := secures_install p remote c debug
  rw [hq] at hs
  -- what is added last comes between the two or ahead of both, which is nothing to their order
  cases hs with
  | plain _ hj₁ hj₂ _ => exact ahead_of_pair hj₁ hj₂
  | recorded _ hj₁ hj₂ _ hj₃ =>
    exact (hj₃.ahead_other (by decide) (by decide)).trans (ahead_of_pair hj₁ hj₂)

/-- Wire logging behind the proxy, and the logging of records between the two stages. -/
theorem observer_behind_handshake_iff_of_ordered :
    let p := rowOf [.proxy, .logging]
    let x := install p (some (.inet "peer" 443)) stagedConfiguration true
    x.2 = none ∧ Ahead x.1.names .ssl .sslReader := by
  intro p x
  have hnone : x.2 = none := by decide +kernel
  have hordered : ¬Ahead p.names .logging .proxy := by decide +kernel
  exact ⟨hnone, (observer_behind_handshake_iff (Prod.ext rfl hnone)).2 hordered⟩

def phaseAfter (p : Pipeline (Occupant ClearStage Empty)) (signals : List Inbound) :
    Option ClearPhase := do
  let fire := fun (p : Pipeline (Occupant ClearStage Empty)) s =>
    (p.fire (StageKit.closed ClearStage.react).behaviour 0 s (⟨[], ()⟩ : Env Unit)).map Prod.fst
  match (← signals.foldlM fire p).get? .ssl with
  | some (.handshake c) => some c.phase
  | _ => none

/-- With wire logging ahead of the proxy the observer is ahead of the handshake stage, and holds back
the activity that would have started it. -/
theorem observer_ahead_of_handshake :
    let p := rowOf [.logging, .proxy]
    let x := install p (some (.inet "peer" 443)) stagedConfiguration false
    x.2 = none ∧ x.1.names = [.logging, .sslReader, .proxy, .ssl] ∧
      ¬Ahead x.1.names .ssl .sslReader ∧
        phaseAfter x.1 [.registered, .active] = some .idle := by
  decide +kernel

/-- A chain that is refused is as it was where the context makes no handler or there is a handshake
stage already. Where the name of the observer is taken, the new handshake stage stays behind alone; and
where records cannot be logged for want of their name, it stays behind with its observer. -/
theorem refused_install_leaves [Timed η] [TlsContext κ η] {remote : Option RemoteAddress}
    {c : SslConfiguration κ β η} {e : TlsError} (hq : install p remote c debug = (q, some e)) :
    (q = p ∧ (TlsContext.newHandler c.context.value (offeredName remote) = .error e ∨
        .ssl ∈ p.names ∧ e = .pipeline (.duplicateStage .ssl))) ∨
      ∃ h, TlsContext.newHandler c.context.value (offeredName remote) = .ok h ∧ .ssl ∉ p.names ∧
        ((Gains [.ssl] p q (c.configure h) ∧ .sslReader ∈ p.names ∧
            e = .pipeline (.duplicateStage .sslReader)) ∨
          (Gains [.ssl, .sslReader] p q (c.configure h) ∧ .sslReader ∉ p.names ∧
            Recorded p debug ∧ .sslLogging ∈ p.names ∧
            e = .pipeline (.duplicateStage .sslLogging))) := by
  have hs := secures_install p remote c debug
  rw [hq] at hs
  cases hs with
  | unmade hmade =>
    cases hnew : TlsContext.newHandler c.context.value (offeredName remote) with
    | error e' =>
      rw [hnew] at hmade
      exact .inl ⟨rfl, .inl (congrArg Except.error (Except.error.inj hmade))⟩
    | ok h =>
      rw [hnew] at hmade
      cases hmade
  | handshakeTaken _ hssl => exact .inl ⟨rfl, .inr ⟨hssl, rfl⟩⟩
  | observerTaken hmade hj₁ hreader =>
    obtain ⟨h, hnew, rfl⟩ := map_configure_ok hmade
    exact .inr ⟨h, hnew, hj₁.free, .inl ⟨Gains.of_first hj₁, hreader, rfl⟩⟩
  | recordTaken hmade hj₁ hj₂ hrecorded htaken =>
    obtain ⟨h, hnew, rfl⟩ := map_configure_ok hmade
    have hgains := (Gains.of_first hj₁).joined hj₂ (by decide)
    have hreader := hgains.free .sslReader (List.mem_cons_of_mem _ List.mem_cons_self)
    exact .inr ⟨h, hnew, hj₁.free, .inr ⟨hgains, hreader, hrecorded, htaken, rfl⟩⟩

/-- The stage for the logging of records is there already. -/
theorem refused_install_leaves_of_recorded :
    let p := rowOf [.logging, .sslLogging]
    let x := install p (some (.inet "peer" 443)) stagedConfiguration true
    x.2 = some (.pipeline (.duplicateStage .sslLogging)) ∧
      ∃ h, Gains [.ssl, .sslReader] p x.1 h := by
  intro p x
  have hrefused : x.2 = some (.pipeline (.duplicateStage .sslLogging)) := by decide +kernel
  have hfree : .sslReader ∉ p.names := by decide +kernel
  refine ⟨hrefused, ?_⟩
  rcases refused_install_leaves (q := x.1) (Prod.ext rfl hrefused) with
    ⟨-, herror | ⟨-, hname⟩⟩ | ⟨h, -, -, ⟨-, htaken, -⟩ | ⟨hleft, -⟩⟩
  · cases herror
  · cases hname
  · exact absurd htaken hfree
  · exact ⟨_, hleft⟩

/-- The name of the observer is taken: the chain is refused, and yet it has a handshake stage now. -/
theorem handshake_left_behind :
    let p := rowOf [.sslReader]
    let x := install p (some (.inet "peer" 443)) stagedConfiguration false
    x.2 = some (.pipeline (.duplicateStage .sslReader)) ∧ p.names = [.sslReader] ∧
      x.1.names = [.ssl, .sslReader] ∧ phaseAfter x.1 [] = some .idle := by
  decide +kernel

end SecureGateway

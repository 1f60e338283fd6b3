import SecureGateway.Proofs.Connection.Passage

namespace SecureGateway

section

variable {σ ω : Type} {b : Behaviour σ ω} {now : Instant}

theorem Dispatch.step_channel (d : Dispatch σ ω) :
    (d.step b now).pipeline.channel = d.pipeline.channel := by
  unfold Dispatch.step
  split
  · rfl
  · rename_i hop rest _
    simp only
    split
    · exact Pipeline.arrive_channel _ _
    · unfold Dispatch.deliver
      split
      · rfl
      · split <;> rfl

theorem Dispatch.run_channel {limit : Nat} {d d' : Dispatch σ ω} (h : d.run b now limit = some d') :
    d'.pipeline.channel = d.pipeline.channel := by
  induction limit generalizing d with
  | zero =>
    unfold Dispatch.run at h
    split at h
    · rw [Option.some.inj h]
    · cases h
  | succ limit ih =>
    unfold Dispatch.run at h
    split at h
    · rw [Option.some.inj h]
    · exact (ih h).trans d.step_channel

theorem Pipeline.dispatch_channel {p q : Pipeline σ} {w w' : ω} {hop : Hop}
    (h : p.dispatch b now hop w = some (q, w')) : q.channel = p.channel := by
  obtain ⟨d, hrun, hd⟩ := Option.map_eq_some_iff.1 h
  obtain ⟨rfl, -⟩ := Prod.mk.inj hd
  exact Dispatch.run_channel hrun

end

/-- What a write or a read can come to. -/
def Outcome.Ordinary : Except ConnectError Outcome → Prop
  | .error _ | .ok .wrote | .ok (.received _) => True
  | .ok .opened | .ok .closed => False

namespace Connection

variable {η ξ ω : Type} {c : Connection η ξ ω} {a : Advance η ξ ω} {channel : Channel}

def id (c : Connection η ξ ω) : Nat := c.pipeline.channel.id

/-- The connection is open, and its operation goes on or has come to something ordinary. -/
structure Serves (channel : Channel) (a : Advance η ξ ω) : Prop where
  channel : a.1.pipeline.channel = channel
  stretch : a.1.job.stretch = .open
  ordinary : ∀ r, a.2 = some r → Outcome.Ordinary r

theorem Halts.ordinary {errand : Errand} {seen : List Inbound} {requested : Bool}
    (h : Halts errand seen requested a) (hopen : errand.stretch = .open) :
    ∀ r, a.2 = some r → Outcome.Ordinary r := by
  intro r hr
  cases h with
  | opened | unopened | awaits | unclosed => cases hopen
  | closed hclosing | drains hclosing => cases hclosing.symm.trans hopen
  | @gave _ _ _ _ r' => exact Option.some.inj hr ▸ (by cases r' <;> trivial)
  | wrote | refused | broke | exhausted => exact Option.some.inj hr ▸ trivial
  | asks | sends => cases hr

theorem Comes.ordinary {errand? : Option Errand} {stretch : Errand.Stretch} {seen : List Inbound}
    {requested : Bool} (h : Comes c errand? stretch seen requested a) (hopen : stretch = .open) :
    ∀ r, a.2 = some r → Outcome.Ordinary r := by
  cases h with
  | stays | dropped => exact nofun
  | halts hhalts => exact hhalts.ordinary hopen

variable [Recorder ω] {k : StageKit η ξ ω} {now : Instant}

theorem Conveys.channel_eq {c' : Connection η ξ ω} {writes : List Bytes}
    {l : List (Happening (Occupant η ξ) (Env ω))} (h : Conveys k now c writes l c') :
    c'.pipeline.channel = c.pipeline.channel := by
  induction h with
  | same hkeeps => exact hkeeps.channel
  | perform hperform =>
    rw [Pipeline.perform_eq] at hperform
    exact Pipeline.dispatch_channel hperform
  | trans _ _ ih₁ ih₂ => exact ih₂.trans ih₁

variable [Secured η]

/-- Whatever is done to an open connection short of closing it. -/
theorem move_serves {m : Move} (hjob : c.job.stretch = .open) (hm : m ≠ .close)
    (h : c.move k now m = some a) : Serves c.pipeline.channel a := by
  obtain ⟨rest, seen, requested, -, hleads, hcomes⟩ := move_moved h
  have hopen : c.stretch m = .open := stretch_of_open hjob fun _ => hm
  refine ⟨hleads.conveys.channel_eq, ?_, hcomes.ordinary hopen⟩
  have htold := hcomes.told
  rw [hopen] at htold
  exact htold.1

end Connection
end SecureGateway

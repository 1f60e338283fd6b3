import SecureGateway.Proofs.Connection.Conversation
import SecureGateway.Proofs.Pipeline.Deliveries

namespace SecureGateway

namespace Connection

variable {η ξ ω : Type}

structure Keeps (c c' : Connection η ξ ω) : Prop where
  stages : c'.pipeline.stages = c.pipeline.stages
  nextId : c'.pipeline.nextId = c.pipeline.nextId
  channel : c'.pipeline.channel = c.pipeline.channel
  env : c'.env = c.env

variable [Recorder ω]

/-- From one point of a connection to a later one: the data that was written, and what happened in
the pipeline. -/
inductive Conveys (k : StageKit η ξ ω) (now : Instant) : Connection η ξ ω → List Bytes →
    List (Happening (Occupant η ξ) (Env ω)) → Connection η ξ ω → Prop
  | same {c c' : Connection η ξ ω} : c.Keeps c' → Conveys k now c [] [] c'
  | perform {c c' : Connection η ξ ω} {sig : Signal} :
    c.pipeline.perform k.behaviour now sig c.env = some (c'.pipeline, c'.env) →
    Conveys k now c sig.written
      (c.pipeline.history k.behaviour now (c.pipeline.entry sig) c.env) c'
  | trans {c c₁ c' : Connection η ξ ω} {writes writes' : List Bytes}
    {l l' : List (Happening (Occupant η ξ) (Env ω))} :
    Conveys k now c writes l c₁ → Conveys k now c₁ writes' l' c' →
    Conveys k now c (writes ++ writes') (l ++ l') c'

variable {k : StageKit η ξ ω} {now : Instant} {c c' c₁ : Connection η ξ ω} {a : Advance η ξ ω}
  {writes : List Bytes} {l : List (Happening (Occupant η ξ) (Env ω))}

namespace Conveys

theorem of_kept (h : Conveys k now c₁ writes l c') (hkeeps : c.Keeps c₁) :
    Conveys k now c writes l c' :=
  trans (same hkeeps) h

theorem kept (h : Conveys k now c writes l c₁) (hkeeps : c₁.Keeps c') :
    Conveys k now c writes l c' := by
  have h' := h.trans (same hkeeps)
  rwa [List.append_nil, List.append_nil] at h'

theorem fireAll {sigs : List Inbound}
    (h : c.pipeline.fireAll k.behaviour now sigs c.env = some (c'.pipeline, c'.env)) :
    Conveys k now c [] (c.pipeline.fireHistory k.behaviour now sigs c.env) c' := by
  induction sigs generalizing c with
  | nil =>
    obtain ⟨hpipeline, henv⟩ := Prod.mk.inj (Option.some.inj h)
    exact same ⟨by rw [← hpipeline], by rw [← hpipeline], by rw [← hpipeline], henv.symm⟩
  | cons s sigs ih =>
    obtain ⟨⟨p, e⟩, hfire, hrest⟩ := Option.bind_eq_some_iff.1 h
    have hfirst : Conveys k now c (Signal.inbound s).written _ { c with pipeline := p, env := e } :=
      perform hfire
    have hothers := ih (c := { c with pipeline := p, env := e }) hrest
    rw [Pipeline.fireHistory, hfire]
    exact hfirst.trans hothers

end Conveys

omit [Recorder ω] in
theorem Alike.keeps (h : c.Alike c') : c.Keeps c' where
  stages := congrArg Pipeline.stages h.pipeline
  nextId := congrArg Pipeline.nextId h.pipeline
  channel := congrArg Pipeline.channel h.pipeline
  env := h.env

theorem submit_conveys {op : Outbound} (h : c.submit k now op = some c') :
    Conveys k now c (Signal.outbound op).written (c.submitHistory k now op) c' := by
  obtain ⟨⟨q, e⟩, hq, rfl⟩ := Option.map_eq_some_iff.1 h
  exact .perform hq

theorem accept_conveys {data : Bytes} (h : c.accept k now data = some c') :
    Conveys k now c [] (c.pipeline.fireHistory k.behaviour now (incoming data) c.env) c' := by
  rw [accept_eq] at h
  obtain ⟨⟨q, e⟩, hq, rfl⟩ := Option.map_eq_some_iff.1 h
  exact .fireAll hq

theorem Leads.conveys {held held' : Bytes} {d : Dealings η ξ ω}
    (h : Leads k now held c d held' c') : Conveys k now c d.writes d.history c' := by
  induction h with
  | done halike => exact .same halike.keeps
  | alike _ halike ih => exact ih.of_kept halike.keeps
  | forget _ ih | collect _ ih | look _ _ ih | note _ ih | take _ ih =>
    exact ih.of_kept ⟨rfl, rfl, rfl, rfl⟩
  | @fire _ _ c _ _ _ _ _ _ _ q e hall _ ih =>
    have h₁ : Conveys k now c [] _ { c with pipeline := q, env := e } := .fireAll hall
    exact h₁.trans ih
  | accept haccept _ ih => exact (accept_conveys haccept).trans ih
  | submit hsubmit _ ih => exact (submit_conveys hsubmit).trans ih
  | ask hsubmit halike =>
    obtain ⟨hstages, hnextId, hchannel, henv⟩ := halike.keeps
    exact (submit_conveys hsubmit).kept ⟨hstages, hnextId, hchannel, henv⟩

variable [Secured η]

theorem opened_conveys (h : c.opened k now = some a) :
    Conveys k now c [] (c.pipeline.fireHistory k.behaviour now [.registered, .active] c.env)
      a.1 := by
  obtain ⟨seen, requested, hleads, -⟩ := opened_runs h
  exact hleads.conveys

/-- Every move conveys the data that it has accepted, and nothing else is written. -/
theorem move_conveys {m : Move} (h : c.move k now m = some a) :
    Conveys k now c (c.accepted m) (c.moveHistory k now m) a.1 := by
  obtain ⟨rest, seen, requested, -, hleads, -⟩ := move_moved h
  exact hleads.conveys

end Connection
end SecureGateway

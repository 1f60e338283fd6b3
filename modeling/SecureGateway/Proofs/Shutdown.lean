import Mathlib.Data.List.Basic
import SecureGateway.Shutdown

namespace SecureGateway.Shutdown

variable {s s' : Shutdown} {e : Event} {i h : Nat} {w : Waiter}

inductive Reachable : Shutdown → Prop
  | start : Reachable start
  | step {s s' : Shutdown} {e : Event} : Reachable s → s.step e = some s' → Reachable s'

theorem Reachable.events (hs : Reachable s) (es : List Event) (hes : es.foldlM Shutdown.step s = some s') :
    Reachable s' := by
  induction es generalizing s with
  | nil => exact Option.some.inj hes ▸ hs
  | cons e es ih =>
    obtain ⟨r, hr, hes⟩ := Option.bind_eq_some_iff.1 hes
    exact ih (hs.step hr) hes

theorem Reachable.attempt (hs : Reachable s) (e : Event) : Reachable (s.attempt e) := by
  unfold Shutdown.attempt
  cases hstep : s.step e with
  | none => exact hs
  | some s' => exact hs.step hstep

theorem Reachable.settle (hs : Reachable s) : Reachable s.settle := by
  unfold Shutdown.settle
  exact List.foldlRecOn _ _ hs fun _ hr _ _ => hr.attempt _

theorem Reachable.calls (hs : Reachable s) :
    Reachable s.wait ∧ Reachable s.trigger ∧ Reachable s.abandonNewest :=
  ⟨((hs.attempt _).attempt _).settle, ((hs.attempt _).attempt _).settle, hs.attempt _⟩

/-- What each step does, and where it is possible. -/
inductive Leads (s : Shutdown) : Event → Shutdown → Prop
  | clone {h : Nat} (live : s.isLive h = true) :
    Leads s (.clone h) { s with handles := s.handles ++ [true] }
  | release {h : Nat} (live : s.isLive h = true) (unused : s.isBorrowed h = false) :
    Leads s (.release h) { s with handles := s.handles.set h false }
  | subscribe {h : Nat} (live : s.isLive h = true) :
    Leads s (.subscribe h) { s with waiters := s.waiters ++ [⟨h, .subscribed, false⟩] }
  | check {i h : Nat} {m : Bool} (waiter : s.waiters[i]? = some ⟨h, .subscribed, m⟩) :
    Leads s (.check i) (s.setWaiter i ⟨h, if s.triggered then .finished else .parked, m⟩)
  | receive {i h : Nat} {m : Bool} (waiter : s.waiters[i]? = some ⟨h, .parked, m⟩)
    (woken : m = true ∨ s.isClosed = true) :
    Leads s (.receive i) (s.setWaiter i ⟨h, .finished, false⟩)
  | swap {h : Nat} (live : s.isLive h = true) :
    Leads s (.swap h)
      { s with triggered := true, triggers := s.triggers ++ [⟨h, .swapped !s.triggered⟩] }
  | send {j h : Nat} (trigger : s.triggers[j]? = some ⟨h, .swapped true⟩) :
    Leads s (.send j) { s with
      messages := s.messages + 1
      waiters := s.waiters.map deliver
      triggers := s.triggers.set j ⟨h, .finished⟩ }
  | pass {j h : Nat} (trigger : s.triggers[j]? = some ⟨h, .swapped false⟩) :
    Leads s (.send j) { s with triggers := s.triggers.set j ⟨h, .finished⟩ }
  | abandon {i : Nat} (present : i < s.waiters.length) :
    Leads s (.abandon i) { s with waiters := s.waiters.eraseIdx i }

theorem leads_of_step (hstep : s.step e = some s') : s.Leads e s' := by
  cases e with
  | clone h | subscribe h | swap h | abandon i =>
    obtain ⟨hguard, heq⟩ := Option.ite_none_right_eq_some.1 hstep
    obtain rfl := Option.some.inj heq
    constructor
    exact hguard
  | release h =>
    obtain ⟨hguard, heq⟩ := Option.ite_none_right_eq_some.1 hstep
    obtain rfl := Option.some.inj heq
    obtain ⟨hlive, hunused⟩ := Bool.and_eq_true_iff.1 hguard
    exact .release hlive (Bool.not_eq_true' _ ▸ hunused)
  | check i =>
    simp only [step] at hstep
    split at hstep
    · obtain rfl := Option.some.inj hstep
      exact .check ‹_›
    · cases hstep
  | receive i =>
    simp only [step] at hstep
    split at hstep
    · obtain ⟨hwoken, heq⟩ := Option.ite_none_right_eq_some.1 hstep
      obtain rfl := Option.some.inj heq
      exact .receive ‹_› (Bool.or_eq_true_iff.1 hwoken)
    · cases hstep
  | send j =>
    simp only [step] at hstep
    split at hstep
    · obtain rfl := Option.some.inj hstep
      exact .send ‹_›
    · obtain rfl := Option.some.inj hstep
      exact .pass ‹_›
    · cases hstep

def Completed (s : Shutdown) : Prop := ∃ t ∈ s.triggers.head?, t.phase = .finished

/-- The flag, the triggers and the messages agree: the first trigger alone found the flag down, and sends
with its last step. -/
structure Orderly (s : Shutdown) : Prop where
  flag : s.triggered = true ↔ s.triggers ≠ []
  head : ∀ t ∈ s.triggers.head?, t.phase ≠ .swapped false
  tail : ∀ t ∈ s.triggers.tail, t.phase ≠ .swapped true
  sent : s.Completed ∧ s.messages = 1 ∨ ¬s.Completed ∧ s.messages = 0

theorem Completed.triggered (hdone : s.Completed) (ho : s.Orderly) : s.triggered = true := by
  obtain ⟨t, ht, -⟩ := hdone
  exact ho.flag.2 (List.ne_nil_of_mem (List.mem_of_mem_head? ht))

theorem Orderly.triggered_of_trigger {t : TriggerCall} (ho : s.Orderly) (ht : s.triggers[i]? = some t) :
    s.triggered = true :=
  ho.flag.2 (List.ne_nil_of_mem (List.mem_of_getElem? ht))

theorem Orderly.eq_head (ho : s.Orderly) (ht : s.triggers[i]? = some ⟨h, .swapped true⟩) :
    i = 0 ∧ s.triggers.head? = some ⟨h, .swapped true⟩ := by
  have htail := ho.tail
  cases htriggers : s.triggers with
  | nil => simp [htriggers] at ht
  | cons t ts =>
    rw [htriggers] at ht htail
    cases i with
    | zero => exact ⟨rfl, ht⟩
    | succ i => exact absurd rfl (htail _ (List.mem_of_getElem? ht))

theorem Orderly.swap (ho : s.Orderly) (h : Nat) : Orderly
    { s with triggered := true, triggers := s.triggers ++ [⟨h, .swapped !s.triggered⟩] } := by
  have hflag := ho.flag
  have hhead := ho.head
  have htail := ho.tail
  have hsent := ho.sent
  simp only [Completed] at hsent
  cases htriggers : s.triggers with
  | nil =>
    rw [htriggers] at hflag hsent
    have hdown : s.triggered = false := by simpa using hflag
    refine ⟨by simp, ?_, by simp, .inr ⟨?_, by simpa using hsent⟩⟩
    · simp [hdown]
    · simp [Completed]
  | cons t ts =>
    rw [htriggers] at hflag hhead htail hsent
    have hup : s.triggered = true := by simpa using hflag
    refine ⟨by simp, hhead, ?_, hsent⟩
    intro u hu
    rcases List.mem_append.1 hu with hu | hu
    · exact htail u hu
    · simp only [hup, List.mem_singleton] at hu
      simp [hu]

theorem Orderly.send (ho : s.Orderly) (ht : s.triggers[i]? = some ⟨h, .swapped true⟩)
    (waiters : List Waiter) : Orderly { s with
      messages := s.messages + 1, waiters, triggers := s.triggers.set i ⟨h, .finished⟩ } := by
  obtain ⟨rfl, hfirst⟩ := ho.eq_head ht
  have htail := ho.tail
  have hflag := ho.triggered_of_trigger ht
  have hsent := ho.sent
  simp only [Completed, hfirst] at hsent
  obtain ⟨t, ts, htriggers⟩ := List.exists_cons_of_ne_nil (ho.flag.1 hflag)
  rw [htriggers] at htail
  refine ⟨by simp [hflag, htriggers], by simp [htriggers], ?_, .inl ⟨?_, ?_⟩⟩
  · simpa [htriggers] using htail
  · simp [Completed, htriggers]
  · simpa using hsent

theorem Orderly.pass (ho : s.Orderly) (ht : s.triggers[i]? = some ⟨h, .swapped false⟩) :
    Orderly { s with triggers := s.triggers.set i ⟨h, .finished⟩ } := by
  have hflag := ho.triggered_of_trigger ht
  obtain ⟨t, ts, htriggers⟩ := List.exists_cons_of_ne_nil (ho.flag.1 hflag)
  have hhead := ho.head
  have htail := ho.tail
  have hsent := ho.sent
  simp only [Completed, htriggers] at hhead htail hsent ht ⊢
  cases i with
  | zero => exact absurd rfl (hhead _ ht)
  | succ i =>
    refine ⟨by simp [hflag], hhead, ?_, hsent⟩
    intro u hu
    rcases List.mem_or_eq_of_mem_set hu with hu | rfl
    · exact htail u hu
    · exact nofun

theorem Orderly.of_step (ho : s.Orderly) (hstep : s.step e = some s') : s'.Orderly := by
  cases leads_of_step hstep with
  | swap => exact ho.swap _
  | send ht => exact ho.send ht _
  | pass ht => exact ho.pass ht
  | _ => exact ⟨ho.flag, ho.head, ho.tail, ho.sent⟩

theorem Orderly.completed_iff (ho : s.Orderly) : s.Completed ↔ s.messages = 1 := by
  rcases ho.sent with ⟨hdone, hone⟩ | ⟨hnot, hzero⟩
  · exact iff_of_true hdone hone
  · exact iff_of_false hnot (by omega)

theorem Orderly.completed_of_step (ho : s.Orderly) (hdone : s.Completed) (hstep : s.step e = some s') :
    s'.Completed := by
  have hmono : s.messages ≤ s'.messages := by
    cases leads_of_step hstep with
    | send => exact Nat.le_succ _
    | _ => exact Nat.le_refl _
  have hone := ho.completed_iff.1 hdone
  refine ((ho.of_step hstep).sent.resolve_right ?_).1
  rintro ⟨-, hzero⟩
  omega

theorem Orderly.completed_of_eq (ho : s.Orderly) (ho' : s'.Orderly) (heq : s'.messages = s.messages)
    (hdone : s'.Completed) : s.Completed :=
  ho.completed_iff.2 (heq ▸ ho'.completed_iff.1 hdone)

/-- What is known about a wait in the state that it is in. -/
structure Attends (s : Shutdown) (w : Waiter) : Prop where
  live : waiting w = true → s.isLive w.handle = true
  finished : w.phase = .finished → s.triggered = true
  message : w.message = true → s.triggered = true
  parked : w.phase = .parked → s.Completed → w.message = true

theorem Attends.mono (ha : s.Attends w)
    (hlive : waiting w = true → s.isLive w.handle = true → s'.isLive w.handle = true)
    (hflag : s.triggered = true → s'.triggered = true) (hdone : s'.Completed → s.Completed) :
    s'.Attends w where
  live hw := hlive hw (ha.live hw)
  finished hw := hflag (ha.finished hw)
  message hw := hflag (ha.message hw)
  parked hw hs := ha.parked hw (hdone hs)

theorem attends_deliver (hlive : waiting w = true → s'.isLive w.handle = true)
    (hflag : s'.triggered = true) : s'.Attends (deliver w) := by
  unfold deliver
  split
  · exact ⟨fun _ => hlive ‹_›, fun _ => hflag, fun _ => hflag, fun _ _ => rfl⟩
  · rename_i hw
    refine ⟨fun hwaiting => absurd hwaiting hw, fun _ => hflag, fun _ => hflag, fun hparked => ?_⟩
    exact absurd (by rw [waiting, hparked]; rfl) hw

theorem ne_of_unused (hunused : s.isBorrowed h = false) (hw : w ∈ s.waiters)
    (hwaiting : waiting w = true) : w.handle ≠ h := by
  rintro rfl
  have hborrowed : s.isBorrowed w.handle = true := by
    rw [isBorrowed, Bool.or_eq_true_iff, List.any_eq_true]
    exact .inl ⟨w, hw, by simp [hwaiting]⟩
  cases hunused.symm.trans hborrowed

theorem isLive_iff : s.isLive h = true ↔ s.handles[h]? = some true := by
  rw [isLive, beq_iff_eq]

theorem Attends.not_closed (ha : s.Attends w) (hwaiting : waiting w = true) : s.isClosed = false := by
  have hmem := List.mem_of_getElem? (isLive_iff.1 (ha.live hwaiting))
  rw [isClosed, List.contains_iff_mem.2 hmem]
  rfl

/-- What holds between the parts of a state, whatever has happened. -/
structure Coherent (s : Shutdown) : Prop where
  order : s.Orderly
  waits : ∀ w ∈ s.waiters, s.Attends w

theorem Coherent.of_step (hs : s.Coherent) (hstep : s.step e = some s') : s'.Coherent := by
  have ho' := hs.order.of_step hstep
  refine ⟨ho', ?_⟩
  have hall := hs.waits
  -- every step concerns one waiter at most; the others attend as before
  cases leads_of_step hstep with
  | clone =>
    intro w hw
    refine (hall w hw).mono (fun _ hlive => ?_) id id
    have hget := isLive_iff.1 hlive
    exact isLive_iff.2 ((List.getElem?_append_left (List.getElem?_eq_some_iff.1 hget).1).trans hget)
  | release _ hunused =>
    intro w hw
    refine (hall w hw).mono (fun hwaiting hlive => ?_) id id
    have hne := ne_of_unused hunused hw hwaiting
    exact isLive_iff.2 ((List.getElem?_set_ne hne.symm).trans (isLive_iff.1 hlive))
  | subscribe hlive =>
    intro w hw
    rcases List.mem_append.1 hw with hw | hw
    · exact (hall w hw).mono (fun _ => id) id id
    · obtain rfl := List.mem_singleton.1 hw
      exact ⟨fun _ => hlive, nofun, nofun, nofun⟩
  | @check i h m hwaiter =>
    have hold := hall _ (List.mem_of_getElem? hwaiter)
    intro w hw
    rcases List.mem_or_eq_of_mem_set hw with hw | rfl
    · exact (hall w hw).mono (fun _ => id) id id
    · refine ⟨fun _ => hold.live rfl, fun hfinished => ?_, hold.message, fun hparked hdone => ?_⟩
      · by_contra hdown
        exact WaitPhase.noConfusion ((if_neg hdown).symm.trans hfinished)
      · -- Whoever parks has read the flag while it was down.
        have hup : s.triggered = true := Completed.triggered hdone hs.order
        exact WaitPhase.noConfusion ((if_pos hup).symm.trans hparked)
  | receive hwaiter hwoken =>
    have hold := hall _ (List.mem_of_getElem? hwaiter)
    have hmessage := hwoken.resolve_right (Bool.eq_false_iff.1 (hold.not_closed rfl))
    intro w hw
    rcases List.mem_or_eq_of_mem_set hw with hw | rfl
    · exact (hall w hw).mono (fun _ => id) id id
    · exact ⟨fun _ => hold.live rfl, fun _ => hold.message hmessage, nofun, nofun⟩
  | swap =>
    intro w hw
    exact (hall w hw).mono (fun _ => id) (fun _ => rfl) (hs.order.completed_of_eq ho' rfl)
  | send htrigger =>
    intro w hw
    obtain ⟨v, hv, rfl⟩ := List.mem_map.1 hw
    exact attends_deliver (hall v hv).live (hs.order.triggered_of_trigger htrigger)
  | pass htrigger =>
    intro w hw
    exact (hall w hw).mono (fun _ => id) id (hs.order.completed_of_eq ho' rfl)
  | abandon =>
    intro w hw
    exact (hall w (List.mem_of_mem_eraseIdx hw)).mono (fun _ => id) id id

theorem Reachable.coherent (hs : Reachable s) : s.Coherent := by
  induction hs with
  | start =>
    refine ⟨⟨by decide, by decide, by decide, .inr ⟨?_, rfl⟩⟩, nofun⟩
    rintro ⟨t, ht, -⟩
    cases ht
  | step _ hstep ih => exact ih.of_step hstep

def Event.turn? : Event → Option Nat
  | .check i => some i
  | .receive i => some i
  | _ => none

def Event.isSubscribe : Event → Bool
  | .subscribe _ => true
  | _ => false

/-- The wait can take a step, and every step that it can take ends it. -/
structure Resolves (s : Shutdown) (i : Nat) : Prop where
  moves : ∃ e s', e.turn? = some i ∧ s.step e = some s'
  ends : ∀ e s', e.turn? = some i → s.step e = some s' →
    ∃ w, s'.waiters[i]? = some w ∧ w.phase = .finished

theorem getElem?_setWaiter {v : Waiter} (hw : s.waiters[i]? = some w) :
    (s.setWaiter i v).waiters[i]? = some v :=
  List.getElem?_set_self (List.getElem?_eq_some_iff.1 hw).1

theorem Coherent.resolves (hs : s.Coherent) (hdone : s.Completed) (hw : s.waiters[i]? = some w)
    (hwaiting : waiting w = true) : s.Resolves i where
  moves := by
    obtain ⟨h, ph, m⟩ := w
    cases ph with
    | subscribed => exact ⟨.check i, _, rfl, by rw [step, hw]⟩
    | parked =>
      obtain rfl : m = true := (hs.waits _ (List.mem_of_getElem? hw)).parked rfl hdone
      exact ⟨.receive i, _, rfl, by rw [step, hw]; rfl⟩
    | finished => cases hwaiting
  ends := by
    intro e s' hturn hstep
    cases leads_of_step hstep with
    | check hwaiter =>
      obtain rfl := Option.some.inj hturn
      exact ⟨_, getElem?_setWaiter hwaiter, if_pos (hdone.triggered hs.order)⟩
    | receive hwaiter =>
      obtain rfl := Option.some.inj hturn
      exact ⟨_, getElem?_setWaiter hwaiter, rfl⟩
    | _ => cases hturn

theorem waiting_deliver (w : Waiter) : waiting (deliver w) = waiting w := by
  unfold deliver
  split <;> rfl

theorem receiverCount_setWaiter {v : Waiter} (hw : s.waiters[i]? = some w)
    (hwaiting : waiting w = true) (hv : v.phase = .finished) :
    (s.setWaiter i v).receiverCount + 1 = s.receiverCount := by
  obtain ⟨hi, rfl⟩ := List.getElem?_eq_some_iff.1 hw
  have hnot : waiting v = false := by rw [waiting, hv]; rfl
  have hpos : 0 < s.waiters.countP waiting := List.countP_pos_iff.2 ⟨_, List.getElem_mem hi, hwaiting⟩
  have hset := List.countP_set (p := waiting) (a := v) hi
  rw [if_pos hwaiting, hnot] at hset
  show (s.waiters.set i v).countP waiting + 1 = s.waiters.countP waiting
  simp only [Bool.false_eq_true, if_false] at hset
  omega

/-- After the first trigger each turn of a wait uses up one of the waits that go on. -/
theorem receiverCount_of_step (hs : s.Coherent) (hdone : s.Completed) (hstep : s.step e = some s') :
    s'.receiverCount + (if e.turn?.isSome then 1 else 0) ≤
      s.receiverCount + (if e.isSubscribe then 1 else 0) := by
  cases leads_of_step hstep with
  | subscribe => exact Nat.le_of_eq (List.countP_append.trans (congrArg _ rfl))
  | check hwaiter =>
    have hup : s.triggered = true := hdone.triggered hs.order
    rw [if_pos hup]
    exact Nat.le_of_eq (receiverCount_setWaiter hwaiter rfl rfl)
  | receive hwaiter => exact Nat.le_of_eq (receiverCount_setWaiter hwaiter rfl rfl)
  | send =>
    have hsame : (s.waiters.map deliver).countP waiting = s.waiters.countP waiting := by
      rw [List.countP_map]
      exact List.countP_congr fun w _ => by rw [Function.comp_apply, waiting_deliver]
    exact Nat.le_of_eq hsame
  | abandon => exact (List.eraseIdx_sublist _ _).countP_le
  | _ => exact Nat.le_refl _

theorem receiverCount_of_events {es : List Event} (hs : s.Coherent) (hdone : s.Completed)
    (hes : es.foldlM Shutdown.step s = some s') :
    s'.Completed ∧ s'.receiverCount + es.countP (fun e => e.turn?.isSome) ≤
      s.receiverCount + es.countP Event.isSubscribe := by
  induction es generalizing s with
  | nil =>
    obtain rfl := Option.some.inj hes
    exact ⟨hdone, Nat.le_refl _⟩
  | cons e es ih =>
    obtain ⟨r, hr, hes⟩ := Option.bind_eq_some_iff.1 hes
    obtain ⟨hdone', hrest⟩ := ih (hs.of_step hr) (hs.order.completed_of_step hdone hr) hes
    have hfirst := receiverCount_of_step hs hdone hr
    rw [List.countP_cons, List.countP_cons]
    exact ⟨hdone', by omega⟩

/-- Whatever the order of the steps, a wait has only returned if a trigger had raised the flag, and the
message goes out once at most. When the first trigger has returned, everyone parked has a message, the next
step of every wait that goes on is possible and ends it, and so it stays: as many turns as there are waits,
older and newer ones, end them all. -/
theorem waits_end_with_trigger (hs : Reachable s) :
    (∀ w ∈ s.waiters, w.phase = .finished → s.triggered = true ∧ s.triggers ≠ []) ∧
    s.messages ≤ 1 ∧
    (s.Completed →
      (∀ w ∈ s.waiters, w.phase = .parked → w.message = true) ∧
      (∀ i w, s.waiters[i]? = some w → waiting w = true → s.Resolves i) ∧
      ∀ (es : List Event) (s' : Shutdown), es.foldlM Shutdown.step s = some s' →
        s'.Completed ∧ s'.receiverCount + es.countP (fun e => e.turn?.isSome) ≤
          s.receiverCount + es.countP Event.isSubscribe) := by
  have hc := hs.coherent
  refine ⟨fun w hw hfinished => ?_, ?_, fun hdone => ⟨fun w hw hparked => ?_, fun i w hw hwaiting => ?_,
    fun es s' hes => receiverCount_of_events hc hdone hes⟩⟩
  · have hup := (hc.waits w hw).finished hfinished
    exact ⟨hup, hc.order.flag.1 hup⟩
  · rcases hc.order.sent with ⟨-, hone⟩ | ⟨-, hzero⟩ <;> omega
  · exact (hc.waits w hw).parked hparked hdone
  · exact hc.resolves hdone hw hwaiting

/-- Three waits on two handles, one from before the first of two triggers, one that reads the flag after
it was raised, and one that has just begun. The second trigger returned before the first had sent. -/
def crossed : Shutdown where
  handles := [true, true]
  triggered := true
  messages := 1
  waiters := [⟨0, .parked, true⟩, ⟨1, .finished, false⟩, ⟨0, .subscribed, true⟩, ⟨1, .subscribed, false⟩]
  triggers := [⟨1, .finished⟩, ⟨0, .finished⟩]

theorem reachable_crossed : Reachable crossed :=
  Reachable.start.events [.clone 0, .subscribe 0, .check 0, .subscribe 1, .swap 1, .subscribe 0,
    .check 1, .swap 0, .send 1, .send 0, .subscribe 1] rfl

theorem waits_end_with_trigger_of_crossed :
    crossed.triggered = true ∧ crossed.messages ≤ 1 ∧
      crossed.Resolves 0 ∧ crossed.Resolves 2 ∧ crossed.Resolves 3 ∧
      ∃ s', [Event.receive 0, .check 3, .check 2].foldlM Shutdown.step crossed = some s' ∧
        s'.receiverCount = 0 := by
  obtain ⟨hreturned, hsent, hrest⟩ := waits_end_with_trigger reachable_crossed
  obtain ⟨-, hresolves, hruns⟩ := hrest ⟨⟨1, .finished⟩, rfl, rfl⟩
  have hup := (hreturned ⟨1, .finished, false⟩ (by decide) rfl).1
  refine ⟨hup, hsent, hresolves 0 _ rfl rfl, hresolves 2 _ rfl rfl, hresolves 3 _ rfl rfl, ?_⟩
  obtain ⟨s', hs'⟩ : ∃ s', [Event.receive 0, .check 3, .check 2].foldlM Shutdown.step crossed =
    some s' := ⟨_, rfl⟩
  have hcount : s'.receiverCount + 3 ≤ 3 + 0 := (hruns _ s' hs').2
  exact ⟨s', hs', by omega⟩

end SecureGateway.Shutdown

namespace SecureGateway

inductive WaitPhase where
  | subscribed
  | parked
  | finished
  deriving DecidableEq, Repr

structure Waiter where
  handle : Nat
  phase : WaitPhase
  message : Bool
  deriving DecidableEq, Repr

/-- A trigger between its two steps, and after them. -/
inductive TriggerPhase where
  | swapped (first : Bool)
  | finished
  deriving DecidableEq, Repr

structure TriggerCall where
  handle : Nat
  phase : TriggerPhase
  deriving DecidableEq, Repr

/-- Handles on one flag and one channel, in single steps. A wait subscribes, then reads the flag,
then parks until a message comes; a trigger swaps the flag and, if it was the first, sends the
message to everyone subscribed at that moment. -/
structure Shutdown where
  /-- Whether each handle is still there. -/
  handles : List Bool
  triggered : Bool
  messages : Nat
  waiters : List Waiter
  triggers : List TriggerCall
  deriving DecidableEq, Repr

namespace Shutdown

inductive Event where
  | clone (handle : Nat)
  | release (handle : Nat)
  | subscribe (handle : Nat)
  | check (waiter : Nat)
  | receive (waiter : Nat)
  | swap (handle : Nat)
  | send (trigger : Nat)
  | abandon (waiter : Nat)
  deriving DecidableEq, Repr

def start : Shutdown := ⟨[true], false, 0, [], []⟩

def waiting (w : Waiter) : Bool := w.phase != .finished

def deliver (w : Waiter) : Waiter :=
  if waiting w then { w with message := true } else w

def setWaiter (s : Shutdown) (i : Nat) (w : Waiter) : Shutdown :=
  { s with waiters := s.waiters.set i w }

def isLive (s : Shutdown) (handle : Nat) : Bool := s.handles[handle]? == some true

def isBorrowed (s : Shutdown) (handle : Nat) : Bool :=
  s.waiters.any (fun w => waiting w && w.handle == handle) ||
    s.triggers.any fun t => t.phase != .finished && t.handle == handle

def isClosed (s : Shutdown) : Bool := !s.handles.contains true

/-- One step; nothing when the event is not possible in this state. -/
def step (s : Shutdown) : Event → Option Shutdown
  | .clone h => if s.isLive h then some { s with handles := s.handles ++ [true] } else none
  | .release h =>
    if s.isLive h && !s.isBorrowed h then some { s with handles := s.handles.set h false } else none
  | .subscribe h =>
    if s.isLive h then some { s with waiters := s.waiters ++ [⟨h, .subscribed, false⟩] } else none
  | .check i =>
    match s.waiters[i]? with
    | some ⟨h, .subscribed, m⟩ =>
      some (s.setWaiter i ⟨h, if s.triggered then .finished else .parked, m⟩)
    | _ => none
  | .receive i =>
    match s.waiters[i]? with
    | some ⟨h, .parked, m⟩ =>
      if m || s.isClosed then some (s.setWaiter i ⟨h, .finished, false⟩) else none
    | _ => none
  | .swap h =>
    if s.isLive h then
      some { s with triggered := true, triggers := s.triggers ++ [⟨h, .swapped !s.triggered⟩] }
    else none
  | .send j =>
    match s.triggers[j]? with
    | some ⟨h, .swapped true⟩ =>
      some { s with
        messages := s.messages + 1
        waiters := s.waiters.map deliver
        triggers := s.triggers.set j ⟨h, .finished⟩ }
    | some ⟨h, .swapped false⟩ => some { s with triggers := s.triggers.set j ⟨h, .finished⟩ }
    | _ => none
  | .abandon i =>
    if i < s.waiters.length then some { s with waiters := s.waiters.eraseIdx i } else none

def attempt (s : Shutdown) (e : Event) : Shutdown := (s.step e).getD s

def settle (s : Shutdown) : Shutdown :=
  (List.range s.waiters.length).foldl (fun s i => s.attempt (.receive i)) s

def wait (s : Shutdown) : Shutdown :=
  ((s.attempt (.subscribe 0)).attempt (.check s.waiters.length)).settle

def trigger (s : Shutdown) : Shutdown :=
  ((s.attempt (.swap 0)).attempt (.send s.triggers.length)).settle

def abandonNewest (s : Shutdown) : Shutdown :=
  s.attempt (.abandon (s.waiters.length - 1))

def receiverCount (s : Shutdown) : Nat := s.waiters.countP waiting

def finishedCount (s : Shutdown) : Nat := s.waiters.countP fun w => !waiting w

end Shutdown
end SecureGateway

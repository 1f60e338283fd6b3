namespace SecureGateway

/-- What woke a waiter: its turn in the queue, a broadcast, or the stored permit. -/
inductive WakeKind where
  | turn
  | broadcast
  | permit
  deriving DecidableEq, Repr

structure Notify where
  permit : Bool
  waiters : List Nat
  woken : List (Nat × WakeKind)
  deriving DecidableEq, Repr

namespace Notify

def start : Notify := ⟨false, [], []⟩

/-- Wakes the oldest waiter, or stores the permit when there is none. -/
def notifyOne (n : Notify) : Notify :=
  match n.waiters with
  | [] => { n with permit := true }
  | t :: rest => { n with waiters := rest, woken := n.woken ++ [(t, .turn)] }

def notifyAll (n : Notify) : Notify :=
  { n with waiters := [], woken := n.woken ++ n.waiters.map (·, .broadcast) }

/-- Takes the stored permit or joins the queue. -/
def register (t : Nat) (n : Notify) : Notify :=
  if n.permit then { n with permit := false, woken := n.woken ++ [(t, .permit)] }
  else { n with waiters := n.waiters ++ [t] }

def wakeKind? (t : Nat) (n : Notify) : Option WakeKind :=
  (n.woken.find? (·.1 == t)).map (·.2)

def isWoken (t : Nat) (n : Notify) : Bool := (n.wakeKind? t).isSome

def consume (t : Nat) (n : Notify) : Notify :=
  { n with woken := n.woken.filter (·.1 != t) }

/-- The waiter goes away. A turn that it has not used is passed on. -/
def withdraw (t : Nat) (n : Notify) : Notify :=
  let rest := { n.consume t with waiters := n.waiters.filter (· != t) }
  if n.wakeKind? t = some .turn then rest.notifyOne else rest

end Notify
end SecureGateway

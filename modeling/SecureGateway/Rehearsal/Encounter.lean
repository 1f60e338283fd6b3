import SecureGateway.Rehearsal.Pipe
import SecureGateway.Time.Span

namespace SecureGateway

/-- What a party does next: it moves, or it waits, perhaps for a moment. -/
inductive Turn (α : Type) where
  | moved (next : α)
  | waits (moment : Option Instant)
  deriving Repr

abbrev Play (α : Type) := Instant → α → Duplex → Turn (α × Duplex)

/-- The parties and the clock; the stream is as the near party sees it. -/
structure Encounter (α β : Type) where
  now : Instant
  near : α
  far : β
  stream : Duplex

/-- Moments are told by the millisecond, so a wait ends at the next full one. -/
def nextMillisecond (t : Instant) : Instant := (t + 999_999) / 1_000_000 * 1_000_000

def sooner : Option Instant → Option Instant → Option Instant
  | some a, some b => some (min a b)
  | a, none => a
  | none, b => b

structure Rest (α : Type) where
  party : α
  stream : Duplex
  moved : Bool
  until? : Option Instant

namespace Play

variable {α : Type}

def toRest (play : Play α) (now : Instant) : Nat → Rest α → Rest α
  | 0, r => r
  | limit + 1, r =>
    match play now r.party r.stream with
    | .moved (party, stream) => toRest play now limit ⟨party, stream, true, none⟩
    | .waits moment => { r with until? := moment }

def sleep : Play (Option Instant) := fun now wake d =>
  match wake with
  | none => .waits none
  | some t => if t ≤ now then .moved (none, d) else .waits (some t)

end Play

namespace Encounter

variable {α β γ : Type}

/-- More turns than a party takes between two waits, and more rounds than an encounter has. -/
def turnLimit : Nat := 1000000

/-- A wait that lasts longer than this has no end. -/
def patience : Span := .ofSeconds 36000

def flip (e : Encounter α β) : Encounter β α := ⟨e.now, e.far, e.near, e.stream.flip⟩

def withNear (c : γ) (e : Encounter α β) : Encounter γ β := ⟨e.now, c, e.far, e.stream⟩

def nearRest (play : Play α) (e : Encounter α β) : Encounter α β × Rest α :=
  let r := play.toRest e.now turnLimit ⟨e.near, e.stream, false, none⟩
  ({ e with near := r.party, stream := r.stream }, r)

/-- Rounds until the parties are over, looked at when it is the far party's turn. The flag is false
if neither party can go on before `last`. -/
def rounds (near : Play α) (far : Play β) (isOver : α → β → Bool) (last : Instant) :
    Nat → Encounter α β → Encounter α β × Bool
  | 0, e => (e, false)
  | limit + 1, e =>
    let (e, r) := e.nearRest near
    if isOver e.near e.far then (e, true)
    else
      let (e, s) := e.flip.nearRest far
      let e := e.flip
      if r.moved || s.moved then rounds near far isOver last limit e
      else
        match sooner r.until? s.until? with
        | none => (e, false)
        | some t =>
          if last < t then (e, false)
          else rounds near far isOver last limit { e with now := nextMillisecond t }

def run (near : Play α) (far : Play β) (isOver : α → β → Bool) (e : Encounter α β) :
    Encounter α β × Bool :=
  e.rounds near far isOver (e.now.after patience) turnLimit

end Encounter
end SecureGateway

import SecureGateway.Toml.Complaint
import SecureGateway.Toml.Extent

namespace SecureGateway.Toml

structure Misreading where
  complaint : Complaint
  /-- No other way to read the text is tried. -/
  settled : Bool
  rest : List Char
  deriving DecidableEq, Repr

abbrev Reader := StateT (List Char) (Except Misreading)

namespace Reader

variable {α β : Type}

def failAt (rest : List Char) (c : Complaint) : Except Misreading α := .error ⟨c, false, rest⟩

def missing : Reader α := fun cs => failAt cs {}

def refuse (b : Breach) : Reader α := fun cs => failAt cs { breach := some b }

def adjust (f : Misreading → Misreading) (r : Reader α) : Reader α := fun cs => (r cs).mapError f

/-- If this fails, so does everything around it. -/
def settled (r : Reader α) : Reader α := r.adjust fun m => { m with settled := true }

def within (p : Part) (r : Reader α) : Reader α :=
  r.adjust fun m => { m with complaint := m.complaint.within p }

def wanting (ws : List Wanted) (r : Reader α) : Reader α :=
  r.adjust fun m => { m with complaint := m.complaint.wanting ws }

/-- The second way is tried where the first fails and has not settled the matter. -/
def either (a b : Reader α) : Reader α := fun cs =>
  match a cs with
  | .error m => if m.settled then .error m else b cs
  | read => read

def optional (r : Reader α) : Reader (Option α) := either (some <$> r) (pure none)

/-- Judges what was read; a complaint stands in front of all of it. -/
def judged (f : α → Except Complaint β) (r : Reader α) : Reader β := fun cs => do
  let (a, rest) ← r cs
  match f a with
  | .ok b => .ok (b, rest)
  | .error c => failAt cs c

def placed (r : Reader α) : Reader (Extent × α) := fun cs => do
  let (a, rest) ← r cs
  return ((.between cs rest, a), rest)

def char (p : Char → Bool) : Reader Char := fun cs =>
  match cs with
  | c :: rest => if p c then .ok (c, rest) else failAt cs {}
  | [] => failAt cs {}

def word (w : String) : Reader Unit := fun cs =>
  if w.toList.isPrefixOf cs then .ok ((), cs.drop w.length) else failAt cs {}

def startsWith (w : String) : Reader Bool := fun cs => .ok (w.toList.isPrefixOf cs, cs)

def run (p : Char → Bool) : Reader (List Char) := fun cs => .ok (cs.takeWhile p, cs.dropWhile p)

def someRun (p : Char → Bool) : Reader (List Char) := fun cs =>
  if cs.head?.any p then run p cs else failAt cs {}

def exactly (n : Nat) (p : Char → Bool) : Reader (List Char) := fun cs =>
  let taken := cs.take n
  if taken.length = n ∧ taken.all p then .ok (taken, cs.drop n) else failAt cs {}

/-- As many more readings as there are, each behind a mark; a mark with no reading behind it is left
alone. Each takes a mark, so the length of the text is enough `fuel`. -/
def following (mark : Char) (r : Reader α) : Nat → Reader (List α)
  | 0 => pure []
  | fuel + 1 => fun cs =>
    match cs with
    | c :: rest =>
      if c = mark then
        match r rest with
        | .ok (a, rest) => (following mark r fuel rest).map fun (as, rest) => (a :: as, rest)
        | .error m => if m.settled then .error m else .ok ([], cs)
      else .ok ([], cs)
    | [] => .ok ([], [])

def separated (mark : Char) (r : Reader α) : Reader (List α) := do
  let first ← r
  let more ← following mark r (← get).length
  return first :: more

end Reader

def isSpace (c : Char) : Bool := c == ' ' || c == '\t'

/-- What may stand in a comment: everything but control characters, tab excepted. -/
def isPlain (c : Char) : Bool := c == '\t' || (' ' ≤ c && c != '\x7f')

def dropNewline? : List Char → Option (List Char)
  | '\n' :: r => some r
  | '\r' :: '\n' :: r => some r
  | _ => none

def spaces : Reader Unit := do let _ ← Reader.run isSpace

def skipComment : List Char → List Char
  | '#' :: r => r.dropWhile isPlain
  | cs => cs

def lineEnd : Reader Unit := fun cs =>
  match skipComment (cs.dropWhile isSpace) with
  | [] => .ok ((), [])
  | rest =>
    match dropNewline? rest with
    | some next => .ok ((), next)
    | none => Reader.failAt rest {}

/-- Blanks, newlines and whole comments, as they may stand between the items of an array. -/
def gapsFrom (inComment : Bool) : Reader Unit
  | [] => if inComment then Reader.failAt [] {} else .ok ((), [])
  | '\n' :: r => gapsFrom false r
  | '\r' :: '\n' :: r => gapsFrom false r
  | '\r' :: r => Reader.failAt r {}
  | c :: r =>
    if inComment then if isPlain c then gapsFrom true r else Reader.failAt (c :: r) {}
    else if isSpace c then gapsFrom false r
    else if c == '#' then gapsFrom true r
    else .ok ((), c :: r)

def gaps : Reader Unit := gapsFrom false

end SecureGateway.Toml

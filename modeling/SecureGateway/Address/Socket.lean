import SecureGateway.Text.Numeral

namespace SecureGateway

inductive IpAddress where
  | v4 (octets : List Nat)
  | v6 (groups : List Nat)
  deriving DecidableEq, Repr

structure SocketAddress where
  ip : IpAddress
  port : Nat
  deriving DecidableEq, Repr

namespace Address

open Text

abbrev Reader (α : Type) := List Char → Option (α × List Char)

def readChar (c : Char) : Reader Unit
  | d :: r => if c = d then some ((), r) else none
  | [] => none

def digitOf? (base : Nat) (c : Char) : Option Nat :=
  (hexDigitValue? c).filter (· < base)

/-- A run of digits in `base`: at most `width` of them where that is given, with a value below
`bound`, and with leading zeros only where `zeros` allows them. -/
def readNumber (base bound : Nat) (width : Option Nat) (zeros : Bool) : Reader Nat := fun cs =>
  let digits := cs.takeWhile fun c => (digitOf? base c).isSome
  let value := digits.foldl (fun n c => n * base + (digitOf? base c).getD 0) 0
  if digits.isEmpty then none
  else if width.any (· < digits.length) then none
  else if !zeros && digits.head? = some '0' && 1 < digits.length then none
  else if bound ≤ value then none
  else some (value, cs.dropWhile fun c => (digitOf? base c).isSome)

def readOctet : Reader Nat := readNumber 10 256 (some 3) false

def readV4 : Reader (List Nat) := fun cs => do
  let (a, cs) ← readOctet cs
  let (_, cs) ← readChar '.' cs
  let (b, cs) ← readOctet cs
  let (_, cs) ← readChar '.' cs
  let (c, cs) ← readOctet cs
  let (_, cs) ← readChar '.' cs
  let (d, cs) ← readOctet cs
  some ([a, b, c, d], cs)

def readAfter (first : Bool) (p : Reader α) : Reader α := fun cs =>
  if first then p cs else do
    let (_, cs) ← readChar ':' cs
    p cs

/-- Up to `limit` groups; a dotted quad counts as the last two and ends them. -/
def readGroups (first : Bool) : Nat → List Char → List Nat × Bool × List Char
  | 0, cs => ([], false, cs)
  | limit + 1, cs =>
    match if 0 < limit then readAfter first readV4 cs else none with
    | some ([a, b, c, d], rest) => ([a * 256 + b, c * 256 + d], true, rest)
    | _ =>
      match readAfter first (readNumber 16 65536 (some 4) true) cs with
      | some (g, rest) =>
        let (gs, quad, rest) := readGroups false limit rest
        (g :: gs, quad, rest)
      | none => ([], false, cs)

def readV6 : Reader (List Nat) := fun cs =>
  let (front, quad, rest) := readGroups true 8 cs
  if front.length = 8 then some (front, rest)
  else if quad then none
  else do
    let (_, rest) ← readChar ':' rest
    let (_, rest) ← readChar ':' rest
    let (back, _, rest) := readGroups true (7 - front.length) rest
    some (front ++ List.replicate (8 - front.length - back.length) 0 ++ back, rest)

def readPort : Reader Nat := readNumber 10 65536 none true

def readScope (cs : List Char) : List Char :=
  match readChar '%' cs with
  | some (_, rest) =>
    match readNumber 10 UInt32.size none true rest with
    | some (_, rest) => rest
    | none => cs
  | none => cs

def readSocketV4 : Reader SocketAddress := fun cs => do
  let (octets, cs) ← readV4 cs
  let (_, cs) ← readChar ':' cs
  let (port, cs) ← readPort cs
  some (⟨.v4 octets, port⟩, cs)

def readSocketV6 : Reader SocketAddress := fun cs => do
  let (_, cs) ← readChar '[' cs
  let (groups, cs) ← readV6 cs
  let (_, cs) ← readChar ']' (readScope cs)
  let (_, cs) ← readChar ':' cs
  let (port, cs) ← readPort cs
  some (⟨.v6 groups, port⟩, cs)

def whole (p : Reader α) (cs : List Char) : Option α :=
  match p cs with
  | some (a, []) => some a
  | _ => none

end Address

open Address Text

namespace IpAddress

def parse? (s : String) : Option IpAddress :=
  let quad := if s.toList.length ≤ 15 then (whole readV4 s.toList).map v4 else none
  quad <|> (whole readV6 s.toList).map v6

def quadText (octets : List Nat) : String :=
  String.intercalate "." (octets.map toString)

def groupsText (groups : List Nat) : String :=
  String.intercalate ":" (groups.map hexText)

def zeroRuns : List Nat → List Nat
  | [] => []
  | g :: r =>
    let rest := zeroRuns r
    (if g = 0 then rest.headD 0 + 1 else 0) :: rest

def longestZeroRun (groups : List Nat) : Nat × Nat :=
  let runs := zeroRuns groups
  let best := runs.foldl max 0
  (runs.idxOf best, best)

/-- Addresses that embed a dotted quad show it; otherwise the first longest run of two or more zero
groups is left out. -/
def v6Text (groups : List Nat) : String :=
  match groups with
  | [0, 0, 0, 0, 0, 0xffff, a, b] =>
    "::ffff:" ++ quadText [a / 256, a % 256, b / 256, b % 256]
  | _ =>
    let (start, length) := longestZeroRun groups
    if 1 < length then
      groupsText (groups.take start) ++ "::" ++ groupsText (groups.drop (start + length))
    else groupsText groups

def text : IpAddress → String
  | v4 octets => quadText octets
  | v6 groups => v6Text groups

end IpAddress

namespace SocketAddress

def parse? (s : String) : Option SocketAddress :=
  whole readSocketV4 s.toList <|> whole readSocketV6 s.toList

def syntaxMessage : String := "invalid socket address syntax"

def text (a : SocketAddress) : String :=
  match a.ip with
  | .v4 octets => IpAddress.quadText octets ++ ":" ++ toString a.port
  | .v6 groups => "[" ++ IpAddress.v6Text groups ++ "]:" ++ toString a.port

end SocketAddress
end SecureGateway

import SecureGateway.Decimal.Binary64
import SecureGateway.Toml.Complaint
import SecureGateway.Toml.Extent

namespace SecureGateway.Toml

/-- A float as the format has it: signed, with infinities and a not-a-number. -/
inductive FloatValue where
  | finite (negative : Bool) (magnitude : Decimal.Binary64)
  | infinite (negative : Bool)
  | nan
  deriving Repr

namespace FloatValue

def text : FloatValue → String
  | finite negative x =>
    let digits := x.shortest.positional
    (if negative then "-" else "") ++ (if digits.contains '.' then digits else digits ++ ".0")
  | infinite negative => if negative then "-inf" else "inf"
  | nan => "NaN"

end FloatValue

/-- A value without parts. Of a moment in time only that it is one is kept. -/
inductive Scalar where
  | string (s : String)
  | integer (n : Int)
  | float (f : FloatValue)
  | boolean (b : Bool)
  | datetime
  deriving Repr

/-- A key and where it was first written. -/
structure Key where
  name : String
  extent : Option Extent := none
  deriving DecidableEq, Repr

def isBareKeyChar (c : Char) : Bool := c.isAlphanum || c == '_' || c == '-'

def escaped (c : Char) : List Char :=
  if c == '\x08' then ['\\', 'b']
  else if c == '\t' then ['\\', 't']
  else if c == '\n' then ['\\', 'n']
  else if c == '\x0c' then ['\\', 'f']
  else if c == '\r' then ['\\', 'r']
  else if c == '"' then ['\\', '"']
  else if c == '\\' then ['\\', '\\']
  else if c < ' ' || c == '\x7f' then
    ['\\', 'u', '0', '0'] ++ (Nat.toDigits 16 (c.toNat / 16) ++ Nat.toDigits 16 (c.toNat % 16)).map
      Char.toUpper
  else [c]

/-- The simplest of the ways to write a key: bare, in double quotes without escapes, in single
quotes, or with escapes. -/
def Key.written (k : Key) : String :=
  let cs := k.name.toList
  let hasControl := cs.any fun c => (c < ' ' && c != '\t') || c == '\x7f'
  if !cs.isEmpty && cs.all isBareKeyChar then k.name
  else if !hasControl && !cs.contains '"' && !cs.contains '\\' then "\"" ++ k.name ++ "\""
  else if !hasControl && !cs.contains '\'' then "'" ++ k.name ++ "'"
  else "\"" ++ String.ofList (cs.flatMap escaped) ++ "\""

/-- How a table came to be. An implicit one was only named on the way to another; a dotted one is
named by dotted keys; an inline one stands in braces. One that was named only has no extent. -/
structure TableStyle where
  inline : Bool
  implicit : Bool
  dotted : Bool
  extent : Option Extent := none
  deriving DecidableEq, Repr

namespace TableStyle

def header : TableStyle := { inline := false, implicit := false, dotted := false }

def braces : TableStyle := { inline := true, implicit := false, dotted := false }

def passing (inline dotted : Bool) : TableStyle := { inline, implicit := true, dotted }

end TableStyle

inductive Value where
  | scalar (extent : Option Extent) (s : Scalar)
  | array (extent : Option Extent) (items : List Value)
  | table (style : TableStyle) (entries : List (Key × Value))
  /-- The tables under a repeated header. -/
  | tables (items : List (Option Extent × List (Key × Value)))
  deriving Repr, Inhabited

abbrev Entries := List (Key × Value)

namespace Value

def of (s : Scalar) : Value := scalar none s

/-- Repeated tables reach from the first to the last. -/
def extent : Value → Option Extent
  | scalar e _ => e
  | array e _ => e
  | table style _ => style.extent
  | tables items => do
    let (first, _) ← items.head?
    let (last, _) ← items.getLast?
    return ⟨(← first).start, (← last).stop⟩

def kind : Value → String
  | scalar _ (.string _) => "string"
  | scalar _ (.integer _) => "integer"
  | scalar _ (.float _) => "float"
  | scalar _ (.boolean _) => "boolean"
  | scalar _ .datetime => "datetime"
  | array _ _ => "array"
  | table style _ => if style.inline then "inline table" else "table"
  | tables _ => "array of tables"

end Value

namespace Entries

def get? (es : Entries) (name : String) : Option Value := (es.find? (·.1.name == name)).map (·.2)

def replace (es : Entries) (name : String) (v : Value) : Entries :=
  es.map fun e => if e.1.name == name then (e.1, v) else e

def remove (es : Entries) (name : String) : Entries := es.filter (·.1.name != name)

/-- Walks down a path, making up the tables that are missing, and changes the last one; `walked` is
the way so far. A table that was written out is closed to dotted keys, and a value in braces to
everything outside. -/
def modifyAt (inline dotted : Bool) (f : TableStyle → Entries → Except Breach Entries)
    (walked : List String) : List Key → TableStyle → Entries → Except Breach Entries
  | [], style, es => f style es
  | key :: path, _, es =>
    let walked := walked ++ [key.name]
    match get? es key.name with
    | none =>
      let style := TableStyle.passing inline dotted
      (modifyAt inline dotted f walked path style []).map fun inner =>
        es ++ [(key, .table style inner)]
    | some (.table style inner) =>
      if style.inline && !inline then .error (.notTable walked "inline table")
      else if dotted && !style.implicit then .error (.duplicateKey key.name none)
      else (modifyAt inline dotted f walked path style inner).map fun inner =>
        replace es key.name (.table style inner)
    | some (.tables items) =>
      let (extent, last) := items.getLastD (none, [])
      (modifyAt inline dotted f walked path .header last).map fun last =>
        replace es key.name (.tables (items.dropLast ++ [(extent, last)]))
    | some v => .error (.notTable walked v.kind)

/-- Adds `path.key = v`. Dotted keys go into dotted tables only, and a key is used once; `table` is
named when it is used again. -/
def assign (inline : Bool) (table : Option (List String)) (path : List Key) (key : Key) (v : Value)
    (es : Entries) : Except Breach Entries :=
  let style : TableStyle := if inline then .braces else .header
  modifyAt inline (!inline || !path.isEmpty) (fun style es =>
    if style.dotted == path.isEmpty then .error (.duplicateKey key.name none)
    else if (get? es key.name).isSome then .error (.duplicateKey key.name table)
    else .ok (es ++ [(key, v)])) [] path style es

end Entries
end SecureGateway.Toml

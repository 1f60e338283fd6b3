import SecureGateway.Command.Refusal

namespace SecureGateway

inductive Command where
  | probe (target : Option String)
  | serve
  deriving DecidableEq, Repr

structure Invocation where
  config : String
  logLevel : Option String
  command : Command
  deriving DecidableEq, Repr

/-- What has been read of one level: the values of its options in their order, and the option that
was named last with what follows it, until that is taken in. -/
structure OptionReading where
  level : CommandLevel
  found : List (String × String) := []
  pending : Option (ValueOption × Option String) := none
  deriving DecidableEq, Repr

namespace OptionReading

def awaitsValue (r : OptionReading) : Bool := r.pending.any (·.2.isNone)

/-- Takes in a value. A second one removes the first, and an empty one is kept even where it is
refused. -/
def takeIn (o : ValueOption) (value : String) (r : OptionReading) : Option Refusal × OptionReading :=
  if (r.found.lookup o.name).isSome then
    (some (.repeated o r.level), { r with found := r.found.filter (·.1 != o.name) })
  else
    (if o.needsText && value.isEmpty then some (.missingValue o) else none,
      { r with found := r.found ++ [(o.name, value)] })

def resolve (r : OptionReading) : Option Refusal × OptionReading :=
  let s := { r with pending := none }
  match r.pending with
  | none => (none, s)
  | some (o, none) => (some (.missingValue o), s)
  | some (o, some value) => s.takeIn o value

def require : Option Refusal × OptionReading → Except Refusal OptionReading
  | (none, r) => .ok r
  | (some refusal, _) => .error refusal

/-- What is pending comes before anything new. -/
def settled (r : OptionReading) : Except Refusal OptionReading := require r.resolve

/-- The options given so far; a pending one that is refused does not count. -/
def given (r : OptionReading) : List String := r.resolve.2.found.map (·.1)

def startOption (o : ValueOption) (value : Option String) (r : OptionReading) :
    Except Refusal OptionReading := do
  let r ← r.settled
  match value with
  | some v => require (r.takeIn o v)
  | none => return { r with pending := some (o, none) }

def help (r : OptionReading) : Except Refusal α := do
  let r ← r.settled
  throw (.help r.level)

/-- An argument that begins with two dashes: a name, and perhaps a value behind `=`. -/
def long (cs : List Char) (rest : List String) (r : OptionReading) : Except Refusal OptionReading :=
  let name := String.ofList (cs.takeWhile (· != '='))
  let value := match cs.dropWhile (· != '=') with
    | [] => none
    | _ :: v => some (String.ofList v)
  match r.level.options.find? (·.name == name) with
  | some o => r.startOption o value
  | none =>
    if name == helpName then
      match value with
      | none => r.help
      | some v => throw (.valueForHelp v r.level (r.found.map (·.1) ++ [helpName]))
    else throw (.unknownOption name r.level r.given rest)

/-- An argument that begins with one dash: a short name, and perhaps a value right behind it. -/
def short (c : Char) (cs : List Char) (r : OptionReading) : Except Refusal OptionReading :=
  let value := match cs with
    | [] => none
    | '=' :: v => some (String.ofList v)
    | v => some (String.ofList v)
  match r.level.options.find? (·.short == some c) with
  | some o => r.startOption o value
  | none => if c == 'h' then r.help else throw (.unexpected ("-" ++ String.ofList [c]) r.level)

def option? (a : String) (rest : List String) (r : OptionReading) :
    Option (Except Refusal OptionReading) :=
  match a.toList with
  | '-' :: '-' :: cs => some (r.long cs rest)
  | '-' :: c :: cs => some (r.short c cs)
  | _ => none

def stray (a : String) (separated : Bool) (r : OptionReading) : Refusal :=
  if r.level = .program then
    if separated && (CommandLevel.ofName? a).isSome then .needlessSeparator a
    else .unknownCommand a .program
  else .unexpected a r.level

end OptionReading

namespace Command

def helpOn : CommandLevel → List String → Refusal
  | level, [] => .help level
  | level, a :: rest =>
    match (if level = .program then CommandLevel.ofName? a else none) with
    | some next => helpOn next rest
    | none => .noSuchCommand a level

def separator : String := "--"

/-- Reads one level up to its end or up to a command, which comes back with what follows it. -/
def readLevel (separated : Bool) (r : OptionReading) :
    List String → Except Refusal (OptionReading × Option (CommandLevel × List String))
  | [] => return (r, none)
  | a :: rest => do
    if separated then throw (r.stray a true)
    match (if r.level = .program && !r.awaitsValue then CommandLevel.ofName? a else none) with
    | some next => return (r, some (next, rest))
    | none =>
      if a == separator then readLevel true r rest
      else
        match r.option? a rest with
        | some read => readLevel false (← read) rest
        | none =>
          match r.pending with
          | some (o, none) => readLevel false { r with pending := some (o, some a) } rest
          | _ => throw (r.stray a false)

def readOptions (level : CommandLevel) (arguments : List String) :
    Except Refusal (List (String × String)) := do
  let (r, _) ← readLevel false { level } arguments
  return (← r.settled).found

def ofLevel (level : CommandLevel) (arguments : List String) : Except Refusal Command := do
  match level with
  | .probe => return .probe ((← readOptions level arguments).lookup ValueOption.target.name)
  | .serve =>
    let _ ← readOptions level arguments
    return .serve
  | .program | .help => throw (helpOn .program arguments)

end Command

namespace Invocation

open Command

/-- A command is carried out last, but its own arguments are judged before the last option that
stands before it. -/
def parse (arguments : List String) : Except Refusal Invocation := do
  let (r, next) ← readLevel false { level := .program } arguments
  match next with
  | none =>
    let r ← r.settled
    throw (if r.found.isEmpty then .noArguments else .noCommand)
  | some (level, rest) =>
    let command ← Command.ofLevel level rest
    let r ← r.settled
    return ⟨(r.found.lookup ValueOption.config.name).getD defaultConfig,
      r.found.lookup ValueOption.logLevel.name, command⟩

end Invocation
end SecureGateway

import SecureGateway.Text.Similarity
import SecureGateway.Text.Terminal

namespace SecureGateway

/-- The program itself, and its commands. -/
inductive CommandLevel where
  | program
  | probe
  | serve
  | help
  deriving DecidableEq, Repr

structure ValueOption where
  name : String
  short : Option Char
  /-- Whether an empty value counts as missing. -/
  needsText : Bool
  placeholder : String
  deriving DecidableEq, Repr

def programName : String := "tlsgate"

def defaultConfig : String := "tlsgate.toml"

def helpName : String := "help"

namespace ValueOption

def config : ValueOption := ⟨"config", some 'c', true, "CONFIG"⟩
def logLevel : ValueOption := ⟨"log-level", none, false, "LOG_LEVEL"⟩
def target : ValueOption := ⟨"target", none, false, "TARGET"⟩

def usage (o : ValueOption) : String := "--" ++ o.name ++ " <" ++ o.placeholder ++ ">"

end ValueOption

namespace CommandLevel

def commands : List CommandLevel := [probe, serve, help]

def name : CommandLevel → String
  | program => programName
  | probe => "probe"
  | serve => "serve"
  | help => "help"

def ofName? (s : String) : Option CommandLevel := commands.find? fun c => c.name == s

def options : CommandLevel → List ValueOption
  | program => [.config, .logLevel]
  | probe => [.target]
  | serve | help => []

def optionNames (l : CommandLevel) : List String :=
  l.options.map (·.name) ++ (if l = help then [] else [helpName])

def path : CommandLevel → String
  | program => programName
  | l => programName ++ " " ++ l.name

def about : CommandLevel → String
  | program => "TLS handshake probe and echo server"
  | probe => "Handshake with each configured target and print a JSON report"
  | serve => "Run a TLS echo server until interrupted"
  | help => "Print this message or the help of the given subcommand(s)"

def usage (l : CommandLevel) : String :=
  "Usage: " ++ l.path ++ match l with
    | program => " [OPTIONS] <COMMAND>"
    | probe => " [OPTIONS]"
    | serve => ""
    | help => " [COMMAND]..."

def optionUsage (l : CommandLevel) (name : String) : String :=
  ((l.options.find? (·.name == name)).map (·.usage)).getD ("--" ++ name)

def usageWith (l : CommandLevel) (names : List String) : String :=
  if names.isEmpty then l.usage
  else
    "Usage: " ++ l.path ++ String.join (names.map fun n => " " ++ l.optionUsage n) ++
      if l = program then " <COMMAND>" else ""

end CommandLevel

/-- Why a command line is not carried out, with the command that was being read. -/
inductive Refusal where
  | help (level : CommandLevel)
  | noArguments
  | noCommand
  | unknownCommand (name : String) (level : CommandLevel)
  | noSuchCommand (name : String) (level : CommandLevel)
  | unexpected (argument : String) (level : CommandLevel)
  | unknownOption (name : String) (level : CommandLevel) (given rest : List String)
  /-- A command behind the mark that ends the options. -/
  | needlessSeparator (command : String)
  | missingValue (o : ValueOption)
  | repeated (o : ValueOption) (level : CommandLevel)
  | valueForHelp (value : String) (level : CommandLevel) (given : List String)
  deriving DecidableEq, Repr

/-- What may have been meant by an option that is none. -/
inductive OptionTip where
  | similar (name : String)
  /-- An option of a command that stands further behind. -/
  | ofCommand (name : String) (command : CommandLevel)
  deriving DecidableEq, Repr

namespace OptionTip

/-- The command that stands first among some arguments and has a similar option. -/
def inCommands (name : String) (rest : List String) : Option OptionTip :=
  let tips := CommandLevel.commands.filterMap fun c =>
    match (Text.resembling name c.optionNames).getLast? with
    | some option => if rest.contains c.name then some (rest.idxOf c.name, option, c) else none
    | none => none
  let first := (tips.map (·.1)).min?
  (tips.find? fun t => first == some t.1).map fun (_, option, c) => ofCommand option c

def find? (name : String) (level : CommandLevel) (rest : List String) : Option OptionTip :=
  match (Text.resembling name level.optionNames).getLast? with
  | some option => some (similar option)
  | none => if level = .program then inCommands name rest else none

def text : OptionTip → String
  | similar name => "a similar argument exists: '--" ++ name ++ "'"
  | ofCommand name c => "'" ++ c.name ++ " --" ++ name ++ "' exists"

def completed (given : List String) : Option OptionTip → List String
  | some (similar name) => if given.contains name then given else given ++ [name]
  | _ => given

end OptionTip

namespace Refusal

def helpText (level : CommandLevel) : String :=
  let rows (title : String) (entries : List (String × String)) : List String :=
    let width := (entries.map (·.1.length)).foldl max 0
    title :: entries.map fun (left, right) =>
      "  " ++ left ++ String.ofList (List.replicate (width - left.length + 2) ' ') ++ right
  let helpRow := ("-h, --help", "Print help")
  let lines := [level.about, "", level.usage, ""] ++ match level with
    | .program =>
      rows "Commands:" (CommandLevel.commands.map fun c => (c.name, c.about)) ++ [""] ++
      rows "Options:" [("-c, --config <CONFIG>", "[default: " ++ defaultConfig ++ "]"),
        ("    --log-level <LOG_LEVEL>", "Overrides observability.log_level"), helpRow]
    | .probe =>
      rows "Options:" [
        ("    --target <TARGET>", "Probe this \x60host:port\x60 instead of the configured targets"),
        helpRow]
    | .serve => rows "Options:" [helpRow]
    | .help => rows "Arguments:" [("[COMMAND]...", "Print help for the subcommand(s)")]
  String.join (lines.map (· ++ "\n"))

def complaint (message : String) (parts : List String) : String :=
  String.intercalate "\n\n" (("error: " ++ message) :: parts) ++ "\n"

def pointer (level : CommandLevel) : List String :=
  if level = .help then [] else ["For more information, try '--help'."]

def tip (text : String) : String := "  tip: " ++ text

def quoted (s : String) : String := "'" ++ s ++ "'"

def commandTips : List String → List String
  | [] => []
  | [c] => [tip ("a similar subcommand exists: " ++ quoted c)]
  | cs => [tip ("some similar subcommands exist: " ++ String.intercalate ", " (cs.map quoted))]

def unexpectedText (argument : String) : String :=
  "unexpected argument " ++ quoted (Text.Terminal.strip argument) ++ " found"

def unknownText (name : String) : String :=
  "unrecognized subcommand " ++ quoted (Text.Terminal.strip name)

def text : Refusal → String
  | help level => helpText level
  | noArguments => helpText .program
  | noCommand =>
    complaint ("'" ++ programName ++ "' requires a subcommand but one was not provided\n" ++
      "  [subcommands: probe, serve, help]") (CommandLevel.program.usage :: pointer .program)
  | unknownCommand name level =>
    complaint (unknownText name)
      (commandTips (Text.resembling name (CommandLevel.commands.map (·.name))) ++
        level.usage :: pointer level)
  | noSuchCommand name level => complaint (unknownText name) (level.usage :: pointer level)
  | unexpected a level => complaint (unexpectedText a) (level.usage :: pointer level)
  | unknownOption name level given rest =>
    let found := OptionTip.find? name level rest
    complaint (unexpectedText ("--" ++ name)) (found.toList.map (fun t => tip t.text) ++
      level.usageWith (OptionTip.completed given found) :: pointer level)
  | needlessSeparator c =>
    complaint (unexpectedText c) (
      tip ("subcommand " ++ quoted c ++ " exists; to use it, remove the '--' before it") ::
      CommandLevel.program.usage :: pointer .program)
  | missingValue o =>
    complaint ("a value is required for " ++ quoted o.usage ++ " but none was supplied")
      (pointer .program)
  | repeated o level =>
    complaint ("the argument " ++ quoted o.usage ++ " cannot be used multiple times")
      (level.usage :: pointer level)
  | valueForHelp value level given =>
    complaint ("unexpected value " ++ quoted (Text.Terminal.strip value) ++
      " for '--help' found; no more were expected") (level.usageWith given :: pointer level)

def isHelp : Refusal → Bool
  | help _ => true
  | _ => false

end Refusal
end SecureGateway

namespace SecureGateway.Toml

inductive Part where
  | key
  | tableHeader
  | array
  | inlineTable
  | string
  | basicString
  | longBasicString
  | literalString
  | longLiteralString
  | escape
  | shortCode
  | longCode
  | integer
  | hexadecimal
  | octal
  | binary
  | float
  | dateTime
  | time
  | timeOffset
  deriving DecidableEq, Repr

def Part.text : Part → String
  | key => "key"
  | tableHeader => "table header"
  | array => "array"
  | inlineTable => "inline table"
  | string => "string"
  | basicString => "basic string"
  | longBasicString => "multiline basic string"
  | literalString => "literal string"
  | longLiteralString => "multiline literal string"
  | escape => "escape sequence"
  | shortCode => "unicode 4-digit hex code"
  | longCode => "unicode 8-digit hex code"
  | integer => "integer"
  | hexadecimal => "hexadecimal integer"
  | octal => "octal integer"
  | binary => "binary integer"
  | float => "floating-point number"
  | dateTime => "date-time"
  | time => "time"
  | timeOffset => "time offset"

inductive Wanted where
  | mark (text : String)
  | newline
  | digit
  | leadingDigit
  deriving DecidableEq, Repr

def backquoted (s : String) : String := "\x60" ++ s ++ "\x60"

def Wanted.text : Wanted → String
  | mark t => backquoted t
  | newline => "newline"
  | digit => "digit"
  | leadingDigit => "leading digit"

/-- A rule that a text breaks although it can be read. -/
inductive Breach where
  /-- In the table with the given path, if that is told. -/
  | duplicateKey (key : String) (table : Option (List String))
  /-- A path leads through a value of another kind. -/
  | notTable (path : List String) (kind : String)
  | outOfRange
  | tooDeep
  | tooLarge
  | tooSmall
  deriving DecidableEq, Repr

namespace Breach

def pathText (path : List String) : String := String.intercalate "." path

def message : Breach → String
  | duplicateKey key none => "duplicate key " ++ backquoted key
  | duplicateKey key (some []) => "duplicate key " ++ backquoted key ++ " in document root"
  | duplicateKey key (some path) =>
    "duplicate key " ++ backquoted key ++ " in table " ++ backquoted (pathText path)
  | notTable path kind =>
    "dotted key " ++ backquoted (pathText path) ++ " attempted to extend non-table type (" ++
      kind ++ ")"
  | outOfRange => "value is out of range"
  | tooDeep => "recursion limit exceeded"
  | tooLarge => "number too large to fit in target type"
  | tooSmall => "number too small to fit in target type"

end Breach

structure Complaint where
  part : Option Part := none
  wanted : List Wanted := []
  breach : Option Breach := none
  deriving DecidableEq, Repr

namespace Complaint

def within (p : Part) (c : Complaint) : Complaint := { c with part := c.part <|> some p }

def wanting (ws : List Wanted) (c : Complaint) : Complaint := { c with wanted := c.wanted ++ ws }

def message (c : Complaint) : String :=
  let wanted := if c.wanted.isEmpty then none
    else some ("expected " ++ String.intercalate ", " (c.wanted.map Wanted.text))
  String.intercalate "\n"
    ([c.part.map fun p => "invalid " ++ p.text, wanted, c.breach.map Breach.message].filterMap id)

end Complaint
end SecureGateway.Toml

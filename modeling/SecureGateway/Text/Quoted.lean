import SecureGateway.Text.Combining
import SecureGateway.Text.Numeral
import SecureGateway.Text.Unprintable

namespace SecureGateway.Text

/-- How a character is written between double quotes: the usual short escapes, a hexadecimal
escape for what combines or has no printed form, and the character itself otherwise. -/
def escapeChar (c : Char) : List Char :=
  if c = '\x00' then ['\\', '0']
  else if c = '\t' then ['\\', 't']
  else if c = '\r' then ['\\', 'r']
  else if c = '\n' then ['\\', 'n']
  else if c = '"' then ['\\', '"']
  else if c = '\\' then ['\\', '\\']
  else if isCombining c || !isPrintable c then
    ['\\', 'u', '\x7b'] ++ hexDigits c.toNat ++ ['\x7d']
  else [c]

def quote (s : String) : String :=
  String.ofList ('"' :: s.toList.flatMap escapeChar ++ ['"'])

def optionText (f : α → String) : Option α → String
  | none => "None"
  | some a => "Some(" ++ f a ++ ")"

def listText (f : α → String) (xs : List α) : String :=
  "[" ++ String.intercalate ", " (xs.map f) ++ "]"

/-- `Name \x7b field: value, .. \x7d`, the text of a record; without fields just the name. -/
def recordText (name : String) (fields : List (String × String)) : String :=
  if fields.isEmpty then name
  else name ++ " \x7b " ++ String.intercalate ", " (fields.map fun f => f.1 ++ ": " ++ f.2) ++ " \x7d"

/-- Like `recordText`, for a record that does not show all its fields. -/
def openRecordText (name : String) (fields : List (String × String)) : String :=
  name ++ " \x7b " ++ String.intercalate ", " (fields.map (fun f => f.1 ++ ": " ++ f.2) ++ [".."]) ++
    " \x7d"

def boolText : Bool → String
  | true => "true"
  | false => "false"

end SecureGateway.Text

import SecureGateway.Config.Validation
import SecureGateway.SystemError
import SecureGateway.Toml.Document

namespace SecureGateway

/-- A value that does not fit its setting: what is wrong with it, the keys that lead to it, and
where it stands. -/
structure Misfit where
  message : String
  keys : List String := []
  extent : Option Toml.Extent := none
  deriving DecidableEq, Repr

namespace Misfit

def placed (extent : Option Toml.Extent) (m : Misfit) : Misfit :=
  { m with extent := m.extent <|> extent }

/-- Puts a key in front of those that lead to the value; where nothing else has an extent, the key
has. -/
def under (key : Toml.Key) (m : Misfit) : Misfit :=
  { m.placed key.extent with keys := key.name :: m.keys }

end Misfit

/-- Why a configuration was refused. What is said about a text comes with the text. -/
inductive ConfigError where
  | unreadable (error : SystemError)
  | notUtf8
  | syntaxError (text : String) (error : Toml.SyntaxError)
  | shape (text : String) (misfit : Misfit)
  | validation (errors : List ValidationError)
  | tls (error : TlsError)
  deriving DecidableEq, Repr

namespace ConfigError

def parseText (text : String) (m : Misfit) : String :=
  "Parse(" ++ Text.recordText "TomlError" [
    ("message", Text.quote m.message),
    ("raw", Text.optionText Text.quote (some text)),
    ("keys", Text.listText Text.quote m.keys),
    ("span", Text.optionText (Toml.Extent.text text.utf8ByteSize) m.extent)] ++ ")"

def debugText : ConfigError → String
  | unreadable e => "Io(" ++ e.debugText ++ ")"
  | notUtf8 => "Io(" ++ Text.recordText "Error" [("kind", "InvalidData"),
      ("message", Text.quote "stream did not contain valid UTF-8")] ++ ")"
  | syntaxError text e => parseText text { message := e.complaint.message, extent := e.extent }
  | shape text m => parseText text m
  | validation errors => "Validation(" ++ Text.listText ValidationError.debugText errors ++ ")"
  | tls e => "Tls(" ++ e.debugText ++ ")"

def validationMessage (errors : List ValidationError) : String :=
  "Validation failed: " ++ String.intercalate ", " (errors.map ValidationError.text)

end ConfigError
end SecureGateway

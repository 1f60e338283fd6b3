import SecureGateway.Text.Quoted

namespace SecureGateway

/-- A refusal by the operating system: its number, the name of its kind, and a description. -/
structure SystemError where
  code : Nat
  kind : String
  description : String
  deriving DecidableEq, Repr

namespace SystemError

def notFound : SystemError := ⟨2, "NotFound", "No such file or directory"⟩

def permissionDenied : SystemError := ⟨13, "PermissionDenied", "Permission denied"⟩

def notADirectory : SystemError := ⟨20, "NotADirectory", "Not a directory"⟩

def isADirectory : SystemError := ⟨21, "IsADirectory", "Is a directory"⟩

def nameTooLong : SystemError := ⟨36, "InvalidFilename", "File name too long"⟩

def networkUnreachable : SystemError := ⟨101, "NetworkUnreachable", "Network is unreachable"⟩

def text (e : SystemError) : String :=
  e.description ++ " (os error " ++ toString e.code ++ ")"

def debugText (e : SystemError) : String :=
  Text.recordText "Os" [("code", toString e.code), ("kind", e.kind),
    ("message", Text.quote e.description)]

end SystemError
end SecureGateway

import SecureGateway.Text.Base64
import SecureGateway.Text.Quoted
import SecureGateway.Text.Utf8

namespace SecureGateway

inductive PemError where
  | illegalStart (line : Bytes)
  | missingEnd (label : Bytes)
  | badContent (error : Base64Error)
  deriving DecidableEq, Repr

structure PemSection where
  label : String
  content : Bytes
  deriving DecidableEq, Repr

namespace Pem

def beginMark : Bytes := .ofText "-----BEGIN "

def dashes : Bytes := .ofText "-----"

def endLine (label : Bytes) : Bytes := .ofText "-----END " ++ label ++ dashes

def isBreak (b : UInt8) : Bool := b == 10 || b == 13

def lines : Bytes → List Bytes
  | [] => []
  | b :: r =>
    if isBreak b then [b] :: lines r
    else
      match lines r with
      | [] => [[b]]
      | l :: ls => (b :: l) :: ls

/-- The label of a BEGIN line, which ends in exactly five dashes, blanks and breaks aside. -/
def labelOfStart? (line : Bytes) : Option Bytes :=
  let back := line.reverse
  let ending := back.takeWhile fun b => b == 45 || isBreak b || b == 32
  if (ending.filter (· == 45)).length = 5 then
    let dashed := (ending.reverse.dropWhile (· != 45)).length
    some ((line.take (line.length - dashed)).drop beginMark.length)
  else none

abbrev Open := Option (Bytes × Bytes)

/-- A BEGIN line inside a section renames it and leaves its body as it is. -/
def reopen (label : Bytes) : Open → Open
  | none => some (label, [])
  | some (_, body) => some (label, body)

/-- Reads the sections of the given labels up to the first fault. Sections of other labels are
skipped without a look at their content. -/
def sectionsOfLines (wanted : List String) : Open → List Bytes → List PemSection × Option PemError
  | none, [] => ([], none)
  | some (label, _), [] => ([], some (.missingEnd label))
  | state, line :: rest =>
    if beginMark.isPrefixOf line then
      match labelOfStart? line with
      | some label => sectionsOfLines wanted (reopen label state) rest
      | none => ([], some (.illegalStart line))
    else
      match state with
      | none => sectionsOfLines wanted none rest
      | some (label, body) =>
        if (endLine label).isPrefixOf line then
          let name := Bytes.lossyText label
          if wanted.contains name then
            match Base64.decode body with
            | .error e => ([], some (.badContent e))
            | .ok content =>
              let (more, fault) := sectionsOfLines wanted none rest
              (⟨name, content⟩ :: more, fault)
          else sectionsOfLines wanted none rest
        else sectionsOfLines wanted (some (label, body ++ line)) rest

def knownLabels : List String :=
  ["CERTIFICATE", "PUBLIC KEY", "RSA PRIVATE KEY", "PRIVATE KEY", "EC PRIVATE KEY", "X509 CRL",
    "CERTIFICATE REQUEST", "ECHCONFIG"]

def sections (pem : Bytes) : List PemSection × Option PemError :=
  sectionsOfLines knownLabels none (lines pem)

/-- The content of every certificate section; a fault anywhere spoils all. -/
def certificates (pem : Bytes) : Except PemError (List Bytes) :=
  match sections pem with
  | (_, some e) => .error e
  | (found, none) => .ok ((found.filter (·.label == "CERTIFICATE")).map (·.content))

def isPrivateKey (s : PemSection) : Bool :=
  ["RSA PRIVATE KEY", "PRIVATE KEY", "EC PRIVATE KEY"].contains s.label

/-- The first private key; a fault counts only when it comes before one. -/
def privateKey (pem : Bytes) : Except PemError (Option PemSection) :=
  match sections pem with
  | (found, fault) =>
    match found.find? isPrivateKey, fault with
    | some key, _ => .ok (some key)
    | none, some e => .error e
    | none, none => .ok none

end Pem

namespace PemError

def message : PemError → String
  | illegalStart line => "illegal section start: " ++ Text.quote (Bytes.lossyText line)
  | missingEnd label => "section end " ++ Text.quote (Bytes.lossyText label) ++ " missing"
  | badContent e => e.text

end PemError
end SecureGateway

import SecureGateway.Text.Quoted

namespace SecureGateway

inductive JsonTree where
  | null
  | number (n : Nat)
  | text (s : String)
  | list (items : List JsonTree)
  | record (fields : List (String × JsonTree))

namespace JsonTree

/-- Controls are escaped, and so are quotes and backslashes; everything else stands for itself. -/
def escape (c : Char) : List Char :=
  match c with
  | '"' => ['\\', '"']
  | '\\' => ['\\', '\\']
  | '\x08' => ['\\', 'b']
  | '\x0c' => ['\\', 'f']
  | '\n' => ['\\', 'n']
  | '\r' => ['\\', 'r']
  | '\t' => ['\\', 't']
  | c =>
    if c.toNat < 32 then
      ['\\', 'u', '0', '0', Text.hexDigit (c.toNat / 16), Text.hexDigit (c.toNat % 16)]
    else [c]

def quoted (s : String) : String := "\"" ++ String.ofList (s.toList.flatMap escape) ++ "\""

def newline (depth : Nat) : String := "\n" ++ String.ofList (List.replicate (2 * depth) ' ')

def block (left right : String) (depth : Nat) (elements : List String) : String :=
  if elements.isEmpty then left ++ right
  else
    left ++ newline (depth + 1) ++
      String.intercalate ("," ++ newline (depth + 1)) elements ++ newline depth ++ right

mutual

def layout (depth : Nat) : JsonTree → String
  | null => "null"
  | number n => toString n
  | text s => quoted s
  | list items => block "[" "]" depth (layoutItems (depth + 1) items)
  | record fields => block "\x7b" "\x7d" depth (layoutFields (depth + 1) fields)

def layoutItems (depth : Nat) : List JsonTree → List String
  | [] => []
  | t :: r => layout depth t :: layoutItems depth r

def layoutFields (depth : Nat) : List (String × JsonTree) → List String
  | [] => []
  | (k, t) :: r => (quoted k ++ ": " ++ layout depth t) :: layoutFields depth r

end

def ofOption {α : Type} (f : α → JsonTree) : Option α → JsonTree
  | none => null
  | some a => f a

end JsonTree
end SecureGateway

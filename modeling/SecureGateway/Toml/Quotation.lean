import SecureGateway.Text.Numeral
import SecureGateway.Toml.Reader

namespace SecureGateway.Toml

open Text

def isScalarValue (n : Nat) : Bool := n < 0xd800 || (0xdfff < n && n < 0x110000)

def valueOf (base : Nat) (digits : List Char) : Nat :=
  (foldDigits? base hexDigitValue? 0 digits).getD 0

def hexEscape (part : Part) (size : Nat) : Reader Char :=
  Reader.settled <| .within part <| .judged (fun digits =>
      let n := valueOf 16 digits
      if isScalarValue n then .ok (Char.ofNat n) else .error { breach := some .outOfRange })
    (.exactly size fun c => (hexDigitValue? c).isSome)

def escapeMarks : List Wanted :=
  ["b", "f", "n", "r", "t", "u", "U", "\\", "\""].map .mark

/-- What stands behind a backslash. A bad character counts as taken if it is a single byte. -/
def escape : Reader Char := fun cs =>
  match cs with
  | 'b' :: r => .ok ('\x08', r)
  | 't' :: r => .ok ('\t', r)
  | 'n' :: r => .ok ('\n', r)
  | 'f' :: r => .ok ('\x0c', r)
  | 'r' :: r => .ok ('\r', r)
  | '"' :: r => .ok ('"', r)
  | '\\' :: r => .ok ('\\', r)
  | 'u' :: r => hexEscape .shortCode 4 r
  | 'U' :: r => hexEscape .longCode 8 r
  | c :: r => .error ⟨{ part := some .escape, wanted := escapeMarks }, true,
      if c.utf8Size = 1 then r else cs⟩
  | [] => Reader.failAt [] {}

def unclosed {α : Type} (part : Part) (rest : List Char) : Except Misreading α :=
  .error ⟨{ part := some part }, true, rest⟩

def cons (c : Char) (r : Except Misreading (List Char × List Char)) :
    Except Misreading (List Char × List Char) :=
  r.map fun (s, rest) => (c :: s, rest)

/-- The rest of a string in double quotes; an escape takes a character at least, so the length of
the text is enough `fuel`. -/
def basicBody : Nat → Reader (List Char)
  | 0 => Reader.missing
  | fuel + 1 => fun cs =>
    match cs with
    | '"' :: r => .ok ([], r)
    | ['\\'] => unclosed .basicString cs
    | '\\' :: r => do
      let (c, r) ← escape r
      cons c (basicBody fuel r)
    | c :: r => if isPlain c then cons c (basicBody fuel r) else unclosed .basicString cs
    | [] => unclosed .basicString cs

/-- Whether a backslash in front of these characters joins this line with the next. -/
def joinsLines (cs : List Char) : Bool := (dropNewline? (cs.dropWhile isSpace)).isSome

def startsContent (quote : Char) : List Char → Bool
  | [] => false
  | ['\\'] => quote != '"'
  | '\r' :: '\n' :: _ => true
  | c :: _ => c == '\n' || (isPlain c && c != quote)

/-- Fails where an escape behind a quote inside the string does. -/
def escapeAhead : List Char → Except Misreading Unit
  | '\\' :: r =>
    if joinsLines r then .ok () else
    ((escape r).map fun _ => ()).mapError fun m => { m with rest := '\\' :: r }
  | _ => .ok ()

/-- The rest of a string in three double quotes; `joining` after a backslash at a line's end. Up to
two quotes may stand right before the three that close it, and elsewhere in front of other content.
Each step takes a character. -/
def longBasicBody : Nat → Bool → Reader (List Char)
  | 0, _ => Reader.missing
  | fuel + 1, joining => fun cs =>
    match cs with
    | '\n' :: r =>
      if joining then longBasicBody fuel true r else cons '\n' (longBasicBody fuel false r)
    | '\r' :: '\n' :: r =>
      if joining then longBasicBody fuel true r else cons '\n' (longBasicBody fuel false r)
    | '"' :: '"' :: '"' :: '"' :: '"' :: r => .ok (['"', '"'], r)
    | '"' :: '"' :: '"' :: '"' :: r => .ok (['"'], r)
    | '"' :: '"' :: '"' :: r => .ok ([], r)
    | '"' :: r =>
      let inner := r.dropWhile (· == '"')
      if startsContent '"' inner then do
        escapeAhead inner
        cons '"' (longBasicBody fuel false r)
      else unclosed .longBasicString cs
    | ['\\'] => unclosed .longBasicString cs
    | '\\' :: r =>
      if joinsLines r then longBasicBody fuel true r
      else do
        let (c, r) ← escape r
        cons c (longBasicBody fuel false r)
    | c :: r =>
      if joining && isSpace c then longBasicBody fuel true r
      else if isPlain c then cons c (longBasicBody fuel false r)
      else unclosed .longBasicString cs
    | [] => unclosed .longBasicString cs

def literalBody : Reader (List Char)
  | [] => unclosed .literalString []
  | '\'' :: r => .ok ([], r)
  | c :: r => if isPlain c then cons c (literalBody r) else unclosed .literalString (c :: r)

def longLiteralBody : Reader (List Char)
  | [] => unclosed .longLiteralString []
  | '\n' :: r => cons '\n' (longLiteralBody r)
  | '\r' :: '\n' :: r => cons '\n' (longLiteralBody r)
  | '\'' :: '\'' :: '\'' :: '\'' :: '\'' :: r => .ok (['\'', '\''], r)
  | '\'' :: '\'' :: '\'' :: '\'' :: r => .ok (['\''], r)
  | '\'' :: '\'' :: '\'' :: r => .ok ([], r)
  | '\'' :: r =>
    if startsContent '\'' (r.dropWhile (· == '\'')) then cons '\'' (longLiteralBody r)
    else unclosed .longLiteralString ('\'' :: r)
  | c :: r => if isPlain c then cons c (longLiteralBody r) else unclosed .longLiteralString (c :: r)

def measured (body : Nat → Reader (List Char)) : Reader (List Char) := fun cs =>
  body (cs.length + 1) cs

/-- A newline right after the opening quotes does not count. -/
def dropFirstNewline (cs : List Char) : List Char := (dropNewline? cs).getD cs

def shortString : Reader String := fun cs =>
  let body := match cs with
    | '"' :: r => measured basicBody r
    | '\'' :: r => literalBody r
    | _ => Reader.failAt cs {}
  body.map fun (s, rest) => (String.ofList s, rest)

def quotedString : Reader String := fun cs =>
  let packed (body : Except Misreading (List Char × List Char)) :=
    body.map fun (s, rest) => (String.ofList s, rest)
  match cs with
  | '"' :: '"' :: '"' :: r => packed (measured (longBasicBody · false) (dropFirstNewline r))
  | '\'' :: '\'' :: '\'' :: r => packed (longLiteralBody (dropFirstNewline r))
  | _ => shortString cs

end SecureGateway.Toml

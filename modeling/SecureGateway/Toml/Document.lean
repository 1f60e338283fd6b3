import SecureGateway.Toml.Moment

namespace SecureGateway.Toml

def depthLimit : Nat := 80

def keyPart : Reader Key := do
  spaces
  let quoted := (← Reader.startsWith "\"") || (← Reader.startsWith "'")
  let (extent, name) ← Reader.placed <|
    if quoted then shortString else String.ofList <$> Reader.someRun isBareKeyChar
  spaces
  return ⟨name, some extent⟩

def keyPath : Reader (List Key) :=
  .judged (fun path =>
      if path.length < depthLimit then .ok path else .error { breach := some .tooDeep })
    (.within .key (.separated '.' keyPart))

def equalsSign : Reader Unit := .wanting [.mark ".", .mark "="] (symbol '=')

/-- The items of an array. Where one cannot be read, its end is looked for. -/
def arrayItems (element : Reader Value) : Reader (List Value) := do
  symbol '['
  Reader.settled do
    if ← Reader.startsWith "]" then
      symbol ']'
      return []
    let item : Reader Value := do gaps; let v ← element; gaps; return v
    let items := (← Reader.optional (.separated ',' item)).getD []
    if !items.isEmpty then
      let _ ← Reader.optional (symbol ',')
    gaps
    Reader.within .array (.wanting [.mark "]"] (symbol ']'))
    return items

def keyedValue (element : Reader Value) : Reader (List Key × Value) := do
  let path ← keyPath
  Reader.settled do
    equalsSign
    spaces
    let v ← element
    spaces
    return (path, v)

def lastKey (path : List Key) : Key := path.getLastD ⟨"", none⟩

def Entries.ofPairs (pairs : List (List Key × Value)) : Except Breach Entries :=
  pairs.foldlM (fun es (path, v) => es.assign true none path.dropLast (lastKey path) v) []

def blamed {α : Type} (r : Except Breach α) : Except Complaint α :=
  r.mapError fun b => { breach := some b }

def inlineEntries (element : Reader Value) : Reader Entries := do
  symbol '\x7b'
  Reader.settled do
    let es ← Reader.judged (fun pairs => blamed (Entries.ofPairs pairs)) do
      let pairs ← Reader.optional (.separated ',' (keyedValue element))
      spaces
      return pairs.getD []
    Reader.within .inlineTable (.wanting [.mark "\x7d"] (symbol '\x7d'))
    return es

/-- A bare word where a string was perhaps meant. -/
def bareWord (r : Reader Scalar) : Reader Scalar :=
  .within .string (.wanting [.mark "\"", .mark "'"] r)

def scalar : Reader Scalar := fun cs =>
  let read : Reader Scalar := match cs with
    | [] => .missing
    | '"' :: _ => .string <$> quotedString
    | '\'' :: _ => .string <$> quotedString
    | '_' :: _ => .wanting [.leadingDigit] (.integer <$> integer)
    | '.' :: _ => .wanting [.leadingDigit] (.float <$> float)
    | 't' :: _ => bareWord (do Reader.settled (.word "true"); return .boolean true)
    | 'f' :: _ => bareWord (do Reader.settled (.word "false"); return .boolean false)
    | 'i' :: _ => bareWord (do infinity; return .float (.infinite false))
    | 'n' :: _ => bareWord (do notANumber; return .float .nan)
    | c :: _ =>
      if isDecimal c || c == '+' || c == '-' then
        .either (do moment; return .datetime) (.either (.float <$> float) (.integer <$> integer))
      else bareWord .missing
  read cs

/-- A value; `element` reads those inside it, unless they would be nested too deeply. -/
def valueAround (element : Option (Reader Value)) : Reader Value := fun cs =>
  let nested (read : Reader Value → Reader Value) : Reader Value :=
    (element.map read).getD (.settled (.refuse .tooDeep))
  let read : Reader Value := match cs with
    | '[' :: _ => nested fun element => do
      let (extent, items) ← Reader.placed (arrayItems element)
      return .array (some extent) items
    | '\x7b' :: _ => nested fun element => do
      let (extent, es) ← Reader.placed (inlineEntries element)
      return .table { TableStyle.braces with extent := some extent } es
    | _ => do
      let (extent, s) ← Reader.placed scalar
      return .scalar (some extent) s
  read cs

def value : Nat → Reader Value
  | 0 => valueAround none
  | levels + 1 => valueAround (some (value levels))

/-- What a header opened: the document itself, a table, or the next one of an array. -/
inductive Place where
  | root
  | single (path : List Key)
  | next (path : List Key)
  deriving Repr

/-- The document so far and the table under the last header, with its extent. -/
structure Draft where
  root : Entries
  place : Place
  current : Entries
  extent : Extent
  deriving Repr

namespace Draft

def start (extent : Extent) : Draft := ⟨[], .root, [], extent⟩

def enter (root : Entries) (path : List Key) (f : Entries → Except Breach Entries) :
    Except Breach Entries :=
  root.modifyAt false false (fun _ es => f es) [] path.dropLast .header

def taken (path : List Key) : Except Breach Entries :=
  .error (.duplicateKey (lastKey path).written (some (path.dropLast.map (·.name))))

def close (d : Draft) : Except Breach Entries :=
  match d.place with
  | .root => .ok d.current
  | .single path =>
    enter d.root path fun es =>
      match es.get? (lastKey path).name with
      | none =>
        let style := { TableStyle.header with extent := some d.extent }
        .ok (es ++ [(lastKey path, .table style d.current)])
      | some _ => taken path
  | .next path =>
    enter d.root path fun es =>
      match es.get? (lastKey path).name with
      | none => .ok (es ++ [(lastKey path, .tables [(d.extent, d.current)])])
      | some (.tables items) =>
        .ok (es.replace (lastKey path).name (.tables (items ++ [(some d.extent, d.current)])))
      | some _ => taken path

def lookUp (root : Entries) : List Key → Entries
  | [] => root
  | key :: path =>
    match root.get? key.name with
    | some (.table _ es) => lookUp es path
    | some (.tables items) => lookUp (items.getLastD (none, [])).2 path
    | _ => []

/-- A table may be opened that was only named on the way to others so far. -/
def openTable (d : Draft) (path : List Key) (extent : Extent) : Except Breach Draft := do
  let root ← enter (← d.close) path fun es =>
    match es.get? (lastKey path).name with
    | none => .ok es
    | some (.table style _) =>
      if style.implicit && !style.dotted && !style.inline then .ok es else taken path
    | some _ => taken path
  let current := lookUp root path
  let root ← enter root path fun es => .ok (es.remove (lastKey path).name)
  return ⟨root, .single path, current, extent⟩

def openNext (d : Draft) (path : List Key) (extent : Extent) : Except Breach Draft := do
  let root ← enter (← d.close) path fun es =>
    match es.get? (lastKey path).name with
    | none => .ok es
    | some (.tables _) => .ok es
    | some _ => taken path
  return ⟨root, .next path, [], extent⟩

def tablePath (d : Draft) : List Key :=
  match d.place with
  | .root => []
  | .single path => path
  | .next path => path

/-- The current table reaches to the end of its last value. -/
def assign (d : Draft) (path : List Key) (v : Value) : Except Breach Draft := do
  let table := d.tablePath.map (·.name)
  let current ← d.current.assign false (some table) path.dropLast (lastKey path) v
  return { d with
    current
    extent := { d.extent with stop := (v.extent.map (·.stop)).getD d.extent.stop } }

end Draft

def lineEndWanted : Reader Unit := .wanting [.newline, .mark "#"] lineEnd

def headerLine (repeated : Bool) : Reader (Extent × List Key) := do
  let (opening, closing) := if repeated then ("[[", "]]") else ("[", "]")
  let header ← Reader.placed do
    Reader.word opening
    let path ← keyPath
    Reader.wanting [.mark ".", .mark closing] (.word closing)
    return path
  lineEndWanted
  return header

/-- A header has to be more than one byte long. -/
def tableLine (d : Draft) : Reader Draft := Reader.within .tableHeader do
  if (← get).length < 2 then Reader.missing
  else if ← Reader.startsWith "[[" then
    Reader.judged (fun (extent, path) => blamed (d.openNext path extent)) (headerLine true)
  else
    Reader.judged (fun (extent, path) => blamed (d.openTable path extent)) (headerLine false)

def keyLine (d : Draft) : Reader Draft :=
  .judged (fun (path, v) => blamed (d.assign path v)) do
    let path ← keyPath
    equalsSign
    spaces
    let v ← value (depthLimit - 1)
    lineEndWanted
    return (path, v)

def line (d : Draft) : Reader Draft := do
  match (← get).head? with
  | some '#' => lineEnd; return d
  | some '[' => tableLine d
  | some '\n' => symbol '\n'; return d
  | some '\r' =>
    if ← Reader.startsWith "\r\n" then
      Reader.word "\r\n"
      return d
    else Reader.missing
  | _ => keyLine d

/-- All lines; every one but the last takes a character, so the length of the text is enough. -/
def lines : Nat → Draft → Reader Draft
  | 0, _ => Reader.missing
  | fuel + 1, d => do
    spaces
    if (← get).isEmpty then return d
    lines fuel (← line d)

def byteOrderMark : Reader Unit := do
  let _ ← Reader.optional (.char fun c => c.toNat = 0xfeff)

structure SyntaxError where
  complaint : Complaint
  extent : Extent
  deriving DecidableEq, Repr

def parse (s : String) : Except SyntaxError Entries :=
  let cs := s.toList
  let document : Reader Entries := .judged (fun d => blamed d.close) do
    byteOrderMark
    lines (cs.length + 1) (.start (.between cs cs))
  match document cs with
  | .ok (es, _) => .ok es
  | .error m => .error ⟨m.complaint, .next m.rest⟩

end SecureGateway.Toml

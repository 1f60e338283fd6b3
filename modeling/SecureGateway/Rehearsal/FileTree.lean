import SecureGateway.Tls.Settings

namespace SecureGateway

/-- Files by the parts of their paths; the first part of an absolute path is empty. -/
abbrev FileTree := List (List String × Bytes)

namespace FileTree

def ofFiles (files : List (String × Bytes)) : FileTree := files.map fun (path, bytes) =>
  (path.splitOn "/", bytes)

inductive Spot where
  | file (bytes : Bytes)
  | directory (parts : List String)
  | above

def isDirectory (t : FileTree) (parts : List String) : Bool :=
  t.any fun (path, _) => parts.isPrefixOf path && parts.length < path.length

def step (t : FileTree) (s : Spot) (part : String) : Except SystemError Spot :=
  match s with
  | .file _ => .error .notADirectory
  | .above => if part.isEmpty || part == "." || part == ".." then .ok .above else .error .notFound
  | .directory parts =>
    if 255 < part.utf8ByteSize then .error .nameTooLong
    else if part.isEmpty || part == "." then .ok s
    else if part == ".." then
      .ok (if parts.isEmpty then .above else if parts == [""] then s else .directory parts.dropLast)
    else
      let parts := parts ++ [part]
      match t.lookup parts with
      | some bytes => .ok (.file bytes)
      | none => if isDirectory t parts then .ok (.directory parts) else .error .notFound

def read (t : FileTree) : FileReader := fun path => do
  if path.isEmpty then throw .notFound
  let first : Spot := .directory (if path.startsWith "/" then [""] else [])
  match ← (path.splitOn "/").foldlM (step t) first with
  | .file bytes => .ok bytes
  | _ => .error .isADirectory

end FileTree
end SecureGateway

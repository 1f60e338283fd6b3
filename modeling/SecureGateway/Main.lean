import SecureGateway.Command.Run

namespace SecureGateway

/-- What the operating system said; all else counts as a missing file. -/
def SystemError.ofIO : IO.Error → SystemError
  | .permissionDenied .. => .permissionDenied
  | .inappropriateType _ code _ => if code = 20 then .notADirectory else .isADirectory
  | _ => .notFound

def FileReader.ofPaths (paths : List String) : IO FileReader := do
  let contents : List (String × Except SystemError Bytes) ← paths.mapM fun (path : String) => do
    try
      let bytes ← IO.FS.readBinFile path
      return (path, .ok bytes.toList)
    catch e => return (path, .error (.ofIO e))
  return fun path => (contents.lookup path).getD (.error .notFound)

def TlsSettings.paths (t : TlsSettings) : List String :=
  [t.caPath, t.certPath, t.keyPath].filterMap id

end SecureGateway

open SecureGateway in
def main (arguments : List String) : IO UInt32 := do
  let handshakeOverride ← IO.getEnv TlsDefaults.overrideVariable
  let config := ((Invocation.parse arguments).toOption.map (·.config)).getD defaultConfig
  let first ← FileReader.ofPaths [config]
  let named := ((Machine.offline none first).loadConfiguration config).toOption.map (·.tls.paths)
  let files ← FileReader.ofPaths (config :: named.getD [])
  let result := (Machine.offline handshakeOverride files).run arguments
  (← IO.getStdout).putStr result.output
  (← IO.getStderr).putStr result.errors
  return result.code.toUInt32

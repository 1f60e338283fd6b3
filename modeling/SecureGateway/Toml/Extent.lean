namespace SecureGateway.Toml

/-- A stretch of a text. A reader knows only what is left of the text, so both ends are given by
the number of bytes that follow. -/
structure Extent where
  start : Nat
  stop : Nat
  deriving DecidableEq, Repr

namespace Extent

def bytesLeft (cs : List Char) : Nat := cs.foldl (fun n c => n + c.utf8Size) 0

def between (before after : List Char) : Extent := ⟨bytesLeft before, bytesLeft after⟩

def next (rest : List Char) : Extent := between rest (rest.drop 1)

/-- Both ends counted from the start of a text of `size` bytes. -/
def text (size : Nat) (e : Extent) : String :=
  toString (size - e.start) ++ ".." ++ toString (size - e.stop)

end Extent
end SecureGateway.Toml

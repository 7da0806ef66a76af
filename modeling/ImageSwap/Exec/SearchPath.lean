import ImageSwap.FileSystem.Lookup

/-!
# Search paths

A search path is a list of directories with colons between them. When none is set, programs are
looked for in the two directories of the system's own programs.
-/

namespace ImageSwap.SearchPath

/-- The byte between the entries of a search path. -/
def colon : UInt8 := 0x3a

/-- The search path when none is set. -/
def standard : Bytes := Bytes.ofString "/bin:/usr/bin"

/-- The entries of a search path in order. -/
def entries (searchPath : Option Bytes) : List Bytes :=
  Text.split colon (searchPath.getD standard)

theorem entries_ne_nil (searchPath : Option Bytes) : entries searchPath ≠ [] :=
  Text.split_ne_nil _ _

end ImageSwap.SearchPath

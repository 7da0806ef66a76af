import ImageSwap.FileSystem.Edit

/-!
# The standard host

The file system of a small machine: the usual utilities in `/bin` and `/usr/bin`, the list of users
and two devices.
-/

namespace ImageSwap.Host

/-- The names of the utilities. -/
def utilities : List (String × Utility) := [
  ("sh", .shell), ("pwd", .printDirectory), ("echo", .echo), ("printf", .printf),
  ("true", .succeed), ("false", .fail), ("cat", .concatenate)]

/-- The utilities as entries of a directory. -/
private def utilityEntries (directory : String) : List (Bytes × Entry) :=
  utilities.map fun (name, program) =>
    (Bytes.ofString s!"{directory}/{name}", .file 0o755 (.utility program))

/-- The entries of the host by path. -/
def entries : List (Bytes × Entry) :=
  utilityEntries "/bin" ++ utilityEntries "/usr/bin" ++ [
    (Bytes.ofString "/etc/passwd",
      .file 0o644 (.data (Bytes.ofString "root:x:0:0:root:/root:/bin/sh\n"))),
    (Bytes.ofString "/dev/null", .device .null),
    (Bytes.ofString "/dev/full", .device .full)]

/-- The host's file system as seen from a directory, which is made if need be. -/
def fileSystem (workingDirectory : Bytes) : FileSystem :=
  let empty : FileSystem := {}
  let fs := entries.foldl (fun fs (path, entry) => fs.add path entry) empty
  { fs.add workingDirectory .directory with workingDirectory := Path.names workingDirectory }

end ImageSwap.Host

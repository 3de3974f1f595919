import SchemaGate.Command.Run

/-!
# The program

Reads the files that an invocation names, runs it, and writes what comes of it.
-/

namespace SchemaGate.Command

def faultOfError : IO.Error → FileFault
  | .noFileOrDirectory _ _ _ => .notFound
  | .inappropriateType _ 21 _ => .isDirectory
  | .inappropriateType _ _ _ => .notDirectory
  | _ => .denied

def attempt {α : Type} (work : IO α) : IO (Except FileFault α) := do
  match ← work.toBaseIO with
  | .ok a => return .ok a
  | .error error => return .error (faultOfError error)

def readBytes (path : String) : IO (Except FileFault Bytes) :=
  attempt do return (← IO.FS.readBinFile path).toList

/-- An entry of a directory; only files that can hold a schema are read. -/
def readDirEntry (entry : IO.FS.DirEntry) : IO Entry := do
  let kind : EntryKind ← match (← entry.path.symlinkMetadata).type with
    | .symlink => pure .link
    | .dir => pure .directory
    | _ =>
      if (SchemaDirectory.stem? entry.fileName).isSome then
        pure (.file (← IO.FS.readBinFile entry.path).toList)
      else pure (.file [])
  return ⟨entry.fileName, kind⟩

def listEntries (path : String) : IO (Except FileFault (List Entry)) :=
  attempt do
    let entries ← ((← IO.currentDir) / path).readDir
    entries.toList.mapM readDirEntry

/-- The files that a command names; there are no others. -/
def gatherFiles (task : Task) : IO Files := do
  let (files, directories) : List String × List String := match task with
    | .check request =>
      (request.config :: (match request.payload? with
          | some (.file path) => [path]
          | _ => []),
        request.registryDir?.toList)
    | .lint config => ([config], [])
    | .version _ => ([], [])
  let contents ← files.mapM fun path => return (path, ← readBytes path)
  let listings ← directories.mapM fun path => return (path, ← listEntries path)
  return {
    read := fun path => (contents.lookup path).getD (.error .notFound)
    list := fun path => (listings.lookup path).getD (.error .notFound) }

def thisMachine : Machine := ⟨"unknown", "unknown", "unknown", "unknown"⟩

def execute (arguments : List String) : IO UInt32 := do
  let task := match Invocation.ofArguments arguments with
    | .ok invocation => invocation.task
    | .error _ => .version false
  let outcome := run thisMachine (← gatherFiles task) arguments
  IO.print outcome.output
  if let some error := outcome.error? then IO.eprintln ("error: " ++ error)
  return outcome.exit.number.toUInt32

end SchemaGate.Command

def main (arguments : List String) : IO UInt32 :=
  SchemaGate.Command.execute arguments

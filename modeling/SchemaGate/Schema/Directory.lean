import SchemaGate.Schema.Registry

/-!
# Schema directories

A registry can be filled from a directory, with one schema for each file of the right name.  Loading
stops at the first entry that is refused, and then there is no registry.
-/

namespace SchemaGate

/-- Why a file or a directory cannot be read. -/
inductive FileFault where
  | notFound
  | notDirectory
  | isDirectory
  | denied
  | notText
deriving DecidableEq, Repr

def FileFault.message : FileFault → String
  | .notFound => "No such file or directory (os error 2)"
  | .notDirectory => "Not a directory (os error 20)"
  | .isDirectory => "Is a directory (os error 21)"
  | .denied => "Permission denied (os error 13)"
  | .notText => "stream did not contain valid UTF-8"

inductive EntryKind where
  | file (content : Bytes)
  | directory
  | link
deriving DecidableEq, Repr

structure Entry where
  name : String
  kind : EntryKind
deriving DecidableEq, Repr

namespace SchemaDirectory

def suffixChars : List Char := ".schema.json".toList

def stem? (name : String) : Option String :=
  let chars := name.toList
  if suffixChars.isSuffixOf chars then
    some (String.ofList (chars.take (chars.length - suffixChars.length)))
  else none

def entryPath (path name : String) : String :=
  if path.toList.getLast? = some '/' then path ++ name else path ++ "/" ++ name

/-- The text of a file that is small enough. -/
def readFile (limits : LoadLimits) (path name : String) (content : Bytes) :
    Except SchemaError String :=
  if limits.bytes < content.length then
    .error (.loadFailed
      ("schema file too large (" ++ toString content.length ++ " bytes): " ++ name))
  else match Utf8.decode? content with
    | some text => .ok text
    | none => .error (.loadFailed
        ("failed reading schema " ++ entryPath path name ++ ": " ++ FileFault.message .notText))

/-- The schema of an entry, which is the next after `loaded` others; most entries have none. -/
def readEntry (limits : LoadLimits) (path : String) (loaded : Nat) (entry : Entry) :
    Except SchemaError (Option Schema) :=
  match stem? entry.name, entry.kind with
  | none, _ => .ok none
  | some _, .directory => .ok none
  | some _, .link =>
    .error (.loadFailed ("refusing to load schema symlink: " ++ entry.name))
  | some subject, .file content =>
    if subject.isEmpty then
      .error (.loadFailed ("schema file has no subject: " ++ entry.name))
    else if limits.schemas < loaded + 1 then
      .error (.loadFailed ("schema count exceeds configured max (" ++ toString limits.schemas ++
        "): " ++ toString (loaded + 1)))
    else do
      let text ← readFile limits path entry.name content
      .ok (some (Schema.ofSubject subject text))

def schemas (limits : LoadLimits) (path : String) :
    (loaded : Nat) → List Entry → Except SchemaError (List Schema)
  | _, [] => .ok []
  | loaded, entry :: rest => do
    match ← readEntry limits path loaded entry with
    | none => schemas limits path loaded rest
    | some schema => do
      let others ← schemas limits path (loaded + 1) rest
      .ok (schema :: others)

def load (limits : LoadLimits) (path : String) (listing : Except FileFault (List Entry)) :
    Except SchemaError Registry :=
  match listing with
  | .error fault => .error (.loadFailed (path ++ ": " ++ fault.message))
  | .ok entries => do
    let found ← schemas limits path 0 entries
    .ok (found.foldl Registry.register .empty)

end SchemaDirectory

end SchemaGate

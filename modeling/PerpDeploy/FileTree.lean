/-
A tree of files and directories and the operations on it that a run needs. Names are
looked up one by one, so that the first name at fault decides the failure.
-/

import PerpDeploy.Path

namespace PerpDeploy

inductive FileFault
  | notFound
  | notDirectory
  | isDirectory
  | alreadyExists
  | nameTooLong
  | invalidPath
  | invalidArgument
  | invalidText
  | permissionDenied
  | readOnly
  | storageFull
  | brokenPipe
  /-- Any other, as the system words it. -/
  | other (message : String)
  deriving DecidableEq, Repr

def FileFault.message : FileFault → String
  | .notFound => "No such file or directory (os error 2)"
  | .notDirectory => "Not a directory (os error 20)"
  | .isDirectory => "Is a directory (os error 21)"
  | .alreadyExists => "File exists (os error 17)"
  | .nameTooLong => "File name too long (os error 36)"
  | .invalidPath => "file name contained an unexpected NUL byte"
  | .invalidArgument => "nul byte found in provided data"
  | .invalidText => "stream did not contain valid UTF-8"
  | .permissionDenied => "Permission denied (os error 13)"
  | .readOnly => "Read-only file system (os error 30)"
  | .storageFull => "No space left on device (os error 28)"
  | .brokenPipe => "Broken pipe (os error 32)"
  | .other message => message

inductive FileEntry
  | file (content : ByteArray)
  | directory (mode : Nat)

instance : DecidableEq FileEntry
  | .file left, .file right =>
      decidable_of_iff (left.data = right.data)
        ⟨fun same => congrArg FileEntry.file (ByteArray.ext same),
          fun same => congrArg ByteArray.data (FileEntry.file.inj same)⟩
  | .directory left, .directory right =>
      decidable_of_iff (left = right)
        ⟨congrArg FileEntry.directory, FileEntry.directory.inj⟩
  | .file _, .directory _ => isFalse nofun
  | .directory _, .file _ => isFalse nofun

/-- Names from the root down. -/
abbrev Location := List String

/-- Why nothing can be written to a place that a path leads to. -/
inductive WriteFault
  /-- A file there cannot be opened for writing and stays as it is. -/
  | refused (fault : FileFault)
  /-- A file there is emptied, and writing fails once it is as long as this at most. -/
  | cut (length : Nat) (fault : FileFault)
  deriving DecidableEq, Repr

def WriteFault.cause : WriteFault → FileFault
  | .refused fault => fault
  | .cut _ fault => fault

/-- The root is always a directory and has no entry of its own. -/
structure FileTree where
  entries : List (Location × FileEntry)
  workingDirectory : Location
  /-- The places that cannot be written to, be it for want of a right or of room. -/
  faults : Location → Option WriteFault := fun _ => none

namespace FileTree

def directoryMode : Nat := 0o755

def at? (tree : FileTree) (location : Location) : Option FileEntry :=
  if location.isEmpty then some (.directory directoryMode)
  else (tree.entries.find? fun entry => entry.1 = location).map Prod.snd

def put (tree : FileTree) (location : Location) (entry : FileEntry) : FileTree :=
  let others := tree.entries.filter fun held => held.1 ≠ location
  { tree with entries := others ++ [(location, entry)] }

def longestName : Nat := 255

def longestPath : Nat := 4095

/-- Where a path leads, and the entry there, if only the last name may be missing. -/
structure Target where
  location : Location
  entry : Option FileEntry
  /-- The path ends in a slash, so that only a directory will do. -/
  wantsDirectory : Bool

def walk (tree : FileTree) (here : Location) : List String → Except FileFault Target
  | [] => .ok { location := here, entry := tree.at? here, wantsDirectory := false }
  | name :: rest =>
      match tree.at? here with
      | none => .error .notFound
      | some (.file _) => .error .notDirectory
      | some (.directory _) =>
          if name = "." then walk tree here rest
          else if name = ".." then walk tree here.dropLast rest
          else if longestName < name.utf8ByteSize then .error .nameTooLong
          else walk tree (here ++ [name]) rest

def resolve (tree : FileTree) (path : Path) : Except FileFault Target :=
  if path.toList.contains (Char.ofNat 0) then .error .invalidPath
  else if path.isEmpty then .error .notFound
  else if longestPath < path.utf8ByteSize then .error .nameTooLong
  else
    let start := if path.isAbsolute then [] else tree.workingDirectory
    let names := path.pieces.filter fun name => name ≠ ""
    match walk tree start names with
    | .error fault => .error fault
    | .ok target => .ok { target with wantsDirectory := path.toList.getLast? = some '/' }

def status (tree : FileTree) (path : Path) : Except FileFault FileEntry := do
  let target ← tree.resolve path
  match target.entry with
  | none => .error .notFound
  | some (.file content) =>
      if target.wantsDirectory then .error .notDirectory else .ok (.file content)
  | some (.directory mode) => .ok (.directory mode)

def exists? (tree : FileTree) (path : Path) : Except FileFault Bool :=
  match tree.status path with
  | .ok _ => .ok true
  | .error .notFound => .ok false
  | .error fault => .error fault

def isThere (tree : FileTree) (path : Path) : Bool :=
  match tree.status path with
  | .ok _ => true
  | .error _ => false

def isFile (tree : FileTree) (path : Path) : Bool :=
  match tree.status path with
  | .ok (.file _) => true
  | _ => false

def isDirectory (tree : FileTree) (path : Path) : Bool :=
  match tree.status path with
  | .ok (.directory _) => true
  | _ => false

def readText (tree : FileTree) (path : Path) : Except FileFault String := do
  match ← tree.status path with
  | .directory _ => .error .isDirectory
  | .file content =>
      match String.fromUTF8? content with
      | some text => .ok text
      | none => .error .invalidText

/-- Gives a file its content, as far as its place allows that. -/
def fill (tree : FileTree) (location : Location) (content : ByteArray) :
    FileTree × Except FileFault Unit :=
  match tree.faults location with
  | none => (tree.put location (.file content), .ok ())
  | some (.refused fault) => (tree, .error fault)
  | some (.cut length fault) =>
      (tree.put location (.file (content.extract 0 length)), .error fault)

/-- What has been written before a fault stays. -/
def write (tree : FileTree) (path : Path) (content : ByteArray) :
    FileTree × Except FileFault Unit :=
  match tree.resolve path with
  | .error fault => (tree, .error fault)
  | .ok target =>
      match target.entry with
      | some (.directory _) => (tree, .error .isDirectory)
      | some (.file _) =>
          if target.wantsDirectory then (tree, .error .notDirectory)
          else tree.fill target.location content
      | none =>
          if target.wantsDirectory then (tree, .error .isDirectory)
          else tree.fill target.location content

def writeText (tree : FileTree) (path : Path) (text : String) : FileTree × Except FileFault Unit :=
  tree.write path text.toUTF8

def makeDirectory (tree : FileTree) (path : Path) : Except FileFault FileTree := do
  let target ← tree.resolve path
  match target.entry with
  | some _ => .error .alreadyExists
  | none =>
      match tree.faults target.location with
      | some fault => .error fault.cause
      | none => .ok (tree.put target.location (.directory directoryMode))

/-- Makes a directory and those above it that are missing; `depth` bounds the number of names.
What was made before a fault stays. -/
def makeDirectoriesWithin (tree : FileTree) : Nat → Path → FileTree × Except FileFault Unit
  | 0, _ => (tree, .error .notFound)
  | depth + 1, path =>
      if path.isEmpty then (tree, .ok ())
      else match tree.makeDirectory path with
        | .ok made => (made, .ok ())
        | .error .notFound =>
            match path.parent? with
            | none => (tree, .error .notFound)
            | some above =>
                match tree.makeDirectoriesWithin depth above with
                | (prepared, .error fault) => (prepared, .error fault)
                | (prepared, .ok ()) => makeLast prepared path
        | .error fault => (tree, if tree.isDirectory path then .ok () else .error fault)
where
  makeLast (prepared : FileTree) (path : Path) : FileTree × Except FileFault Unit :=
    match prepared.makeDirectory path with
    | .ok made => (made, .ok ())
    | .error fault => (prepared, if prepared.isDirectory path then .ok () else .error fault)

def makeDirectories (tree : FileTree) (path : Path) : FileTree × Except FileFault Unit :=
  tree.makeDirectoriesWithin (path.length + 1) path

def absolutePath (tree : FileTree) (path : Path) : Except FileFault Path := do
  let _ ← tree.status path
  let target ← tree.resolve path
  .ok ("/" ++ "/".intercalate target.location)

end FileTree

end PerpDeploy

import Patchbay.Source.Fault
import Patchbay.Text.Blank
import Patchbay.Text.Utf8

/-!
# A file system

Files, directories and streams, by the paths to them from the root.  A path in an argument is
walked component by component, from the root or from the working directory, and every component but
the last has to be a directory.
-/

namespace Patchbay

/-- The streams that have a path. -/
inductive SystemStream where
  /-- Nothing to read; what is written is dropped. -/
  | null
  | input
  | output
deriving DecidableEq, Repr

/-- What stands at a path: a file with its contents, a directory or a stream. -/
inductive FileNode where
  | file (contents : Bytes)
  | directory
  | stream (kind : SystemStream)
deriving DecidableEq, Repr

/-- The components of a path from the root. -/
abbrev EntryPath := List String

/-- A file system and the directory that relative paths start at.  The root and the directories on
the way to the working directory are always there. -/
structure FileSystem where
  workingDirectory : EntryPath
  entries : List (EntryPath × FileNode)
deriving DecidableEq, Repr

namespace FileSystem

/-- The streams and the directory they are in. -/
def streams : List (EntryPath × FileNode) := [
  (["dev"], .directory),
  (["dev", "null"], .stream .null),
  (["dev", "stdin"], .stream .input),
  (["dev", "stdout"], .stream .output)]

/-- The file system with the given entries in the working directory. -/
def around (workingDirectory : EntryPath) (entries : List (String × FileNode)) : FileSystem :=
  ⟨workingDirectory,
    streams ++ entries.map (fun (name, node) => (workingDirectory ++ [name], node))⟩

/-- The entries of the working directory. -/
def listing (fs : FileSystem) : List (String × FileNode) :=
  fs.entries.filterMap fun (path, node) =>
    if path.dropLast == fs.workingDirectory then path.getLast?.map (fun name => (name, node))
    else none

/-- What stands at a path. -/
def node? (fs : FileSystem) (path : EntryPath) : Option FileNode :=
  if path.isPrefixOf fs.workingDirectory then some .directory else fs.entries.lookup path

/-- Puts a file at a path, in place of the one that was there. -/
def put (fs : FileSystem) (path : EntryPath) (contents : Bytes) : FileSystem :=
  let node := FileNode.file contents
  if fs.entries.any (fun entry => entry.1 == path) then
    { fs with entries := fs.entries.map (fun e => if e.1 == path then (path, node) else e) }
  else { fs with entries := fs.entries ++ [(path, node)] }

/-- The components of a path as it is written. -/
def components (path : String) : List String :=
  (Text.pieces (· == '/') path.toList).map String.ofList

/-- The directory that a path starts at, unless the path is too long. -/
def start (fs : FileSystem) (path : String) : Except SystemError EntryPath :=
  if 4095 < path.utf8ByteSize then .error .nameTooLong
  else if path.toList.head? == some '/' then .ok []
  else .ok fs.workingDirectory

/-- Whether a component leads from a directory to a directory, without a look at the entries. -/
def isStep (component : String) : Bool :=
  component == "" || component == "." || component == ".."

/-- The path of an entry of a directory, unless its name is too long. -/
def child (here : EntryPath) (name : String) : Except SystemError EntryPath :=
  if 255 < name.utf8ByteSize then .error .nameTooLong else .ok (here ++ [name])

/-- Enters a directory by a component of a path.  Above the root is the root. -/
def enter (fs : FileSystem) (here : EntryPath) (component : String) :
    Except SystemError EntryPath :=
  if isStep component then .ok (if component = ".." then here.dropLast else here)
  else do
    let next ← child here component
    match fs.node? next with
    | none => throw .notFound
    | some .directory => return next
    | some _ => throw .notADirectory

/-- Walks from the start of a path through the given components of it. -/
def walk (fs : FileSystem) (path : String) (parts : List String) :
    Except SystemError EntryPath := do
  parts.foldlM fs.enter (← fs.start path)

/-- Opens a path for reading; a directory can be opened, but not read. -/
def openRead (fs : FileSystem) (path : String) : Except SystemError EntryPath := do
  let parts := components path
  let here ← fs.walk path parts.dropLast
  let last := parts.getLastD ""
  if isStep last then fs.enter here last
  else
    let target ← child here last
    if (fs.node? target).isNone then throw .notFound
    return target

/-- A path without the slashes at its end. -/
def withoutSlashes (path : List Char) : List Char :=
  (path.reverse.dropWhile (· == '/')).reverse

/-- Creates an empty file, or empties the one that is there; a stream stays as it is.  A path that
ends with a slash names a directory. -/
def create (fs : FileSystem) (path : String) : Except SystemError (EntryPath × FileSystem) := do
  let trimmed := String.ofList (withoutSlashes path.toList)
  let parts := components trimmed
  let here ← fs.walk path parts.dropLast
  let last := parts.getLastD ""
  if isStep last || trimmed != path then throw .isADirectory
  let target ← child here last
  match fs.node? target with
  | some .directory => throw .isADirectory
  | some (.stream _) => return (target, fs)
  | _ => return (target, fs.put target [])

/-- Appends to an open file. -/
def append (fs : FileSystem) (target : EntryPath) (bytes : Bytes) : FileSystem :=
  match fs.node? target with
  | some (.file contents) => fs.put target (contents ++ bytes)
  | _ => fs

end FileSystem

end Patchbay

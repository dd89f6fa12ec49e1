import TaskCatalog.FileSystem.Tree

/-!
Walks over all of a tree: the files below a directory, at any depth, and what differs between two
trees. Links to directories are not entered, links to files count as files.
-/

namespace TaskCatalog

open Text

namespace Node

mutual

/-- The paths below a node, relative to it, as a walk meets them: the entries of a directory, then what is below each. -/
def paths : Node → List (List Text)
  | .directory entries => (entries.map fun entry => [entry.1]) ++ innerPaths entries
  | _ => []

def innerPaths : List (Text × Node) → List (List Text)
  | [] => []
  | (name, node) :: rest => (paths node).map (name :: ·) ++ innerPaths rest

end

end Node

namespace FileSystem

def endsWith (suffix name : Text) : Bool := suffix.isSuffixOf name

/-- Whether a path names a file with one of the suffixes. -/
def isMatch (fs : FileSystem) (suffixes : List Text) (p : Path) : Bool :=
  fs.isFile p && suffixes.any (endsWith · (p.name?.getD []))

def pathsBelow (fs : FileSystem) (directory : Path) : List Path :=
  match fs.node? directory with
  | some node => node.paths.map fun names => directory ++ (⟨false, names⟩ : Path)
  | none => []

/-- The files below a directory with one of the suffixes, in ascending order. -/
def filesBelow (fs : FileSystem) (directory : Path) (suffixes : List Text) : List Path :=
  ((fs.pathsBelow directory).filter (fs.isMatch suffixes)).mergeSort Path.le

/-- Whether a name or a path is too long to be looked for, on its own or behind a link. -/
def isOverlong (fs : FileSystem) (p : Path) : Bool :=
  p.parts.all isName && match fs.reach p with
    | .refused .nameTooLong => true
    | _ => false

/-- What ends the search of a directory: it looks for the directory and for every path below, whatever its suffix. -/
def searchFault? (fs : FileSystem) (directory : Path) : Option FileError :=
  ((directory :: fs.pathsBelow directory).find? fs.isOverlong).map fun p => ⟨.nameTooLong, p⟩

end FileSystem

/-- A directory or a file of a later tree that an earlier one lacks or has otherwise. -/
inductive Change where
  | directory (location : Location)
  | file (location : Location) (content : Bytes)
  deriving DecidableEq

namespace Node

def isFileOf (content : Bytes) : Option Node → Bool
  | some (.file old) => old == content
  | _ => false

def isDirectory : Option Node → Bool
  | some (.directory _) => true
  | _ => false

def child? (name : Text) : Option Node → Option Node
  | some (.directory entries) => entry? name entries
  | _ => none

mutual

/-- The changes that make a node at a location out of an earlier one; directories come before what is in them. -/
def changes (location : Location) (before : Option Node) : Node → List Change
  | .file content => if isFileOf content before then [] else [.file location content]
  | .directory entries =>
    (if isDirectory before then [] else [.directory location]) ++ entryChanges location before entries
  | .link _ => []

def entryChanges (location : Location) (before : Option Node) : List (Text × Node) → List Change
  | [] => []
  | (name, node) :: rest =>
    changes (location ++ [name]) (child? name before) node ++ entryChanges location before rest

end

end Node

end TaskCatalog

import TaskCatalog.FileSystem.Path
import TaskCatalog.Text.Encoding

/-!
A file system as a tree of files, directories and symbolic links. A location is the list of names
from the root to a node without any link on the way; paths are walked to locations.
-/

namespace TaskCatalog

open Text

inductive Node where
  | file (content : Bytes)
  | directory (entries : List (Text × Node))
  | link (target : Text)

instance : Inhabited Node := ⟨.directory []⟩

abbrev Location := List Text

namespace Node

def entry? (name : Text) : List (Text × Node) → Option Node
  | [] => none
  | (n, node) :: rest => if n = name then some node else entry? name rest

def at? : Node → Location → Option Node
  | node, [] => some node
  | .directory entries, name :: rest =>
    match entry? name entries with
    | some node => node.at? rest
    | none => none
  | _, _ :: _ => none

def setEntry (name : Text) (node : Node) : List (Text × Node) → List (Text × Node)
  | [] => [(name, node)]
  | (n, old) :: rest => if n = name then (n, node) :: rest else (n, old) :: setEntry name node rest

/-- The tree with a node put at a location whose directory exists. -/
def put : Node → Node → Location → Node
  | _, new, [] => new
  | .directory entries, new, name :: rest =>
    match entry? name entries with
    | some child => .directory (setEntry name (put child new rest) entries)
    | none => if rest.isEmpty then .directory (setEntry name new entries) else .directory entries
  | node, _, _ :: _ => node

end Node

inductive FileFault where
  | notFound
  | alreadyThere
  | notDirectory
  | isDirectory
  | tooManyLinks
  | nameTooLong
  deriving DecidableEq, Repr

/-- An operation on a path that the file system refused. -/
structure FileError where
  fault : FileFault
  path : Path
  deriving DecidableEq, Repr

structure FileSystem where
  root : Node
  /-- The directory that relative paths start from. -/
  current : Location

/-- How far a walk without following links gets. -/
inductive Walked where
  | arrived (location : Location)
  | refused (fault : FileFault)
  /-- The name is missing in an existing directory, and nothing follows it. -/
  | missing (parent : Location) (name : Text)
  | met (location : Location) (target : Text) (rest : List Text)

namespace FileSystem

/-- Walks from a location along names, up to the first link. -/
def step (root : Node) (location : Location) : List Text → Walked
  | [] => .arrived location
  | name :: rest =>
    match root.at? location with
    | some (.directory entries) =>
      if name = Path.dotDot then step root location.dropLast rest
      else if name = Path.dot then step root location rest
      else if 255 < utf8Size name then .refused .nameTooLong
      else match Node.entry? name entries with
        | none => if rest.isEmpty then .missing location name else .refused .notFound
        | some (.link target) => .met location target rest
        | some (.file _) =>
          if rest.isEmpty then .arrived (location ++ [name]) else .refused .notDirectory
        | some (.directory _) => step root (location ++ [name]) rest
    | some _ => .refused .notDirectory
    | none => .refused .notFound

def walk (root : Node) : Nat → Location → List Text → Walked
  | 0, _, _ => .refused .tooManyLinks
  | links + 1, location, names =>
    match step root location names with
    | .met location target rest =>
      walk root links (if (Path.ofText target).absolute then [] else location) (Path.linkNames target ++ rest)
    | walked => walked

/-- A system follows at most this many links on one walk. -/
def linkLimit : Nat := 41

variable (fs : FileSystem)

def pathLimit : Nat := 4096

def reach (p : Path) : Walked :=
  if pathLimit ≤ utf8Size p.text then .refused .nameTooLong
  else walk fs.root linkLimit (if p.absolute then [] else fs.current) p.parts

def locate? (p : Path) : Option Location :=
  match fs.reach p with
  | .arrived location => some location
  | _ => none

def node? (p : Path) : Option Node := (fs.locate? p).bind fs.root.at?

def isName (t : Text) : Bool := t.all (·.satisfies (· != '\x00'))

def isFile (p : Path) : Bool :=
  p.parts.all isName && match fs.node? p with
    | some (.file _) => true
    | _ => false

/-- Whether a file is there; a name or path that is too long cannot even be looked for. -/
def hasFile (p : Path) : Except FileError Bool :=
  match fs.reach p with
  | .refused .nameTooLong => if p.parts.all isName then .error ⟨.nameTooLong, p⟩ else .ok false
  | _ => .ok (fs.isFile p)

def isDirectory (p : Path) : Bool :=
  p.parts.all isName && match fs.node? p with
    | some (.directory _) => true
    | _ => false

/-- The path of an existing node without links; any other path is put together as it stands. -/
def resolve (p : Path) : Path :=
  match fs.locate? p with
  | some location => ⟨true, location⟩
  | none => ⟨true, (if p.absolute then [] else fs.current) ++ p.parts⟩

def read (p : Path) : Except FileError Bytes :=
  match fs.reach p with
  | .arrived location =>
    match fs.root.at? location with
    | some (.file content) => .ok content
    | _ => .error ⟨.isDirectory, p⟩
  | .refused fault => .error ⟨fault, p⟩
  | _ => .error ⟨.notFound, p⟩

/-- Puts a content at a path; a file that is there is overwritten, a missing one is made. -/
def write (p : Path) (content : Bytes) : Except FileError FileSystem :=
  match fs.reach p with
  | .arrived location =>
    match fs.root.at? location with
    | some (.file _) => .ok { fs with root := fs.root.put (.file content) location }
    | _ => .error ⟨.isDirectory, p⟩
  | .missing parent name => .ok { fs with root := fs.root.put (.file content) (parent ++ [name]) }
  | .refused fault => .error ⟨fault, p⟩
  | .met .. => .error ⟨.tooManyLinks, p⟩

def makeDirectory (p : Path) : Except FileError FileSystem :=
  match p.parts.getLast? with
  | none => .error ⟨.alreadyThere, p⟩
  | some name =>
    match fs.reach p.parent with
    | .arrived location =>
      match fs.root.at? location with
      | some (.directory entries) =>
        if name = Path.dotDot ∨ (Node.entry? name entries).isSome then .error ⟨.alreadyThere, p⟩
        else .ok { fs with root := fs.root.put (.directory []) (location ++ [name]) }
      | _ => .error ⟨.notDirectory, p⟩
    | .refused fault => .error ⟨fault, p⟩
    | _ => .error ⟨.notFound, p⟩

/-- Makes a directory and those around it that are missing; `depth` bounds how many. -/
def makeDirectoriesWithin (fs : FileSystem) (p : Path) : Nat → Except FileError FileSystem
  | 0 => .error ⟨.notFound, p⟩
  | depth + 1 =>
    let orExisting (fs : FileSystem) (e : FileError) : Except FileError FileSystem :=
      if fs.isDirectory p then .ok fs else .error e
    match fs.makeDirectory p with
    | .ok made => .ok made
    | .error e =>
      if e.fault = .notFound then
        if p.parts.isEmpty then .error e
        else do
          let made ← makeDirectoriesWithin fs p.parent depth
          match made.makeDirectory p with
          | .ok done => .ok done
          | .error e => orExisting made e
      else orExisting fs e

def makeDirectories (p : Path) : Except FileError FileSystem :=
  fs.makeDirectoriesWithin p (p.parts.length + 1)

end FileSystem

def FileFault.number : FileFault → Nat
  | notFound => 2
  | alreadyThere => 17
  | notDirectory => 20
  | isDirectory => 21
  | nameTooLong => 36
  | tooManyLinks => 40

def FileFault.message : FileFault → Text
  | notFound => "No such file or directory"
  | alreadyThere => "File exists"
  | notDirectory => "Not a directory"
  | isDirectory => "Is a directory"
  | nameTooLong => "File name too long"
  | tooManyLinks => "Too many levels of symbolic links"

def FileError.message (e : FileError) : Text :=
  "[Errno " ++ ofNat e.fault.number ++ "] " ++ e.fault.message ++ ": " ++ quoted e.path.text

end TaskCatalog

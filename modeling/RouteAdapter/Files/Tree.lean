import RouteAdapter.Bytes.Basic
import RouteAdapter.Dict
import RouteAdapter.Files.Path

/-!
# File trees

The files and directories that are known, seen from the working directory. It is always there
itself, and so are the directories above it and the root.
-/

namespace RouteAdapter

inductive FileError
  | notFound
  | alreadyExists
  | notDirectory
  | isDirectory
  | nameTooLong
  /-- No path has a NUL character. -/
  | nulInPath
  /-- The bytes of a file are not UTF-8. -/
  | notText
  | other (message : String)
  deriving DecidableEq

def FileError.message : FileError → String
  | notFound => "No such file or directory (os error 2)"
  | alreadyExists => "File exists (os error 17)"
  | notDirectory => "Not a directory (os error 20)"
  | isDirectory => "Is a directory (os error 21)"
  | nameTooLong => "File name too long (os error 36)"
  | nulInPath => "file name contained an unexpected NUL byte"
  | notText => "stream did not contain valid UTF-8"
  | other message => message

inductive FileNode
  | file (bytes : Bytes)
  | directory
  deriving DecidableEq

/-- Names from the working directory on, or from the root if the first one is empty. Steps up come
before all other names. -/
abbrev Location := List Path.Name

namespace Location

def root : Location :=
  [[]]

def text (l : Location) : String :=
  String.ofList (Path.unsplit l)

/-- The working directory and those above it. -/
def isAbove (l : Location) : Bool :=
  l.all Path.isUp || l == root

/-- The directory that this one is in; the root is in itself. -/
def up (l : Location) : Location :=
  if l = root then l
  else if l.isAbove then l ++ [Path.upName]
  else l.dropLast

end Location

structure FileTree where
  nodes : Dict FileNode
  deriving DecidableEq

namespace FileTree

def empty : FileTree :=
  ⟨[]⟩

def node? (t : FileTree) (l : Location) : Option FileNode :=
  if l.isAbove then some .directory else Dict.get? t.nodes l.text

def put (t : FileTree) (l : Location) (node : FileNode) : FileTree :=
  ⟨Dict.insert l.text node t.nodes⟩

/-- The location that names lead to; every name but the last has to be there. -/
def walk (t : FileTree) (l : Location) : List Path.Name → Except FileError Location
  | [] => .ok l
  | name :: names =>
    match t.node? l with
    | none => .error .notFound
    | some (.file _) => .error .notDirectory
    | some .directory =>
      if Path.isVacuous name then walk t l names
      else if Path.isUp name then walk t l.up names
      else if Path.maxNameBytes < (String.ofList name).utf8ByteSize then .error .nameTooLong
      else walk t (l ++ [name]) names

def checkPath (path : String) : Except FileError Unit :=
  if path.toList.contains '\x00' then .error .nulInPath
  else if Path.maxBytes < path.utf8ByteSize then .error .nameTooLong
  else .ok ()

def locate (t : FileTree) (path : String) : Except FileError Location := do
  checkPath path
  match path.toList with
  | [] => throw .notFound
  | '/' :: rest => walk t .root (Path.split rest)
  | path => walk t [] (Path.split path)

def read (t : FileTree) (path : String) : Except FileError Bytes := do
  let l ← t.locate path
  match t.node? l with
  | some (.file bytes) => pure bytes
  | some .directory => throw .isDirectory
  | none => throw .notFound

def isFile (t : FileTree) (path : String) : Bool :=
  match t.read path with
  | .ok _ => true
  | .error _ => false

def isDirectory (t : FileTree) (path : String) : Bool :=
  match t.locate path with
  | .ok l => t.node? l == some .directory
  | .error _ => false

/-- Make or replace a file. -/
def write (t : FileTree) (path : String) (bytes : Bytes) : Except FileError FileTree := do
  let l ← t.locate path
  if t.node? l = some .directory then throw .isDirectory
  else pure (t.put l (.file bytes))

/-- Make a directory; slashes at the end do not count. -/
def makeDirectory (t : FileTree) (path : String) : Except FileError FileTree := do
  checkPath path
  let l ← t.locate (Path.trimEnd path)
  if (t.node? l).isSome then throw .alreadyExists
  else pure (t.put l .directory)

/-- A directory that is there already is as good as a new one. -/
def orPresent (t : FileTree) (path : String) (made : Except FileError FileTree) :
    Except FileError Unit × FileTree :=
  match made with
  | .ok t => (.ok (), t)
  | .error e => if t.isDirectory path then (.ok (), t) else (.error e, t)

def makeParents : Nat → FileTree → String → Except FileError Unit × FileTree
  | 0, t, _ => (.error .notFound, t)
  | fuel + 1, t, path =>
    if path.isEmpty then (.ok (), t)
    else
      match t.makeDirectory path with
      | .error .notFound =>
        match Path.parent? path with
        | none => (.error .notFound, t)
        | some parent =>
          match makeParents fuel t parent with
          | (.error e, t) => (.error e, t)
          | (.ok (), t) => orPresent t path (t.makeDirectory path)
      | made => orPresent t path made

/-- Make a directory and those above it. -/
def makeDirectories (t : FileTree) (path : String) : Except FileError Unit × FileTree :=
  makeParents (path.length + 1) t path

/-- The files below the working directory. -/
def written (t : FileTree) : Dict Bytes :=
  t.nodes.filterMap fun
    | (path, .file bytes) => if Path.staysBelow path then some (path, bytes) else none
    | (_, .directory) => none

end FileTree

/-- What can be seen of the files. -/
structure Files where
  read : String → Except FileError Bytes
  isFile : String → Bool

def FileTree.files (t : FileTree) : Files :=
  ⟨t.read, t.isFile⟩

/-- Files that have been read before. -/
def Files.ofList (entries : List (String × Except FileError Bytes)) : Files where
  read := fun path => (entries.lookup path).getD (.error .notFound)
  isFile := fun path => (entries.lookup path).any fun
    | .ok _ => true
    | .error _ => false

def Files.readText (f : Files) (path : String) : Except FileError String := do
  match Bytes.utf8? (← f.read path) with
  | some s => pure s
  | none => throw .notText

end RouteAdapter

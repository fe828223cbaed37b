import SchemaBook.Text.Quoted
import SchemaBook.Text.Split
import SchemaBook.Text.Utf8

/-!
A tree of files, as far as a command reads and writes it. Paths lead from the root or from the
working directory, and directories are entries of their own. A write makes the directories that it
needs, empties the file, then writes the text; what fails on the way leaves the tree as it was
reached. Names and paths have a greatest length.
-/

namespace SchemaBook

/-- A path: the slashes in front, at most two, and the names between slashes without single dots. -/
structure FilePath where
  slashes : Nat
  parts : List Text
  deriving DecidableEq, Repr

namespace FilePath

/-- The path that a text names. Three or more slashes in front count as one. -/
def ofText (text : Text) : FilePath :=
  let front := (text.takeWhile (· == CodePoint.char '/')).length
  { slashes := if front = 2 then 2 else min front 1
    parts := (Text.splitWhere (· == CodePoint.char '/') text).filter fun part =>
      !part.isEmpty && part != "." }

def text (p : FilePath) : Text :=
  if p.slashes = 0 && p.parts.isEmpty then "."
  else List.replicate p.slashes (CodePoint.char '/') ++ Text.join "/" p.parts

def parent (p : FilePath) : FilePath := { p with parts := p.parts.dropLast }

def hasNul (p : FilePath) : Bool := p.parts.any (·.contains '\x00')

def nameLimit : Nat := 255

def lengthLimit : Nat := 4095

def isTooLong (p : FilePath) : Bool := lengthLimit < Text.octetCount p.text

end FilePath

inductive FileNode where
  | directory
  | file (octets : List UInt8)
  deriving DecidableEq, Repr

/-- A tree: what stands at each key, which is the list of names that lead there from the root, and
the key of the working directory. -/
structure FileTree where
  workingDirectory : List Text := []
  nodes : List (List Text × FileNode) := []
  deriving DecidableEq, Repr

inductive FileFaultKind where
  | notFound
  | exists
  | notDirectory
  | isDirectory
  | nameTooLong
  deriving DecidableEq, Repr

inductive WriteFault where
  | system (kind : FileFaultKind) (path : Text)
  /-- The path holds a NUL character. -/
  | nulInPath
  /-- The text holds half of a surrogate pair. -/
  | encoding (fault : Text.EncodeFault)
  deriving DecidableEq, Repr

def FileFaultKind.text : FileFaultKind → String
  | .notFound => "[Errno 2] No such file or directory"
  | .exists => "[Errno 17] File exists"
  | .notDirectory => "[Errno 20] Not a directory"
  | .isDirectory => "[Errno 21] Is a directory"
  | .nameTooLong => "[Errno 36] File name too long"

def FileFaultKind.messageAt (kind : FileFaultKind) (path : Text) : Text :=
  kind.text ++ ": " ++ Text.quoted path

def WriteFault.message : WriteFault → Text
  | .system kind path => kind.messageAt path
  | .nulInPath => "embedded null byte"
  | .encoding fault => fault.message

inductive FilePlace where
  | found (key : List Text) (node : FileNode)
  /-- The directory is there, and nothing of this name in it. -/
  | free (key : List Text)
  | broken (kind : FileFaultKind)
  deriving DecidableEq, Repr

namespace FileTree

/-- The name by which a directory knows the one above it. The root is above itself. -/
def above : Text := ".."

/-- What stands at a key. The root, the working directory and what leads to it are always there. -/
def node? (t : FileTree) (key : List Text) : Option FileNode :=
  if key.isPrefixOf t.workingDirectory then some .directory else t.nodes.lookup key

def put (t : FileTree) (key : List Text) (node : FileNode) : FileTree :=
  if (t.nodes.lookup key).isSome then
    { t with nodes := t.nodes.map fun entry => if entry.1 = key then (key, node) else entry }
  else { t with nodes := t.nodes ++ [(key, node)] }

def walk (t : FileTree) (key : List Text) : List Text → FilePlace
  | [] => .found key .directory
  | name :: rest =>
    if name = above then t.walk key.dropLast rest
    else if FilePath.nameLimit < Text.octetCount name then .broken .nameTooLong
    else
      match t.node? (key ++ [name]) with
      | some .directory => t.walk (key ++ [name]) rest
      | some (.file octets) =>
        if rest.isEmpty then .found (key ++ [name]) (.file octets) else .broken .notDirectory
      | none => if rest.isEmpty then .free (key ++ [name]) else .broken .notFound

/-- Where the names of a path start: with slashes in front at the root. -/
def start (t : FileTree) (path : FilePath) : List Text :=
  if path.slashes = 0 then t.workingDirectory else []

/-- Where a path leads. -/
def place (t : FileTree) (path : FilePath) : FilePlace :=
  if path.isTooLong then .broken .nameTooLong else t.walk (t.start path) path.parts

/-- What a path leads to, if anything. A path that is too long is a fault. -/
def lookup (t : FileTree) (path : FilePath) : Except FileFaultKind (Option FileNode) :=
  if path.hasNul then .ok none
  else
    match t.place path with
    | .found _ node => .ok (some node)
    | .broken .nameTooLong => .error .nameTooLong
    | _ => .ok none

def isDirectory (t : FileTree) (path : FilePath) : Bool :=
  match t.lookup path with
  | .ok (some .directory) => true
  | _ => false

def makeDirectory (t : FileTree) (path : FilePath) : Except WriteFault FileTree :=
  if path.hasNul then .error .nulInPath
  else
    match t.place path with
    | .found .. => .error (.system .exists path.text)
    | .free key => .ok (t.put key .directory)
    | .broken kind => .error (.system kind path.text)

def ensureDirectory (t : FileTree) (path : FilePath) : Except WriteFault FileTree :=
  match t.makeDirectory path with
  | .ok made => .ok made
  | .error fault =>
    if fault != .nulInPath && t.isDirectory path then .ok t else .error fault

/-- Makes a directory and, where one is missing, those above it. The number bounds how many there
can be. The tree that was reached is given also when a directory cannot be made. -/
def makeDirectories : Nat → FileTree → FilePath → FileTree × Option WriteFault
  | 0, t, _ => (t, none)
  | steps + 1, t, path =>
    match t.ensureDirectory path with
    | .ok made => (made, none)
    | .error (.system .notFound name) =>
      if path.parent = path then (t, some (.system .notFound name))
      else
        match makeDirectories steps t path.parent with
        | (reached, some fault) => (reached, some fault)
        | (reached, none) =>
          match reached.ensureDirectory path with
          | .ok made => (made, none)
          | .error fault => (reached, some fault)
    | .error fault => (t, some fault)

def writeFile (t : FileTree) (path : FilePath) (text : Text) : FileTree × Option WriteFault :=
  let write (key : List Text) : FileTree × Option WriteFault :=
    match Text.encodeUtf8 text with
    | .error fault => (t.put key (.file []), some (.encoding fault))
    | .ok octets => (t.put key (.file octets), none)
  if path.hasNul then (t, some .nulInPath)
  else
    match t.place path with
    | .found _ .directory => (t, some (.system .isDirectory path.text))
    | .found key (.file _) => write key
    | .free key => write key
    | .broken kind => (t, some (.system kind path.text))

/-- Writes a text, ended by one line feed, and makes the directory that it needs. -/
def writeText (t : FileTree) (path : FilePath) (text : Text) : FileTree × Option WriteFault :=
  match makeDirectories (path.parts.length + 1) t path.parent with
  | (reached, some fault) => (reached, some fault)
  | (reached, none) => reached.writeFile path (Text.endedLine text)

end FileTree

end SchemaBook

import CrossConnect.FileTree.Node

/-!
The files that a command can see, as a value: a tree with a working directory in it, and what is
done with the files along paths. Paths are followed name by name, so each folder on the way has to
be there, also where the next name is `.` or `..`.
-/
namespace CrossConnect

structure FileTree where
  root : FileNode
  home : Location

namespace FileTree

def ofHome (home : Location) : FileTree :=
  { root := FileNode.put .emptyFolder home .emptyFolder, home }

/-! ### Following a path -/

/-- Where one stands in a tree: the entries that were passed on the way down, last first. -/
structure Standing where
  root : FileNode
  trail : List (String × FileNode) := []

namespace Standing

def node (s : Standing) : FileNode :=
  match s.trail with
  | [] => s.root
  | (_, node) :: _ => node

def location (s : Standing) : Location :=
  (s.trail.map Prod.fst).reverse

def step (s : Standing) (name : String) : Except FileError Standing :=
  match s.node with
  | .file _ => .error .notFolder
  | .folder entries =>
    if name = "." then .ok s
    else if name = ".." then .ok { s with trail := s.trail.tail }
    else if Path.maxNameBytes < name.utf8ByteSize then .error .nameTooLong
    else match entries.lookup name with
      | some node => .ok { s with trail := (name, node) :: s.trail }
      | none => .error .notFound

def descend (s : Standing) : Location → Standing
  | [] => s
  | name :: names =>
    match s.step name with
    | .ok s => s.descend names
    | .error _ => s

end Standing

def start (t : FileTree) (absolute : Bool) : Standing :=
  ({ root := t.root } : Standing).descend (if absolute then [] else t.home)

def follow (t : FileTree) (absolute : Bool) (names : List String) : Except FileError Standing :=
  names.reverse.foldlM Standing.step (t.start absolute)

def lookup (t : FileTree) (path : String) : Except FileError FileNode := do
  let p ← Path.ofString path
  return (← t.follow p.absolute p.names).node

def contains (t : FileTree) (path : String) : Bool :=
  (t.lookup path).isOk

def read (t : FileTree) (path : String) : Except FileError String := do
  match ← t.lookup path with
  | .file (some text) => .ok text
  | .file none => .error .notText
  | .folder _ => .error .isFolder

/-! ### Changes -/

def putUnder (t : FileTree) (s : Standing) (name : String) (node : FileNode) : FileTree :=
  { t with root := node.put (s.location ++ [name]) t.root }

def putFile (t : FileTree) (p : Path) (text : Option String) : Except FileError FileTree :=
  match p.names with
  | [] => .error .isFolder
  | name :: above => do
    let s ← t.follow p.absolute above
    match s.step name with
    | .ok found =>
      if found.node.isFolder then .error .isFolder else .ok (t.putUnder s name (.file text))
    | .error .notFound => .ok (t.putUnder s name (.file text))
    | .error e => .error e

def write (t : FileTree) (path text : String) : Except FileError FileTree := do
  t.putFile (← Path.ofString path) (some text)

def makeFolder (t : FileTree) (p : Path) : Except FileError FileTree :=
  match p.names with
  | [] => .error .alreadyExists
  | name :: above => do
    let s ← t.follow p.absolute above
    match s.step name with
    | .ok _ => .error .alreadyExists
    | .error .notFound => .ok (t.putUnder s name .emptyFolder)
    | .error e => .error e

def isFolder (t : FileTree) (p : Path) : Bool :=
  match t.follow p.absolute p.names with
  | .ok s => s.node.isFolder
  | .error _ => false

def ensureFolder (t : FileTree) (p : Path) : Except FileError FileTree :=
  match t.makeFolder p with
  | .error e => if t.isFolder p then .ok t else .error e
  | made => made

/-- Makes the first of the folders, and where one on the way to it is missing, the others before
it. -/
def ensureFolders (t : FileTree) : List Path → Except FileError FileTree
  | [] => .ok t
  | p :: above =>
    match t.ensureFolder p with
    | .error .notFound => do (← t.ensureFolders above).ensureFolder p
    | made => made

def makeFolders (t : FileTree) (path : String) : Except FileError FileTree := do
  if path.isEmpty then .ok t else t.ensureFolders (← Path.ofString path).ancestors

def add (t : FileTree) (path : String) (entry : FileNode.Entry) : Except FileError FileTree := do
  let p ← Path.ofString path
  match entry with
  | .folder => t.ensureFolders p.ancestors
  | .file text => (← t.ensureFolders p.ancestors.tail).putFile p text

def changesSince (t before : FileTree) : List (String × String) :=
  let own (files : FileTree) := (files.root.find? files.home).getD .emptyFolder
  ((own t).changesSince (own before)).filterMap fun (place, entry) =>
    match entry with
    | .file (some text) => some ("/".intercalate place, text)
    | _ => none

end FileTree
end CrossConnect

import CrossConnect.FileTree.Path

/-!
Folders and text files as a tree of values.
-/
namespace CrossConnect

inductive FileNode
  /-- A file with its text, unless its bytes are no text. -/
  | file (text : Option String)
  | folder (entries : List (String × FileNode))
deriving Inhabited

namespace FileNode

def emptyFolder : FileNode := folder []

def isFolder : FileNode → Bool
  | folder _ => true
  | file _ => false

def entries : FileNode → List (String × FileNode)
  | folder entries => entries
  | file _ => []

def putEntry (name : String) (node : FileNode) :
    List (String × FileNode) → List (String × FileNode)
  | [] => [(name, node)]
  | entry :: rest =>
    if entry.1 = name then (name, node) :: rest else entry :: putEntry name node rest

def put (node : FileNode) : Location → FileNode → FileNode
  | [], _ => node
  | name :: names, tree =>
    let child := (tree.entries.lookup name).getD emptyFolder
    folder (putEntry name (node.put names child) tree.entries)

def find? : Location → FileNode → Option FileNode
  | [], tree => some tree
  | name :: names, tree => (tree.entries.lookup name).bind (find? names)

inductive Entry
  | folder
  | file (text : Option String)
deriving DecidableEq

def entry : FileNode → Entry
  | folder _ => .folder
  | file text => .file text

mutual

def contents : FileNode → List (Location × Entry)
  | file _ => []
  | folder entries => contentsOf entries

def contentsOf : List (String × FileNode) → List (Location × Entry)
  | [] => []
  | (name, node) :: rest =>
    ([name], node.entry) :: (node.contents.map fun (place, entry) => (name :: place, entry)) ++
      contentsOf rest

end

def changesSince (tree before : FileNode) : List (Location × Entry) :=
  tree.contents.filter fun (place, entry) => (before.find? place).map FileNode.entry ≠ some entry

end FileNode
end CrossConnect

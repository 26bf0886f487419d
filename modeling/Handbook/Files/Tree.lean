import Handbook.Files.Basic
import Handbook.Text.Blank

/-!
Directory trees. A tree holds files and directories under their names from the root down. A path is
followed name by name from the root, and every name on the way must be a directory.
-/

namespace Handbook

/-- The names that lead from the root to a file or a directory. -/
abbrev FilePlace := List String

/-- What a place of a tree holds. -/
inductive FileNode where
  | file (bytes : ByteArray)
  | directory

def FileNode.item : FileNode → DirectoryItem
  | .file bytes => .file (some bytes)
  | .directory => .directory

structure FileTree where
  nodes : List (FilePlace × FileNode) := []
deriving Inhabited

namespace FileTree

/-- What lies at a place; the root is a directory. -/
def find? (tree : FileTree) (place : FilePlace) : Option FileNode :=
  if place.isEmpty then some .directory else tree.nodes.lookup place

def isDirectory (tree : FileTree) (place : FilePlace) : Bool :=
  match tree.find? place with
  | some .directory => true
  | _ => false

def put (tree : FileTree) (place : FilePlace) (node : FileNode) : FileTree :=
  ⟨tree.nodes.filter (fun known => known.1 != place) ++ [(place, node)]⟩

/-- The tree with a node below a place, and directories on the way to it. Two points go up to the
directory above; there is nothing to plant above the root. -/
def plant (tree : FileTree) (node : FileNode) (place : FilePlace) : List String → FileTree
  | [] => tree
  | name :: rest =>
    if name = ".." then
      if place.isEmpty then tree else tree.plant node place.dropLast rest
    else if rest.isEmpty then tree.put (place ++ [name]) node
    else (tree.put (place ++ [name]) .directory).plant node (place ++ [name]) rest

def namesOf (path : String) : List String :=
  (Text.pieces '/' path.toList).map String.ofList

def insert (tree : FileTree) (path : String) (node : FileNode) : FileTree :=
  tree.plant node [] ((namesOf path).filter fun name => name != "" && name != ".")

/-- Follows names from a place. An empty name and a point stay at a directory, two points go up. -/
def follow? (tree : FileTree) (place : FilePlace) : List String → Option FilePlace
  | [] => some place
  | name :: rest =>
    if !tree.isDirectory place then none
    else if name = "" ∨ name = "." then tree.follow? place rest
    else if name = ".." then
      if place.isEmpty then none else tree.follow? place.dropLast rest
    else tree.follow? (place ++ [name]) rest

/-- The place of a path from the root. The empty path and paths that start with a slash lead out of
the tree. -/
def placeOf? (tree : FileTree) (path : String) : Option FilePlace :=
  if path = "" ∨ path.startsWith "/" then none else tree.follow? [] (namesOf path)

def read? (tree : FileTree) (path : String) : Option ByteArray := do
  match ← tree.find? (← tree.placeOf? path) with
  | .file bytes => some bytes
  | .directory => none

/-- The directory entry that a node is for the directory at a place. -/
def entryOf? (place : FilePlace) (node : FilePlace × FileNode) : Option DirectoryEntry :=
  match node.1.reverse with
  | [] => none
  | name :: above =>
    if above.reverse = place then some ⟨name.toUTF8, node.2.item⟩ else none

def list? (tree : FileTree) (path : String) : Option (List DirectoryEntry) := do
  let place ← tree.placeOf? path
  if tree.isDirectory place then return tree.nodes.filterMap (entryOf? place)
  else none

/-- What the tree answers to a program that runs at its root. -/
def files (tree : FileTree) : Files where
  read? := tree.read?
  list? := tree.list?

end FileTree

end Handbook

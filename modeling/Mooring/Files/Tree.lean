import Mooring.OrderedMap
import Mooring.Text.Search

set_option autoImplicit false

/-!
# Files and directories

A tree of files as a list of paths with what stands there. Writing wants the directory to be there
and no directory in the place of the file; renaming puts one file in the place of another.
Paths are texts; `Files.parts` are the names that lead to a place, so that `a//b` and `./a/b` are
the same place. In which order a directory tells the names in it is left open (`FileTree.Listing`).
-/

namespace Mooring

namespace Files

/-- Take one name of a path: two points lead back, one stays. -/
def step (parts : List String) (name : String) : List String :=
  if name = "" ∨ name = "." then parts
  else if name = ".." then parts.dropLast
  else parts ++ [name]

/-- The names that lead to the place of a path. A path that starts with a slash leads from a root of
its own. -/
def parts (path : String) : List String :=
  let root := if path.toList.head? = some '/' then ["/"] else []
  ((Text.splitAt '/' path.toList).map String.ofList).foldl step root

/-- A name below a directory; a name that starts with a slash stands for itself. -/
def join (dir name : String) : String :=
  if name.toList.head? = some '/' ∨ dir.isEmpty then name
  else if dir.toList.getLast? = some '/' then dir ++ name
  else dir ++ "/" ++ name

/-- Whether a file name ends in a point and the given extension, with something before the point. -/
def hasExtension (ext name : String) : Bool :=
  match Text.splitAt '.' name.toList with
  | [_] => false
  | [] :: [_] => false
  | pieces => pieces.getLast? = some ext.toList

end Files

/-- What stands at a place. -/
inductive FileNode where
  | file (text : String)
  | directory
  deriving DecidableEq, Repr

/-- Files and directories by place. -/
structure FileTree where
  nodes : List (List String × FileNode) := []
  deriving DecidableEq, Repr

namespace FileTree

/-- What stands at a place; the roots are directories. -/
def at? (t : FileTree) (place : List String) : Option FileNode :=
  if place = [] ∨ place = ["/"] then some .directory else t.nodes.lookup place

/-- Put something at a place. -/
def put (t : FileTree) (place : List String) (node : FileNode) : FileTree :=
  ⟨t.nodes.filter (fun n => n.1 ≠ place) ++ [(place, node)]⟩

/-- Whether anything stands at a path. -/
def exists? (t : FileTree) (path : String) : Bool :=
  (t.at? (Files.parts path)).isSome

/-- Whether a directory stands at a path. -/
def isDirectory (t : FileTree) (path : String) : Bool :=
  t.at? (Files.parts path) = some .directory

/-- The text of the file at a path. -/
def read? (t : FileTree) (path : String) : Option String :=
  match t.at? (Files.parts path) with
  | some (.file text) => some text
  | _ => none

/-- Write a file: its directory has to be there, and no directory in its place. -/
def write? (t : FileTree) (path text : String) : Option FileTree :=
  let place := Files.parts path
  if t.at? place.dropLast = some .directory ∧ t.at? place ≠ some .directory then
    some (t.put place (.file text))
  else none

/-- Make the directories that lead to a place, where they are missing, on from `done`. -/
def makeDirsFrom? (t : FileTree) (done : List String) : List String → Option FileTree
  | [] => some t
  | name :: rest =>
    let place := done ++ [name]
    match t.at? place with
    | some .directory => makeDirsFrom? t place rest
    | some (.file _) => none
    | none => makeDirsFrom? (t.put place .directory) place rest

/-- Make a directory and those that lead to it; a file in the way is an error. -/
def makeDirs? (t : FileTree) (path : String) : Option FileTree :=
  t.makeDirsFrom? [] (Files.parts path)

/-- Make the directories that lead to a path. -/
def makeParents? (t : FileTree) (path : String) : Option FileTree :=
  t.makeDirsFrom? [] (Files.parts path).dropLast

/-- Move a file in the place of another; a directory there is an error. -/
def rename? (t : FileTree) (source target : String) : Option FileTree :=
  let place := Files.parts target
  match t.at? (Files.parts source) with
  | some (.file text) =>
    if t.at? place.dropLast = some .directory ∧ t.at? place ≠ some .directory then
      some (FileTree.put ⟨t.nodes.filter fun n => n.1 ≠ Files.parts source⟩ place (.file text))
    else none
  | _ => none

/-- The names in a directory, as they stand in the tree. -/
def entries (t : FileTree) (path : String) : List String :=
  let place := Files.parts path
  t.nodes.filterMap fun n => if n.1.dropLast = place then n.1.getLast? else none

/-- How directories tell their names: all of them, in an order of their own. -/
class Listing where
  names : FileTree → String → List String
  perm : ∀ t path, (names t path).Perm (t.entries path)

/-- Where nothing else is said, names are told by the alphabet. -/
instance : Listing where
  names t path := (t.entries path).mergeSort fun a b => a ≤ b
  perm _ _ := List.mergeSort_perm ..

/-- The names in a directory. -/
def names [Listing] (t : FileTree) (path : String) : List String :=
  Listing.names t path

/-- The tree without a directory and all that is in it. -/
def remove (t : FileTree) (path : String) : FileTree :=
  ⟨t.nodes.filter fun n => !(Files.parts path).isPrefixOf n.1⟩

end FileTree

end Mooring

import Mooring.Files.Tree
import Mooring.Store.Basic

set_option autoImplicit false

/-!
# A store in a directory

Every record is a file named by its identifier. It is written beside its place first and then moved
into it, so that the file of a record is always whole. Opening a directory loads every file that
reads as a record and passes over the others.
-/

namespace Mooring.Store

/-- The file of a record. -/
def recordPath (dir : String) (id : Int) : String :=
  Files.join dir s!"{id}.json"

/-- The file a record is written to first. -/
def draftPath (dir : String) (id : Int) : String :=
  Files.join dir s!"{id}.json.tmp"

/-- Save a record in a directory. -/
def saveIn (dir : String) (c : Container) (files : FileTree) : Except StoreError Unit × FileTree :=
  match files.write? (draftPath dir c.databaseId) c.text with
  | none => (.error (.unusable (draftPath dir c.databaseId)), files)
  | some files =>
    match files.rename? (draftPath dir c.databaseId) (recordPath dir c.databaseId) with
    | none => (.error (.unusable (recordPath dir c.databaseId)), files)
    | some files => (.ok (), files)

/-- The shelf of a directory. -/
def directoryShelf (dir : String) : Shelf FileTree :=
  ⟨saveIn dir⟩

/-- The store with a loaded record. -/
def load (s : Store) (c : Container) : Store :=
  (s.indexed c).put c

/-- The store with the record of a file, if the file reads as one. A directory in its place is an
error. -/
def loadFile (dir : String) (files : FileTree) (s : Store) (name : String) :
    Except StoreError Store :=
  if !Files.hasExtension "json" name then .ok s
  else
    match files.read? (Files.join dir name) with
    | none => .error (.unusable (Files.join dir name))
    | some text =>
      match Container.ofText? text with
      | some c => .ok (s.load c)
      | none => .ok s

/-- The greatest identifier of the records, if there are any. -/
def greatestId? (s : Store) : Option Int :=
  s.records.getLast?.map Container.databaseId

/-- Open a directory, made if it is missing, with the records in it. -/
def openIn [FileTree.Listing] (dir : String) (files : FileTree) :
    Except StoreError Store × FileTree :=
  match files.makeDirs? dir with
  | none => (.error (.unusable dir), files)
  | some files =>
    match (files.names dir).foldlM (loadFile dir files) Store.empty with
    | .error e => (.error e, files)
    | .ok s => (.ok { s with nextId := (s.greatestId?.map nextAfter).getD 1 }, files)

end Mooring.Store

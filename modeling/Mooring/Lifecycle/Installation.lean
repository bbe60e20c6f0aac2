import Mooring.Lifecycle.LogCapture
import Mooring.Lifecycle.World
import Mooring.Store.Directory

set_option autoImplicit false

/-!
# Installations

An installation keeps its records, logs, server configuration and build directories in files, and
names new tokens and directories from a supply. It gives routines their surroundings.
-/

namespace Mooring

/-- An installation over an engine with a state `ε`. Records of an installation without a store
directory are not saved. -/
structure Installation (ε : Type) where
  now : Instant
  engine : Engine ε
  storeDir : Option String
  logDir : String
  serverPath : String
  buildPath : String
  tokens : Nat → Except (List String) String
  directoryNames : Nat → String

namespace Installation

variable {ε : Type} (i : Installation ε)

/-- Do something with the files. -/
def withFiles {α : Type} (act : FileTree → α × FileTree) (s : Outside ε) : α × Outside ε :=
  let (r, files) := act s.files
  (r, { s with files })

/-- Make the next build directory. The answer is its path. -/
def makeBuildDirectory (s : Outside ε) : Except StoreError String × Outside ε :=
  let path := Files.join i.buildPath (i.directoryNames s.drawn)
  match s.files.makeDirs? path with
  | none => (.error (.unusable path), { s with drawn := s.drawn + 1 })
  | some files => (.ok path, { s with files, drawn := s.drawn + 1 })

/-- The surroundings of the routines of an installation. -/
def surroundings : Surroundings (Outside ε) where
  now _ := i.now
  shelf :=
    match i.storeDir with
    | some dir => ⟨fun c => withFiles ((Store.directoryShelf dir).save c)⟩
    | none => .none
  engine call s :=
    let (r, state) := i.engine call s.engine
    (r, { s with engine := state })
  finalizer := LogCapture.finalize i.engine i.logDir
  loadServer s := Server.load i.serverPath s.files
  saveCheckTime time := withFiles (Server.saveCheckTime i.serverPath time)
  issueToken _ s := (i.tokens s.drawn, { s with drawn := s.drawn + 1 })
  makeBuildDirectory := i.makeBuildDirectory

/-- The world in which an installation starts: the saved records, and nothing else. -/
def start [FileTree.Listing] (s : Outside ε) : Except StoreError (World (Outside ε)) × Outside ε :=
  match i.storeDir with
  | none => (.ok { store := .empty, outside := s }, s)
  | some dir =>
    match Store.openIn dir s.files with
    | (.error e, files) => (.error e, { s with files })
    | (.ok store, files) => (.ok { store, outside := { s with files } }, { s with files })

end Installation

end Mooring

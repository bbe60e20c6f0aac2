import Mooring.Error
import Mooring.Files.Tree

set_option autoImplicit false

/-!
# Capturing logs

The finalizer of this system: what a container has written is fetched from the engine and kept in a
directory named by the record. Empty outputs leave no file.
-/

namespace Mooring

/-- The state of an engine together with the files of this system, and how many names were drawn for
what is new. -/
structure Outside (ε : Type) where
  engine : ε
  files : FileTree
  drawn : Nat := 0

namespace LogCapture

variable {ε : Type}

/-- Write the outputs that are not empty to a directory. The value lists the files. -/
def write (dir : String) : List (String × String) → FileTree →
    Except (List String) (List String) × FileTree
  | [], files => (.ok [], files)
  | (name, text) :: rest, files =>
    if text.isEmpty then write dir rest files
    else
      let path := Files.join dir name
      match files.write? path text with
      | none => (.error [s!"Failed to write {path}"], files)
      | some files =>
        match write dir rest files with
        | (.ok paths, files) => (.ok (path :: paths), files)
        | (.error e, files) => (.error e, files)

/-- Keep what a container has written. -/
def keep (dir : String) (logs : ContainerLogs) (files : FileTree) :
    Except (List String) (List String) × FileTree :=
  match files.makeDirs? dir with
  | none => (.error [s!"Failed to create log directory: {dir}"], files)
  | some files => write dir [("stdout.log", logs.stdout), ("stderr.log", logs.stderr)] files

/-- The call that fetches what a container has written. -/
def fetch (engine : Engine ε) (c : Container) (id : String) (s : ε) :
    Except EngineError ContainerLogs × ε :=
  if c.swarm then engine (.serviceLogs id) s else engine (.containerLogs id) s

/-- Fetch and keep what a container has written; there is nothing of one that the engine does not
know. -/
def finalize (engine : Engine ε) (logDir : String) (c : Container) (s : Outside ε) :
    Except (List String) (List String) × Outside ε :=
  match c.externalId? with
  | none => (.ok [], s)
  | some id =>
    match fetch engine c id s.engine with
    | (.error e, state) =>
      (.error (s!"Failed to fetch logs for {id}" :: (Error.engine e).causes),
        { s with engine := state })
    | (.ok logs, state) =>
      let (r, files) := keep (Files.join logDir (toString c.databaseId)) logs s.files
      (r, { s with engine := state, files })

end LogCapture

end Mooring

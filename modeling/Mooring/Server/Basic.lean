import Mooring.Container.Report
import Mooring.Files.Tree
import Mooring.Json.Writer

set_option autoImplicit false

/-!
# The server of the engine

Where the engine is reached, whether it is a swarm, how directories of the site are seen from it,
and when it was last asked for events. The configuration is kept in a file.
-/

namespace Mooring

/-- Directories of the site as seen from the engine: one prefix in the place of another. -/
structure PathMapping where
  sitePrefix : String
  enginePrefix : String
  deriving DecidableEq, Repr

namespace PathMapping

/-- A text without the slashes at its end. -/
def withoutSlashes (s : String) : String :=
  String.ofList (s.toList.reverse.dropWhile (· == '/')).reverse

/-- A path of the site as the engine sees it. Only the prefix itself and paths below it change, and
an empty prefix changes nothing. -/
def toEngine (m : PathMapping) (path : String) : String :=
  if m.sitePrefix.isEmpty then path
  else
    match Text.dropStart? m.sitePrefix.toList path.toList with
    | some rest =>
      if rest.isEmpty ∨ rest.head? = some '/' then
        withoutSlashes m.enginePrefix ++ String.ofList rest
      else path
    | none => path

/-- The document of a mapping. -/
def toJson (m : PathMapping) : Json :=
  .obj [("sitePrefix", .str m.sitePrefix), ("enginePrefix", .str m.enginePrefix)]

/-- The mapping of a document. -/
def ofJson? (v : Json) : Option PathMapping := do
  let r ← Record.ofJson? ["sitePrefix", "enginePrefix"] v
  return {
    sitePrefix := ← r.need "sitePrefix" Json.asString?
    enginePrefix := ← r.need "enginePrefix" Json.asString? }

/-- A path as the engine sees it, with or without a mapping. -/
def apply (m : Option PathMapping) (path : String) : String :=
  match m with
  | some m => m.toEngine path
  | none => path

end PathMapping

/-- The server of an engine. -/
structure Server where
  name : String := ""
  host : String := ""
  certPath : Option String := none
  swarmMode : Bool := false
  lastEventCheck : Option Instant := none
  mapping : Option PathMapping := none
  deriving DecidableEq

namespace Server

/-- The document of a server. -/
def toJson (s : Server) : Json :=
  .obj [("name", .str s.name), ("host", .str s.host), ("certPath", Json.ofOption .str s.certPath),
    ("swarmMode", .bool s.swarmMode),
    ("lastEventCheckTime", Json.ofOption Instant.toJson s.lastEventCheck),
    ("pathTranslation", Json.ofOption PathMapping.toJson s.mapping)]

/-- The server of a document. -/
def ofJson? (v : Json) : Option Server := do
  let r ← Record.ofJson? ["name", "host", "certPath", "swarmMode", "lastEventCheckTime",
    "pathTranslation"] v
  return {
    name := ← r.orElse "name" "" Json.asString?
    host := ← r.orElse "host" "" Json.asString?
    certPath := ← r.option "certPath" Json.asString?
    swarmMode := ← r.orElse "swarmMode" false Json.asBool?
    lastEventCheck := ← r.option "lastEventCheckTime" Instant.ofJson?
    mapping := ← r.option "pathTranslation" PathMapping.ofJson? }

end Server

/-! ## The configuration file -/

/-- Why the configuration of the server cannot be read or written. -/
inductive ServerError where
  | unreadable (path : String)
  | malformed (path : String)
  | noDirectory (path : String)
  | unwritable (path : String)
  | notMoved (draft path : String)
  | notConfigured
  deriving DecidableEq, Repr

/-- The wording of a server error. -/
def ServerError.message : ServerError → String
  | unreadable path => s!"Failed to read server config: {path}"
  | malformed path => s!"Failed to parse server config: {path}"
  | noDirectory path => s!"Failed to create directory: {path}"
  | unwritable path => s!"Failed to write {path}"
  | notMoved draft path => s!"Failed to rename {draft} to {path}"
  | notConfigured => "Cannot record event check time: no server is configured"

namespace Server

/-- A path without its last name. -/
def directoryOf (path : String) : String :=
  let name := Text.afterLast '/' path.toList
  let dir := path.toList.take (path.toList.length - name.length)
  let trimmed := (dir.reverse.dropWhile (· == '/')).reverse
  String.ofList (if trimmed.isEmpty then dir.take 1 else trimmed)

/-- The file the configuration is written to first. -/
def draftPath (path : String) : String :=
  path ++ ".tmp"

/-- The configured server, if there is one. -/
def load (path : String) (files : FileTree) : Except ServerError (Option Server) :=
  if !files.exists? path then .ok none
  else
    match files.read? path with
    | none => .error (.unreadable path)
    | some text =>
      match (Json.readAll? text).bind ofJson? with
      | some s => .ok (some s)
      | none => .error (.malformed path)

/-- Write the configuration: beside its place first, then moved into it. -/
def save (path : String) (s : Server) (files : FileTree) : Except ServerError Unit × FileTree :=
  match files.makeParents? path with
  | none => (.error (.noDirectory (directoryOf path)), files)
  | some files =>
    match files.write? (draftPath path) s.toJson.pretty with
    | none => (.error (.unwritable (draftPath path)), files)
    | some files =>
      match files.rename? (draftPath path) path with
      | none => (.error (.notMoved (draftPath path) path), files)
      | some files => (.ok (), files)

/-- Note the time up to which the engine was asked for events. -/
def saveCheckTime (path : String) (t : Instant) (files : FileTree) :
    Except ServerError Unit × FileTree :=
  match load path files with
  | .error e => (.error e, files)
  | .ok none => (.error .notConfigured, files)
  | .ok (some s) => save path { s with lastEventCheck := some t } files

end Server

end Mooring

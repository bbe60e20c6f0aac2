import Mooring.Command.Basic
import Mooring.Json.Record

set_option autoImplicit false

/-!
# Site objects

Projects, subjects, sessions, scans and assessors are documents kept by a site, which finds one by
its type and identifier.
-/

namespace Mooring

/-- Why a site could not answer. -/
inductive SiteError where
  | unreadable (path : String)
  | malformed (path : String)
  | refused (causes : List String)
  deriving DecidableEq, Repr

namespace SiteError

/-- The causes of a site error, the outermost first. -/
def causes : SiteError → List String
  | unreadable path => [s!"Failed to read site object {path}"]
  | malformed path => [s!"Failed to parse site object {path}"]
  | refused causes => causes

/-- The wording of a site error: its outermost cause. -/
def message (e : SiteError) : String :=
  e.causes.headD ""

/-- The wording of a site error with all its causes. -/
def fullMessage (e : SiteError) : String :=
  ": ".intercalate e.causes

end SiteError

/-- Finds the object of a type and identifier, if there is one. -/
abbrev SiteLookup : Type :=
  InputType → String → Except SiteError (Option Json)

namespace SiteLookup

/-- The site without objects. -/
def nothing : SiteLookup :=
  fun _ _ => .ok none

/-- The site of the listed objects. -/
def ofList (objects : List ((InputType × String) × Json)) : SiteLookup :=
  fun type id => .ok (objects.lookup (type, id))

/-- The site that always fails. -/
def failing (e : SiteError) : SiteLookup :=
  fun _ _ => .error e

end SiteLookup

/-- A resource of a site object: a directory with a label. -/
structure ResourceEntry where
  label : Option String := none
  directory : Option String := none
  deriving DecidableEq, Repr

/-- The resource of a document. -/
def ResourceEntry.ofJson? (v : Json) : Option ResourceEntry := do
  let r ← Record.ofJson? ["label", "directory"] v
  return {
    label := ← r.option "label" Json.asString?
    directory := ← r.option "directory" Json.asString? }

/-- The resources of the document of a site object. -/
def resourcesOf? (v : Json) : Option (List ResourceEntry) := do
  let r ← Record.ofJson? ["resources"] v
  r.orElse "resources" [] (Json.asList? ResourceEntry.ofJson?)

end Mooring

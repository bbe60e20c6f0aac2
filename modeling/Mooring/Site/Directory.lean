import Mooring.Files.Tree
import Mooring.Json.Reader
import Mooring.Site.Basic

set_option autoImplicit false

/-!
# A site in a directory

The object of a type and identifier is the file of that name in the directory of the type. An
identifier that could lead out of that directory names nothing.
-/

namespace Mooring.SiteLookup

/-- Whether an identifier is a plain file name. -/
def isPlainName (id : String) : Bool :=
  !id.toList.contains '/' && !Text.occursIn ['.', '.'] id.toList

/-- The file of an object. -/
def objectPath (root : String) (type : InputType) (id : String) : String :=
  Files.join (Files.join root type.name) s!"{id}.json"

/-- The site of a directory. -/
def inDirectory (root : String) (files : FileTree) : SiteLookup := fun type id =>
  let path := objectPath root type id
  if !isPlainName id || !files.exists? path then .ok none
  else
    match files.read? path with
    | none => .error (.unreadable path)
    | some text =>
      match Json.read? text with
      | some v => .ok (some v)
      | none => .error (.malformed path)

/-- An identifier that is not a plain file name names nothing. -/
theorem inDirectory_of_not_isPlainName {root : String} {files : FileTree} {type : InputType}
    {id : String} (h : isPlainName id = false) : inDirectory root files type id = .ok none := by
  simp [inDirectory, h]

end Mooring.SiteLookup

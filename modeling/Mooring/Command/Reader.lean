import Mooring.Command.Check
import Mooring.Command.Document
import Mooring.Files.Tree
import Mooring.Json.Relaxed

set_option autoImplicit false

/-!
# Reading commands

A definition is relaxed JSON: one object, with the fields of a command, free of faults. It may stand
in a file.
-/

namespace Mooring.Command

/-- The command a text defines. -/
def read (text : String) : Except CommandError Command :=
  match Json.Relaxed.read? text with
  | none => .error .notJson
  | some (.obj members) =>
    match ofJson? (.obj members) with
    | none => .error .wrongShape
    | some c =>
      match c.check with
      | .ok () => .ok c
      | .error e => .error e
  | some _ => .error .notObject

/-- The command a file defines. -/
def load (path : String) (files : FileTree) : Except CommandError Command :=
  if !files.exists? path then .error (.notFound path)
  else
    match files.read? path with
    | some text => read text
    | none => .error .unreadable

/-- A command that was read has no faults. -/
theorem faults_of_read {text : String} {c : Command} (h : read text = .ok c) : c.faults = [] := by
  unfold read at h
  split at h
  · simp at h
  · split at h
    · simp at h
    · next c' _ =>
      split at h
      · next hc =>
        injection h with h
        exact h ▸ (check_eq_ok_iff c').1 hc
      · simp at h
  · simp at h

end Mooring.Command

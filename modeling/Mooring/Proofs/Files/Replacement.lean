import Mooring.Proofs.Files.Tree

set_option autoImplicit false

/-!
# Replacing a file by way of a draft

A file is written under another name in its directory and then moved to its place. What stands at
any place afterwards is said by `lookup_replaced`.
-/

namespace Mooring.FileTree

variable {files files' : FileTree} {dir draft name : String}

theorem at?_congr {place : List String}
    (h : files'.nodes.lookup place = files.nodes.lookup place) :
    files'.at? place = files.at? place := by
  by_cases hroot : IsRoot place
  · rw [at?_of_isRoot _ hroot, at?_of_isRoot _ hroot]
  · rw [at?_of_not_isRoot _ hroot, at?_of_not_isRoot _ hroot, h]

/-- Writing a file changes no other place. -/
theorem lookup_write?_of_ne {path text : String} {place : List String}
    (h : files.write? path text = some files') (hne : place ≠ Files.parts path) :
    files'.nodes.lookup place = files.nodes.lookup place := by
  unfold write? at h
  dsimp only at h
  split at h
  · rw [← Option.some.inj h, lookup_put, if_neg hne]
  · cases h

/-- Moving a file changes no place but the two. -/
theorem lookup_rename?_of_ne {source target : String} {place : List String}
    (h : files.rename? source target = some files') (hsource : place ≠ Files.parts source)
    (htarget : place ≠ Files.parts target) :
    files'.nodes.lookup place = files.nodes.lookup place := by
  unfold rename? at h
  dsimp only at h
  split at h
  · split at h
    · rw [← Option.some.inj h, lookup_put, if_neg htarget, lookup_filter_ne, if_neg hsource]
    · cases h
  · cases h

/-- What stands under a name does not change where nothing is put in its place. -/
theorem below?_put {node : FileNode} {other : String} (hdraft : Files.IsName draft)
    (hother : other ≠ draft) :
    (files.put (Files.parts dir ++ [draft]) node).below? dir other = files.below? dir other := by
  unfold below?
  rw [at?_put _ (not_isRoot_below _ hdraft), if_neg]
  intro hplace
  exact hother (by simpa using hplace)

/-- The files after a draft was written and moved to the place of a file. -/
def replaced (dir draft name text : String) (files : FileTree) : FileTree :=
  FileTree.put
    ⟨(files.put (Files.parts dir ++ [draft]) (.file text)).nodes.filter
      fun n => n.1 ≠ Files.parts dir ++ [draft]⟩
    (Files.parts dir ++ [name]) (.file text)

theorem lookup_replaced (dir draft name text : String) (files : FileTree) (place : List String) :
    (replaced dir draft name text files).nodes.lookup place =
      if place = Files.parts dir ++ [name] then some (.file text)
      else if place = Files.parts dir ++ [draft] then none
      else files.nodes.lookup place := by
  unfold replaced
  rw [lookup_put, lookup_filter_ne, lookup_put]
  by_cases hname : place = Files.parts dir ++ [name]
  · rw [if_pos hname, if_pos hname]
  · rw [if_neg hname, if_neg hname]
    by_cases hdraft : place = Files.parts dir ++ [draft]
    · rw [if_pos hdraft, if_pos hdraft]
    · rw [if_neg hdraft, if_neg hdraft, if_neg hdraft]

/-- A draft that was written is moved, unless a directory stands in the place of the file. -/
theorem rename?_put (hdraft : Files.IsName draft) (hname : Files.IsName name)
    (hne : name ≠ draft) (hdir : files.Stands dir) (text : String) :
    (files.put (Files.parts dir ++ [draft]) (.file text)).rename? (Files.join dir draft)
        (Files.join dir name) =
      if files.below? dir name = some .directory then none
      else some (replaced dir draft name text files) := by
  have hbase : (files.put (Files.parts dir ++ [draft]) (.file text)).at? (Files.parts dir) =
      some .directory := by
    rw [at?_put _ (not_isRoot_below _ hdraft), if_neg, hdir.at?]
    intro hplace
    have hlength := congrArg List.length hplace
    simp at hlength
  have hwritten : (files.put (Files.parts dir ++ [draft]) (.file text)).below? dir draft =
      some (.file text) := by
    unfold below?
    rw [at?_put _ (not_isRoot_below _ hdraft), if_pos rfl]
  have hmove := rename?_join hdraft hname hbase hwritten
  rw [below?_put hdraft hne] at hmove
  exact hmove

end Mooring.FileTree

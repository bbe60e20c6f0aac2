import Mooring.Files.Tree

set_option autoImplicit false

/-!
# Places in a tree of files

What stands where after something was put, moved or made. A name without a slash that is no step of
a path leads from a directory to the place right below it (`parts_join`), so that what a directory
holds can be said in terms of its place and a name (`mem_entries_iff`). Making a directory touches
no place below it (`lookup_makeDirs?_below`).
-/

namespace Mooring

namespace Text

theorem splitFrom_of_notMem {sep : Char} {cs : List Char} (h : sep ∉ cs) (piece : List Char) :
    splitFrom sep piece cs = [piece.reverse ++ cs] := by
  induction cs generalizing piece with
  | nil => simp [splitFrom]
  | cons c cs ih =>
    simp only [List.mem_cons, not_or] at h
    rw [splitFrom, if_neg (Ne.symm h.1), ih h.2]
    simp

/-- A text without the separator is the last piece of what it follows. -/
theorem splitFrom_append_cons {sep : Char} (cs : List Char) {last : List Char} (h : sep ∉ last)
    (piece : List Char) :
    splitFrom sep piece (cs ++ sep :: last) = splitFrom sep piece cs ++ [last] := by
  induction cs generalizing piece with
  | nil =>
    have hlast : splitFrom sep [] last = [last] := splitFrom_of_notMem h []
    simp [splitFrom, hlast]
  | cons c cs ih =>
    simp only [List.cons_append, splitFrom]
    by_cases hc : c = sep
    · rw [if_pos hc, if_pos hc, ih, List.cons_append]
    · rw [if_neg hc, if_neg hc, ih]

theorem splitAt_append_cons {sep : Char} (cs : List Char) {last : List Char} (h : sep ∉ last) :
    splitAt sep (cs ++ sep :: last) = splitAt sep cs ++ [last] :=
  splitFrom_append_cons cs h []

end Text

/-! ## Paths -/

namespace Files

/-- A name that leads one step down: it has no slash and is no other step of a path. -/
structure IsName (name : String) : Prop where
  slash : '/' ∉ name.toList
  ne_empty : name ≠ ""
  ne_stay : name ≠ "."
  ne_back : name ≠ ".."

variable {dir name : String}

theorem step_of_isName (h : IsName name) (places : List String) :
    step places name = places ++ [name] := by
  unfold step
  rw [if_neg (by simp [h.ne_empty, h.ne_stay]), if_neg h.ne_back]

theorem step_empty (places : List String) : step places "" = places := by
  simp [step]

theorem IsName.ne_slash (h : IsName name) : name ≠ "/" := by
  rintro rfl
  exact h.slash (by simp)

theorem head?_of_isName (h : IsName name) : name.toList.head? ≠ some '/' := by
  intro hhead
  exact h.slash (List.mem_of_mem_head? hhead)

/-- The place of a path that ends in a slash and a name is below the place of the rest. -/
theorem parts_append_slash (front : List Char) (h : IsName name)
    (root : List String) :
    ((Text.splitAt '/' (front ++ '/' :: name.toList)).map String.ofList).foldl step root =
      ((Text.splitAt '/' front).map String.ofList).foldl step root ++ [name] := by
  rw [Text.splitAt_append_cons front h.slash, List.map_append, List.foldl_append]
  show step _ (String.ofList name.toList) = _
  rw [String.ofList_toList]
  exact step_of_isName h _

/-- A name below a directory stands right below the place of the directory. -/
theorem parts_join (dir : String) (h : IsName name) : parts (join dir name) = parts dir ++ [name] := by
  have hhead := head?_of_isName h
  by_cases hempty : dir = ""
  · -- below the empty path stands the name itself
    subst hempty
    have hjoin : join "" name = name := by simp [join]
    have hparts : parts "" = [] := by decide +kernel
    have hsplit : Text.splitAt '/' name.toList = [name.toList] :=
      Text.splitFrom_of_notMem h.slash []
    rw [hjoin, hparts]
    unfold parts
    rw [if_neg hhead, hsplit]
    show step [] (String.ofList name.toList) = _
    rw [String.ofList_toList]
    exact step_of_isName h []
  · have hlist : dir.toList ≠ [] := by simpa using hempty
    have hisEmpty : dir.isEmpty = false := by simpa using hempty
    by_cases hlast : dir.toList.getLast? = some '/'
    · -- the slash at the end of the directory separates the name
      obtain ⟨front, hfront⟩ := List.getLast?_eq_some_iff.1 hlast
      have hjoin : (join dir name).toList = front ++ '/' :: name.toList := by
        simp [join, hhead, hisEmpty, hfront]
      have hroot : (join dir name).toList.head? = dir.toList.head? := by
        rw [hjoin, hfront]
        cases front <;> rfl
      have hdir : Text.splitAt '/' dir.toList = Text.splitAt '/' front ++ [[]] := by
        rw [hfront]
        exact Text.splitAt_append_cons front (by simp)
      unfold parts
      rw [hroot, hjoin, parts_append_slash front h, hdir, List.map_append, List.foldl_append]
      exact congrArg (· ++ [name]) (step_empty _).symm
    · have hjoin : (join dir name).toList = dir.toList ++ '/' :: name.toList := by
        simp [join, hhead, hisEmpty, hlast]
      have hroot : (join dir name).toList.head? = dir.toList.head? := by
        rw [hjoin]
        cases hd : dir.toList with
        | nil => exact absurd hd hlist
        | cons c cs => rfl
      unfold parts
      rw [hroot, hjoin, parts_append_slash dir.toList h]

end Files

/-! ## What stands at a place -/

namespace FileTree

variable {t u : FileTree} {place other : List String} {dir name : String}

theorem lookup_filter_ne (nodes : List (List String × FileNode)) (place other : List String) :
    (nodes.filter fun n => n.1 ≠ place).lookup other =
      if other = place then none else nodes.lookup other := by
  induction nodes with
  | nil => simp
  | cons n rest ih =>
    obtain ⟨key, node⟩ := n
    by_cases hk : key = place
    · rw [List.filter_cons_of_neg (by simp [hk]), ih, List.lookup_cons]
      by_cases ho : other = place
      · simp [ho]
      · have hb : (other == key) = false := by simpa [hk] using ho
        simp [ho, hb]
    · rw [List.filter_cons_of_pos (by simp [hk]), List.lookup_cons, List.lookup_cons, ih]
      by_cases ho : other = place
      · subst ho
        have hb : (other == key) = false := by simpa using fun e => hk e.symm
        simp [hb]
      · simp [ho]

theorem lookup_put (t : FileTree) (place other : List String) (node : FileNode) :
    (t.put place node).nodes.lookup other =
      if other = place then some node else t.nodes.lookup other := by
  show (_ ++ [(place, node)]).lookup other = _
  rw [List.lookup_append, lookup_filter_ne]
  by_cases ho : other = place
  · simp [ho]
  · have hb : (other == place) = false := by simpa using ho
    simp [ho, List.lookup_cons, hb]

/-- Whether nothing can be put at a place, since it is a root. -/
def IsRoot (place : List String) : Prop :=
  place = [] ∨ place = ["/"]

theorem at?_of_isRoot (t : FileTree) (h : IsRoot place) : t.at? place = some .directory :=
  if_pos h

theorem at?_of_not_isRoot (t : FileTree) (h : ¬ IsRoot place) :
    t.at? place = t.nodes.lookup place :=
  if_neg h

/-- Where nothing stands there is no root. -/
theorem not_isRoot_of_at?_eq_none (h : t.at? place = none) : ¬ IsRoot place := by
  intro hroot
  rw [at?_of_isRoot t hroot] at h
  cases h

theorem at?_put (t : FileTree) (h : ¬ IsRoot place) (node : FileNode) (other : List String) :
    (t.put place node).at? other = if other = place then some node else t.at? other := by
  by_cases hroot : IsRoot other
  · have hne : other ≠ place := fun he => h (he ▸ hroot)
    rw [at?_of_isRoot _ hroot, at?_of_isRoot _ hroot, if_neg hne]
  · rw [at?_of_not_isRoot _ hroot, at?_of_not_isRoot _ hroot, lookup_put]

theorem not_isRoot_below (base : List String) (h : Files.IsName name) : ¬ IsRoot (base ++ [name]) := by
  rintro (hnil | hslash)
  · simp at hnil
  · have hlast := congrArg List.getLast? hslash
    simp only [List.getLast?_append, List.getLast?_singleton] at hlast
    exact h.ne_slash (by simpa using hlast)

/-! ## Writing, moving and reading below a directory -/

section Below

variable (t dir)

/-- What stands under a name in a directory. -/
def below? (name : String) : Option FileNode :=
  t.at? (Files.parts dir ++ [name])

variable {t dir}

theorem below?_eq_lookup (h : Files.IsName name) :
    t.below? dir name = t.nodes.lookup (Files.parts dir ++ [name]) :=
  at?_of_not_isRoot _ (not_isRoot_below _ h)

theorem read?_join (h : Files.IsName name) {text : String} :
    t.read? (Files.join dir name) = some text ↔ t.below? dir name = some (.file text) := by
  unfold read? below?
  rw [Files.parts_join dir h]
  split
  · next stored hstored => simp [hstored]
  · next hother =>
    constructor
    · intro hnone
      cases hnone
    · intro hfile
      exact absurd hfile (hother text)

/-- A file can be written in a directory, unless a directory has its name. -/
theorem write?_join (h : Files.IsName name) (hdir : t.at? (Files.parts dir) = some .directory)
    (text : String) :
    t.write? (Files.join dir name) text =
      if t.below? dir name = some .directory then none
      else some (t.put (Files.parts dir ++ [name]) (.file text)) := by
  unfold write? below?
  rw [Files.parts_join dir h]
  simp only [List.dropLast_concat, hdir, true_and]
  by_cases hd : t.at? (Files.parts dir ++ [name]) = some .directory
  · rw [if_neg (not_not_intro hd), if_pos hd]
  · rw [if_pos hd, if_neg hd]

/-- A file can be moved within a directory, unless a directory has the new name. -/
theorem rename?_join {source target text : String} (hs : Files.IsName source)
    (ht : Files.IsName target) (hdir : t.at? (Files.parts dir) = some .directory)
    (hfile : t.below? dir source = some (.file text)) :
    t.rename? (Files.join dir source) (Files.join dir target) =
      if t.below? dir target = some .directory then none
      else some (FileTree.put
        ⟨t.nodes.filter fun n => n.1 ≠ Files.parts dir ++ [source]⟩
        (Files.parts dir ++ [target]) (.file text)) := by
  unfold below? at hfile ⊢
  unfold rename?
  rw [Files.parts_join dir hs, Files.parts_join dir ht, hfile]
  simp only [List.dropLast_concat, hdir, true_and]
  by_cases hd : t.at? (Files.parts dir ++ [target]) = some .directory
  · rw [if_neg (not_not_intro hd), if_pos hd]
  · rw [if_pos hd, if_neg hd]

end Below

/-! ## The names in a directory -/

theorem mem_entries_iff :
    name ∈ t.entries dir ↔ (t.nodes.lookup (Files.parts dir ++ [name])).isSome := by
  unfold entries
  rw [List.mem_filterMap, List.lookup_isSome_iff]
  constructor
  · rintro ⟨n, hn, hname⟩
    by_cases hbase : n.1.dropLast = Files.parts dir
    · rw [if_pos hbase] at hname
      obtain ⟨front, hfront⟩ := List.getLast?_eq_some_iff.1 hname
      rw [hfront, List.dropLast_concat] at hbase
      refine ⟨n, hn, ?_⟩
      rw [hfront, hbase]
      exact beq_self_eq_true _
    · rw [if_neg hbase] at hname
      cases hname
  · rintro ⟨n, hn, hkey⟩
    have hkey : Files.parts dir ++ [name] = n.1 := eq_of_beq hkey
    refine ⟨n, hn, ?_⟩
    rw [← hkey, List.dropLast_concat, if_pos rfl, List.getLast?_concat]

theorem mem_entries_iff_below? (h : Files.IsName name) :
    name ∈ t.entries dir ↔ (t.below? dir name).isSome := by
  rw [mem_entries_iff, below?_eq_lookup h]

/-- A directory tells the names that are in it. -/
theorem mem_names_iff [Listing] : name ∈ t.names dir ↔ name ∈ t.entries dir :=
  (Listing.perm t dir).mem_iff

/-! ## Making directories -/

/-- Whether a directory and those that lead to it are there. -/
def Stands (t : FileTree) (dir : String) : Prop :=
  ∀ front, front <+: Files.parts dir → t.at? front = some .directory

theorem Stands.at? (h : t.Stands dir) : t.at? (Files.parts dir) = some .directory :=
  h _ List.prefix_rfl

theorem at?_makeDirsFrom? {done rest front : List String}
    (hdone : ∀ front, front <+: done → t.at? front = some .directory)
    (h : t.makeDirsFrom? done rest = some u) (hfront : front <+: done ++ rest) :
    u.at? front = some .directory := by
  induction rest generalizing t done with
  | nil =>
    obtain rfl : t = u := Option.some.inj h
    rw [List.append_nil] at hfront
    exact hdone front hfront
  | cons name rest ih =>
    rw [List.append_cons] at hfront
    unfold makeDirsFrom? at h
    simp only at h
    split at h
    · next hdir =>
      refine ih (fun front hf => ?_) h hfront
      rcases List.prefix_concat_iff.1 hf with rfl | hf
      · exact hdir
      · exact hdone front hf
    · cases h
    · next hnone =>
      refine ih (fun front hf => ?_) h hfront
      rw [at?_put _ (not_isRoot_of_at?_eq_none hnone)]
      rcases List.prefix_concat_iff.1 hf with rfl | hf
      · rw [if_pos rfl]
      · split
        · rfl
        · exact hdone front hf

/-- Where directories were made for a path, they are there. -/
theorem stands_of_makeDirs? (h : t.makeDirs? dir = some u) : u.Stands dir := by
  intro front hfront
  refine at?_makeDirsFrom? (fun front hf => ?_) h (by simpa using hfront)
  exact at?_of_isRoot t (.inl (List.prefix_nil.1 hf))

theorem makeDirsFrom?_of_at? {done rest : List String}
    (h : ∀ front, front <+: rest → t.at? (done ++ front) = some .directory) :
    t.makeDirsFrom? done rest = some t := by
  induction rest generalizing done with
  | nil => rfl
  | cons name rest ih =>
    have hname : t.at? (done ++ [name]) = some .directory := h [name] (by simp)
    unfold makeDirsFrom?
    simp only [hname]
    refine ih fun front hfront => ?_
    rw [List.append_assoc]
    exact h ([name] ++ front) (by simpa using hfront)

/-- Directories that are there are not made again. -/
theorem Stands.makeDirs? (h : t.Stands dir) : t.makeDirs? dir = some t :=
  makeDirsFrom?_of_at? h

/-- What happens below a directory does not move it. -/
theorem Stands.of_at? (h : t.Stands dir)
    (hsame : ∀ place, place.length ≤ (Files.parts dir).length → u.at? place = t.at? place) :
    u.Stands dir := by
  intro front hfront
  rw [hsame front hfront.length_le]
  exact h front hfront

theorem lookup_makeDirsFrom?_of_ne {done rest : List String}
    (h : t.makeDirsFrom? done rest = some u)
    (hne : ∀ front, front <+: rest → place ≠ done ++ front) :
    u.nodes.lookup place = t.nodes.lookup place := by
  induction rest generalizing t done with
  | nil =>
    obtain rfl : t = u := Option.some.inj h
    rfl
  | cons name rest ih =>
    have hrest : ∀ front, front <+: rest → place ≠ done ++ [name] ++ front := by
      intro front hfront
      rw [List.append_assoc]
      exact hne ([name] ++ front) (by simpa using hfront)
    unfold makeDirsFrom? at h
    simp only at h
    split at h
    · exact ih h hrest
    · cases h
    · rw [ih h hrest, lookup_put, if_neg (hne [name] (by simp))]

/-- Making a directory changes nothing but those that lead to it. -/
theorem lookup_makeDirs?_of_not_prefix (h : t.makeDirs? dir = some u)
    (hplace : ¬ place <+: Files.parts dir) : u.nodes.lookup place = t.nodes.lookup place :=
  lookup_makeDirsFrom?_of_ne h fun _ hfront heq => hplace (heq ▸ hfront)

theorem at?_makeDirsFrom?_of_eq_some {done rest : List String} {node : FileNode}
    (h : t.makeDirsFrom? done rest = some u) (hplace : t.at? place = some node) :
    u.at? place = some node := by
  induction rest generalizing t done with
  | nil =>
    obtain rfl : t = u := Option.some.inj h
    exact hplace
  | cons name rest ih =>
    unfold makeDirsFrom? at h
    simp only at h
    split at h
    · exact ih h hplace
    · cases h
    · next hnone =>
      -- the new directory is not where something stood
      refine ih h ?_
      rw [at?_put _ (not_isRoot_of_at?_eq_none hnone), if_neg]
      · exact hplace
      · rintro rfl
        rw [hnone] at hplace
        cases hplace

/-- What stands somewhere stays there when a directory is made. -/
theorem at?_makeDirs?_of_eq_some {node : FileNode} (h : t.makeDirs? dir = some u)
    (hplace : t.at? place = some node) : u.at? place = some node :=
  at?_makeDirsFrom?_of_eq_some h hplace

/-- Making a directory changes nothing below it. -/
theorem lookup_makeDirs?_below (h : t.makeDirs? dir = some u) (name : String) :
    u.nodes.lookup (Files.parts dir ++ [name]) = t.nodes.lookup (Files.parts dir ++ [name]) := by
  apply lookup_makeDirs?_of_not_prefix h
  intro hprefix
  have hlength := hprefix.length_le
  simp only [List.length_append, List.length_singleton] at hlength
  omega

theorem below?_makeDirs? (h : t.makeDirs? dir = some u) (name : String) :
    u.below? dir name = t.below? dir name := by
  unfold below?
  by_cases hroot : IsRoot (Files.parts dir ++ [name])
  · rw [at?_of_isRoot _ hroot, at?_of_isRoot _ hroot]
  · rw [at?_of_not_isRoot _ hroot, at?_of_not_isRoot _ hroot, lookup_makeDirs?_below h]

end FileTree

end Mooring

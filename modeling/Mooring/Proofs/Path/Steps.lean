import Mooring.Proofs.Path.Brackets

set_option autoImplicit false

/-!
# The steps of a path

Which steps a text writes, as a relation (`AreSteps`), for texts that are steps from end to end
(`steps_eq_iff`). A step that goes on needs a character of a name, so a text that does not start
with one may follow steps without changing them (`steps_append`): steps can be joined, and what
follows steps is steps if the whole is.
-/

namespace Mooring.Path

/-! ## Names -/

/-- Whether a text does not go on with a character of a name. -/
def EndsName (cs : List Char) : Prop :=
  ∀ c, cs.head? = some c → isNamePart c = false

theorem endsName_nil : EndsName [] :=
  nofun

theorem endsName_cons {c : Char} {cs : List Char} (h : isNamePart c = false) :
    EndsName (c :: cs) := by
  intro d hd
  cases hd
  exact h

theorem EndsName.append {cs ds : List Char} (hc : EndsName cs) (hd : EndsName ds) :
    EndsName (cs ++ ds) := by
  cases cs with
  | nil => exact hd
  | cons c cs => exact endsName_cons (hc c rfl)

theorem endsName_dropWhile (cs : List Char) : EndsName (cs.dropWhile isNamePart) := by
  intro c hc
  simpa [hc] using List.head?_dropWhile_not isNamePart cs

section Name

variable {name rest : List Char} (hname : ∀ c ∈ name, isNamePart c = true) (hrest : EndsName rest)
include hname hrest

theorem takeWhile_name : (name ++ rest).takeWhile isNamePart = name := by
  rw [List.takeWhile_append_of_pos hname]
  cases rest with
  | nil => simp
  | cons c rest => simp [hrest c rfl]

theorem dropWhile_name : (name ++ rest).dropWhile isNamePart = rest := by
  rw [List.dropWhile_append_of_pos hname]
  cases rest with
  | nil => rfl
  | cons c rest => simp [hrest c rfl]

end Name

/-! ## Steps -/

/-- The steps that a text writes. -/
inductive AreSteps : List Char → List Step → Prop where
  | nil : AreSteps [] []
  | descendant {name rest : List Char} {more : List Step} (hne : name ≠ [])
      (hname : ∀ c ∈ name, isNamePart c = true) (hrest : EndsName rest) (h : AreSteps rest more) :
      AreSteps ('.' :: '.' :: (name ++ rest)) (.descendant name :: more)
  | wildcard {rest : List Char} {more : List Step} (h : AreSteps rest more) :
      AreSteps ('.' :: '*' :: rest) (.wildcard :: more)
  | child {name rest : List Char} {more : List Step} (hne : name ≠ []) (hstar : name.head? ≠ some '*')
      (hname : ∀ c ∈ name, isNamePart c = true) (hrest : EndsName rest) (h : AreSteps rest more) :
      AreSteps ('.' :: (name ++ rest)) (.child name :: more)
  | bracket {cs selector rest : List Char} {more : List Step}
      (hcut : cutBracket 0 none cs = some (selector, rest)) (h : AreSteps rest more) :
      AreSteps ('[' :: cs) (.bracket selector :: more)

variable {total : Nat} {cs ds : List Char} {found more : List Step}

/-- What stands in a bracket is shorter than the text around it. -/
theorem AreSteps.selector_length (h : AreSteps cs found) {selector : List Char}
    (hmem : .bracket selector ∈ found) : selector.length < cs.length := by
  induction h with
  | nil => cases hmem
  | descendant _ _ _ _ ih =>
    have := ih (by simpa using hmem)
    simp only [List.length_cons, List.length_append]
    omega
  | wildcard _ ih =>
    have := ih (by simpa using hmem)
    simp only [List.length_cons]
    omega
  | child _ _ _ _ _ ih =>
    have := ih (by simpa using hmem)
    simp only [List.length_cons, List.length_append]
    omega
  | bracket hcut _ ih =>
    have hlength := cutBracket_length hcut
    simp only [List.length_cons]
    rcases List.mem_cons.1 hmem with he | hmem
    · cases he
      omega
    · have := ih hmem
      omega

/-- A text that writes steps is cut up in the same way whatever follows it. -/
theorem steps_append (h : AreSteps cs found) (hends : EndsName ds) (total : Nat) :
    steps total (cs ++ ds) = (found ++ (steps total ds).1, (steps total ds).2) := by
  -- only the name of a last step could reach into what follows, and that starts with none
  induction h with
  | nil => rfl
  | @descendant name rest more hne hname hrest h ih =>
    have hrest' : EndsName (rest ++ ds) := hrest.append hends
    rw [List.cons_append, List.cons_append, List.append_assoc, steps, takeWhile_name hname hrest',
      dropWhile_name hname hrest', ih]
    simp [hne]
  | wildcard h ih =>
    rw [List.cons_append, List.cons_append, steps, ih]
    rfl
  | @child name rest more hne hstar hname hrest h ih =>
    have hrest' : EndsName (rest ++ ds) := hrest.append hends
    obtain ⟨c, name, rfl⟩ := List.exists_cons_of_ne_nil hne
    -- after the dot stands neither another one nor a star, which would be other steps
    have hdot : c ≠ '.' := by
      rintro rfl
      exact absurd (hname '.' List.mem_cons_self) (by decide)
    rw [List.cons_append, List.append_assoc, steps, takeWhile_name hname hrest',
      dropWhile_name hname hrest', ih]
    · simp
    · rintro after he
      exact hdot (List.cons.inj he).1
    · rintro after he
      exact hstar (congrArg some (List.cons.inj he).1)
  | @bracket cs selector rest more hcut h ih =>
    have hcut' := cutBracket_append hcut ds
    rw [List.cons_append, steps]
    split
    · next selector' rest' hcut'' =>
      rw [hcut'] at hcut''
      cases hcut''
      rw [ih]
      rfl
    · next hnone =>
      rw [hcut'] at hnone
      cases hnone

theorem areSteps_of_steps (h : steps total cs = (found, none)) : AreSteps cs found := by
  fun_induction steps total cs generalizing found with
  | case1 =>
    cases h
    exact .nil
  | case2 => cases h
  | case3 rest _ hname =>
    rename_i hmore ih
    cases h
    have h := AreSteps.descendant (mt List.isEmpty_iff.2 hname)
      (List.all_eq_true.1 List.all_takeWhile) (endsName_dropWhile rest) (ih hmore)
    rwa [List.takeWhile_append_dropWhile] at h
  | case4 rest more error hmore ih =>
    cases h
    exact .wildcard (ih hmore)
  | case5 => cases h
  | case6 rest _ hstar _ hname =>
    rename_i hmore ih
    cases h
    -- a name that starts with a star would have been read as a wildcard before
    have hhead : (rest.takeWhile isNamePart).head? ≠ some '*' := by
      intro hhead
      obtain ⟨after, hafter⟩ := List.head?_eq_some_iff.1 hhead
      apply hstar (after ++ rest.dropWhile isNamePart)
      rw [← List.cons_append, ← hafter, List.takeWhile_append_dropWhile]
    have h := AreSteps.child (mt List.isEmpty_iff.2 hname) hhead
      (List.all_eq_true.1 List.all_takeWhile) (endsName_dropWhile rest) (ih hmore)
    rwa [List.takeWhile_append_dropWhile] at h
  | case7 rest selector after hcut more error hmore ih =>
    cases h
    exact .bracket hcut (ih hmore)
  | case8 => cases h
  | case9 => cases h

theorem steps_of_areSteps (h : AreSteps cs found) (total : Nat) :
    steps total cs = (found, none) := by
  simpa [steps] using steps_append h endsName_nil total

theorem steps_eq_iff : steps total cs = (found, none) ↔ AreSteps cs found :=
  ⟨areSteps_of_steps, fun h => steps_of_areSteps h total⟩

/-- Steps may follow steps. -/
theorem AreSteps.append (h : AreSteps cs found) (hends : EndsName ds) (hmore : AreSteps ds more) :
    AreSteps (cs ++ ds) (found ++ more) := by
  have hall := steps_append h hends 0
  rw [steps_of_areSteps hmore] at hall
  exact areSteps_of_steps hall

/-- What follows steps is steps if the whole is. -/
theorem AreSteps.of_append (h : AreSteps cs found) (hends : EndsName ds) {all : List Step}
    (hall : AreSteps (cs ++ ds) all) : ∃ more, all = found ++ more ∧ AreSteps ds more := by
  have hsteps := steps_append h hends 0
  rw [steps_of_areSteps hall, Prod.mk.injEq] at hsteps
  exact ⟨(steps 0 ds).1, hsteps.1, areSteps_of_steps (Prod.ext rfl hsteps.2.symm)⟩

end Mooring.Path

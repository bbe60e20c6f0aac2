import Mooring.Text.Blank

set_option autoImplicit false

/-!
# Trimming joined texts

Trimming a text that is put together trims its parts only on the outside, as long as what stays of
each part is not empty.
-/

namespace Mooring.Text

variable {cs ds : List Char} {c : Char}

theorem exists_eq_trimEnd_append (cs : List Char) :
    ∃ after, cs = trimEnd cs ++ after ∧ ∀ c ∈ after, isBlank c = true := by
  refine ⟨(cs.reverse.takeWhile isBlank).reverse, ?_, fun c hc => ?_⟩
  · rw [trimEnd, ← List.reverse_append, List.takeWhile_append_dropWhile, List.reverse_reverse]
  · exact List.all_eq_true.1 List.all_takeWhile c (List.mem_reverse.1 hc)

/-- A text is its trimmed text with blanks around it. -/
theorem exists_eq_append_trim (cs : List Char) :
    ∃ before after, cs = before ++ trim cs ++ after ∧ (∀ c ∈ before, isBlank c = true) ∧
      ∀ c ∈ after, isBlank c = true := by
  obtain ⟨after, hafter, hblank⟩ := exists_eq_trimEnd_append (trimStart cs)
  refine ⟨cs.takeWhile isBlank, after, ?_, List.all_eq_true.1 List.all_takeWhile, hblank⟩
  rw [trim, List.append_assoc, ← hafter]
  exact List.takeWhile_append_dropWhile.symm

theorem trimStart_cons (h : isBlank c = false) : trimStart (c :: cs) = c :: cs := by
  rw [trimStart, List.dropWhile_cons, if_neg (by simp [h])]

/-- A text with a character that is no blank keeps what follows it. -/
theorem trimStart_append (hmem : c ∈ cs) (h : isBlank c = false) (ds : List Char) :
    trimStart (cs ++ ds) = trimStart cs ++ ds := by
  -- trimming stops at the character at the latest
  have hne : cs.dropWhile isBlank ≠ [] := by
    intro hnil
    have hall := List.takeWhile_append_dropWhile (p := isBlank) (l := cs)
    rw [hnil, List.append_nil] at hall
    rw [← hall] at hmem
    rw [List.all_eq_true.1 List.all_takeWhile c hmem] at h
    cases h
  rw [trimStart, List.dropWhile_append, if_neg (by simpa using hne)]
  rfl

theorem trimStart_concat (h : isBlank c = false) (cs : List Char) :
    trimStart (cs ++ [c]) = trimStart cs ++ [c] := by
  rw [trimStart, List.dropWhile_append, trimStart]
  split
  · next hnil => simp [List.isEmpty_iff.1 hnil, h]
  · rfl

theorem trimEnd_append (hmem : c ∈ ds) (h : isBlank c = false) (cs : List Char) :
    trimEnd (cs ++ ds) = cs ++ trimEnd ds := by
  have hmem' : c ∈ ds.reverse := List.mem_reverse.2 hmem
  have hreverse := trimStart_append hmem' h cs.reverse
  rw [trimStart, trimStart] at hreverse
  rw [trimEnd, List.reverse_append, hreverse, List.reverse_append, List.reverse_reverse]
  rfl

theorem trimEnd_concat (h : isBlank c = false) : trimEnd (cs ++ [c]) = cs ++ [c] := by
  rw [trimEnd_append List.mem_cons_self h]
  simp [trimEnd, h]

theorem trimEnd_cons (h : isBlank c = false) : trimEnd (c :: cs) = c :: trimEnd cs := by
  have hreverse := trimStart_concat h cs.reverse
  rw [trimStart, trimStart] at hreverse
  rw [trimEnd, List.reverse_cons, hreverse, List.reverse_concat]
  rfl

/-- A text without blanks is trimmed. -/
theorem trim_of_forall (h : ∀ c ∈ cs, isBlank c = false) : trim cs = cs := by
  have hstart : ∀ ds : List Char, (∀ c ∈ ds, isBlank c = false) → ds.dropWhile isBlank = ds := by
    intro ds hds
    cases ds with
    | nil => rfl
    | cons d ds => exact trimStart_cons (hds d List.mem_cons_self)
  have hreverse : ∀ c ∈ cs.reverse, isBlank c = false := by
    intro c hc
    exact h c (List.mem_reverse.1 hc)
  rw [trim, trimStart, hstart cs h, trimEnd, hstart cs.reverse hreverse, List.reverse_reverse]

theorem isBlank_of_isDigit (h : c.isDigit = true) : isBlank c = false := by
  have hrange : 48 ≤ c.toNat ∧ c.toNat ≤ 57 := by
    simp only [Char.isDigit, Bool.and_eq_true, decide_eq_true_eq] at h
    exact ⟨h.1, h.2⟩
  unfold isBlank
  simp only [Bool.or_eq_false_iff, Bool.and_eq_false_iff, decide_eq_false_iff_not, beq_eq_false_iff_ne]
  omega

/-- A text with no blanks at its ends is trimmed. -/
theorem trim_cons_concat (cs : List Char) {d : Char} (hc : isBlank c = false) (hd : isBlank d = false) :
    trim (c :: cs ++ [d]) = c :: cs ++ [d] := by
  rw [trim, List.cons_append, trimStart_cons hc, ← List.cons_append, trimEnd_concat hd]

/-- Around a seam without blanks, trimming is for the two ends. -/
theorem trim_append (cs : List Char) {d : Char} (hc : isBlank c = false) (hd : isBlank d = false) :
    trim (cs ++ [c] ++ d :: ds) = trim (cs ++ [c]) ++ d :: trimEnd ds := by
  have hmem : c ∈ cs ++ [c] := List.mem_append_right cs List.mem_cons_self
  rw [trim, trim, trimStart_append hmem hc, trimEnd_append List.mem_cons_self hd,
    trimStart_concat hc, trimEnd_concat hc, trimEnd_cons hd]

theorem trimEnd_of_getLast? (h : ∀ c, cs.getLast? = some c → isBlank c = false) :
    trimEnd cs = cs := by
  cases hlast : cs.getLast? with
  | none =>
    rw [List.getLast?_eq_none_iff.1 hlast]
    rfl
  | some c =>
    obtain ⟨front, rfl⟩ := List.getLast?_eq_some_iff.1 hlast
    exact trimEnd_concat (h c hlast)

/-- What follows a text keeps all its characters if neither ends with a blank. -/
theorem trim_append_of_getLast? (hc : isBlank c = false)
    (hds : ∀ d, ds.getLast? = some d → isBlank d = false) :
    trim (cs ++ [c] ++ ds) = trim (cs ++ [c]) ++ ds := by
  have hmem : c ∈ cs ++ [c] := List.mem_append_right cs List.mem_cons_self
  rw [trim, trim, trimStart_append hmem hc, trimStart_concat hc, trimEnd_concat hc]
  apply trimEnd_of_getLast?
  intro d hd
  rw [List.getLast?_append] at hd
  rcases Option.or_eq_some_iff.1 hd with hd | ⟨-, hd⟩
  · exact hds d hd
  · obtain rfl : c = d := by simpa using hd
    exact hc

end Mooring.Text

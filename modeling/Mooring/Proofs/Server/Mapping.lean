import Mooring.Server.Basic

set_option autoImplicit false

/-!
# Paths of the site as the engine sees them

A mapping puts one prefix in the place of another, for the prefix itself and for everything below
it, and for nothing else (`relocates_toEngine`). The slashes at the end of the engine's prefix do
not count, those at the end of the site's prefix do: a mapping whose site prefix is written with one
leaves almost everything below that prefix where it is (`apply_slashed_iff`).
-/

namespace Mooring.PathMapping

variable {m : PathMapping} {p e q : String} {f g : String → String}

/-! ## Prefixes and what is below them -/

/-- Whether a prefix is written without a slash at its end, and is not empty. -/
def IsTrimmed (p : String) : Prop :=
  ∃ c, p.toList.getLast? = some c ∧ c ≠ '/'

/-- Whether a path is a directory or below it. -/
def IsWithin (p q : String) : Prop :=
  q = p ∨ ∃ r, q = p ++ "/" ++ r

/-- Whether paths are moved from one directory to another, and those outside it stay. -/
structure Relocates (p e : String) (f : String → String) : Prop where
  itself : f p = e
  below : ∀ r, f (p ++ "/" ++ r) = e ++ "/" ++ r
  outside : ∀ q, ¬ IsWithin p q → f q = q

theorem IsTrimmed.ne_empty (h : IsTrimmed p) : p ≠ "" := by
  rintro rfl
  obtain ⟨c, hlast, -⟩ := h
  cases hlast

theorem append_slash_ne_empty (p : String) : p ++ "/" ≠ "" := by
  intro h
  have hlength := congrArg String.length h
  rw [String.length_append] at hlength
  exact Nat.succ_ne_zero _ hlength

theorem IsWithin.of_slashed (h : IsWithin (p ++ "/") q) : IsWithin p q := by
  rcases h with rfl | ⟨r, rfl⟩
  · exact .inr ⟨"", String.append_empty.symm⟩
  · exact .inr ⟨"/" ++ r, by simp only [String.append_assoc]⟩

/-! ## What a mapping does -/

theorem toList_withoutSlashes (s : String) :
    (withoutSlashes s).toList = (s.toList.reverse.dropWhile (· == '/')).reverse :=
  String.toList_ofList

theorem withoutSlashes_of_isTrimmed (h : IsTrimmed e) : withoutSlashes e = e := by
  obtain ⟨c, hlast, hc⟩ := h
  obtain ⟨front, hfront⟩ := List.getLast?_eq_some_iff.1 hlast
  rw [← String.toList_inj, toList_withoutSlashes, hfront, List.reverse_concat,
    List.dropWhile_cons_of_neg (by simpa using hc), List.reverse_cons, List.reverse_reverse]

/-- A slash at the end does not count. -/
theorem withoutSlashes_append_slash (e : String) : withoutSlashes (e ++ "/") = withoutSlashes e := by
  have hslash : (e ++ "/").toList = e.toList ++ ['/'] := String.toList_append
  rw [← String.toList_inj, toList_withoutSlashes, toList_withoutSlashes, hslash,
    List.reverse_concat, List.dropWhile_cons_of_pos (by rfl)]

/-- What begins with the prefix loses it where a level of the path ends. -/
theorem toEngine_append (hp : m.sitePrefix ≠ "") {rest : String}
    (h : rest = "" ∨ ∃ r, rest = "/" ++ r) :
    m.toEngine (m.sitePrefix ++ rest) = withoutSlashes m.enginePrefix ++ rest := by
  have hends : rest.toList.isEmpty = true ∨ rest.toList.head? = some '/' := by
    rcases h with rfl | ⟨r, rfl⟩
    · exact .inl rfl
    · right
      rw [String.toList_append]
      rfl
  unfold toEngine
  rw [if_neg (by simpa using hp), String.toList_append, Text.dropStart?_append]
  dsimp only
  rw [if_pos hends, String.ofList_toList]

theorem toEngine_of_not_isWithin (h : ¬ IsWithin m.sitePrefix q) : m.toEngine q = q := by
  unfold toEngine
  split
  · rfl
  · split
    · next rest hrest =>
      -- what is left does not begin a new level, or the path would be below the prefix
      have hq : q = m.sitePrefix ++ String.ofList rest := by
        rw [← String.toList_inj, String.toList_append, String.toList_ofList]
        exact Text.eq_append_of_dropStart? hrest
      refine if_neg ?_
      rintro (hempty | hslash)
      · rw [List.isEmpty_iff.1 hempty] at hq
        exact h (.inl (hq.trans String.append_empty))
      · obtain ⟨r, rfl⟩ := List.head?_eq_some_iff.1 hslash
        refine h (.inr ⟨String.ofList r, ?_⟩)
        rw [hq, String.append_assoc, ← List.singleton_append, String.ofList_append]
    · rfl

/-- A mapping moves its prefix and all that is below, and leaves the rest where it is. -/
theorem relocates_toEngine (hp : m.sitePrefix ≠ "") :
    Relocates m.sitePrefix (withoutSlashes m.enginePrefix) m.toEngine where
  itself := by
    have h := toEngine_append hp (.inl rfl)
    rwa [String.append_empty, String.append_empty] at h
  below r := by
    rw [String.append_assoc, String.append_assoc]
    exact toEngine_append hp (.inr ⟨r, rfl⟩)
  outside _ h := toEngine_of_not_isWithin h

/-! ## A prefix that is written with a slash -/

/-- What is within a directory that is written with a slash is put right behind the new one. -/
theorem Relocates.exists_below (hg : Relocates (p ++ "/") e g) (h : IsWithin (p ++ "/") q) :
    ∃ rest, q = p ++ "/" ++ rest ∧ g (p ++ "/" ++ rest) = e ++ rest := by
  rcases h with rfl | ⟨r, rfl⟩
  · refine ⟨"", String.append_empty.symm, ?_⟩
    rw [String.append_empty, String.append_empty]
    exact hg.itself
  · refine ⟨"/" ++ r, String.append_assoc .., ?_⟩
    rw [← String.append_assoc, ← String.append_assoc]
    exact hg.below r

/-- Moving what is within a directory and moving what is within the same directory written with a
slash come to the same only where neither moves anything. -/
theorem Relocates.eq_iff (hf : Relocates p e f) (hg : Relocates (p ++ "/") e g) (q : String) :
    g q = f q ↔ ¬ IsWithin p q ∨ e = p ∧ ¬ IsWithin (p ++ "/") q := by
  by_cases hp : IsWithin p q
  · by_cases hslashed : IsWithin (p ++ "/") q
    · -- both move the path, and the second leaves out a slash
      refine iff_of_false (fun heq => ?_) (by simp [hp, hslashed])
      obtain ⟨rest, rfl, hrest⟩ := hg.exists_below hslashed
      rw [hrest, hf.below] at heq
      have hlength := congrArg String.length heq
      have hslash : "/".length = 1 := rfl
      rw [String.length_append, String.length_append, String.length_append] at hlength
      omega
    · -- only the first moves the path, and back to its place just if the prefixes are one
      have hmoved : q = f q ↔ e = p := by
        rcases hp with rfl | ⟨r, rfl⟩
        · rw [hf.itself, eq_comm]
        · rw [hf.below, String.append_left_inj, String.append_left_inj, eq_comm]
      rw [hg.outside q hslashed, hmoved]
      simp [hp, hslashed]
  · have hslashed : ¬ IsWithin (p ++ "/") q := fun h => hp h.of_slashed
    rw [hf.outside q hp, hg.outside q hslashed]
    simp [hp]

/-- Whether the engine's prefix is written with a slash or without, a mapping moves what is within
the site's prefix. With a slash at the end of the site's prefix it does what it does without just on
paths that are not within that prefix, and, where the two prefixes are the same, on those that are
not within it as it is written. -/
theorem apply_slashed_iff (hp : IsTrimmed p) (he : IsTrimmed e) :
    Relocates p e (apply (some ⟨p, e⟩)) ∧ Relocates p e (apply (some ⟨p, e ++ "/"⟩)) ∧
      ∀ e', e' = e ∨ e' = e ++ "/" → ∀ q,
        (apply (some ⟨p ++ "/", e'⟩) q = apply (some ⟨p, e⟩) q ↔
          ¬ IsWithin p q ∨ e = p ∧ ¬ IsWithin (p ++ "/") q) := by
  have htrim : ∀ e', e' = e ∨ e' = e ++ "/" → withoutSlashes e' = e := by
    rintro e' (rfl | rfl)
    · exact withoutSlashes_of_isTrimmed he
    · rw [withoutSlashes_append_slash, withoutSlashes_of_isTrimmed he]
  have hmoves : ∀ p', p' ≠ "" → ∀ e', e' = e ∨ e' = e ++ "/" →
      Relocates p' e (apply (some ⟨p', e'⟩)) := by
    intro p' hp' e' he'
    have h := relocates_toEngine (m := ⟨p', e'⟩) hp'
    rwa [htrim e' he'] at h
  refine ⟨hmoves p hp.ne_empty e (.inl rfl), hmoves p hp.ne_empty _ (.inr rfl), fun e' he' q => ?_⟩
  exact (hmoves p hp.ne_empty e (.inl rfl)).eq_iff (hmoves _ (append_slash_ne_empty p) e' he') q

/-- A file below a directory of the site stays where it is, if that directory is written with a
slash. -/
theorem not_relocates_slashed :
    ¬ Relocates "/data" "/mnt" (apply (some ⟨"/data/", "/mnt"⟩)) := by
  intro h
  have hstays : apply (some ⟨"/data/", "/mnt"⟩) "/data/x" = "/data/x" := by decide
  have hmoved : apply (some ⟨"/data/", "/mnt"⟩) "/data/x" = "/mnt/x" := h.below "x"
  exact absurd (hstays.symm.trans hmoved) (by decide)

theorem apply_slashed_iff_data :
    IsTrimmed "/data" ∧ IsTrimmed "/mnt" ∧
      Relocates "/data" "/mnt" (apply (some ⟨"/data", "/mnt/"⟩)) ∧
      (apply (some ⟨"/data/", "/mnt"⟩) "/data/x" = apply (some ⟨"/data", "/mnt"⟩) "/data/x" ↔
        ¬ IsWithin "/data" "/data/x" ∨
          ("/mnt" : String) = "/data" ∧ ¬ IsWithin ("/data" ++ "/") "/data/x") := by
  have hdata : IsTrimmed "/data" := ⟨'a', by decide, by decide⟩
  have hmnt : IsTrimmed "/mnt" := ⟨'t', by decide, by decide⟩
  obtain ⟨-, hmoves, hslashed⟩ := apply_slashed_iff hdata hmnt
  exact ⟨hdata, hmnt, hmoves, hslashed "/mnt" (.inl rfl) "/data/x"⟩

end Mooring.PathMapping

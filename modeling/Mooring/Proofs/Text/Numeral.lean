import Mooring.Text.Whole

set_option autoImplicit false

/-!
# Numerals

An integer is written with digits, and a sign in front if it is negative. Different integers have
different numerals (`repr_inj`), and one of 64 bits is read back from its numeral
(`signedNumber?_repr`).
-/

namespace Mooring

theorem Double.ofDigits_toDigits (n : Nat) : Double.ofDigits (Nat.toDigits 10 n) = n := by
  have hread : Double.ofDigits (Nat.toDigits 10 n) = Nat.ofDigitChars 10 (Nat.toDigits 10 n) 0 := by
    unfold Double.ofDigits Nat.ofDigitChars
    congr 1
    funext m c
    unfold Double.digitValue
    omega
  rw [hread]
  simp

namespace Text

theorem isDigit_of_mem_toDigits {n : Nat} {c : Char} (h : c ∈ Nat.toDigits 10 n) :
    c.isDigit = true :=
  Nat.isDigit_of_mem_toDigits (by decide) (by decide) h

theorem toDigits_inj {m n : Nat} (h : Nat.toDigits 10 m = Nat.toDigits 10 n) : m = n := by
  have hread := congrArg (fun digits => Nat.ofDigitChars 10 digits 0) h
  simpa using hread

theorem toList_repr_ofNat (n : Nat) : (Int.ofNat n).repr.toList = Nat.toDigits 10 n := by
  simp [Int.repr]

theorem toList_repr_negSucc (n : Nat) :
    (Int.negSucc n).repr.toList = '-' :: Nat.toDigits 10 (n + 1) := by
  simp [Int.repr]

theorem mem_repr {n : Int} {c : Char} (h : c ∈ n.repr.toList) : c = '-' ∨ c.isDigit = true := by
  cases n with
  | ofNat n =>
    rw [toList_repr_ofNat] at h
    exact .inr (isDigit_of_mem_toDigits h)
  | negSucc n =>
    rw [toList_repr_negSucc, List.mem_cons] at h
    exact h.imp_right isDigit_of_mem_toDigits

/-- A character that is no digit and no sign stands in no numeral. -/
theorem notMem_repr {n : Int} {c : Char} (hminus : c ≠ '-') (hdigit : c.isDigit = false) :
    c ∉ n.repr.toList := by
  intro hmem
  rcases mem_repr hmem with rfl | h
  · exact hminus rfl
  · rw [hdigit] at h
    cases h

theorem toList_repr_ne_nil (n : Int) : n.repr.toList ≠ [] := by
  cases n with
  | ofNat n =>
    rw [toList_repr_ofNat]
    exact Nat.toDigits_ne_nil
  | negSucc n => simp [toList_repr_negSucc]

/-- No numeral without a sign is one with a sign. -/
theorem toDigits_ne_minus (m : Nat) (rest : List Char) : Nat.toDigits 10 m ≠ '-' :: rest := by
  intro h
  have hdigit : '-'.isDigit = true := isDigit_of_mem_toDigits (n := m) (by simp [h])
  cases hdigit

theorem repr_inj {m n : Int} : m.repr = n.repr ↔ m = n := by
  constructor
  · intro h
    have hlist : m.repr.toList = n.repr.toList := congrArg String.toList h
    cases m with
    | ofNat m =>
      cases n with
      | ofNat n =>
        rw [toList_repr_ofNat, toList_repr_ofNat] at hlist
        exact congrArg Int.ofNat (toDigits_inj hlist)
      | negSucc n =>
        rw [toList_repr_ofNat, toList_repr_negSucc] at hlist
        exact absurd hlist (toDigits_ne_minus m _)
    | negSucc m =>
      cases n with
      | ofNat n =>
        rw [toList_repr_negSucc, toList_repr_ofNat] at hlist
        exact absurd hlist.symm (toDigits_ne_minus n _)
      | negSucc n =>
        rw [toList_repr_negSucc, toList_repr_negSucc] at hlist
        have hsucc : m + 1 = n + 1 := toDigits_inj (List.cons.inj hlist).2
        exact congrArg Int.negSucc (Nat.succ.inj hsucc)
  · exact congrArg Int.repr

/-! ## Reading numerals -/

theorem digitsNumber?_toDigits (n : Nat) : digitsNumber? (Nat.toDigits 10 n) = some n := by
  have hdigits : (Nat.toDigits 10 n).all Char.isDigit = true := by
    simp only [List.all_eq_true]
    intro c hc
    exact isDigit_of_mem_toDigits hc
  simp [digitsNumber?, hdigits, Double.ofDigits_toDigits]

theorem signedNumber?_repr {i : Int} (h : -Int.pow 2 63 ≤ i ∧ i < Int.pow 2 63) :
    signedNumber? i.repr.toList = some i := by
  unfold signedNumber?
  cases i with
  | ofNat n =>
    rw [toList_repr_ofNat]
    -- digits start with no sign
    have hminus : ∀ rest, Nat.toDigits 10 n ≠ '-' :: rest := toDigits_ne_minus n
    have hplus : ∀ rest, Nat.toDigits 10 n ≠ '+' :: rest := by
      intro rest he
      have hdigit : '+'.isDigit = true := isDigit_of_mem_toDigits (n := n) (by simp [he])
      cases hdigit
    split
    next negative digits he =>
      have hsigned : negative = false ∧ digits = Nat.toDigits 10 n := by
        split at he
        · next hsign => exact absurd hsign (hminus _)
        · next hsign => exact absurd hsign (hplus _)
        · cases he
          exact ⟨rfl, rfl⟩
      obtain ⟨rfl, rfl⟩ := hsigned
      refine Option.bind_eq_some_iff.2 ⟨(n : Int), by rw [digitsNumber?_toDigits]; rfl, ?_⟩
      simp only [Bool.false_eq_true, if_false]
      exact if_pos h
  | negSucc n =>
    rw [toList_repr_negSucc]
    refine Option.bind_eq_some_iff.2 ⟨(n : Int) + 1, ?_, ?_⟩
    · simp only [digitsNumber?_toDigits]
      rfl
    · simp only [Int.negSucc_eq, if_true] at h ⊢
      exact if_pos h

end Text

end Mooring

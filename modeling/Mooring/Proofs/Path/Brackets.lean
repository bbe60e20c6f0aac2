import Mathlib.Tactic.SplitIfs
import Mooring.Path.Scanning

set_option autoImplicit false

/-!
# The scan for the bracket that closes

The scan is a machine that reads one character after the other: it counts the brackets that are open
inside and knows whether it stands in a quote, there with or without a backslash before it
(`Scan.step`). It passes over a text if it stands after the text as it stood before it (`Passes`),
and what is cut out of brackets is just the text it passes over (`cutBracket_eq_some_iff`). Passing
over a text is decided by running the machine once, from outside all brackets.
-/

namespace Mooring.Path

/-- Whether a character means nothing to the scan outside quotes. -/
def IsPlain (c : Char) : Prop :=
  isQuote c = false ∧ c ≠ '[' ∧ c ≠ ']'

instance (c : Char) : Decidable (IsPlain c) :=
  inferInstanceAs (Decidable (_ ∧ _))

/-- The characters of a kind that has no quotes and brackets are plain. -/
theorem isPlain_of {p : Char → Bool} (hsingle : p '\'' = false) (hdouble : p '"' = false)
    (hopen : p '[' = false) (hclose : p ']' = false) {c : Char} (h : p c = true) : IsPlain c := by
  refine ⟨Bool.eq_false_iff.2 fun hquote => ?_, ?_, ?_⟩
  · rcases Bool.or_eq_true_iff.1 hquote with hquote | hquote
    all_goals
      rw [beq_iff_eq.1 hquote] at h
      simp_all
  all_goals
    rintro rfl
    simp_all

/-- A character that is a quote. -/
abbrev Quote : Type :=
  { c : Char // isQuote c = true }

/-- Where the scan stands: how many brackets are open inside, and in which quote it is, if in any. -/
inductive Scan where
  | outside (depth : Nat)
  | inside (depth : Nat) (q : Quote)
  | escaped (depth : Nat) (q : Quote)
  deriving DecidableEq

namespace Scan

/-- Where the scan stands after a closing bracket, unless it is the one that is looked for. -/
def closed : Nat → Option Scan
  | 0 => none
  | depth + 1 => some (outside depth)

/-- Where the scan stands after a character, unless the bracket closes with it. -/
def step : Scan → Char → Option Scan
  | outside depth, c =>
    if h : isQuote c = true then some (inside depth ⟨c, h⟩)
    else if c = '[' then some (outside (depth + 1))
    else if c = ']' then closed depth
    else some (outside depth)
  | inside depth q, c =>
    if c = '\\' then some (escaped depth q)
    else if c = q then some (outside depth)
    else some (inside depth q)
  | escaped depth q, _ => some (inside depth q)

/-- Where the scan stands after a text, unless the bracket closes in it. -/
def run (s : Scan) (cs : List Char) : Option Scan :=
  cs.foldlM step s

variable {s t u : Scan} {c : Char} {cs ds inner rest : List Char}

@[simp]
theorem run_nil (s : Scan) : s.run [] = some s :=
  rfl

@[simp]
theorem run_cons (s : Scan) (c : Char) (cs : List Char) :
    s.run (c :: cs) = (s.step c).bind fun t => t.run cs :=
  rfl

theorem run_append (s : Scan) (cs ds : List Char) :
    s.run (cs ++ ds) = (s.run cs).bind fun t => t.run ds :=
  List.foldlM_append

/-! ## Characters -/

theorem step_outside (depth : Nat) (c : Char) :
    (outside depth).step c =
      if h : isQuote c = true then some (inside depth ⟨c, h⟩)
      else if c = '[' then some (outside (depth + 1))
      else if c = ']' then closed depth
      else some (outside depth) :=
  rfl

theorem step_inside (depth : Nat) (q : Quote) (c : Char) :
    (inside depth q).step c =
      if c = '\\' then some (escaped depth q)
      else if c = q then some (outside depth)
      else some (inside depth q) :=
  rfl

theorem step_plain (h : IsPlain c) (depth : Nat) :
    (outside depth).step c = some (outside depth) := by
  rw [step_outside, dif_neg (by simp [h.1]), if_neg h.2.1, if_neg h.2.2]

/-- The bracket closes with a closing bracket outside quotes if no other is open. -/
theorem step_eq_none_iff : s.step c = none ↔ s = outside 0 ∧ c = ']' := by
  cases s with
  | outside depth =>
    by_cases hclose : c = ']'
    · subst hclose
      cases depth <;> simp [step_outside, closed, show isQuote ']' = false from rfl]
    · rw [step_outside]
      split_ifs <;> simp [hclose]
  | inside depth q =>
    rw [step_inside]
    split_ifs <;> simp
  | escaped depth q => simp [step]

/-- A plain character leads outside quotes only from there. -/
theorem eq_of_step_plain (hplain : IsPlain c) {depth : Nat}
    (h : s.step c = some (outside depth)) : s = outside depth := by
  cases s with
  | outside d =>
    rw [step_plain hplain] at h
    exact Option.some.inj h
  | inside d q =>
    have hne : c ≠ q := by
      rintro rfl
      have hquote := hplain.1
      rw [q.2] at hquote
      cases hquote
    rw [step_inside, if_neg hne] at h
    split at h <;> cases h
  | escaped d q => cases h

/-! ## Brackets around the scan -/

/-- The scan with more brackets open around it. -/
def deeper (k : Nat) : Scan → Scan
  | outside depth => outside (depth + k)
  | inside depth q => inside (depth + k) q
  | escaped depth q => escaped (depth + k) q

theorem step_deeper (k : Nat) (h : s.step c = some t) :
    (s.deeper k).step c = some (t.deeper k) := by
  cases s with
  | outside depth =>
    show (outside (depth + k)).step c = _
    rw [step_outside] at h ⊢
    split_ifs at h ⊢
    · cases h
      rfl
    · cases h
      rw [Nat.add_right_comm]
      rfl
    · cases depth with
      | zero => cases h
      | succ depth =>
        cases h
        rw [Nat.add_right_comm]
        rfl
    · cases h
      rfl
  | inside depth q =>
    show (inside (depth + k) q).step c = _
    rw [step_inside] at h ⊢
    split_ifs at h ⊢ <;> cases h <;> rfl
  | escaped depth q =>
    cases h
    rfl

theorem run_deeper (k : Nat) (h : s.run cs = some t) :
    (s.deeper k).run cs = some (t.deeper k) := by
  induction cs generalizing s with
  | nil =>
    cases h
    rfl
  | cons c cs ih =>
    obtain ⟨u, hstep, hrun⟩ := Option.bind_eq_some_iff.1 h
    rw [run_cons, step_deeper k hstep]
    exact ih hrun

/-! ## What is cut out -/

/-- What the scan cuts out from where it stands. -/
def cut : Scan → List Char → Option (List Char × List Char)
  | outside depth, cs => cutBracket depth none cs
  | inside depth q, cs => cutBracket depth (some q.1) cs
  | escaped _ _, [] => none
  | escaped depth q, c :: cs => (cutBracket depth (some q.1) cs).map (consFirst c)

theorem cut_nil (s : Scan) : s.cut [] = none := by
  cases s with
  | escaped depth q => rfl
  | _ => simp only [cut, cutBracket]

theorem cut_cons (s : Scan) (c : Char) (cs : List Char) :
    s.cut (c :: cs) =
      match s.step c with
      | none => some ([], cs)
      | some t => (t.cut cs).map (consFirst c) := by
  cases s with
  | outside depth =>
    rw [step_outside]
    cases depth <;> simp only [cut, cutBracket] <;> split_ifs <;> rfl
  | inside depth q =>
    rw [step_inside]
    by_cases hslash : c = '\\'
    · subst hslash
      -- the scan takes a backslash and what follows it in one step, the machine in two
      cases cs with
      | nil => rfl
      | cons c cs =>
        simp only [cut, if_pos, Option.map_map]
        rw [cutBracket]
        rfl
    · simp only [cut, if_neg hslash]
      rw [cutBracket]
      · rw [if_neg hslash]
        split_ifs <;> rfl
      · rintro d ds rfl
        exact absurd rfl hslash
  | escaped depth q => rfl

/-- The scan cuts out a text and the bracket after it just if the text leads it out of all quotes
and inner brackets. -/
theorem cut_eq_some_iff :
    s.cut cs = some (inner, rest) ↔ cs = inner ++ ']' :: rest ∧ s.run inner = some (outside 0) := by
  induction cs generalizing s inner with
  | nil => simp [cut_nil]
  | cons c cs ih =>
    rw [cut_cons]
    -- the bracket closes here, or the scan goes on from where the character leads
    split
    · next hnone =>
      obtain ⟨rfl, rfl⟩ := step_eq_none_iff.1 hnone
      cases inner with
      | nil => simp
      | cons d inner =>
        refine iff_of_false (by simp) ?_
        rintro ⟨he, hrun⟩
        rw [← (List.cons.inj he).1, run_cons, hnone] at hrun
        cases hrun
    · next t hstep =>
      constructor
      · intro h
        obtain ⟨⟨inner', rest'⟩, hcut, he⟩ := Option.map_eq_some_iff.1 h
        cases he
        obtain ⟨rfl, hrun⟩ := ih.1 hcut
        exact ⟨rfl, by rw [run_cons, hstep]; exact hrun⟩
      · rintro ⟨he, hrun⟩
        cases inner with
        | nil =>
          cases he
          cases hrun
          cases hstep
        | cons d inner =>
          obtain ⟨rfl, rfl⟩ := List.cons.inj he
          rw [run_cons, hstep] at hrun
          rw [ih.2 ⟨rfl, hrun⟩]
          rfl

end Scan

/-! ## Texts that are passed over -/

/-- Whether the scan stands after a text as it stood before it. -/
def Passes (cs : List Char) : Prop :=
  (Scan.outside 0).run cs = some (.outside 0)

instance (cs : List Char) : Decidable (Passes cs) :=
  inferInstanceAs (Decidable (_ = _))

variable {cs ds inner rest : List Char}

theorem Passes.run (h : Passes cs) (depth : Nat) :
    (Scan.outside depth).run cs = some (.outside depth) := by
  simpa [Scan.deeper] using Scan.run_deeper depth h

theorem Passes.append (hc : Passes cs) (hd : Passes ds) : Passes (cs ++ ds) := by
  rw [Passes, Scan.run_append, hc]
  exact hd

theorem Passes.of_append (hc : Passes cs) (h : Passes (cs ++ ds)) : Passes ds := by
  rwa [Passes, Scan.run_append, hc] at h

theorem passes_cons_iff {c : Char} (h : IsPlain c) : Passes (c :: cs) ↔ Passes cs := by
  rw [Passes, Scan.run_cons, Scan.step_plain h]
  rfl

theorem passes_of_forall (h : ∀ c ∈ cs, IsPlain c) : Passes cs := by
  induction cs with
  | nil => rfl
  | cons c cs ih =>
    rw [passes_cons_iff (h c List.mem_cons_self)]
    exact ih fun d hd => h d (List.mem_cons_of_mem c hd)

theorem passes_concat_iff {c : Char} (h : IsPlain c) : Passes (cs ++ [c]) ↔ Passes cs := by
  refine ⟨fun hall => ?_, fun hcs => hcs.append (passes_of_forall (by simpa using h))⟩
  -- a plain character at the end leads nowhere, so the scan stood outside before it
  rw [Passes, Scan.run_append] at hall
  obtain ⟨s, hrun, hstep⟩ := Option.bind_eq_some_iff.1 hall
  obtain ⟨t, hstep, ht⟩ := Option.bind_eq_some_iff.1 hstep
  cases ht
  rw [Passes, hrun, Scan.eq_of_step_plain h hstep]

theorem Passes.bracketed (h : Passes cs) : Passes ('[' :: cs ++ [']']) := by
  have hopen : (Scan.outside 0).run ('[' :: cs) = some (.outside 1) := h.run 1
  rw [Passes, Scan.run_append, hopen]
  rfl

/-- What is cut out of a bracket is the text before a closing bracket that the scan passes over. -/
theorem cutBracket_eq_some_iff :
    cutBracket 0 none cs = some (inner, rest) ↔ cs = inner ++ ']' :: rest ∧ Passes inner :=
  Scan.cut_eq_some_iff (s := .outside 0)

/-- Whether the bracket around a text closes after the text, and not in it. -/
def FillsBracket (cs : List Char) : Prop :=
  cutBracket 0 none (cs ++ [']']) = some (cs, [])

theorem fillsBracket_iff : FillsBracket cs ↔ Passes cs := by
  rw [FillsBracket, cutBracket_eq_some_iff]
  exact and_iff_right rfl

/-- What follows a bracket plays no part in finding its end. -/
theorem cutBracket_append (h : cutBracket 0 none cs = some (inner, rest)) (more : List Char) :
    cutBracket 0 none (cs ++ more) = some (inner, rest ++ more) := by
  obtain ⟨rfl, hpasses⟩ := cutBracket_eq_some_iff.1 h
  exact cutBracket_eq_some_iff.2 ⟨by simp, hpasses⟩

end Mooring.Path

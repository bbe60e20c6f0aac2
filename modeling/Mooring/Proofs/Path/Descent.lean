import Mooring.Proofs.Path.Grammar
import Mooring.Proofs.Path.Tokens

set_option autoImplicit false

/-!
# Reading conditions by recursive descent

The functions that read conditions find what the grammar derives and nothing else
(`conditionOf_eq_ok_iff`). What they find is stated without the proofs that they use up tokens: one
equation for each function says what it does with what the functions it calls find.

A chain is read in one pass from its first member on, while a derivation takes its last member off.
So a derivation of a chain promises no end of the reading: it promises that the reading stands where
it would stand after the chain (`IsFound`), and may go on from there.
-/

namespace Mooring.Path

variable [Regex.Compiler]

/-! ## What the functions of the grammar find -/

variable {routeOf : RouteReader}

theorem found_operand_path (text : List Char) (rest : List Token) :
    found (operand routeOf (.path text :: rest)) =
      (routeOf text).map fun r => (.path r.1 r.2, rest) := by
  rw [operand]
  cases routeOf text <;> rfl

theorem found_operand_regex (pattern : String) (rest : List Token) :
    found (operand routeOf (.regex pattern :: rest)) =
      (compile pattern).map fun r => (r, rest) := by
  rw [operand]
  cases compile pattern <;> rfl

theorem found_operand_list {rest : List Token} (h : rest.head? ≠ some .closeBracket) :
    found (operand routeOf (.openBracket :: rest)) =
      (found (literals routeOf rest)).map fun r => (.literal (.arr r.1), r.2) := by
  rw [operand]
  · cases literals routeOf rest <;> rfl
  · rintro after rfl
    exact h rfl

theorem found_literals (ts : List Token) :
    found (literals routeOf ts) =
      (do match ← found (operand routeOf ts) with
          | (.literal v, .closeBracket :: rest) => return ([v], rest)
          | (.literal v, .comma :: rest) =>
            let (items, after) ← found (literals routeOf rest)
            return (v :: items, after)
          | (.literal _, _) => throw .listSeparator
          | _ => throw .onlyLiterals) := by
  rw [literals]
  cases operand routeOf ts with
  | error e => rfl
  | ok r =>
    obtain ⟨o, ⟨rest, h⟩⟩ := r
    cases o with
    | path root segments => cases rest <;> rfl
    | regex r => cases rest <;> rfl
    | literal v =>
      cases rest with
      | nil => rfl
      | cons t rest =>
        cases t with
        | comma =>
          show found (literals routeOf rest >>= _) = _
          show _ = found (literals routeOf rest) >>= _
          cases literals routeOf rest <;> rfl
        | _ => rfl

theorem found_comparison (ts : List Token) :
    found (comparison routeOf ts) =
      (do match ← found (operand routeOf ts) with
          | (left, .op c :: rest) =>
            let (right, after) ← found (operand routeOf rest)
            let right ← rightSide c right
            return (.compare left c right, after)
          | (.path root segments, rest) => return (.selects root segments, rest)
          | (other, _) => throw (.expectedComparison other)) := by
  rw [comparison]
  cases operand routeOf ts with
  | error e => rfl
  | ok r =>
    obtain ⟨left, ⟨rest, h⟩⟩ := r
    cases rest with
    | nil => cases left <;> rfl
    | cons t rest =>
      cases t with
      | op c =>
        show found (operand routeOf rest >>= _) = found (operand routeOf rest) >>= _
        cases operand routeOf rest with
        | error e => rfl
        | ok r =>
          show found (rightSide c r.1 >>= _) = rightSide c r.1 >>= _
          cases rightSide c r.1 <;> rfl
      | _ => cases left <;> rfl

theorem found_conjunction (ts : List Token) :
    found (conjunction routeOf ts) =
      (do let (left, rest) ← found (unary routeOf ts)
          found (moreConjuncts routeOf left rest)) := by
  rw [conjunction]
  cases unary routeOf ts with
  | error e => rfl
  | ok r =>
    obtain ⟨left, ⟨rest, h⟩⟩ := r
    show found (moreConjuncts routeOf left rest >>= _) = found (moreConjuncts routeOf left rest)
    cases moreConjuncts routeOf left rest <;> rfl

theorem found_moreConjuncts_and (left : Condition) (rest : List Token) :
    found (moreConjuncts routeOf left (.and :: rest)) =
      (do let (right, after) ← found (unary routeOf rest)
          found (moreConjuncts routeOf (.and left right) after)) := by
  rw [moreConjuncts]
  cases unary routeOf rest with
  | error e => rfl
  | ok r =>
    obtain ⟨right, ⟨after, h⟩⟩ := r
    show found (moreConjuncts routeOf (.and left right) after >>= _) =
      found (moreConjuncts routeOf (.and left right) after)
    cases moreConjuncts routeOf (.and left right) after <;> rfl

theorem found_moreConjuncts_of_ne (left : Condition) {ts : List Token}
    (h : ts.head? ≠ some .and) : found (moreConjuncts routeOf left ts) = .ok (left, ts) := by
  rw [moreConjuncts]
  · rfl
  · rintro rest rfl
    exact h rfl

theorem found_disjunction (ts : List Token) :
    found (disjunction routeOf ts) =
      (do let (left, rest) ← found (conjunction routeOf ts)
          found (moreDisjuncts routeOf left rest)) := by
  rw [disjunction]
  cases conjunction routeOf ts with
  | error e => rfl
  | ok r =>
    obtain ⟨left, ⟨rest, h⟩⟩ := r
    show found (moreDisjuncts routeOf left rest >>= _) = found (moreDisjuncts routeOf left rest)
    cases moreDisjuncts routeOf left rest <;> rfl

theorem found_moreDisjuncts_or (left : Condition) (rest : List Token) :
    found (moreDisjuncts routeOf left (.or :: rest)) =
      (do let (right, after) ← found (conjunction routeOf rest)
          found (moreDisjuncts routeOf (.or left right) after)) := by
  rw [moreDisjuncts]
  cases conjunction routeOf rest with
  | error e => rfl
  | ok r =>
    obtain ⟨right, ⟨after, h⟩⟩ := r
    show found (moreDisjuncts routeOf (.or left right) after >>= _) =
      found (moreDisjuncts routeOf (.or left right) after)
    cases moreDisjuncts routeOf (.or left right) after <;> rfl

theorem found_moreDisjuncts_of_ne (left : Condition) {ts : List Token}
    (h : ts.head? ≠ some .or) : found (moreDisjuncts routeOf left ts) = .ok (left, ts) := by
  rw [moreDisjuncts]
  · rfl
  · rintro rest rfl
    exact h rfl

theorem found_unary_not (rest : List Token) :
    found (unary routeOf (.not :: rest)) =
      (found (unary routeOf rest)).map fun r => (.not r.1, r.2) := by
  rw [unary]
  cases unary routeOf rest <;> rfl

theorem found_unary_group (rest : List Token) :
    found (unary routeOf (.openParen :: rest)) =
      (do match ← found (disjunction routeOf rest) with
          | (a, .closeParen :: after) => return (a, after)
          | _ => throw .missingParen) := by
  rw [unary]
  cases disjunction routeOf rest with
  | error e => rfl
  | ok r =>
    obtain ⟨a, ⟨after, h⟩⟩ := r
    cases after with
    | nil => rfl
    | cons t after => cases t <;> rfl

theorem found_unary_of_ne {ts : List Token} (hnot : ts.head? ≠ some .not)
    (hopen : ts.head? ≠ some .openParen) :
    found (unary routeOf ts) = found (comparison routeOf ts) := by
  rw [unary]
  · rintro rest rfl
    exact hnot rfl
  · rintro rest rfl
    exact hopen rfl

/-! ## What the grammar derives is found -/

/-- No operand starts with the end of a list. -/
theorem head?_of_found_operand {ts rest : List Token} {o : Operand}
    (h : found (operand routeOf ts) = .ok (o, rest)) : ts.head? ≠ some .closeBracket := by
  intro hclose
  obtain ⟨after, rfl⟩ := List.head?_eq_some_iff.1 hclose
  rw [operand] at h
  · cases h
  all_goals simp

/-- Literals with commas between them are found up to the bracket that closes their list. -/
theorem found_literals_items {items : List (List Token × Json)} (hne : items ≠ [])
    (hitems : ∀ i ∈ items, ∀ rest,
      found (operand routeOf (i.1 ++ rest)) = .ok (.literal i.2, rest)) (rest : List Token) :
    found (literals routeOf
      ([Token.comma].intercalate (items.map Prod.fst) ++ .closeBracket :: rest)) =
        .ok (items.map Prod.snd, rest) := by
  induction items with
  | nil => exact absurd rfl hne
  | cons i items ih =>
    have hi := hitems i List.mem_cons_self
    rw [found_literals]
    cases items with
    | nil =>
      rw [List.map_singleton, List.intercalate_singleton, hi]
      rfl
    | cons j items =>
      -- the reader is at the comma after the first literal, and goes on with the rest of the list
      have hmore := ih (List.cons_ne_nil j items) fun k hk => hitems k (List.mem_cons_of_mem i hk)
      have hsplit : [Token.comma].intercalate ((i :: j :: items).map Prod.fst) ++
          .closeBracket :: rest =
          i.1 ++ .comma :: ([Token.comma].intercalate ((j :: items).map Prod.fst) ++
            .closeBracket :: rest) := by
        simp [List.intercalate]
      rw [hsplit, hi]
      show (found (literals routeOf _) >>= _) = _
      rw [hmore]
      rfl

omit [Regex.Compiler] in
/-- A list starts with its first literal. -/
theorem exists_intercalate_cons (i : List Token × Json) (items : List (List Token × Json))
    (rest : List Token) :
    ∃ more, [Token.comma].intercalate ((i :: items).map Prod.fst) ++ rest = i.1 ++ more := by
  cases items with
  | nil => exact ⟨rest, by simp⟩
  | cons j items =>
    exact ⟨.comma :: ([Token.comma].intercalate ((j :: items).map Prod.fst) ++ rest),
      by simp [List.intercalate]⟩

theorem IsLiteral.found_operand {ts : List Token} {v : Json} (h : IsLiteral ts v)
    (rest : List Token) : found (operand routeOf (ts ++ rest)) = .ok (.literal v, rest) := by
  induction h generalizing rest with
  | text s => rw [List.singleton_append, operand]; rfl
  | number d => rw [List.singleton_append, operand]; rfl
  | bool b => rw [List.singleton_append, operand]; rfl
  | null => rw [List.singleton_append, operand]; rfl
  | list items h ih =>
    -- an empty list is read at once, any other by its literals
    cases items with
    | nil =>
      show found (operand routeOf (.openBracket :: .closeBracket :: rest)) = _
      rw [operand]; rfl
    | cons i items =>
      have hmore := found_literals_items (List.cons_ne_nil i items) ih rest
      have hhead : ([Token.comma].intercalate ((i :: items).map Prod.fst) ++
          .closeBracket :: rest).head? ≠ some .closeBracket := by
        obtain ⟨more, hmore⟩ := exists_intercalate_cons i items (.closeBracket :: rest)
        rw [hmore]
        exact head?_of_found_operand (ih i List.mem_cons_self more)
      have hsplit : .openBracket :: [Token.comma].intercalate ((i :: items).map Prod.fst) ++
          [.closeBracket] ++ rest = .openBracket ::
            ([Token.comma].intercalate ((i :: items).map Prod.fst) ++ .closeBracket :: rest) := by
        simp
      rw [hsplit, found_operand_list hhead, hmore]
      rfl

theorem IsOperand.found_operand {ts : List Token} {o : Operand}
    (h : IsOperand routeOf.routes ts o) (rest : List Token) :
    found (operand routeOf (ts ++ rest)) = .ok (o, rest) := by
  cases h with
  | path h =>
    rw [List.singleton_append, found_operand_path, show routeOf _ = .ok _ from h]
    rfl
  | literal h => exact h.found_operand rest
  | regex h =>
    rw [List.singleton_append, found_operand_regex, compile, h]
    rfl

/-- The right side of a comparison is found as an operand and accepted for its comparison. -/
theorem IsRightSide.found_operand {op : Comparison} {ts : List Token} {right : Operand}
    (h : IsRightSide routeOf.routes op ts right) (rest : List Token) :
    ∃ o, found (operand routeOf (ts ++ rest)) = .ok (o, rest) ∧ rightSide op o = .ok right := by
  cases h with
  | plain hop h =>
    refine ⟨right, h.found_operand rest, ?_⟩
    unfold rightSide
    split <;> first | rfl | exact absurd rfl hop
  | regex h => exact ⟨_, (IsOperand.regex h).found_operand rest, rfl⟩
  | text h =>
    refine ⟨_, (IsLiteral.text _).found_operand rest, ?_⟩
    show compile _ = _
    rw [compile, h]

/-- Whether tokens may follow a condition: a path before an operator is no condition. -/
def MayFollow (rest : List Token) : Prop :=
  ∀ c, rest.head? ≠ some (.op c)

/-- What is read from an operand that no operator follows: a path has to select something. -/
def readAlone (rest : List Token) : Operand → Except PathError (Condition × List Token)
  | .path root segments => .ok (.selects root segments, rest)
  | other => .error (.expectedComparison other)

theorem found_comparison_of_mayFollow {ts rest : List Token} {left : Operand}
    (hleft : found (operand routeOf ts) = .ok (left, rest)) (hrest : MayFollow rest) :
    found (comparison routeOf ts) = readAlone rest left := by
  rw [found_comparison, hleft]
  cases rest with
  | nil => cases left <;> rfl
  | cons t rest =>
    cases t with
    | op c => exact absurd rfl (hrest c)
    | _ => cases left <;> rfl

theorem found_comparison_path {text : List Char} {root : Root} {segments : List Segment}
    {rest : List Token} (h : routeOf text = .ok (root, segments)) (hrest : MayFollow rest) :
    found (comparison routeOf (.path text :: rest)) = .ok (.selects root segments, rest) := by
  have hleft : found (operand routeOf (.path text :: rest)) = .ok (.path root segments, rest) := by
    rw [found_operand_path, h]
    rfl
  exact found_comparison_of_mayFollow hleft hrest

/-- What the functions of the grammar find in the tokens of a derivation: a chain is found as far as
it goes, and may then go on. -/
def IsFound (routeOf : RouteReader) : Level → List Token → Condition → Prop
  | .unary, ts, a => ∀ rest, MayFollow rest →
      found (unary routeOf (ts ++ rest)) = .ok (a, rest)
  | .conjunction, ts, a => ∀ rest, MayFollow rest →
      found (conjunction routeOf (ts ++ rest)) = found (moreConjuncts routeOf a rest)
  | .disjunction, ts, a => ∀ rest, MayFollow rest → rest.head? ≠ some .and →
      found (disjunction routeOf (ts ++ rest)) = found (moreDisjuncts routeOf a rest)

/-- An operand starts neither like a negation nor like a condition in parentheses. -/
theorem found_unary_of_found_operand {ts rest : List Token} {o : Operand}
    (h : found (operand routeOf ts) = .ok (o, rest)) :
    found (unary routeOf ts) = found (comparison routeOf ts) := by
  apply found_unary_of_ne
  · intro hhead
    obtain ⟨after, rfl⟩ := List.head?_eq_some_iff.1 hhead
    rw [operand] at h
    · cases h
    all_goals simp
  · intro hhead
    obtain ⟨after, rfl⟩ := List.head?_eq_some_iff.1 hhead
    rw [operand] at h
    · cases h
    all_goals simp

theorem Derives.isFound {level : Level} {ts : List Token} {a : Condition}
    (h : Derives routeOf.routes level ts a) : IsFound routeOf level ts a := by
  -- on the derivation; what follows the tokens is free, for a part is followed by its neighbour
  induction h with
  | not h ih =>
    intro rest hrest
    rw [List.cons_append, found_unary_not, ih rest hrest]
    rfl
  | @group ts a h ih =>
    intro rest hrest
    have hmore : found (moreDisjuncts routeOf a (.closeParen :: rest)) =
        .ok (a, .closeParen :: rest) := found_moreDisjuncts_of_ne a (by simp)
    have hinner := ih (.closeParen :: rest) (fun c => by simp) (by simp)
    show found (unary routeOf (.openParen :: (ts ++ [.closeParen] ++ rest))) = _
    rw [List.append_assoc, List.singleton_append, found_unary_group, hinner, hmore]
    rfl
  | @compare ts us left right op hl hr =>
    intro rest hrest
    rw [List.append_assoc, List.cons_append]
    have hleft := hl.found_operand (.op op :: (us ++ rest))
    obtain ⟨o, hright, hside⟩ := hr.found_operand rest
    rw [found_unary_of_found_operand hleft, found_comparison, hleft]
    show (found (operand routeOf (us ++ rest)) >>= _) = _
    rw [hright]
    show (rightSide op o >>= _) = _
    rw [hside]
    rfl
  | @selects text root segments h =>
    intro rest hrest
    have hpath := (IsOperand.path h).found_operand rest
    rw [found_unary_of_found_operand hpath]
    exact found_comparison_path h hrest
  | @conjunct ts a h ih =>
    intro rest hrest
    rw [found_conjunction, ih rest hrest]
    rfl
  | @and ts us a b ha hb iha ihb =>
    -- the reading stands after the chain, where one more conjunct makes it go on
    intro rest hrest
    rw [List.append_assoc, List.cons_append, iha _ (fun c => by simp), found_moreConjuncts_and,
      ihb rest hrest]
    rfl
  | @disjunct ts a h ih =>
    intro rest hrest hand
    rw [found_disjunction, ih rest hrest, found_moreConjuncts_of_ne a hand]
    rfl
  | @or ts us a b ha hb iha ihb =>
    intro rest hrest hand
    rw [List.append_assoc, List.cons_append, iha _ (fun c => by simp) (by simp),
      found_moreDisjuncts_or, ihb rest hrest, found_moreConjuncts_of_ne b hand]
    rfl

/-! ## What is found is derived -/

/-- Whether the operand that is found at the front of tokens is derived from what is used up. -/
def OperandIsDerived (routeOf : RouteReader) (ts : List Token) : Prop :=
  ∀ o rest, found (operand routeOf ts) = .ok (o, rest) →
    ∃ used, ts = used ++ rest ∧ IsOperand routeOf.routes used o

/-- Literals that are found are those of a list up to its closing bracket. -/
theorem items_of_found_literals {ts : List Token}
    (hoperand : ∀ us, us.length ≤ ts.length → OperandIsDerived routeOf us) {vs : List Json}
    {rest : List Token} (h : found (literals routeOf ts) = .ok (vs, rest)) :
    ∃ items : List (List Token × Json), (∀ i ∈ items, IsLiteral i.1 i.2) ∧
      ts = [Token.comma].intercalate (items.map Prod.fst) ++ .closeBracket :: rest ∧
      vs = items.map Prod.snd ∧ items ≠ [] := by
  induction hn : ts.length using Nat.strongRecOn generalizing ts vs with
  | ind n ih =>
    rw [found_literals, bind_eq_ok_iff] at h
    obtain ⟨⟨o, after⟩, hfound, h⟩ := h
    obtain ⟨used, rfl, hused⟩ := hoperand ts (Nat.le_refl _) o after hfound
    -- a literal has to stand there, and after it a comma or the bracket that closes
    cases hused with
    | path hroute => cases after <;> cases h
    | regex hread => cases after <;> cases h
    | @literal _ v hliteral =>
      cases after with
      | nil => cases h
      | cons t after =>
        cases t with
        | closeBracket =>
          cases h
          refine ⟨[(used, v)], ?_, ?_, rfl, List.cons_ne_nil _ _⟩
          · intro i hi
            obtain rfl := List.mem_singleton.1 hi
            exact hliteral
          · simp
        | comma =>
          replace h : (found (literals routeOf after) >>= fun r => .ok (v :: r.1, r.2)) =
            .ok (vs, rest) := h
          rw [bind_eq_ok_iff] at h
          obtain ⟨⟨vs', rest'⟩, hmore, h⟩ := h
          cases h
          have hlt : after.length < n := by
            rw [← hn]
            simp only [List.length_append, List.length_cons]
            omega
          obtain ⟨items, hitems, rfl, rfl, hne⟩ := ih after.length hlt
            (fun us hus => hoperand us (by omega)) hmore rfl
          refine ⟨(used, v) :: items, ?_, ?_, rfl, List.cons_ne_nil _ _⟩
          · intro i hi
            rcases List.mem_cons.1 hi with rfl | hi
            · exact hliteral
            · exact hitems i hi
          · obtain ⟨j, items, rfl⟩ := List.exists_cons_of_ne_nil hne
            simp [List.intercalate]
        | _ => cases h

theorem operandIsDerived (ts : List Token) : OperandIsDerived routeOf ts := by
  -- on the number of tokens: the literals of a list are operands that start further in
  induction hn : ts.length using Nat.strongRecOn generalizing ts with
  | ind n ih =>
    intro o rest h
    cases ts with
    | nil =>
      rw [operand] at h
      cases h
    | cons t ts =>
      cases t with
      | path text =>
        rw [found_operand_path, map_eq_ok_iff] at h
        obtain ⟨r, hroute, hr⟩ := h
        cases hr
        exact ⟨[.path text], rfl, .path hroute⟩
      | regex pattern =>
        rw [found_operand_regex, map_eq_ok_iff] at h
        obtain ⟨r, hcompile, hr⟩ := h
        cases hr
        unfold compile at hcompile
        split at hcompile
        · next r hread =>
          cases hcompile
          exact ⟨[.regex pattern], rfl, .regex hread⟩
        · cases hcompile
      | text s =>
        rw [operand] at h
        cases h
        exact ⟨[.text s], rfl, .literal (.text s)⟩
      | number d =>
        rw [operand] at h
        cases h
        exact ⟨[.number d], rfl, .literal (.number d)⟩
      | bool b =>
        rw [operand] at h
        cases h
        exact ⟨[.bool b], rfl, .literal (.bool b)⟩
      | null =>
        rw [operand] at h
        cases h
        exact ⟨[.null], rfl, .literal .null⟩
      | openBracket =>
        by_cases hclose : ts.head? = some .closeBracket
        · obtain ⟨after, rfl⟩ := List.head?_eq_some_iff.1 hclose
          rw [operand] at h
          cases h
          -- the empty list is one without literals, so nothing is asked of them
          have hnone : ∀ i ∈ ([] : List (List Token × Json)), IsLiteral i.1 i.2 := by simp
          exact ⟨[.openBracket, .closeBracket], rfl, .literal (.list [] hnone)⟩
        · rw [found_operand_list hclose, map_eq_ok_iff] at h
          obtain ⟨⟨vs, after⟩, hliterals, hr⟩ := h
          cases hr
          have hshorter : ∀ us : List Token, us.length ≤ ts.length → OperandIsDerived routeOf us :=
            fun us hus => ih us.length (by rw [← hn, List.length_cons]; omega) us rfl
          obtain ⟨items, hitems, rfl, rfl, -⟩ := items_of_found_literals hshorter hliterals
          refine ⟨_, ?_, .literal (.list items hitems)⟩
          simp
      -- no other token starts an operand
      | _ =>
        rw [operand] at h
        · cases h
        all_goals simp

omit [Regex.Compiler] in
/-- Only a text writes a text. -/
theorem eq_text_of_isLiteral {ts : List Token} {s : String} (h : IsLiteral ts (.str s)) :
    ts = [.text s] := by
  generalize hv : Json.str s = v at h
  cases h with
  | text s' =>
    cases hv
    rfl
  | number d =>
    unfold numberLiteral at hv
    split at hv
    · split at hv <;> cases hv
    · split at hv <;> cases hv
  | bool b => cases hv
  | null => cases hv
  | list items h => cases hv

theorem isRightSide_of_rightSide {op : Comparison} {ts : List Token} {o right : Operand}
    (ho : IsOperand routeOf.routes ts o) (h : rightSide op o = .ok right) :
    IsRightSide routeOf.routes op ts right := by
  by_cases hop : op = .like
  · subst hop
    cases ho with
    | path hroute => cases h
    | regex hread =>
      cases h
      exact .regex hread
    | @literal _ v hliteral =>
      cases v with
      -- a text is compiled, and the tokens have to be its token and no others
      | str s =>
        obtain rfl := eq_text_of_isLiteral hliteral
        replace h : compile s = .ok right := h
        unfold compile at h
        split at h
        · next r hread =>
          cases h
          exact .text hread
        · cases h
      | _ => cases h
  · have hright : rightSide op o = .ok o := by
      unfold rightSide
      split <;> first | rfl | exact absurd rfl hop
    rw [hright] at h
    cases h
    exact .plain hop ho

/-- Whether a condition that is found at the front of tokens by a function of the grammar is derived
at a level from what is used up. -/
def IsDerived (routeOf : RouteReader) (level : Level) (ts : List Token)
    (result : Except PathError (Condition × List Token)) : Prop :=
  ∀ a rest, result = .ok (a, rest) →
    ∃ used, ts = used ++ rest ∧ Derives routeOf.routes level used a

theorem isDerived_comparison (ts : List Token) :
    IsDerived routeOf .unary ts (found (comparison routeOf ts)) := by
  intro a rest h
  cases hleft : found (operand routeOf ts) with
  | error e =>
    rw [found_comparison, hleft] at h
    cases h
  | ok r =>
    obtain ⟨left, after⟩ := r
    obtain ⟨used, rfl, hused⟩ := operandIsDerived ts left after hleft
    by_cases hop : ∃ c after', after = .op c :: after'
    · obtain ⟨c, after', rfl⟩ := hop
      rw [found_comparison, hleft] at h
      replace h : (found (operand routeOf after') >>= fun r => rightSide c r.1 >>= fun right =>
        .ok (.compare left c right, r.2)) = .ok (a, rest) := h
      rw [bind_eq_ok_iff] at h
      obtain ⟨⟨o, rest'⟩, hright, h⟩ := h
      rw [bind_eq_ok_iff] at h
      obtain ⟨right, hside, h⟩ := h
      cases h
      obtain ⟨used', rfl, hused'⟩ := operandIsDerived after' o _ hright
      refine ⟨used ++ .op c :: used', by simp, ?_⟩
      exact .compare hused (isRightSide_of_rightSide hused' hside)
    · -- without an operator the operand has to be a path
      have hafter : MayFollow after := by
        intro c hc
        obtain ⟨after', rfl⟩ := List.head?_eq_some_iff.1 hc
        exact hop ⟨c, after', rfl⟩
      rw [found_comparison_of_mayFollow hleft hafter] at h
      cases hused with
      | @path text root segments hroute =>
        cases h
        exact ⟨[.path text], rfl, .selects hroute⟩
      | literal hliteral => cases h
      | regex hread => cases h

section Chains

variable {ts : List Token}
  (hunary : ∀ us, us.length ≤ ts.length → IsDerived routeOf .unary us (found (unary routeOf us)))
include hunary

/-- What follows a conjunct makes the conjunction longer. -/
theorem derives_of_found_moreConjuncts {left a : Condition} {done rest : List Token}
    (hleft : Derives routeOf.routes .conjunction done left)
    (h : found (moreConjuncts routeOf left ts) = .ok (a, rest)) :
    ∃ used, ts = used ++ rest ∧ Derives routeOf.routes .conjunction (done ++ used) a := by
  induction hn : ts.length using Nat.strongRecOn generalizing ts left done with
  | ind n ih =>
    by_cases hand : ts.head? = some .and
    · obtain ⟨us, rfl⟩ := List.head?_eq_some_iff.1 hand
      rw [found_moreConjuncts_and, bind_eq_ok_iff] at h
      obtain ⟨⟨right, after⟩, hright, h⟩ := h
      obtain ⟨used, rfl, hused⟩ := hunary us (by simp) right after hright
      have hlt : after.length < n := by
        rw [← hn]
        simp only [List.length_append, List.length_cons]
        omega
      -- what is done now includes the conjunct, and the reading is the same from there
      obtain ⟨more, rfl, hmore⟩ := ih after.length hlt
        (fun us hus => hunary us (by simp; omega)) (.and hleft hused) h rfl
      exact ⟨.and :: (used ++ more), by simp, by simpa using hmore⟩
    · rw [found_moreConjuncts_of_ne left hand] at h
      cases h
      exact ⟨[], rfl, by simpa using hleft⟩

theorem isDerived_conjunction :
    IsDerived routeOf .conjunction ts (found (conjunction routeOf ts)) := by
  intro a rest h
  rw [found_conjunction, bind_eq_ok_iff] at h
  obtain ⟨⟨left, after⟩, hleft, h⟩ := h
  obtain ⟨used, rfl, hused⟩ := hunary ts (Nat.le_refl _) left after hleft
  obtain ⟨more, rfl, hmore⟩ := derives_of_found_moreConjuncts
    (fun us hus => hunary us (by simp; omega)) (.conjunct hused) h
  exact ⟨used ++ more, by simp, hmore⟩

/-- What follows a disjunct makes the disjunction longer. -/
theorem derives_of_found_moreDisjuncts {left a : Condition} {done rest : List Token}
    (hleft : Derives routeOf.routes .disjunction done left)
    (h : found (moreDisjuncts routeOf left ts) = .ok (a, rest)) :
    ∃ used, ts = used ++ rest ∧ Derives routeOf.routes .disjunction (done ++ used) a := by
  induction hn : ts.length using Nat.strongRecOn generalizing ts left done with
  | ind n ih =>
    by_cases hor : ts.head? = some .or
    · obtain ⟨us, rfl⟩ := List.head?_eq_some_iff.1 hor
      rw [found_moreDisjuncts_or, bind_eq_ok_iff] at h
      obtain ⟨⟨right, after⟩, hright, h⟩ := h
      obtain ⟨used, rfl, hused⟩ := isDerived_conjunction
        (fun us' hus => hunary us' (by simp; omega)) right after hright
      have hlt : after.length < n := by
        rw [← hn]
        simp only [List.length_append, List.length_cons]
        omega
      obtain ⟨more, rfl, hmore⟩ := ih after.length hlt
        (fun us hus => hunary us (by simp; omega)) (.or hleft hused) h rfl
      exact ⟨.or :: (used ++ more), by simp, by simpa using hmore⟩
    · rw [found_moreDisjuncts_of_ne left hor] at h
      cases h
      exact ⟨[], rfl, by simpa using hleft⟩

theorem isDerived_disjunction :
    IsDerived routeOf .disjunction ts (found (disjunction routeOf ts)) := by
  intro a rest h
  rw [found_disjunction, bind_eq_ok_iff] at h
  obtain ⟨⟨left, after⟩, hleft, h⟩ := h
  obtain ⟨used, rfl, hused⟩ := isDerived_conjunction hunary left after hleft
  obtain ⟨more, rfl, hmore⟩ := derives_of_found_moreDisjuncts
    (fun us hus => hunary us (by simp; omega)) (.disjunct hused) h
  exact ⟨used ++ more, by simp, hmore⟩

end Chains

theorem isDerived_unary (ts : List Token) :
    IsDerived routeOf .unary ts (found (unary routeOf ts)) := by
  -- the tokens in parentheses are read by the same function, and by what calls it
  suffices hall : ∀ n (us : List Token), us.length = n →
      IsDerived routeOf .unary us (found (unary routeOf us)) from hall ts.length ts rfl
  intro n
  induction n using Nat.strongRecOn with
  | ind n ih =>
    intro ts hn a rest h
    by_cases hnot : ts.head? = some .not
    · obtain ⟨us, rfl⟩ := List.head?_eq_some_iff.1 hnot
      rw [found_unary_not, map_eq_ok_iff] at h
      obtain ⟨⟨b, after⟩, hb, h⟩ := h
      cases h
      obtain ⟨used, rfl, hused⟩ := ih us.length (by simp [← hn]) us rfl b _ hb
      exact ⟨.not :: used, rfl, .not hused⟩
    by_cases hopen : ts.head? = some .openParen
    · obtain ⟨us, rfl⟩ := List.head?_eq_some_iff.1 hopen
      rw [found_unary_group, bind_eq_ok_iff] at h
      obtain ⟨⟨b, after⟩, hb, h⟩ := h
      -- what stands in the parentheses is shorter
      have hshorter : ∀ vs : List Token, vs.length ≤ us.length →
          IsDerived routeOf .unary vs (found (unary routeOf vs)) := fun vs hvs =>
        ih vs.length (by rw [← hn, List.length_cons]; omega) vs rfl
      obtain ⟨used, rfl, hused⟩ := isDerived_disjunction hshorter b after hb
      cases after with
      | nil => cases h
      | cons t after =>
        cases t with
        | closeParen =>
          cases h
          exact ⟨.openParen :: used ++ [.closeParen], by simp, .group hused⟩
        | _ => cases h
    · rw [found_unary_of_ne hnot hopen] at h
      exact isDerived_comparison ts a rest h

/-! ## Filters -/

/-- Tokens write a condition just if the grammar derives it from all of them. -/
theorem conditionOf_eq_ok_iff {ts : List Token} {a : Condition} :
    conditionOf routeOf ts = .ok a ↔ Derives routeOf.routes .disjunction ts a := by
  have hfound : conditionOf routeOf ts = .ok a ↔ found (disjunction routeOf ts) = .ok (a, []) := by
    unfold conditionOf
    cases ts with
    -- a text without tokens has an error of its own, and is no disjunction either
    | nil =>
      refine iff_of_false (fun h => by cases h) fun h => ?_
      rw [found_disjunction, found_conjunction, found_unary_of_ne (by simp) (by simp),
        found_comparison, operand] at h
      cases h
    | cons t ts =>
      show (disjunction routeOf (t :: ts) >>= _) = _ ↔ _
      cases disjunction routeOf (t :: ts) with
      | error e => exact iff_of_false (fun h => by cases h) fun h => by cases h
      | ok r =>
        obtain ⟨b, ⟨rest, h⟩⟩ := r
        cases rest with
        | nil =>
          show Except.ok b = _ ↔ Except.ok (b, []) = _
          simp
        | cons u rest =>
          exact iff_of_false (fun h => by cases h) fun h => by cases h
  rw [hfound]
  constructor
  · intro h
    obtain ⟨used, rfl, hused⟩ := isDerived_disjunction (fun us _ => isDerived_unary us) a [] h
    rwa [List.append_nil]
  · intro h
    have hall := h.isFound [] (fun c => by simp) (by simp)
    rw [List.append_nil, found_moreDisjuncts_of_ne a (by simp)] at hall
    exact hall

end Mooring.Path
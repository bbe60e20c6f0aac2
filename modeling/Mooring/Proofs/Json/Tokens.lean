import Mathlib.Data.List.TakeWhile
import Mathlib.Data.Option.Basic
import Mooring.Json.Reader
import Mooring.Json.Writer
import Mooring.Proofs.Text.Numeral

set_option autoImplicit false

/-!
# Tokens of a written text

What the lexer makes of the pieces of a written document. A piece is closed if it is cut into its
tokens whatever follows (`Closed`): blanks, punctuation and quoted strings are. Numbers and names
are cut off where a character follows that cannot belong to them (`Open`), and a comma or the end of
a line does not.
-/

namespace Mooring.Json

/-! ## Pieces of a text -/

/-- The characters are cut into the tokens, whatever follows them. -/
def Closed (cs : List Char) (ts : List Token) : Prop :=
  ∀ rest, tokensIn? .between (cs ++ rest) = (tokensIn? .between rest).map (ts ++ ·)

/-- Whether no number and no name goes on where these characters follow. -/
def Breaks (cs : List Char) : Prop :=
  ∀ c ∈ cs.head?, isNumberChar c = false ∧ c.isAlpha = false

/-- The characters are cut into the tokens where a break follows them. -/
def Open (cs : List Char) (ts : List Token) : Prop :=
  ∀ rest, Breaks rest → tokensIn? .between (cs ++ rest) = (tokensIn? .between rest).map (ts ++ ·)

section Pieces

variable {cs ds : List Char} {ts us : List Token} {c : Char}

theorem Closed.isOpen (h : Closed cs ts) : Open cs ts :=
  fun rest _ => h rest

theorem Closed.nil : Closed [] [] := by
  intro rest
  rw [List.nil_append]
  cases tokensIn? .between rest <;> rfl

theorem Closed.append (hc : Closed cs ts) (hd : Closed ds us) : Closed (cs ++ ds) (ts ++ us) := by
  intro rest
  rw [List.append_assoc, hc, hd, Option.map_map]
  congr 1
  funext vs
  exact (List.append_assoc ts us vs).symm

theorem Closed.append_open (hc : Closed cs ts) (hd : Open ds us) : Open (cs ++ ds) (ts ++ us) := by
  intro rest hrest
  rw [List.append_assoc, hc, hd rest hrest, Option.map_map]
  congr 1
  funext vs
  exact (List.append_assoc ts us vs).symm

theorem breaks_cons (hnumber : isNumberChar c = false) (halpha : c.isAlpha = false) :
    Breaks (c :: ds) := by
  intro d hd
  obtain rfl : c = d := by simpa using hd
  exact ⟨hnumber, halpha⟩

/-- What is cut off by the next piece is closed together with it. -/
theorem Open.append (hc : Open cs ts) (hd : Closed ds us) (hbreak : ∀ rest, Breaks (ds ++ rest)) :
    Closed (cs ++ ds) (ts ++ us) := by
  intro rest
  rw [List.append_assoc, hc _ (hbreak rest), hd, Option.map_map]
  congr 1
  funext vs
  exact (List.append_assoc ts us vs).symm

theorem tokensIn?_between (c : Char) (rest : List Char) :
    tokensIn? .between (c :: rest) =
      (startMode? c).bind fun s => (tokensIn? s.2 rest).map (s.1.toList ++ ·) := by
  rw [tokensIn?]
  cases startMode? c with
  | none => rfl
  | some s =>
    show (tokensIn? s.2 rest).bind _ = (tokensIn? s.2 rest).map _
    cases tokensIn? s.2 rest <;> rfl

theorem closed_of_startMode? {started : Option Token}
    (h : startMode? c = some (started, .between)) : Closed [c] started.toList := by
  intro rest
  show tokensIn? .between (c :: rest) = _
  rw [tokensIn?_between, h, Option.bind_some]

theorem closed_blank (h : isJsonBlank c = true) : Closed [c] [] :=
  closed_of_startMode? (by rw [startMode?, if_pos h])

theorem closed_blanks (h : ∀ c ∈ cs, isJsonBlank c = true) : Closed cs [] := by
  induction cs with
  | nil => exact .nil
  | cons c rest ih =>
    obtain ⟨hc, hrest⟩ := List.forall_mem_cons.1 h
    exact (closed_blank hc).append (ih hrest)

theorem closed_openArray : Closed ['['] [.openArray] :=
  closed_of_startMode? (c := '[') rfl

theorem closed_closeArray : Closed [']'] [.closeArray] :=
  closed_of_startMode? (c := ']') rfl

theorem closed_openObject : Closed ['\x7b'] [.openObject] :=
  closed_of_startMode? (c := '\x7b') rfl

theorem closed_closeObject : Closed ['\x7d'] [.closeObject] :=
  closed_of_startMode? (c := '\x7d') rfl

theorem closed_comma : Closed [','] [.comma] :=
  closed_of_startMode? (c := ',') rfl

theorem closed_colon : Closed [':'] [.colon] :=
  closed_of_startMode? (c := ':') rfl

end Pieces

/-! ## Strings -/

section Strings

theorem hexValue?_hexDigit : ∀ n, n < 16 → hexValue? (hexDigit n) = some n := by
  decide

theorem hexDigit_ne : ∀ n, n < 16 → hexDigit n ≠ '"' ∧ hexDigit n ≠ '\\' := by
  decide

/-- How a character stands in a string: an escape of one letter, one of four digits, or itself. -/
theorem escapeChar_cases (c : Char) :
    (∃ e, escapeChar c = ['\\', e] ∧ e ≠ 'u' ∧ simpleEscape? e = some c) ∨
    (c.toNat < 0x20 ∧ escapeChar c =
      ['\\', 'u', '0', '0', hexDigit (c.toNat / 16), hexDigit (c.toNat % 16)]) ∨
    (escapeChar c = [c] ∧ c ≠ '"' ∧ c ≠ '\\' ∧ ¬ c.toNat < 0x20) := by
  unfold escapeChar
  split
  · exact .inl ⟨'"', rfl, by decide, rfl⟩
  · exact .inl ⟨'\\', rfl, by decide, rfl⟩
  · exact .inl ⟨'n', rfl, by decide, rfl⟩
  · exact .inl ⟨'t', rfl, by decide, rfl⟩
  · exact .inl ⟨'r', rfl, by decide, rfl⟩
  · exact .inl ⟨'b', rfl, by decide, rfl⟩
  · exact .inl ⟨'f', rfl, by decide, rfl⟩
  · next hquote hslash _ _ _ _ _ =>
    right
    split
    · next hlow => exact .inl ⟨hlow, rfl⟩
    · next hhigh => exact .inr ⟨rfl, hquote, hslash, hhigh⟩

variable {read rest : List Char} {c : Char}

theorem tokensIn?_inText_plain (hquote : c ≠ '"') (hslash : c ≠ '\\') :
    tokensIn? (.inText read) (c :: rest) = tokensIn? (.inText (c :: read)) rest := by
  rw [tokensIn?, if_neg hquote, if_neg hslash]

theorem tokensIn?_inText_escape (e : Char) :
    tokensIn? (.inText read) ('\\' :: e :: rest) = tokensIn? (.inText (e :: '\\' :: read)) rest := by
  rw [tokensIn?, if_neg (by decide), if_pos rfl, tokensIn?]

/-- An escaped character does not end the string it stands in. -/
theorem tokensIn?_inText_escapeChar (c : Char) :
    tokensIn? (.inText read) (escapeChar c ++ rest) =
      tokensIn? (.inText ((escapeChar c).reverse ++ read)) rest := by
  rcases escapeChar_cases c with ⟨e, he, -, -⟩ | ⟨hlow, he⟩ | ⟨he, hquote, hslash, -⟩
  · rw [he]
    exact tokensIn?_inText_escape e
  · obtain ⟨hquote, hslash⟩ := hexDigit_ne (c.toNat / 16) (by omega)
    obtain ⟨hquote', hslash'⟩ := hexDigit_ne (c.toNat % 16) (by omega)
    rw [he]
    show tokensIn? (.inText read) ('\\' :: 'u' :: '0' :: '0' :: _ :: _ :: rest) = _
    rw [tokensIn?_inText_escape, tokensIn?_inText_plain (by decide) (by decide),
      tokensIn?_inText_plain (by decide) (by decide), tokensIn?_inText_plain hquote hslash,
      tokensIn?_inText_plain hquote' hslash']
    rfl
  · rw [he]
    exact tokensIn?_inText_plain hquote hslash

theorem tokensIn?_inText_flatMap (cs : List Char) :
    tokensIn? (.inText read) (cs.flatMap escapeChar ++ rest) =
      tokensIn? (.inText ((cs.flatMap escapeChar).reverse ++ read)) rest := by
  induction cs generalizing read with
  | nil => rfl
  | cons c cs ih =>
    rw [List.flatMap_cons, List.append_assoc, tokensIn?_inText_escapeChar, ih, List.reverse_append,
      List.append_assoc]

theorem unescape?_hex {a b : Char} {n : Nat} (hn : n < 0x20) (h : hexUnit? '0' '0' a b = some n) :
    unescape? ('\\' :: 'u' :: '0' :: '0' :: a :: b :: rest) =
      (unescape? rest).map (Char.ofNat n :: ·) := by
  have hsurrogate : ¬ (0xD800 ≤ n ∧ n < 0xDC00) := by omega
  have hlow : ¬ (0xDC00 ≤ n ∧ n < 0xE000) := by omega
  have hany : ¬ (0xD800 ≤ n ∧ n < 0xE000) := by omega
  rw [unescape?.eq_def]
  split
  · next heq => cases heq
  · next heq =>
    -- another escape of four digits follows, and the two are no pair
    simp only [List.cons.injEq] at heq
    obtain ⟨-, -, rfl, rfl, rfl, rfl, rfl⟩ := heq
    simp only [h, Option.bind_eq_bind, Option.bind_some, if_neg hsurrogate, if_neg hlow]
    cases unescape? _ <;> rfl
  · next heq =>
    simp only [List.cons.injEq] at heq
    obtain ⟨-, -, rfl, rfl, rfl, rfl, rfl⟩ := heq
    simp only [h, Option.bind_eq_bind, Option.bind_some, if_neg hany]
    cases unescape? _ <;> rfl
  · next hne heq =>
    simp only [List.cons.injEq] at heq
    exact absurd heq.2.2.symm fun hrest => hne _ _ _ _ _ heq.2.1.symm hrest
  · next hne heq =>
    simp only [List.cons.injEq] at heq
    exact absurd heq.2.symm fun hrest => hne _ _ heq.1.symm hrest

theorem unescape?_simple {e c : Char} (hu : e ≠ 'u') (h : simpleEscape? e = some c) :
    unescape? ('\\' :: e :: rest) = (unescape? rest).map (c :: ·) := by
  rw [unescape?.eq_def]
  split
  · next heq => cases heq
  · next heq =>
    simp only [List.cons.injEq] at heq
    exact absurd heq.2.1 hu
  · next heq =>
    simp only [List.cons.injEq] at heq
    exact absurd heq.2.1 hu
  · next heq =>
    simp only [List.cons.injEq] at heq
    obtain ⟨-, rfl, rfl⟩ := heq
    simp only [h, Option.bind_eq_bind, Option.bind_some]
    cases unescape? rest <;> rfl
  · next hne heq =>
    simp only [List.cons.injEq] at heq
    exact absurd heq.2.symm fun hrest => hne _ _ heq.1.symm hrest

theorem unescape?_plain {c : Char} (hslash : c ≠ '\\') (hhigh : ¬ c.toNat < 0x20) :
    unescape? (c :: rest) = (unescape? rest).map (c :: ·) := by
  rw [unescape?.eq_def]
  split
  · next heq => cases heq
  · next heq =>
    simp only [List.cons.injEq] at heq
    exact absurd heq.1 hslash
  · next heq =>
    simp only [List.cons.injEq] at heq
    exact absurd heq.1 hslash
  · next heq =>
    simp only [List.cons.injEq] at heq
    exact absurd heq.1 hslash
  · next heq =>
    simp only [List.cons.injEq] at heq
    obtain ⟨rfl, rfl⟩ := heq
    rw [if_neg (by simp [hslash, hhigh])]
    cases unescape? rest <;> rfl

/-- The last two of four digits make up a number under 32. -/
theorem hexUnit?_hexDigit {n : Nat} (h : n < 0x20) :
    hexUnit? '0' '0' (hexDigit (n / 16)) (hexDigit (n % 16)) = some n := by
  have hzero : hexValue? '0' = some 0 := by decide
  unfold hexUnit?
  rw [hexValue?_hexDigit _ (by omega), hexValue?_hexDigit _ (by omega), hzero]
  simp only [Option.bind_eq_bind, Option.bind_some, Option.pure_def, Option.some.injEq]
  omega

theorem unescape?_escapeChar (c : Char) :
    unescape? (escapeChar c ++ rest) = (unescape? rest).map (c :: ·) := by
  rcases escapeChar_cases c with ⟨e, he, hu, hsimple⟩ | ⟨hlow, he⟩ | ⟨he, -, hslash, hhigh⟩
  · rw [he]
    exact unescape?_simple hu hsimple
  · rw [he]
    show unescape? ('\\' :: 'u' :: '0' :: '0' :: _ :: _ :: rest) = _
    rw [unescape?_hex hlow (hexUnit?_hexDigit hlow), Char.ofNat_toNat]
  · rw [he]
    exact unescape?_plain hslash hhigh

theorem unescape?_flatMap (cs : List Char) : unescape? (cs.flatMap escapeChar) = some cs := by
  induction cs with
  | nil => rfl
  | cons c cs ih =>
    rw [List.flatMap_cons, unescape?_escapeChar, ih]
    rfl

/-- A quoted string is one token. -/
theorem closed_quote (s : String) : Closed (quote s).toList [.text s] := by
  intro rest
  have hlist : (quote s).toList = '"' :: (s.toList.flatMap escapeChar ++ ['"']) := by simp [quote]
  have hstart : startMode? '"' = some (none, .inText []) := rfl
  have htoken : textToken? (s.toList.flatMap escapeChar) = some (.text s) := by
    rw [textToken?, unescape?_flatMap]
    simp only [String.ofList_toList]
  rw [hlist, List.cons_append, tokensIn?_between, hstart, Option.bind_some, List.append_assoc,
    tokensIn?_inText_flatMap, List.cons_append, tokensIn?, if_pos rfl, List.append_nil,
    List.reverse_reverse, htoken, Option.bind_eq_bind, Option.bind_some, List.nil_append]
  cases tokensIn? .between rest <;> rfl

end Strings

/-! ## Names and numbers -/

section Runs

variable {read cs rest : List Char} {c : Char}

/-- A number or a name ends where a break follows it. -/
theorem tokensIn?_of_breaks {mode : Mode} {t : Token} (hrest : Breaks rest)
    (hmode : (∃ read, mode = .inNumber read) ∨ ∃ read, mode = .inWord read)
    (hfinish : mode.finish? = some (some t)) :
    tokensIn? mode rest = (tokensIn? .between rest).map ([t] ++ ·) := by
  -- either way what is open is finished and reading goes on from between two tokens
  cases rest with
  | nil =>
    have hend : tokensIn? mode [] = mode.finish?.bind fun ended => some ended.toList := by
      rcases hmode with ⟨read, rfl⟩ | ⟨read, rfl⟩
      · rw [tokensIn?]
        rfl
      · rw [tokensIn?]
        rfl
    have hbetween : tokensIn? .between [] = some [] := by
      rw [tokensIn?]
      rfl
    rw [hend, hfinish, hbetween]
    rfl
  | cons c rest =>
    obtain ⟨hnumber, halpha⟩ := hrest c rfl
    have hcut : tokensIn? mode (c :: rest) = mode.finish?.bind fun ended =>
        (startMode? c).bind fun s =>
          (tokensIn? s.2 rest).bind fun ts => some (ended.toList ++ s.1.toList ++ ts) := by
      rcases hmode with ⟨read, rfl⟩ | ⟨read, rfl⟩
      · rw [tokensIn?, hnumber]
        rfl
      · rw [tokensIn?, halpha]
        rfl
    rw [hcut, hfinish, tokensIn?_between]
    cases startMode? c with
    | none => rfl
    | some s =>
      rw [Option.bind_some, Option.bind_some, Option.bind_some]
      cases tokensIn? s.2 rest <;> rfl

theorem tokensIn?_inWord_append (h : ∀ c ∈ cs, c.isAlpha = true) :
    tokensIn? (.inWord read) (cs ++ rest) = tokensIn? (.inWord (cs.reverse ++ read)) rest := by
  induction cs generalizing read with
  | nil => rfl
  | cons c cs ih =>
    obtain ⟨hc, hcs⟩ := List.forall_mem_cons.1 h
    rw [List.cons_append, tokensIn?, if_pos hc, ih hcs, List.reverse_cons, List.append_assoc]
    rfl

theorem tokensIn?_inNumber_append (h : ∀ c ∈ cs, isNumberChar c = true) :
    tokensIn? (.inNumber read) (cs ++ rest) = tokensIn? (.inNumber (cs.reverse ++ read)) rest := by
  induction cs generalizing read with
  | nil => rfl
  | cons c cs ih =>
    obtain ⟨hc, hcs⟩ := List.forall_mem_cons.1 h
    rw [List.cons_append, tokensIn?, if_pos hc, ih hcs, List.reverse_cons, List.append_assoc]
    rfl

/-- A literal name is one token. -/
theorem open_word {name : String} {v : Json} (hname : name.toList = c :: cs)
    (hstart : startMode? c = some (none, .inWord [c])) (hletters : cs.all Char.isAlpha = true)
    (hv : literal? name = some v) : Open name.toList [.word name (some v)] := by
  intro rest hrest
  have hfinish : (Mode.inWord (cs.reverse ++ [c])).finish? = some (some (.word name (some v))) := by
    have hread : String.ofList (cs.reverse ++ [c]).reverse = name := by
      simp [← hname]
    rw [Mode.finish?, hread]
    simp [hv]
  rw [hname, List.cons_append, tokensIn?_between, hstart, Option.bind_some,
    tokensIn?_inWord_append (List.all_eq_true.1 hletters),
    tokensIn?_of_breaks hrest (.inr ⟨_, rfl⟩) hfinish]
  cases tokensIn? .between rest <;> rfl

theorem open_literal {name : String} {v : Json} (h : literal? name = some v) :
    Open name.toList [.word name (some v)] := by
  have hname : name = "null" ∨ name = "true" ∨ name = "false" := by
    by_contra hne
    simp only [not_or] at hne
    rw [literal?, if_neg hne.1, if_neg hne.2.1, if_neg hne.2.2] at h
    cases h
  rcases hname with rfl | rfl | rfl
  · exact open_word String.toList_ofList rfl rfl h
  · exact open_word String.toList_ofList rfl rfl h
  · exact open_word String.toList_ofList rfl rfl h

/-- A number is one token. -/
theorem open_number {n : Numeral} (hstart : startMode? c = some (none, .inNumber [c]))
    (hcs : ∀ d ∈ cs, isNumberChar d = true) (hn : numeral? (c :: cs) = some n) :
    Open (c :: cs) [n.token] := by
  intro rest hrest
  have hfinish : (Mode.inNumber (cs.reverse ++ [c])).finish? = some (some n.token) := by
    rw [Mode.finish?, List.reverse_append, List.reverse_reverse]
    show (numeral? (c :: cs)).map _ = _
    rw [hn]
    rfl
  rw [List.cons_append, tokensIn?_between, hstart, Option.bind_some,
    tokensIn?_inNumber_append hcs, tokensIn?_of_breaks hrest (.inl ⟨_, rfl⟩) hfinish]
  cases tokensIn? .between rest <;> rfl

end Runs

/-! ## Numerals -/

section Numerals

/-- A numeral does not start with a zero, unless it is one. -/
theorem head?_toDigits {n : Nat} (h : (Nat.toDigits 10 n).head? = some '0') : n = 0 := by
  induction n using Nat.strongRecOn with
  | ind n ih =>
    by_cases hsmall : n < 10
    · rw [Nat.toDigits_of_lt_base hsmall] at h
      have hdigit : ∀ m < 10, Nat.digitChar m = '0' → m = 0 := by decide
      exact hdigit n hsmall (by simpa using h)
    · have hstep : Nat.toDigits 10 n = Nat.toDigits 10 (n / 10) ++ [Nat.digitChar (n % 10)] :=
        Nat.toDigits_of_base_le (by decide) (by omega)
      rw [hstep, List.head?_append, List.head?_eq_some_head Nat.toDigits_ne_nil, Option.some_or,
        ← List.head?_eq_some_head Nat.toDigits_ne_nil] at h
      have hzero : n / 10 = 0 := ih (n / 10) (by omega) h
      omega

theorem written_toDigits (n : Nat) :
    Double.Written.ofText? (Nat.toDigits 10 n) = some ⟨Nat.toDigits 10 n, [], 0⟩ := by
  have hall : ∀ c ∈ Nat.toDigits 10 n, c.isDigit = true :=
    fun c hc => Text.isDigit_of_mem_toDigits hc
  have hwhole : (Nat.toDigits 10 n).takeWhile Char.isDigit = Nat.toDigits 10 n :=
    List.takeWhile_eq_self_iff.2 hall
  have hrest : (Nat.toDigits 10 n).dropWhile Char.isDigit = [] :=
    List.dropWhile_eq_nil_iff.2 hall
  unfold Double.Written.ofText?
  simp [hwhole, hrest, Nat.toDigits_ne_nil]

/-- The numeral of an integer is a number of the grammar. -/
theorem numeral?_repr (n : Int) :
    numeral? n.repr.toList = some ⟨decide (n < 0), Nat.toDigits 10 n.natAbs,
      ⟨Nat.toDigits 10 n.natAbs, [], 0⟩⟩ := by
  -- a numeral has no leading zero and no point, so the guards of the reader let it pass
  have hfirst : ∀ m, (Nat.toDigits 10 m).head? ≠ some '0' ∨ (Nat.toDigits 10 m).length = 1 := by
    intro m
    by_cases hm : m = 0
    · subst hm
      exact .inr rfl
    · exact .inl fun h => hm (head?_toDigits h)
  have hpoint : ∀ m, (Nat.toDigits 10 m).contains '.' = false := by
    intro m
    rw [List.contains_eq_mem, decide_eq_false_iff_not]
    intro hc
    exact absurd (Text.isDigit_of_mem_toDigits hc) (by decide)
  have hguard : ∀ m, (guard (Nat.toDigits 10 m ≠ [] ∧
      ((Nat.toDigits 10 m).head? ≠ some '0' ∨ (Nat.toDigits 10 m).length = 1)) : Option Unit) =
      some () := fun m => if_pos ⟨Nat.toDigits_ne_nil, hfirst m⟩
  have hpart : (guard (false = true → ([] : List Char) ≠ []) : Option Unit) = some () :=
    if_pos nofun
  cases n with
  | ofNat m =>
    rw [Text.toList_repr_ofNat]
    unfold numeral?
    split
    · next heq =>
      split at heq
      · next hminus => exact absurd hminus (Text.toDigits_ne_minus m _)
      · obtain ⟨rfl, rfl⟩ := Prod.mk.inj heq
        simp only [written_toDigits, Option.bind_eq_bind, Option.bind_some, hpoint, hguard]
        rw [hpart]
        rfl
  | negSucc m =>
    have hnegative : decide (Int.negSucc m < 0) = true := decide_eq_true (Int.negSucc_lt_zero m)
    rw [Text.toList_repr_negSucc, hnegative]
    unfold numeral?
    simp only [written_toDigits, Option.bind_eq_bind, Option.bind_some, hpoint, hguard]
    rw [hpart]
    rfl

/-- An integer of at most 64 bits is the value of its numeral. -/
theorem value?_of_digits {n : Int} (hlow : -Int.pow 2 63 ≤ n) (hhigh : n < Int.pow 2 64) :
    Numeral.value? ⟨decide (n < 0), Nat.toDigits 10 n.natAbs,
      ⟨Nat.toDigits 10 n.natAbs, [], 0⟩⟩ = some (.int n) := by
  have hplain : (Nat.toDigits 10 n.natAbs).all Char.isDigit = true :=
    List.all_eq_true.2 fun c hc => Text.isDigit_of_mem_toDigits hc
  unfold Numeral.value?
  simp only [Double.ofDigits_toDigits]
  by_cases hn : n < 0
  · have hvalue : -(n.natAbs : Int) = n := by omega
    simp only [hn, decide_true, if_true, hvalue]
    exact if_pos ⟨hplain, .inl (by omega), hlow, hhigh⟩
  · have hvalue : (n.natAbs : Int) = n := by omega
    simp only [hn, decide_false, Bool.false_eq_true, if_false, hvalue]
    exact if_pos ⟨hplain, .inr rfl, hlow, hhigh⟩

theorem startMode?_of_isDigit {c : Char} (h : c.isDigit = true) :
    startMode? c = some (none, .inNumber [c]) := by
  have hblank : isJsonBlank c = false := by
    rw [Bool.eq_false_iff]
    intro hblank
    simp only [isJsonBlank, Bool.or_eq_true, beq_iff_eq] at hblank
    rcases hblank with ((rfl | rfl) | rfl) | rfl
    all_goals cases h
  have hquote : c ≠ '"' := by
    rintro rfl
    cases h
  rw [startMode?, hblank, if_neg Bool.false_ne_true, if_neg hquote, if_pos (.inl h)]

theorem open_repr {n : Int} (hlow : -Int.pow 2 63 ≤ n) (hhigh : n < Int.pow 2 64) :
    Open n.repr.toList [.number (.num (.int n))] := by
  have hnumber := numeral?_repr n
  have htoken : Numeral.token ⟨decide (n < 0), Nat.toDigits 10 n.natAbs,
      ⟨Nat.toDigits 10 n.natAbs, [], 0⟩⟩ = .number (.num (.int n)) := by
    rw [Numeral.token, value?_of_digits hlow hhigh]
  cases hlist : n.repr.toList with
  | nil => exact absurd hlist (Text.toList_repr_ne_nil n)
  | cons c cs =>
    have hchar : ∀ d ∈ c :: cs, d = '-' ∨ d.isDigit = true := by
      intro d hd
      exact Text.mem_repr (hlist ▸ hd)
    rw [hlist] at hnumber
    rw [← htoken]
    apply open_number
    · rcases hchar c List.mem_cons_self with rfl | hdigit
      · rfl
      · exact startMode?_of_isDigit hdigit
    · intro d hd
      rcases hchar d (List.mem_cons_of_mem c hd) with rfl | hdigit
      · rfl
      · simp [isNumberChar, hdigit]
    · exact hnumber

end Numerals

end Mooring.Json

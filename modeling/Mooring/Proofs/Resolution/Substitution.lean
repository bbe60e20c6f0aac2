import Mathlib.Data.List.Basic
import Mooring.Resolution.Template

set_option autoImplicit false

/-!
# Tokens replaced one after the other

A template whose tokens are kept apart is a list of pieces, and the text that is searched for a
token stays such a list through every replacement: a token is found at the piece that is that token
and nowhere else (`replaceAll_write`, `occursIn_write`), since what stands between the closing mark
of one token and the opening mark of the next is no name. So replacing the tokens one after the
other is the same as replacing them all at once, in whatever order the values come, and the report
gains the tokens of the template that have a value (`substitute_pieces`).
-/

namespace Mooring

/-! ## Values by name -/

namespace OrderedMap

variable {α : Type} {m m' : OrderedMap α} {name : String} {v : α}

theorem mem_of_lookup {entries : List (String × α)} (h : entries.lookup name = some v) :
    (name, v) ∈ entries := by
  obtain ⟨before, after, rfl, -⟩ := List.lookup_eq_some_iff.1 h
  exact List.mem_append_right _ List.mem_cons_self

theorem get?_eq_some_iff : m.get? name = some v ↔ (name, v) ∈ m.entries := by
  constructor
  · exact mem_of_lookup
  · intro h
    obtain ⟨before, after, hentries⟩ := List.append_of_mem h
    refine List.lookup_eq_some_iff.2 ⟨before, after, hentries, fun p hp => bne_iff_ne.2 ?_⟩
    have hnodup := m.nodup
    rw [hentries, List.map_append, List.map_cons] at hnodup
    exact fun heq => (List.nodup_append.1 hnodup).2.2 _ (List.mem_map_of_mem hp) _
      List.mem_cons_self heq.symm

/-- The order of the entries is nothing that a look-up sees. -/
theorem get?_of_perm (h : m'.entries.Perm m.entries) (name : String) :
    m'.get? name = m.get? name :=
  Option.ext fun v => by rw [get?_eq_some_iff, get?_eq_some_iff, h.mem_iff]

end OrderedMap

/-! ## Searching for a text that starts with a mark -/

namespace Text

variable {mark c : Char} {token value cs rest : List Char}

theorem replaceFrom_length (cs rest : List Char) :
    replaceFrom token value cs.length (cs ++ rest) = replaceFrom token value 0 rest := by
  induction cs with
  | nil => rfl
  | cons c cs ih => exact ih

/-- Where another character stands than the mark, the text does not start. -/
theorem not_prefix_of_ne (h : mark ≠ c) : ¬ mark :: token <+: c :: rest := fun hstart =>
  h (List.cons_prefix_cons.1 hstart).1

theorem replaceFrom_cons_of_not_prefix (h : ¬ token <+: c :: rest) :
    replaceFrom token value 0 (c :: rest) = c :: replaceFrom token value 0 rest := by
  rw [replaceFrom, if_neg (mt List.isPrefixOf_iff_prefix.1 h)]

theorem occursIn_cons_of_not_prefix (h : ¬ token <+: c :: rest) :
    occursIn token (c :: rest) = occursIn token rest := by
  rw [occursIn, Bool.eq_false_iff.2 (mt List.isPrefixOf_iff_prefix.1 h), Bool.false_or]

/-- An occurrence at the start is replaced, and the search goes on after it. -/
theorem replaceFrom_self (h : token ≠ []) (rest : List Char) :
    replaceFrom token value 0 (token ++ rest) = value ++ replaceFrom token value 0 rest := by
  obtain ⟨c, cs, rfl⟩ := List.exists_cons_of_ne_nil h
  have hstart : (c :: cs).isPrefixOf (c :: (cs ++ rest)) = true :=
    List.isPrefixOf_iff_prefix.2 ⟨rest, rfl⟩
  rw [List.cons_append, replaceFrom, if_pos hstart, List.length_cons, Nat.add_sub_cancel,
    replaceFrom_length]

theorem occursIn_self (h : token ≠ []) (rest : List Char) :
    occursIn token (token ++ rest) = true := by
  obtain ⟨c, cs, rfl⟩ := List.exists_cons_of_ne_nil h
  have hstart : (c :: cs).isPrefixOf (c :: (cs ++ rest)) = true :=
    List.isPrefixOf_iff_prefix.2 ⟨rest, rfl⟩
  rw [List.cons_append, occursIn, hstart, Bool.true_or]

section Unmarked

variable (hcs : mark ∉ cs)
include hcs

/-- Nothing is found in a text without the mark. -/
theorem replaceFrom_append_of_notMem (rest : List Char) :
    replaceFrom (mark :: token) value 0 (cs ++ rest) =
      cs ++ replaceFrom (mark :: token) value 0 rest := by
  induction cs with
  | nil => rfl
  | cons c cs ih =>
    rw [List.mem_cons, not_or] at hcs
    rw [List.cons_append, replaceFrom_cons_of_not_prefix (not_prefix_of_ne hcs.1), ih hcs.2,
      List.cons_append]

theorem occursIn_append_of_notMem (rest : List Char) :
    occursIn (mark :: token) (cs ++ rest) = occursIn (mark :: token) rest := by
  induction cs with
  | nil => rfl
  | cons c cs ih =>
    rw [List.mem_cons, not_or] at hcs
    rw [List.cons_append, occursIn_cons_of_not_prefix (not_prefix_of_ne hcs.1), ih hcs.2]

end Unmarked

end Text

namespace Template

/-! ## Tokens and the pieces of a template -/

/-- The characters of names: ASCII letters and digits, the underscore and the hyphen. -/
def isNameChar (c : Char) : Bool :=
  c.isAlphanum || c == '_' || c == '-'

/-- A word that can name a token. -/
def IsTokenName (name : List Char) : Prop :=
  name ≠ [] ∧ ∀ c ∈ name, isNameChar c = true

instance (name : List Char) : Decidable (IsTokenName name) :=
  decidable_of_iff (name ≠ [] ∧ name.all isNameChar = true)
    (and_congr_right fun _ => List.all_eq_true)

/-- The token of a name: the name between two marks. -/
def token (name : List Char) : String :=
  String.ofList ('#' :: (name ++ ['#']))

/-- A piece of a template: text that stands for itself, or a token. -/
inductive Piece where
  | literal (cs : List Char)
  | token (name : List Char)
  deriving DecidableEq

namespace Piece

/-- The text of a piece. -/
def text : Piece → List Char
  | literal cs => cs
  | token name => (Template.token name).toList

/-- A piece in which a token that has a value is replaced by it. -/
def filled (entries : List (String × String)) : Piece → Piece
  | literal cs => literal cs
  | token name =>
    match entries.lookup (Template.token name) with
    | some value => literal value.toList
    | none => token name

/-- The token that a piece is, if it is one. -/
def token? : Piece → Option String
  | literal _ => none
  | token name => some (Template.token name)

end Piece

/-- The text of a list of pieces. -/
def write (ps : List Piece) : List Char :=
  ps.flatMap Piece.text

/-- The tokens among pieces. -/
def tokens (ps : List Piece) : List String :=
  ps.filterMap Piece.token?

/-- Literals hold no mark, tokens have names, and between two tokens there is a character that no
name has; `apart` says whether there is one since the last token. -/
def AreSpaced : Bool → List Piece → Prop
  | _, [] => True
  | apart, .literal cs :: ps => '#' ∉ cs ∧ AreSpaced (apart || cs.any (!isNameChar ·)) ps
  | apart, .token name :: ps => apart = true ∧ IsTokenName name ∧ AreSpaced false ps

instance instDecidableAreSpaced : ∀ (apart : Bool) (ps : List Piece),
    Decidable (AreSpaced apart ps)
  | _, [] => .isTrue trivial
  | apart, .literal cs :: ps =>
    have := instDecidableAreSpaced (apart || cs.any (!isNameChar ·)) ps
    inferInstanceAs (Decidable (_ ∧ _))
  | _, .token _ :: ps =>
    have := instDecidableAreSpaced false ps
    inferInstanceAs (Decidable (_ ∧ _ ∧ _))

/-- Values of tokens, none of which holds a mark. -/
def AreTokenValues (entries : List (String × String)) : Prop :=
  ∀ entry ∈ entries, (∃ name, IsTokenName name ∧ entry.1 = token name) ∧ '#' ∉ entry.2.toList

variable {apart apart' : Bool} {name other cs rest : List Char} {value key : String}
  {ps : List Piece} {entries : List (String × String)} {report : List String}

theorem toList_token (name : List Char) : (token name).toList = '#' :: (name ++ ['#']) :=
  String.toList_ofList

theorem toList_token_append (name rest : List Char) :
    (token name).toList ++ rest = '#' :: (name ++ '#' :: rest) := by
  rw [toList_token, List.cons_append, List.append_assoc, List.singleton_append]

theorem toList_token_ne_nil (name : List Char) : (token name).toList ≠ [] := by
  rw [toList_token]
  exact List.cons_ne_nil _ _

theorem token_inj : token name = token other ↔ name = other := by
  rw [token, token, String.ofList_inj, List.cons_inj_right, List.append_left_inj]

theorem IsTokenName.mark_notMem (h : IsTokenName name) : '#' ∉ name := fun hm =>
  absurd (h.2 _ hm) (by decide)

@[simp]
theorem write_literal : write (.literal cs :: ps) = cs ++ write ps :=
  rfl

@[simp]
theorem write_token : write (.token name :: ps) = (token name).toList ++ write ps :=
  rfl

@[simp]
theorem tokens_literal : tokens (.literal cs :: ps) = tokens ps :=
  rfl

@[simp]
theorem tokens_token : tokens (.token name :: ps) = token name :: tokens ps :=
  rfl

theorem AreSpaced.mono (h : AreSpaced apart ps) (hle : apart = true → apart' = true) :
    AreSpaced apart' ps := by
  induction ps generalizing apart apart' with
  | nil => trivial
  | cons p ps ih =>
    cases p with
    | literal cs =>
      refine ⟨h.1, ih h.2 fun hapart => ?_⟩
      rw [Bool.or_eq_true] at hapart ⊢
      exact hapart.imp_left hle
    | token name => exact ⟨hle h.1, h.2⟩

/-! ## Where a token is found -/

/-- A name that ends in a text without a mark is that text and the start of what follows. -/
theorem exists_of_prefix_append (hcs : '#' ∉ cs) (h : name ++ ['#'] <+: cs ++ rest) :
    ∃ name', name = cs ++ name' ∧ name' ++ ['#'] <+: rest := by
  induction cs generalizing name with
  | nil => exact ⟨name, rfl, h⟩
  | cons c cs ih =>
    rw [List.mem_cons, not_or] at hcs
    cases name with
    | nil => exact absurd (List.cons_prefix_cons.1 h).1 hcs.1
    | cons d name =>
      obtain ⟨rfl, htail⟩ := List.cons_prefix_cons.1 h
      obtain ⟨name', rfl, hrest⟩ := ih hcs.2 htail
      exact ⟨name', rfl, hrest⟩

/-- After the closing mark of a token comes no name with a mark after it. -/
theorem AreSpaced.not_prefix_write (h : AreSpaced false ps)
    (hname : ∀ c ∈ name, isNameChar c = true) : ¬ name ++ ['#'] <+: write ps := by
  induction ps generalizing name with
  | nil => exact fun hp => List.append_ne_nil_of_right_ne_nil _ (by simp) (List.prefix_nil.1 hp)
  | cons p ps ih =>
    cases p with
    | literal cs =>
      intro hp
      obtain ⟨name', rfl, hrest⟩ := exists_of_prefix_append h.1 hp
      rw [List.forall_mem_append] at hname
      -- the literal is a part of the name, so it keeps nothing apart
      have hany : cs.any (!isNameChar ·) = false :=
        List.any_eq_false.2 fun c hc => by simp [hname.1 c hc]
      have hps := h.2
      rw [hany] at hps
      exact ih hps hname.2 hrest
    | token m => exact nomatch h.1

section OneToken

variable (hname : IsTokenName name)
include hname

/-- No other token is found at either mark of a token. -/
theorem not_prefix_token (hother : IsTokenName other) (hps : AreSpaced false ps)
    (hne : name ≠ other) :
    ¬ (token name).toList <+: '#' :: (other ++ '#' :: write ps) ∧
      ¬ (token name).toList <+: '#' :: write ps := by
  rw [toList_token, List.cons_prefix_cons, List.cons_prefix_cons, and_iff_right rfl,
    and_iff_right rfl]
  refine ⟨fun h => ?_, hps.not_prefix_write hname.2⟩
  obtain ⟨name', rfl, hclose⟩ := exists_of_prefix_append hother.mark_notMem h
  cases name' with
  | nil => exact hne (List.append_nil other)
  | cons c name' =>
    obtain ⟨rfl, -⟩ := List.cons_prefix_cons.1 hclose
    exact hname.mark_notMem (List.mem_append_right _ List.mem_cons_self)

/-- One token is replaced in the pieces that are that token and changes no other. -/
theorem replaceAll_write (hps : AreSpaced apart ps) (value : String) :
    Text.replaceAll (token name).toList value.toList (write ps) =
      write (ps.map (Piece.filled [(token name, value)])) := by
  unfold Text.replaceAll
  induction ps generalizing apart with
  | nil => rfl
  | cons p ps ih =>
    cases p with
    | literal cs =>
      rw [List.map_cons, Piece.filled, write_literal, write_literal, ← ih hps.2, toList_token,
        Text.replaceFrom_append_of_notMem hps.1]
    | token other =>
      have hrest := ih hps.2.2
      by_cases heq : other = name
      · subst heq
        rw [List.map_cons, Piece.filled, List.lookup_cons_self, write_literal, ← hrest,
          write_token, Text.replaceFrom_self (toList_token_ne_nil _)]
      · have hkey : (token other == token name) = false := beq_eq_false_iff_ne.2 (mt token_inj.1 heq)
        obtain ⟨hopening, hclosing⟩ := not_prefix_token hname hps.2.1 hps.2.2 (Ne.symm heq)
        rw [List.map_cons, Piece.filled, List.lookup_cons, hkey, List.lookup_nil, write_token,
          write_token, ← hrest, toList_token_append, toList_token_append,
          Text.replaceFrom_cons_of_not_prefix hopening, toList_token,
          Text.replaceFrom_append_of_notMem hps.2.1.mark_notMem, ← toList_token,
          Text.replaceFrom_cons_of_not_prefix hclosing]

/-- A token stands in the text just if it is one of the pieces. -/
theorem occursIn_write (hps : AreSpaced apart ps) :
    Text.occursIn (token name).toList (write ps) = true ↔ token name ∈ tokens ps := by
  induction ps generalizing apart with
  | nil => simp [toList_token, Text.occursIn, tokens, write]
  | cons p ps ih =>
    cases p with
    | literal cs =>
      rw [write_literal, tokens_literal, ← ih hps.2, toList_token,
        Text.occursIn_append_of_notMem hps.1]
    | token other =>
      rw [write_token, tokens_token, List.mem_cons, token_inj, ← ih hps.2.2]
      by_cases heq : name = other
      · subst heq
        exact iff_of_true (Text.occursIn_self (toList_token_ne_nil _) _) (.inl rfl)
      · obtain ⟨hopening, hclosing⟩ := not_prefix_token hname hps.2.1 hps.2.2 heq
        rw [or_iff_right heq, toList_token_append, Text.occursIn_cons_of_not_prefix hopening,
          toList_token, Text.occursIn_append_of_notMem hps.2.1.mark_notMem, ← toList_token,
          Text.occursIn_cons_of_not_prefix hclosing]

end OneToken

/-! ## One replacement after the other -/

theorem AreSpaced.map_filled (h : AreSpaced apart ps) (hentries : ∀ e ∈ entries, '#' ∉ e.2.toList) :
    AreSpaced apart (ps.map (Piece.filled entries)) := by
  induction ps generalizing apart with
  | nil => trivial
  | cons p ps ih =>
    cases p with
    | literal cs => exact ⟨h.1, ih h.2⟩
    | token name =>
      rw [List.map_cons, Piece.filled]
      split
      · next value hvalue =>
        exact ⟨hentries _ (OrderedMap.mem_of_lookup hvalue), (ih h.2.2).mono nofun⟩
      · exact ⟨h.1, h.2.1, ih h.2.2⟩

/-- A token is left among the pieces just if it has no value. -/
theorem mem_tokens_map_filled :
    key ∈ tokens (ps.map (Piece.filled entries)) ↔ key ∈ tokens ps ∧ entries.lookup key = none := by
  induction ps with
  | nil => simp [tokens]
  | cons p ps ih =>
    cases p with
    | literal cs => exact ih
    | token name =>
      rw [List.map_cons, Piece.filled]
      split
      · next value hvalue =>
        rw [tokens_literal, tokens_token, ih, List.mem_cons, or_and_right]
        refine (or_iff_right ?_).symm
        rintro ⟨rfl, hnone⟩
        rw [hvalue] at hnone
        cases hnone
      · next hnone =>
        rw [tokens_token, tokens_token, List.mem_cons, List.mem_cons, ih, or_and_right]
        refine or_congr_left (iff_self_and.2 ?_)
        rintro rfl
        exact hnone

theorem map_filled_of_forall_notMem (h : ∀ e ∈ entries, e.1 ∉ tokens ps) :
    ps.map (Piece.filled entries) = ps := by
  induction ps with
  | nil => rfl
  | cons p ps ih =>
    cases p with
    | literal cs => rw [List.map_cons, ih h, Piece.filled]
    | token name =>
      have hnone : entries.lookup (token name) = none := by
        refine List.lookup_eq_none_iff.2 fun e he => bne_iff_ne.2 ?_
        intro heq
        exact h e he (heq ▸ List.mem_cons_self)
      rw [List.map_cons, Piece.filled, hnone, ih fun e he => mt (List.mem_cons_of_mem _) (h e he)]

/-- Replacing one token and then others is replacing them all at once. -/
theorem filled_filled (e : String × String) (entries : List (String × String)) (p : Piece) :
    (p.filled [e]).filled entries = p.filled (e :: entries) := by
  cases p with
  | literal cs => rfl
  | token name =>
    rw [Piece.filled, Piece.filled, List.lookup_cons, List.lookup_cons, List.lookup_nil]
    cases token name == e.1 <;> rfl

/-- What one entry does to the text and the report. -/
theorem fill_write (hps : AreSpaced apart ps) (hname : IsTokenName name) (value : String)
    (report : List String) :
    fill (write ps, report) (token name, value) =
      (write (ps.map (Piece.filled [(token name, value)])),
        if token name ∈ tokens ps then record report (token name) else report) := by
  have hne : (token name).isEmpty = false :=
    Bool.eq_false_iff.2 fun h => toList_token_ne_nil name (by simpa using h)
  rw [fill, hne, Bool.false_or]
  by_cases hmem : token name ∈ tokens ps
  · rw [(occursIn_write hname hps).2 hmem, if_pos hmem, replaceAll_write hname hps]
    rfl
  · have hnone : ∀ e ∈ [(token name, value)], e.1 ∉ tokens ps := by
      rw [List.forall_mem_singleton]
      exact hmem
    rw [Bool.eq_false_iff.2 (mt (occursIn_write hname hps).1 hmem), if_neg hmem,
      map_filled_of_forall_notMem hnone]
    rfl

/-- The keys that a report gains: those of tokens of the template that it does not list. -/
def noted (entries : List (String × String)) (ps : List Piece) (report : List String) :
    List String :=
  (entries.map Prod.fst).filter fun key => key ∈ tokens ps ∧ key ∉ report

/-- What the first key does to the report, the later ones add to. -/
theorem noted_cons (e : String × String) (hnew : e.1 ∉ entries.map Prod.fst) :
    report ++ noted (e :: entries) ps report =
      (if e.1 ∈ tokens ps then record report e.1 else report) ++
        noted entries (ps.map (Piece.filled [e]))
          (if e.1 ∈ tokens ps then record report e.1 else report) := by
  -- no later key is the first one, so that neither its replacement nor its record changes them
  have hlater : ∀ report', (∀ key, key ≠ e.1 → (key ∈ report' ↔ key ∈ report)) →
      noted entries (ps.map (Piece.filled [e])) report' = noted entries ps report := by
    intro report' hreport
    refine List.filter_congr fun key hkey => ?_
    have hne : key ≠ e.1 := fun heq => hnew (heq ▸ hkey)
    have hnone : List.lookup key [e] = none :=
      List.lookup_eq_none_iff.2 (List.forall_mem_singleton.2 (bne_iff_ne.2 hne))
    rw [decide_eq_decide, mem_tokens_map_filled, hreport key hne, and_iff_left hnone]
  rw [noted, List.map_cons, List.filter_cons]
  by_cases htoken : e.1 ∈ tokens ps
  · by_cases hlisted : e.1 ∈ report
    · have hrecord : record report e.1 = report := by simp [record, hlisted]
      rw [if_neg (by simp [hlisted]), if_pos htoken, hrecord, hlater report fun _ _ => .rfl]
      rfl
    · have hrecord : record report e.1 = report ++ [e.1] := by simp [record, hlisted]
      rw [if_pos (by simp [htoken, hlisted]), if_pos htoken, hrecord, hlater, List.append_assoc]
      · rfl
      · intro key hne
        simp [hne]
  · rw [if_neg (by simp [htoken]), if_neg htoken, hlater report fun _ _ => .rfl]
    rfl

/-- Replacing token after token replaces them all at once. -/
theorem foldl_fill_write (hnodup : (entries.map Prod.fst).Nodup) (hentries : AreTokenValues entries)
    (hps : AreSpaced apart ps) (report : List String) :
    entries.foldl fill (write ps, report) =
      (write (ps.map (Piece.filled entries)), report ++ noted entries ps report) := by
  induction entries generalizing ps report with
  | nil =>
    have hnone : ∀ e ∈ ([] : List (String × String)), e.1 ∉ tokens ps := by simp
    rw [List.foldl_nil, map_filled_of_forall_notMem hnone]
    simp [noted]
  | cons e entries ih =>
    obtain ⟨⟨⟨name, hname, hkey⟩, hvalue⟩, hrest⟩ := List.forall_mem_cons.1 hentries
    obtain ⟨hnew, hnodup⟩ := List.nodup_cons.1 hnodup
    have hspaced : AreSpaced apart (ps.map (Piece.filled [e])) :=
      hps.map_filled (List.forall_mem_singleton.2 hvalue)
    have hfill : fill (write ps, report) e = (write (ps.map (Piece.filled [e])),
        if e.1 ∈ tokens ps then record report e.1 else report) := by
      obtain ⟨key, value⟩ := e
      obtain rfl : key = token name := hkey
      exact fill_write hps hname value report
    have hfilled : Piece.filled entries ∘ Piece.filled [e] = Piece.filled (e :: entries) :=
      funext (filled_filled e entries)
    rw [List.foldl_cons, hfill, ih hnodup hrest hspaced, List.map_map, hfilled,
      noted_cons e hnew]

/-- In a template whose tokens are kept apart, each token that has a value is replaced by it and
everything else stays, whatever the order of the values is. The report gains the tokens of the
template that have a value, in the order of the values, but for those that it lists already. -/
theorem substitute_pieces {values : OrderedMap String} (hps : AreSpaced true ps)
    (hvalues : AreTokenValues values.entries) (report : List String) :
    substitute values (String.ofList (write ps)) report =
        (String.ofList (write (ps.map (Piece.filled values.entries))),
          report ++ (values.entries.map Prod.fst).filter
            fun key => key ∈ tokens ps ∧ key ∉ report) ∧
      ∀ (values' : OrderedMap String) (report' : List String),
        values'.entries.Perm values.entries →
          (substitute values' (String.ofList (write ps)) report').1 =
            (substitute values (String.ofList (write ps)) report).1 := by
  have hall : ∀ (values : OrderedMap String) (report : List String),
      AreTokenValues values.entries → substitute values (String.ofList (write ps)) report =
        (String.ofList (write (ps.map (Piece.filled values.entries))),
          report ++ noted values.entries ps report) := by
    intro values report hvalues
    rw [substitute, String.toList_ofList, foldl_fill_write values.nodup hvalues hps]
  refine ⟨hall values report hvalues, fun values' report' hperm => ?_⟩
  have hfilled : Piece.filled values'.entries = Piece.filled values.entries := by
    funext p
    cases p with
    | literal cs => rfl
    | token name =>
      have hlookup := OrderedMap.get?_of_perm hperm (token name)
      rw [OrderedMap.get?, OrderedMap.get?] at hlookup
      rw [Piece.filled, Piece.filled, hlookup]
  rw [hall values report hvalues,
    hall values' report' fun e he => hvalues e (hperm.mem_iff.1 he), hfilled]

/-- Tokens side by side, one without a value, one that is there twice and one that is already
listed. -/
theorem substitute_pieces_side_by_side :
    AreSpaced true [.token ['A'], .literal ['/'], .token ['B'], .literal ['.', 'x', ' '],
        .token ['C'], .literal [' '], .token ['A']] ∧
      AreTokenValues (OrderedMap.ofPairs [("#B#", "b"), ("#A#", "a_1")]).entries ∧
      substitute (.ofPairs [("#B#", "b"), ("#A#", "a_1")]) "#A#/#B#.x #C# #A#" ["#B#"] =
        ("a_1/b.x #C# a_1", ["#B#", "#A#"]) := by
  have hspaced : AreSpaced true [.token ['A'], .literal ['/'], .token ['B'],
      .literal ['.', 'x', ' '], .token ['C'], .literal [' '], .token ['A']] := by decide
  have hvalues : AreTokenValues (OrderedMap.ofPairs [("#B#", "b"), ("#A#", "a_1")]).entries :=
    List.forall_mem_cons.2 ⟨⟨⟨['B'], by decide, rfl⟩, by decide⟩,
      List.forall_mem_singleton.2 ⟨⟨['A'], by decide, rfl⟩, by decide⟩⟩
  exact ⟨hspaced, hvalues, (substitute_pieces hspaced hvalues ["#B#"]).1⟩

end Template

end Mooring

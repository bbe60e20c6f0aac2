import Mathlib.Data.List.Forall2
import Mooring.Proofs.Json.Tokens

set_option autoImplicit false

/-!
# Documents read back

A document whose numbers are integers of 64 bits (`fits`) reads back from its text as it was
written, members in their order and repeated ones kept (`readAll?_pretty`).

The text of a value is cut into tokens (`Open`, `Closed`), and the tokens build the value wherever
one may stand (`Builds`). Both are carried through the document by one induction (`spells_prettyAt`).
-/

namespace Mooring.Json

/-! ## Documents that fit -/

mutual

/-- Whether the numbers of a document are integers of 64 bits. -/
def fits : Json → Bool
  | .num (.int n) => -Int.pow 2 63 ≤ n && n < Int.pow 2 64
  | .num (.double _) => false
  | .arr items => fitsItems items
  | .obj members => fitsMembers members
  | .null | .bool _ | .str _ => true
termination_by structural v => v

/-- Whether all items fit. -/
def fitsItems : List Json → Bool
  | [] => true
  | x :: xs => fits x && fitsItems xs
termination_by structural xs => xs

/-- Whether the value of a member fits. -/
def fitsMember : String × Json → Bool
  | (_, v) => fits v
termination_by structural m => m

/-- Whether the values of all members fit. -/
def fitsMembers : List (String × Json) → Bool
  | [] => true
  | m :: ms => fitsMember m && fitsMembers ms
termination_by structural ms => ms

end

/-! ## Building values -/

/-- The builder of a structure after tokens. -/
def built? (b : Builder) (ts : List Token) : Option Builder :=
  ts.foldlM (fun b t => b.step? structureLayout t) b

/-- The tokens build a value wherever one is expected. -/
def Builds (ts : List Token) (v : Json) : Prop :=
  ∀ (frames : List Frame) (expected : Expected), expected = .value ∨ expected = .firstItem →
    built? ⟨frames, expected, .null⟩ ts = some (Builder.place frames v)

/-- The tokens build a member behind others wherever a name is expected. -/
def BuildsMember (ts : List Token) (m : String × Json) : Prop :=
  ∀ (frames : List Frame) (members : List (String × Json)) (name : String) (expected : Expected),
    expected = .firstName ∨ expected = .name →
      built? ⟨.object (some members) name :: frames, expected, .null⟩ ts =
        some ⟨.object (some (m :: members)) "" :: frames, .separator, .null⟩

/-- The tokens of several entries, a comma between each two. -/
def separated : List (List Token) → List Token
  | [] => []
  | ts :: rest => ts ++ rest.flatMap fun us => .comma :: us

section Building

variable {frames : List Frame} {b c : Builder} {t : Token} {ts us : List Token} {v : Json}

theorem built?_append (h : built? b ts = some c) : built? b (ts ++ us) = built? c us := by
  unfold built? at h ⊢
  rw [List.foldlM_append, h]
  rfl

theorem built?_cons (h : b.step? structureLayout t = some c) :
    built? b (t :: us) = built? c us := by
  unfold built?
  rw [List.foldlM_cons, h]
  rfl

theorem builds_text (s : String) : Builds [.text s] (.str s) := by
  rintro frames expected (rfl | rfl)
  · rfl
  · rfl

theorem builds_number (n : JsonNumber) : Builds [.number (.num n)] (.num n) := by
  rintro frames expected (rfl | rfl)
  · rfl
  · rfl

theorem builds_word (name : String) (v : Json) : Builds [.word name (some v)] v := by
  rintro frames expected (rfl | rfl)
  · rfl
  · rfl

theorem Builds.member (h : Builds ts v) (name : String) :
    BuildsMember (.text name :: .colon :: ts) (name, v) := by
  intro frames members last expected hexpected
  have hvalue := h (.object (some members) name :: frames) .value (.inl rfl)
  rcases hexpected with rfl | rfl
  · exact hvalue
  · exact hvalue

/-- Items behind a comma each are put on those before them. -/
theorem built?_items {tss : List (List Token)} {items : List Json}
    (h : List.Forall₂ Builds tss items) (done : List Json) :
    built? ⟨.array done :: frames, .separator, .null⟩ (tss.flatMap fun ts => .comma :: ts) =
      some ⟨.array (items.reverse ++ done) :: frames, .separator, .null⟩ := by
  induction h generalizing done with
  | nil => rfl
  | @cons ts v tss items hfirst _ ih =>
    have hcomma : Builder.step? structureLayout ⟨.array done :: frames, .separator, .null⟩ .comma =
        some ⟨.array done :: frames, .value, .null⟩ := rfl
    have hvalue := hfirst (.array done :: frames) .value (.inl rfl)
    rw [List.flatMap_cons, List.cons_append, built?_cons hcomma, built?_append hvalue,
      List.reverse_cons, List.append_assoc]
    exact ih (v :: done)

/-- Members behind a comma each are put on those before them. -/
theorem built?_members {tss : List (List Token)} {ms : List (String × Json)}
    (h : List.Forall₂ BuildsMember tss ms) (done : List (String × Json)) :
    built? ⟨.object (some done) "" :: frames, .separator, .null⟩
        (tss.flatMap fun ts => .comma :: ts) =
      some ⟨.object (some (ms.reverse ++ done)) "" :: frames, .separator, .null⟩ := by
  induction h generalizing done with
  | nil => rfl
  | @cons ts m tss ms hfirst _ ih =>
    have hcomma : Builder.step? structureLayout
        ⟨.object (some done) "" :: frames, .separator, .null⟩ .comma =
        some ⟨.object (some done) "" :: frames, .name, .null⟩ := rfl
    have hmember := hfirst frames done "" .name (.inr rfl)
    rw [List.flatMap_cons, List.cons_append, built?_cons hcomma, built?_append hmember,
      List.reverse_cons, List.append_assoc]
    exact ih (m :: done)

/-- An array is built between its brackets. -/
theorem builds_arr {tss : List (List Token)} {items : List Json}
    (h : List.Forall₂ Builds tss items) :
    Builds (.openArray :: (separated tss ++ [.closeArray])) (.arr items) := by
  intro frames expected hexpected
  have hopen : Builder.step? structureLayout ⟨frames, expected, .null⟩ .openArray =
      some ⟨.array [] :: frames, .firstItem, .null⟩ := by
    rcases hexpected with rfl | rfl
    · rfl
    · rfl
  rw [built?_cons hopen]
  cases h with
  | nil => rfl
  | @cons ts v tss items hfirst hrest =>
    have hvalue := hfirst (.array [] :: frames) .firstItem (.inr rfl)
    rw [separated, List.append_assoc, built?_append hvalue]
    show built? (Builder.mk (.array [v] :: frames) .separator .null) _ = _
    rw [built?_append (built?_items hrest [v])]
    show some (Builder.place frames (.arr (items.reverse ++ [v]).reverse)) = _
    simp

/-- An object is built between its braces. -/
theorem builds_obj {tss : List (List Token)} {ms : List (String × Json)}
    (h : List.Forall₂ BuildsMember tss ms) :
    Builds (.openObject :: (separated tss ++ [.closeObject])) (.obj ms) := by
  intro frames expected hexpected
  have hopen : Builder.step? structureLayout ⟨frames, expected, .null⟩ .openObject =
      some ⟨.object (some []) "" :: frames, .firstName, .null⟩ := by
    rcases hexpected with rfl | rfl
    · rfl
    · rfl
  rw [built?_cons hopen]
  cases h with
  | nil => rfl
  | @cons ts m tss ms hfirst hrest =>
    have hmember := hfirst frames [] "" .firstName (.inl rfl)
    rw [separated, List.append_assoc, built?_append hmember,
      built?_append (built?_members hrest [m])]
    show some (Builder.place frames (.obj (ms.reverse ++ [m]).reverse)) = _
    simp

end Building

/-! ## Layout -/

section Layout

variable {indent : String} {lines : List String} {tss : List (List Token)} {cs : List Char}
  {ts : List Token}

/-- Whether a text is made of blanks. -/
def IsIndent (indent : String) : Prop :=
  ∀ c ∈ indent.toList, isJsonBlank c = true

theorem IsIndent.deeper (h : IsIndent indent) : IsIndent (indent ++ "  ") := by
  intro c hc
  rw [String.toList_append, List.mem_append] at hc
  rcases hc with hc | hc
  · exact h c hc
  · have hblank : "  ".toList.all isJsonBlank = true := rfl
    exact List.all_eq_true.1 hblank c hc

theorem toList_intercalate (sep first : String) (rest : List String) :
    (sep.intercalate (first :: rest)).toList =
      first.toList ++ rest.flatMap fun line => sep.toList ++ line.toList := by
  induction rest generalizing first with
  | nil => simp
  | cons line rest ih =>
    rw [String.intercalate_cons_cons, String.toList_append, String.toList_append, ih,
      List.flatMap_cons, List.append_assoc, List.append_assoc]

/-- Lines behind others, a comma and a line break before each. -/
theorem open_lines (h : List.Forall₂ (fun line ts => Open line.toList ts) lines tss)
    (hfirst : Open cs ts) :
    Open (cs ++ lines.flatMap fun line => ",\n".toList ++ line.toList)
      (ts ++ tss.flatMap fun us => .comma :: us) := by
  induction h generalizing cs ts with
  | nil => simpa using hfirst
  | @cons line us lines tss hline _ ih =>
    have hsep : Closed [',', '\n'] [.comma] := closed_comma.append (closed_blank rfl)
    have hbreak : ∀ rest, Breaks ([',', '\n'] ++ rest) := fun rest => breaks_cons rfl rfl
    have hnext := ih ((hfirst.append hsep hbreak).append_open hline)
    rw [List.append_assoc, List.append_assoc, List.append_assoc, List.append_assoc] at hnext
    rw [List.flatMap_cons, List.flatMap_cons, List.append_assoc]
    exact hnext

/-- Lines between brackets are closed. -/
theorem closed_bracketed {start stop : List Char} {t u : Token} (hindent : IsIndent indent)
    (hstart : Closed start [t]) (hstop : Closed stop [u])
    (h : List.Forall₂ (fun line ts => Open line.toList ts) lines tss) :
    Closed (bracketed (.ofList start) (.ofList stop) indent lines).toList
      (t :: (separated tss ++ [u])) := by
  cases h with
  | nil =>
    show Closed (String.ofList start ++ String.ofList stop).toList _
    rw [String.toList_append, String.toList_ofList, String.toList_ofList]
    exact hstart.append hstop
  | @cons line ts lines tss hline hrest =>
    have hmargin : Closed (indent ++ "  ").toList [] := closed_blanks hindent.deeper
    have hmove : ∀ {line : String} {ts : List Token}, Open line.toList ts →
        Open (indent ++ "  " ++ line).toList ts := by
      intro line ts hline
      rw [String.toList_append]
      exact hmargin.append_open hline
    have hlines : List.Forall₂ (fun line ts => Open line.toList ts)
        (lines.map fun e => indent ++ "  " ++ e) tss := by
      rw [List.forall₂_map_left_iff]
      exact hrest.imp fun _ _ => hmove
    have hbody := open_lines hlines (hmove hline)
    have hnewline : Closed ['\n'] [] := closed_blank rfl
    have hend := (hnewline.append (closed_blanks hindent)).append hstop
    -- the body is open at its end, and the new line before the last bracket closes it
    have hall := ((hstart.append hnewline).append_open hbody).append hend
      fun rest => breaks_cons rfl rfl
    have htext : (bracketed (.ofList start) (.ofList stop) indent (line :: lines)).toList =
        (start ++ ['\n'] ++ ((indent ++ "  " ++ line).toList ++
          (lines.map fun e => indent ++ "  " ++ e).flatMap fun line => ",\n".toList ++ line.toList)) ++
          (['\n'] ++ indent.toList ++ stop) := by
      show (String.ofList start ++ "\n" ++ ",\n".intercalate (_ :: _) ++ "\n" ++ indent ++
        String.ofList stop).toList = _
      simp only [String.toList_append, String.toList_ofList, toList_intercalate, List.append_assoc]
      rfl
    rw [htext]
    simpa [separated] using hall

end Layout

/-! ## Reading what was written -/

section Spelling

variable {indent : String} {lines : List String}

/-- The characters are cut into tokens that build the value. -/
def Spells (line : String) (v : Json) : Prop :=
  ∃ ts, Open line.toList ts ∧ Builds ts v

/-- The characters are cut into tokens that build the member. -/
def SpellsMember (line : String) (m : String × Json) : Prop :=
  ∃ ts, Open line.toList ts ∧ BuildsMember ts m

/-- What relates elements through a third relates lists of them through a third list. -/
theorem exists_forall₂_of_forall₂_exists {α β γ : Type} {R : α → β → Prop} {S : β → γ → Prop}
    {as : List α} {cs : List γ} (h : List.Forall₂ (fun a c => ∃ b, R a b ∧ S b c) as cs) :
    ∃ bs, List.Forall₂ R as bs ∧ List.Forall₂ S bs cs := by
  induction h with
  | nil => exact ⟨[], .nil, .nil⟩
  | cons hfirst _ ih =>
    obtain ⟨b, hR, hS⟩ := hfirst
    obtain ⟨bs, hRs, hSs⟩ := ih
    exact ⟨b :: bs, .cons hR hRs, .cons hS hSs⟩

theorem spells_arr {items : List Json} (hindent : IsIndent indent)
    (h : List.Forall₂ Spells lines items) :
    Spells (bracketed "[" "]" indent lines) (.arr items) := by
  obtain ⟨tss, hopen, hbuilds⟩ := exists_forall₂_of_forall₂_exists h
  exact ⟨_, (closed_bracketed hindent closed_openArray closed_closeArray hopen).isOpen,
    builds_arr hbuilds⟩

theorem spells_obj {members : List (String × Json)} (hindent : IsIndent indent)
    (h : List.Forall₂ SpellsMember lines members) :
    Spells (bracketed "\x7b" "\x7d" indent lines) (.obj members) := by
  obtain ⟨tss, hopen, hbuilds⟩ := exists_forall₂_of_forall₂_exists h
  exact ⟨_, (closed_bracketed hindent closed_openObject closed_closeObject hopen).isOpen,
    builds_obj hbuilds⟩

theorem Spells.member {v : Json} {line : String} (h : Spells line v) (name : String) :
    SpellsMember (quote name ++ ": " ++ line) (name, v) := by
  obtain ⟨ts, hopen, hbuilds⟩ := h
  have hcolon : Closed [':', ' '] [.colon] := closed_colon.append (closed_blank rfl)
  refine ⟨_, ?_, hbuilds.member name⟩
  rw [String.toList_append, String.toList_append]
  exact ((closed_quote name).append hcolon).append_open hopen

mutual

/-- The text of a document is cut into tokens that build the document. -/
theorem spells_prettyAt (indent : String) (hindent : IsIndent indent) :
    (v : Json) → v.fits = true → Spells (prettyAt indent v) v
  | .null, _ => ⟨_, open_literal rfl, builds_word "null" .null⟩
  | .bool true, _ => ⟨_, open_literal rfl, builds_word "true" (.bool true)⟩
  | .bool false, _ => ⟨_, open_literal rfl, builds_word "false" (.bool false)⟩
  | .num (.int n), h => by
    simp only [fits, Bool.and_eq_true, decide_eq_true_eq] at h
    exact ⟨_, open_repr h.1 h.2, builds_number (.int n)⟩
  | .num (.double _), h => by cases h
  | .str s, _ => ⟨_, (closed_quote s).isOpen, builds_text s⟩
  | .arr items, h => spells_arr hindent (spells_prettyItems (indent ++ "  ") hindent.deeper items h)
  | .obj members, h =>
    spells_obj hindent (spells_prettyMembers (indent ++ "  ") hindent.deeper members h)

theorem spells_prettyItems (indent : String) (hindent : IsIndent indent) :
    (items : List Json) → fitsItems items = true →
      List.Forall₂ Spells (prettyItems indent items) items
  | [], _ => .nil
  | v :: items, h => by
    simp only [fitsItems, Bool.and_eq_true] at h
    exact .cons (spells_prettyAt indent hindent v h.1)
      (spells_prettyItems indent hindent items h.2)

theorem spells_prettyMember (indent : String) (hindent : IsIndent indent) :
    (m : String × Json) → fitsMember m = true → SpellsMember (prettyMember indent m) m
  | (name, v), h => (spells_prettyAt indent hindent v h).member name

theorem spells_prettyMembers (indent : String) (hindent : IsIndent indent) :
    (members : List (String × Json)) → fitsMembers members = true →
      List.Forall₂ SpellsMember (prettyMembers indent members) members
  | [], _ => .nil
  | m :: members, h => by
    simp only [fitsMembers, Bool.and_eq_true] at h
    exact .cons (spells_prettyMember indent hindent m h.1)
      (spells_prettyMembers indent hindent members h.2)

end

end Spelling

/-- A document that fits reads back from its text. -/
theorem readAll?_pretty {v : Json} (h : v.fits = true) : readAll? v.pretty = some v := by
  obtain ⟨ts, hopen, hbuilds⟩ := spells_prettyAt "" (by intro c hc; cases hc) v h
  have htokens : tokens? v.pretty = some ts := by
    have hend := hopen [] (by intro c hc; cases hc)
    have hnone : tokensIn? .between [] = some [] := by
      rw [tokensIn?]
      rfl
    rw [List.append_nil, hnone, Option.map_some, List.append_nil] at hend
    exact hend
  have hbuilt : built? Builder.empty ts = some ⟨[], .nothing, v⟩ :=
    hbuilds [] .value (.inl rfl)
  unfold built? at hbuilt
  unfold readAll? build?
  rw [htokens]
  simp only [Option.bind_eq_bind, Option.bind_some]
  rw [hbuilt]
  rfl

example : readAll? (Json.arr [.obj [("a", .null), ("a", .num (.int (-5)))], .str "\x01"]).pretty =
    some (.arr [.obj [("a", .null), ("a", .num (.int (-5)))], .str "\x01"]) :=
  readAll?_pretty (by decide)

end Mooring.Json

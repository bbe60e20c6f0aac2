import Mooring.Proofs.Path.Printing

set_option autoImplicit false

/-!
# Occurrences of a name

Places lead into a document by the numbers of members and items (`Json.at?`), and come in the order
of the document when they come in the lexicographic order of these numbers: a place before the
places inside it. `Json.places` has every place once and in this order (`Json.mem_places_iff`,
`Json.pairwise_places`). The descendants of a name are what the name leads to at these places
(`descendants_eq_filterMap`), so a path of a name after two dots selects one value for each object
that has a member of that name, in the order of the document (`select_occurrences`).
-/

namespace Mooring

/-- Where a value stands in a document: the numbers of the members and items on the way to it. -/
abbrev Place : Type :=
  List Nat

namespace Json

/-! ## Places -/

/-- The values of the members of an object, or the items of an array. -/
def children : Json → List Json
  | .obj members => members.map Prod.snd
  | .arr items => items
  | _ => []

/-- The value at a place. -/
def at? : Place → Json → Option Json
  | [], v => some v
  | k :: p, v => (v.children[k]?).bind (at? p)

/-- The value that the object at a place has for a name. -/
def memberAt? (name : String) (p : Place) (v : Json) : Option Json :=
  (v.at? p).bind (member? name)

mutual

/-- All places of a document, each before the places inside it. -/
def places : Json → List Place
  | .obj members => [] :: placesOfMembers 0 members
  | .arr items => [] :: placesOfItems 0 items
  | _ => [[]]
termination_by structural v => v

/-- The places inside values that are numbered from `k` on. -/
def placesOfItems (k : Nat) : List Json → List Place
  | [] => []
  | x :: xs => (places x).map (k :: ·) ++ placesOfItems (k + 1) xs
termination_by structural xs => xs

/-- The places inside the value of a member. -/
def placesOfMember : String × Json → List Place
  | (_, v) => places v
termination_by structural m => m

/-- The places inside the values of members that are numbered from `k` on. -/
def placesOfMembers (k : Nat) : List (String × Json) → List Place
  | [] => []
  | m :: ms => (placesOfMember m).map (k :: ·) ++ placesOfMembers (k + 1) ms
termination_by structural ms => ms

end

theorem sizeOf_lt_of_mem_children {v c : Json} (h : c ∈ v.children) : sizeOf c < sizeOf v := by
  cases v with
  | obj members =>
    obtain ⟨m, hm, rfl⟩ := List.mem_map.1 h
    have hlt := List.sizeOf_lt_of_mem hm
    obtain ⟨name, value⟩ := m
    simp only [Prod.mk.sizeOf_spec, obj.sizeOf_spec] at hlt ⊢
    omega
  | arr items =>
    have hlt : sizeOf c < sizeOf items := List.sizeOf_lt_of_mem h
    simp only [arr.sizeOf_spec]
    omega
  | null | bool | num | str => cases h

/-- What holds of a value if it holds of its children holds of every document. -/
@[elab_as_elim]
theorem inductionOnChildren {motive : Json → Prop}
    (step : ∀ v, (∀ c ∈ v.children, motive c) → motive v) (v : Json) : motive v :=
  step v fun c _ => inductionOnChildren step c
termination_by sizeOf v
decreasing_by exact sizeOf_lt_of_mem_children ‹_›

theorem placesOfMembers_eq (k : Nat) (members : List (String × Json)) :
    placesOfMembers k members = placesOfItems k (members.map Prod.snd) := by
  induction members generalizing k with
  | nil => rfl
  | cons m ms ih =>
    obtain ⟨name, v⟩ := m
    rw [placesOfMembers, ih]
    rfl

theorem places_eq (v : Json) : v.places = [] :: placesOfItems 0 v.children := by
  cases v with
  | obj members => rw [places, placesOfMembers_eq, children]
  | arr items => rfl
  | null | bool | num | str => rfl

theorem mem_placesOfItems_iff {p : Place} {k : Nat} {xs : List Json} :
    p ∈ placesOfItems k xs ↔
      ∃ i x q, p = (k + i) :: q ∧ xs[i]? = some x ∧ q ∈ x.places := by
  induction xs generalizing k with
  | nil => simp [placesOfItems]
  | cons x xs ih =>
    rw [placesOfItems, List.mem_append, List.mem_map, ih]
    constructor
    · rintro (⟨q, hq, rfl⟩ | ⟨i, y, q, rfl, hy, hq⟩)
      · exact ⟨0, x, q, rfl, rfl, hq⟩
      · refine ⟨i + 1, y, q, ?_, hy, hq⟩
        rw [Nat.add_right_comm, Nat.add_assoc]
    · rintro ⟨i, y, q, rfl, hy, hq⟩
      cases i with
      | zero =>
        cases hy
        exact .inl ⟨q, hq, rfl⟩
      | succ i =>
        refine .inr ⟨i, y, q, ?_, hy, hq⟩
        rw [Nat.add_right_comm, Nat.add_assoc]

/-- A place is among the places of a document just if something stands there. -/
theorem mem_places_iff {p : Place} {v : Json} : p ∈ v.places ↔ (v.at? p).isSome = true := by
  induction p generalizing v with
  | nil => simp [places_eq, at?]
  | cons k p ih =>
    rw [places_eq, List.mem_cons, mem_placesOfItems_iff, at?, Option.isSome_bind]
    constructor
    · rintro (hnil | ⟨i, x, q, hp, hx, hq⟩)
      · cases hnil
      · obtain ⟨rfl, rfl⟩ := List.cons.inj hp
        rw [Nat.zero_add, hx]
        exact ih.1 hq
    · intro h
      cases hx : v.children[k]? with
      | none =>
        rw [hx] at h
        cases h
      | some x =>
        rw [hx] at h
        exact .inr ⟨k, x, p, by rw [Nat.zero_add], hx, ih.2 h⟩

theorem pairwise_placesOfItems {xs : List Json} (h : ∀ x ∈ xs, x.places.Pairwise (· < ·))
    (k : Nat) : (placesOfItems k xs).Pairwise (· < ·) := by
  induction xs generalizing k with
  | nil => exact .nil
  | cons x xs ih =>
    rw [List.forall_mem_cons] at h
    -- the places inside the first item start with `k`, and those inside later ones with more
    rw [placesOfItems, List.pairwise_append, List.pairwise_map]
    refine ⟨?_, ih h.2 (k + 1), ?_⟩
    · apply h.1.imp
      intro p q hpq
      exact List.cons_lt_cons_self.2 hpq
    · intro p hp q hq
      obtain ⟨p, -, rfl⟩ := List.mem_map.1 hp
      obtain ⟨i, y, q, rfl, -, -⟩ := mem_placesOfItems_iff.1 hq
      exact .rel (by omega)

/-- The places of a document come in its order, and none comes twice. -/
theorem pairwise_places (v : Json) : v.places.Pairwise (· < ·) := by
  induction v using inductionOnChildren with
  | step v ih =>
    rw [places_eq, List.pairwise_cons]
    refine ⟨?_, pairwise_placesOfItems ih 0⟩
    intro p hp
    obtain ⟨i, x, q, rfl, -, -⟩ := mem_placesOfItems_iff.1 hp
    exact .nil

/-- Whether places are those of the objects with a member of a name, each once and in the order of
the document. -/
structure AreHolders (name : String) (v : Json) (places : List Place) : Prop where
  ordered : places.Pairwise (· < ·)
  mem_iff : ∀ p, p ∈ places ↔ (v.memberAt? name p).isSome = true

/-- The places of the objects with a member of a name. -/
def holders (name : String) (v : Json) : List Place :=
  v.places.filter fun p => (v.memberAt? name p).isSome

theorem areHolders_holders (name : String) (v : Json) : AreHolders name v (v.holders name) where
  ordered := (pairwise_places v).filter _
  mem_iff := by
    intro p
    rw [holders, List.mem_filter, mem_places_iff, and_iff_right_iff_imp]
    -- where there is a member, there is an object
    intro h
    rw [memberAt?, Option.isSome_bind] at h
    exact Option.isSome_of_any h

end Json

namespace Path

open Json

variable {name : String} {v : Json}

/-! ## Descendants of a name -/

theorem descendantsOfMembers_eq (name : String) (members : List (String × Json)) :
    descendantsOfMembers name members = descendantsOfItems name (members.map Prod.snd) := by
  induction members with
  | nil => rfl
  | cons m ms ih =>
    obtain ⟨key, v⟩ := m
    rw [descendantsOfMembers, ih]
    rfl

theorem descendants_eq (name : String) (v : Json) :
    descendants name v = (v.member? name).toList ++ descendantsOfItems name v.children := by
  cases v with
  | obj members => rw [descendants, descendantsOfMembers_eq, children, member?]
  | arr items => rfl
  | null | bool | num | str => rfl

/-- Descendants of items are what a look-up finds at the places inside them, if it goes on inside an
item as a look-up in that item. -/
theorem filterMap_placesOfItems {find : Place → Option Json} {xs : List Json} {k : Nat}
    (hinside : ∀ x ∈ xs, x.places.filterMap (x.memberAt? name ·) = descendants name x)
    (hfind : ∀ i x p, xs[i]? = some x → find ((k + i) :: p) = x.memberAt? name p) :
    (placesOfItems k xs).filterMap find = descendantsOfItems name xs := by
  induction xs generalizing k with
  | nil => rfl
  | cons x xs ih =>
    rw [List.forall_mem_cons] at hinside
    have hfirst : find ∘ (k :: ·) = (x.memberAt? name ·) := by
      funext p
      exact hfind 0 x p rfl
    have hrest : (placesOfItems (k + 1) xs).filterMap find = descendantsOfItems name xs := by
      apply ih hinside.2
      intro i y p hy
      rw [Nat.add_right_comm]
      exact hfind (i + 1) y p hy
    rw [placesOfItems, List.filterMap_append, List.filterMap_map, hfirst, hinside.1, hrest,
      descendantsOfItems]

/-- The descendants of a name are its values at all places, in the order of the document. -/
theorem descendants_eq_filterMap (name : String) (v : Json) :
    descendants name v = v.places.filterMap (v.memberAt? name ·) := by
  induction v using inductionOnChildren with
  | step v ih =>
    have hbelow : (placesOfItems 0 v.children).filterMap (v.memberAt? name ·) =
        descendantsOfItems name v.children := by
      apply filterMap_placesOfItems
      · intro x hx
        exact (ih x hx).symm
      · intro i x p hx
        rw [Nat.zero_add, memberAt?, at?, hx]
        rfl
    -- the value of the document itself comes first, and also when it holds the name again
    have hhere : v.memberAt? name [] = v.member? name := rfl
    rw [descendants_eq, places_eq, List.filterMap_cons, hhere, hbelow]
    cases v.member? name <;> rfl

/-- Each object with a member of the name gives one descendant, the value of that member. -/
theorem map_memberAt?_holders (name : String) (v : Json) :
    (v.holders name).map (v.memberAt? name ·) = (descendants name v).map some := by
  rw [descendants_eq_filterMap, holders]
  induction v.places with
  | nil => rfl
  | cons p rest ih => cases h : v.memberAt? name p <;> simp [h, ih]

/-! ## Paths with a name after two dots -/

/-- Whether a name may stand after two dots: it does in some text that is read as a path. -/
def IsAdmitted [Regex.Compiler] (name : String) : Prop :=
  ∃ source p, read source = .ok p ∧ .descendant name ∈ p.segments

section Admitted

variable {routeOf : RouteReader} {cs text : List Char} {found : List Step} {gs : List Segment}

theorem AreSteps.isNamePart_of_mem (h : AreSteps cs found) (hmem : .descendant text ∈ found) :
    text ≠ [] ∧ ∀ c ∈ text, isNamePart c = true := by
  induction h with
  | nil => cases hmem
  | descendant hne hname _ _ ih =>
    rcases List.mem_cons.1 hmem with heq | hmem
    · cases heq
      exact ⟨hne, hname⟩
    · exact ih hmem
  | wildcard _ ih | child _ _ _ _ _ ih | bracket _ _ ih =>
    exact ih (by simpa using hmem)

/-- Only a name after two dots is a descendant. -/
theorem eq_descendant_of_segment [Regex.Compiler] {s : Step}
    (h : s.segment routeOf = .ok (.descendant name)) : s = .descendant name.toList := by
  cases s with
  | descendant text =>
    cases h
    simp
  | child text => cases h
  | wildcard => cases h
  | bracket selector =>
    simp only [Step.segment, selectorSegment] at h
    split at h
    · cases h
    · split at h
      · obtain ⟨c, -, hc⟩ := bind_eq_ok_iff.1 h
        cases hc
      · cases h
    · split at h
      · cases h
      · split at h <;> cases h

theorem AreSegments.isBare [Regex.Compiler] (h : AreSegments routeOf cs gs)
    (hmem : .descendant name ∈ gs) : IsBare name := by
  obtain ⟨found, hfound, hgs⟩ := h
  have hstep : .descendant name.toList ∈ found := by
    clear hfound
    induction hgs with
    | nil => cases hmem
    | cons hg _ ih =>
      rcases List.mem_cons.1 hmem with rfl | hmem
      · rw [eq_descendant_of_segment hg]
        exact List.mem_cons_self
      · exact List.mem_cons_of_mem _ (ih hmem)
  exact hfound.isNamePart_of_mem hstep

theorem IsRoute.isBare [Regex.Compiler] {root : Root} (h : IsRoute routeOf cs (root, gs))
    (hmem : .descendant name ∈ gs) : IsBare name := by
  cases h with
  | document h => exact h.isBare hmem
  | current h => exact h.isBare hmem
  | named _ _ _ _ _ h => exact h.isBare (by simpa using hmem)

theorem read_descendant [Regex.Compiler] (h : IsBare name) :
    read ("$.." ++ name) = .ok ⟨"$.." ++ name, .document, [.descendant name]⟩ := by
  have hlegible : ∀ s ∈ [Spelling.descendant name], s.IsLegible := List.forall_mem_singleton.2 h
  have hread := read_append_printed read_document isBlank_getLast?_document hlegible
  have htext : "$" ++ printed [.descendant name] = "$.." ++ name := by
    rw [← String.toList_inj]
    simp [printed, Spelling.text]
  rw [htext] at hread
  exact hread

/-- The names that may stand after two dots are those with at least one character, no blank and no
character that ends a name. -/
theorem isAdmitted_iff [Regex.Compiler] : IsAdmitted name ↔ IsBare name := by
  constructor
  · rintro ⟨source, p, hread, hmem⟩
    exact (read_eq_ok_iff.1 hread).2.isBare hmem
  · intro h
    exact ⟨_, _, read_descendant h, List.mem_singleton_self _⟩

end Admitted

/-- A path of a name after two dots selects one value for each object of a document that has a
member of the name, wherever it stands: the value of that member, with the objects in the order of
the document, each before those inside it. -/
theorem select_occurrences [Regex.Compiler] (h : IsAdmitted name) :
    ∃ path, read ("$.." ++ name) = .ok path ∧
      ∀ v : Json, ∃ places, AreHolders name v places ∧
        places.map (v.memberAt? name ·) = (path.select v).map some := by
  refine ⟨_, read_descendant (isAdmitted_iff.1 h), ?_⟩
  intro v
  refine ⟨v.holders name, areHolders_holders name v, ?_⟩
  have hselect : selectFrom v [.descendant name] [v] = descendants name v := by
    simp [selectFrom, Segment.find]
  rw [map_memberAt?_holders, ← hselect]
  rfl

/-- A document in which a value for a name holds further ones. -/
def nested : Json :=
  .obj [("n", .obj [("n", .bool true)]),
    ("a", .arr [.obj [("n", .null)], .obj [("b", .obj [("n", .arr [])])]])]

theorem select_occurrences_nested :
    IsAdmitted "n" ∧ ∃ path, read "$..n" = .ok path ∧
      ∃ places, AreHolders "n" nested places ∧
        places.map (nested.memberAt? "n" ·) = (path.select nested).map some := by
  have hname : IsAdmitted "n" := isAdmitted_iff.2 (by decide)
  obtain ⟨path, hread, hselect⟩ := select_occurrences hname
  exact ⟨hname, path, hread, hselect nested⟩

example :
    nested.holders "n" = [[], [0], [1, 0], [1, 1, 0]] ∧
      descendants "n" nested = [.obj [("n", .bool true)], .bool true, .null, .arr []] := by
  decide

end Path

end Mooring

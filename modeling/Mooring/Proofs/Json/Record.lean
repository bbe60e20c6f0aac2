import Mooring.Json.Record

set_option autoImplicit false

/-!
# Fields of documents

An object with each of its fields once reads as the record of these fields, also where fields are
left out (`Record.ofJson?_of_nodup`, `Record.ofJson?_present`). An optional value reads back from
what it is written as, if its values do and none of them is written as a null, and so do lists and
maps.
-/

namespace Mooring

namespace Record

variable {members : List (String × Json)} {name : String} {v : Json}

theorem cellOf?_of_mem (hnodup : (members.map Prod.fst).Nodup) (h : (name, v) ∈ members) :
    cellOf? members name = some (some v) := by
  have hfilter : members.filter (fun m => m.1 == name) = [(name, v)] := by
    induction members with
    | nil => cases h
    | cons m rest ih =>
      rw [List.map_cons, List.nodup_cons] at hnodup
      rcases List.mem_cons.1 h with rfl | h
      · have hrest : rest.filter (fun m => m.1 == name) = [] := by
          rw [List.filter_eq_nil_iff]
          intro m hm heq
          exact hnodup.1 (List.mem_map.2 ⟨m, hm, eq_of_beq heq⟩)
        rw [List.filter_cons_of_pos (by simp), hrest]
      · have hne : m.1 ≠ name := by
          intro heq
          exact hnodup.1 (List.mem_map.2 ⟨(name, v), h, heq.symm⟩)
        rw [List.filter_cons_of_neg (by simpa using hne)]
        exact ih hnodup.2 h
  unfold cellOf?
  rw [hfilter]

theorem cellOf?_of_nodup (hnodup : (members.map Prod.fst).Nodup) (name : String) :
    cellOf? members name = some (members.lookup name) := by
  cases hv : members.lookup name with
  | some v =>
    obtain ⟨front, back, hmembers, -⟩ := List.lookup_eq_some_iff.1 hv
    exact cellOf?_of_mem hnodup (by simp [hmembers])
  | none =>
    have hnone : members.filter (fun m => m.1 == name) = [] := by
      rw [List.filter_eq_nil_iff]
      intro m hm heq
      have hne := List.lookup_eq_none_iff.1 hv m hm
      rw [eq_of_beq heq] at hne
      simp at hne
    unfold cellOf?
    rw [hnone]

/-- The record of the named fields of an object, whether they are there or not. -/
def ofNames (names : List String) (members : List (String × Json)) : Record :=
  ⟨false, names.map fun name => (name, members.lookup name)⟩

theorem ofJson?_of_nodup (names : List String) (hnodup : (members.map Prod.fst).Nodup) :
    ofJson? names (.obj members) = some (ofNames names members) := by
  have hcells : cellsOf? members names =
      some (names.map fun name => (name, members.lookup name)) := by
    induction names with
    | nil => rfl
    | cons name names ih =>
      simp only [cellsOf?, cellOf?_of_nodup hnodup, ih, List.map_cons]
      rfl
  unfold ofJson?
  simp only [hcells]
  rfl

theorem cell?_ofNames {names : List String} {name : String} (h : name ∈ names)
    (members : List (String × Json)) :
    (ofNames names members).cell? name = members.lookup name := by
  unfold cell? ofNames
  induction names with
  | nil => cases h
  | cons n names ih =>
    simp only [List.map_cons, List.lookup_cons]
    cases hn : name == n with
    | true =>
      rw [eq_of_beq hn]
      rfl
    | false =>
      refine ih ((List.mem_cons.1 h).resolve_left ?_)
      rintro rfl
      simp at hn

/-! ### Fields that may be left out -/

section Present

/-- The members of an object with the given fields, the absent ones left out. -/
def present (fields : List (String × Option Json)) : List (String × Json) :=
  fields.filterMap fun f => f.2.map fun v => (f.1, v)

variable {fields : List (String × Option Json)}

@[simp] theorem present_nil : present [] = [] :=
  rfl

@[simp] theorem present_cons_some (name : String) (v : Json)
    (fields : List (String × Option Json)) :
    present ((name, some v) :: fields) = (name, v) :: present fields :=
  rfl

@[simp] theorem present_cons_map {α : Type} (name : String) (encode : α → Json) (o : Option α)
    (fields : List (String × Option Json)) :
    present ((name, o.map encode) :: fields) =
      Json.optionalField name encode o ++ present fields := by
  cases o <;> rfl

theorem names_present (fields : List (String × Option Json)) :
    ((present fields).map Prod.fst).Sublist (fields.map Prod.fst) := by
  induction fields with
  | nil => exact .slnil
  | cons f fields ih =>
    obtain ⟨name, _ | v⟩ := f
    · exact ih.cons _
    · exact ih.cons_cons _

theorem lookup_present (hnodup : (fields.map Prod.fst).Nodup) :
    ∀ f ∈ fields, (present fields).lookup f.1 = f.2 := by
  induction fields with
  | nil => nofun
  | cons g fields ih =>
    rw [List.map_cons, List.nodup_cons] at hnodup
    obtain ⟨hnew, hnodup⟩ := hnodup
    refine List.forall_mem_cons.2 ⟨?_, fun f hf => ?_⟩
    · obtain ⟨name, _ | v⟩ := g
      · refine List.lookup_eq_none_iff.2 fun m hm => bne_iff_ne.2 ?_
        rintro rfl
        exact hnew ((names_present fields).subset (List.mem_map_of_mem hm))
      · exact List.lookup_cons_self
    · have hne : (f.1 == g.1) = false := by
        refine beq_eq_false_iff_ne.2 fun heq => hnew ?_
        rw [← heq]
        exact List.mem_map_of_mem hf
      obtain ⟨name, _ | v⟩ := g
      · exact ih hnodup f hf
      · show List.lookup f.1 ((name, v) :: present fields) = f.2
        rw [List.lookup_cons, hne]
        exact ih hnodup f hf

/-- An object reads as its fields, those that are left out without a cell. -/
theorem ofJson?_present {names : List String} (hnodup : names.Nodup)
    (hnames : fields.map Prod.fst = names) :
    ofJson? names (.obj (present fields)) = some ⟨false, fields⟩ := by
  subst hnames
  have hcells : ((fields.map Prod.fst).map fun name => (name, (present fields).lookup name)) =
      fields := by
    rw [List.map_map]
    refine (List.map_congr_left fun f hf => ?_).trans (List.map_id fields)
    exact Prod.ext rfl (lookup_present hnodup f hf)
  rw [ofJson?_of_nodup _ (hnodup.sublist (names_present fields)), ofNames, hcells]

end Present

/-- A field with a default, by whether it has a cell. -/
theorem orElse_eq_elim {α : Type} (r : Record) (name : String) (default : α)
    (decode : Json → Option α) :
    r.orElse name default decode = (r.cell? name).elim (some default) decode := by
  unfold orElse
  cases r.cell? name <;> rfl

variable {α : Type} {r : Record} {name : String} {decode : Json → Option α} {a : α}

theorem need_ofNames {names : List String} (h : name ∈ names) (members : List (String × Json)) :
    (ofNames names members).need name decode = (members.lookup name).bind decode := by
  unfold need
  rw [cell?_ofNames h]
  rfl

theorem decode_of_need (h : r.need name decode = some a) : ∃ v, decode v = some a := by
  obtain ⟨v, -, hv⟩ := Option.bind_eq_some_iff.1 h
  exact ⟨v, hv⟩

theorem decode_of_optional (h : r.optional name decode = some (some a)) :
    ∃ v, decode v = some a := by
  unfold optional at h
  split at h
  · unfold Json.asOption? at h
    split at h
    · cases h
    · obtain ⟨b, hb, heq⟩ := Option.map_eq_some_iff.1 h
      cases heq
      exact ⟨_, hb⟩
  · split at h <;> cases h

end Record

/-- An optional value reads back. -/
theorem Json.asOption?_ofOption {α : Type} {encode : α → Json} {decode : Json → Option α}
    {o : Option α} (hnull : ∀ a, o = some a → encode a ≠ .null)
    (h : ∀ a, o = some a → decode (encode a) = some a) :
    asOption? decode (ofOption encode o) = some o := by
  cases o with
  | none => rfl
  | some a =>
    show asOption? decode (encode a) = _
    unfold asOption?
    split
    · next hencode => exact absurd hencode (hnull a rfl)
    · rw [h a rfl]
      rfl

/-! ## Ranges of numbers -/

/-- The signed 64-bit range. -/
def IsInt64 (n : Int) : Prop :=
  -Int.pow 2 63 ≤ n ∧ n < Int.pow 2 63

instance (n : Int) : Decidable (IsInt64 n) :=
  inferInstanceAs (Decidable (_ ∧ _))

/-- The unsigned 64-bit range. -/
def IsNat64 (n : Nat) : Prop :=
  n < Nat.pow 2 64

instance (n : Nat) : Decidable (IsNat64 n) :=
  inferInstanceAs (Decidable (_ < _))

namespace Json

/-! ## Values -/

@[simp] theorem asString?_str (s : String) : asString? (.str s) = some s :=
  rfl

@[simp] theorem asBool?_bool (b : Bool) : asBool? (.bool b) = some b :=
  rfl

@[simp] theorem asOption?_str (s : String) : asOption? asString? (.str s) = some (some s) :=
  rfl

theorem asInt64?_ofInt {n : Int} (h : IsInt64 n) : asInt64? (ofInt n) = some n :=
  if_pos h

theorem range_of_asInt64? {v : Json} {n : Int} (h : asInt64? v = some n) : IsInt64 n := by
  unfold asInt64? at h
  split at h
  · split at h
    · next hrange =>
      cases h
      exact hrange
    · cases h
  · cases h

variable {α : Type} {encode : α → Json} {decode : Json → Option α} {xs : List α}

/-- A list reads back if its items do. -/
theorem asList?_ofList (h : ∀ x ∈ xs, decode (encode x) = some x) :
    asList? decode (ofList encode xs) = some xs := by
  show (xs.map encode).mapM decode = some xs
  induction xs with
  | nil => rfl
  | cons x xs ih =>
    rw [List.map_cons, List.mapM_cons, h x List.mem_cons_self,
      ih fun y hy => h y (List.mem_cons_of_mem x hy)]
    rfl

theorem decode_of_mapM {items : List Json} (h : items.mapM decode = some xs) :
    ∀ x ∈ xs, ∃ v, decode v = some x := by
  induction items generalizing xs with
  | nil =>
    cases h
    nofun
  | cons v items ih =>
    rw [List.mapM_cons] at h
    obtain ⟨x, hx, h⟩ := Option.bind_eq_some_iff.1 h
    obtain ⟨rest, hrest, h⟩ := Option.bind_eq_some_iff.1 h
    cases h
    exact List.forall_mem_cons.2 ⟨⟨v, hx⟩, ih hrest⟩

theorem decode_of_asList? {v : Json} (h : asList? decode v = some xs) :
    ∀ x ∈ xs, ∃ v, decode v = some x := by
  unfold asList? at h
  split at h
  · exact decode_of_mapM h
  · cases h

theorem asStringMap?_ofStringMap (m : OrderedMap String) :
    asStringMap? (ofStringMap m) = some m := by
  have hpairs : ∀ entries : List (String × String),
      (entries.map fun e => (e.1, Json.str e.2)).mapM
        (fun e => do return (e.1, ← asString? e.2)) = some entries := by
    intro entries
    induction entries with
    | nil => rfl
    | cons e entries ih =>
      rw [List.map_cons, List.mapM_cons, ih]
      rfl
  have hread : asStringMap? (ofStringMap m) = some (OrderedMap.ofPairs m.entries) :=
    congrArg (· >>= fun pairs => some (OrderedMap.ofPairs pairs)) (hpairs m.entries)
  rw [hread, m.ofPairs_entries]

/-- An optional value reads back where it is left out when absent. -/
theorem elim_asOption? {o : Option α} (hnull : ∀ a, o = some a → encode a ≠ .null)
    (h : ∀ a, o = some a → decode (encode a) = some a) :
    (o.map encode).elim (some none) (asOption? decode) = some o := by
  cases o with
  | none => rfl
  | some a => exact asOption?_ofOption hnull h

theorem elim_texts (o : Option String) :
    (o.map .str).elim (some none) (asOption? asString?) = some o :=
  elim_asOption? nofun fun _ _ => rfl

theorem asOption?_texts (o : Option String) : asOption? asString? (ofOption .str o) = some o :=
  asOption?_ofOption nofun fun _ _ => rfl

end Json

end Mooring

set_option autoImplicit false

/-!
# Maps in insertion order

An `OrderedMap` is a list of named values in which no name occurs twice. Setting a name keeps its
place, a new name goes to the end. The main facts are the equations for look-up after `set`, that
`set` keeps the names already there in their order, and that building a map from its own entries
gives the map back.
-/

namespace Mooring

variable {α β : Type}

/-- The pairs with `name` set: in its place if it is there, at the end otherwise. -/
def setPair (name : String) (value : α) : List (String × α) → List (String × α)
  | [] => [(name, value)]
  | (k, v) :: rest => if k = name then (k, value) :: rest else (k, v) :: setPair name value rest

/-- The pairs in which a repeated name keeps its first place and its last value. -/
def distinctPairs (pairs : List (String × α)) : List (String × α) :=
  pairs.foldl (fun ms p => setPair p.1 p.2 ms) []

theorem map_fst_setPair_of_mem (name : String) (value : α) {ps : List (String × α)}
    (h : name ∈ ps.map Prod.fst) : (setPair name value ps).map Prod.fst = ps.map Prod.fst := by
  induction ps with
  | nil => simp at h
  | cons p rest ih =>
    obtain ⟨k, v⟩ := p
    simp only [setPair]
    split
    · simp
    · next hk =>
      simp only [List.map_cons, List.mem_cons] at h ⊢
      rw [ih (h.resolve_left fun e => hk e.symm)]

theorem setPair_of_notMem (name : String) (value : α) {ps : List (String × α)}
    (h : name ∉ ps.map Prod.fst) : setPair name value ps = ps ++ [(name, value)] := by
  induction ps with
  | nil => rfl
  | cons p rest ih =>
    obtain ⟨k, v⟩ := p
    simp only [List.map_cons, List.mem_cons, not_or] at h
    simp [setPair, Ne.symm h.1, ih h.2]

theorem nodup_setPair (name : String) (value : α) {ps : List (String × α)}
    (h : (ps.map Prod.fst).Nodup) : ((setPair name value ps).map Prod.fst).Nodup := by
  by_cases hm : name ∈ ps.map Prod.fst
  · rw [map_fst_setPair_of_mem name value hm]; exact h
  · rw [setPair_of_notMem name value hm]
    simp only [List.map_append, List.map_cons, List.map_nil]
    exact List.nodup_append.2 ⟨h, by simp, fun a ha b hb hab => hm (by simp_all)⟩

theorem nodup_foldl_setPair (pairs : List (String × α)) {ps : List (String × α)}
    (h : (ps.map Prod.fst).Nodup) :
    ((pairs.foldl (fun ms p => setPair p.1 p.2 ms) ps).map Prod.fst).Nodup := by
  induction pairs generalizing ps with
  | nil => exact h
  | cons p rest ih => exact ih (nodup_setPair p.1 p.2 h)

/-- No name occurs twice among distinct pairs. -/
theorem nodup_distinctPairs (pairs : List (String × α)) :
    ((distinctPairs pairs).map Prod.fst).Nodup :=
  nodup_foldl_setPair pairs (by simp)

theorem foldl_setPair_of_nodup (pairs ps : List (String × α))
    (h : ((ps ++ pairs).map Prod.fst).Nodup) :
    pairs.foldl (fun ms p => setPair p.1 p.2 ms) ps = ps ++ pairs := by
  induction pairs generalizing ps with
  | nil => simp
  | cons p rest ih =>
    have hp : p.1 ∉ ps.map Prod.fst := by
      simp only [List.map_append, List.map_cons] at h
      have := (List.nodup_append.1 h).2.2
      intro hm
      exact this p.1 hm p.1 (by simp) rfl
    rw [List.foldl_cons, setPair_of_notMem p.1 p.2 hp, ih]
    · simp
    · simpa using h

/-- Pairs without a repeated name are already distinct. -/
theorem distinctPairs_of_nodup {pairs : List (String × α)} (h : (pairs.map Prod.fst).Nodup) :
    distinctPairs pairs = pairs := by
  simpa [distinctPairs] using foldl_setPair_of_nodup pairs [] (by simpa using h)

theorem lookup_setPair_self (name : String) (value : α) (ps : List (String × α)) :
    (setPair name value ps).lookup name = some value := by
  induction ps with
  | nil => simp [setPair]
  | cons p rest ih =>
    obtain ⟨k, v⟩ := p
    simp only [setPair]
    split
    · next h => subst h; simp
    · next h =>
      have : (name == k) = false := by simpa using fun e => h e.symm
      simp [List.lookup_cons, this, ih]

theorem lookup_setPair_of_ne {name other : String} (value : α) (ps : List (String × α))
    (h : other ≠ name) : (setPair name value ps).lookup other = ps.lookup other := by
  induction ps with
  | nil =>
    have : (other == name) = false := by simpa using h
    simp [setPair, List.lookup_cons, this]
  | cons p rest ih =>
    obtain ⟨k, v⟩ := p
    simp only [setPair]
    split
    · next hk =>
      have : (other == k) = false := by simpa [hk] using h
      simp [List.lookup_cons, this]
    · simp [List.lookup_cons, ih]

theorem setPair_setPair (name : String) (v v' : α) (ps : List (String × α)) :
    setPair name v' (setPair name v ps) = setPair name v' ps := by
  induction ps with
  | nil => simp [setPair]
  | cons p rest ih =>
    obtain ⟨key, value⟩ := p
    by_cases hkey : key = name
    · simp [setPair, hkey]
    · simp [setPair, hkey, ih]

/-- Named values in insertion order. -/
structure OrderedMap (α : Type) where
  entries : List (String × α)
  nodup : (entries.map Prod.fst).Nodup

namespace OrderedMap

instance [DecidableEq α] : DecidableEq (OrderedMap α) := fun a b =>
  decidable_of_iff (a.entries = b.entries)
    ⟨fun h => by cases a; cases b; simpa using h, fun h => by rw [h]⟩

/-- The map without entries. -/
def empty : OrderedMap α := ⟨[], by simp⟩

instance : Inhabited (OrderedMap α) := ⟨empty⟩

/-- The value under a name. -/
def get? (m : OrderedMap α) (name : String) : Option α :=
  m.entries.lookup name

/-- The map with a name set. -/
def set (m : OrderedMap α) (name : String) (value : α) : OrderedMap α :=
  ⟨setPair name value m.entries, nodup_setPair name value m.nodup⟩

/-- The map of a list of pairs; a repeated name keeps its first place and its last value. -/
def ofPairs (pairs : List (String × α)) : OrderedMap α :=
  ⟨distinctPairs pairs, nodup_distinctPairs pairs⟩

/-- Set several names, one after another. -/
def setAll (m : OrderedMap α) (pairs : List (String × α)) : OrderedMap α :=
  pairs.foldl (fun m p => m.set p.1 p.2) m

/-- The value under a name changed, if it is there. -/
def modify (m : OrderedMap α) (name : String) (f : α → α) : OrderedMap α :=
  match m.get? name with
  | some v => m.set name (f v)
  | none => m

@[ext] theorem ext {a b : OrderedMap α} (h : a.entries = b.entries) : a = b := by
  cases a; cases b; simpa using h

@[simp] theorem get?_set_self (m : OrderedMap α) (name : String) (value : α) :
    (m.set name value).get? name = some value :=
  lookup_setPair_self name value m.entries

@[simp] theorem get?_set_of_ne (m : OrderedMap α) {name other : String} (value : α)
    (h : other ≠ name) : (m.set name value).get? other = m.get? other :=
  lookup_setPair_of_ne value m.entries h

/-- What was set is changed in its place. -/
theorem modify_set (m : OrderedMap α) (name : String) (v : α) (f : α → α) :
    (m.set name v).modify name f = m.set name (f v) := by
  unfold modify
  rw [get?_set_self]
  exact ext (setPair_setPair name v (f v) m.entries)

/-- A map is built again from its entries. -/
@[simp] theorem ofPairs_entries (m : OrderedMap α) : ofPairs m.entries = m :=
  ext (distinctPairs_of_nodup m.nodup)

end OrderedMap

end Mooring

import Mathlib.Algebra.Group.Nat.Defs
import Mathlib.Data.List.Induction
import Mooring.Container.Report
import Mooring.Proofs.Text.Blank
import Mooring.Proofs.Time.Calendar

set_option autoImplicit false

/-!
# Times read back from their text

What is written for an instant reads back as the instant (`ofRelaxed?_text`), down to the
nanosecond and during a leap second. Each part of the text is followed by one that it cannot run on
into, so that each is read by a lemma of its own. Whatever reads as an instant can be represented
(`isValid_of_ofRelaxed?`).
-/

namespace Mooring.Instant

/-- An instant that can be represented: its year is in range, and only the last second of a minute
may go on for a leap second. -/
structure IsValid (t : Instant) : Prop where
  year : inRange t.seconds = true
  nanos : t.nanos < 1000000000 ∨ t.seconds % 60 = 59 ∧ t.nanos < 2000000000

/-! ## Digits -/

theorem digitsNumber_eq (ds : List Char) : digitsNumber ds = Nat.ofDigitChars 10 ds 0 := by
  unfold digitsNumber Nat.ofDigitChars
  simp only [Nat.mul_comm]

theorem digitsNumber_replicate_append (n : Nat) (ds : List Char) :
    digitsNumber (List.replicate n '0' ++ ds) = digitsNumber ds := by
  induction n with
  | zero => rfl
  | succ n ih => exact ih

/-- Padded numbers read as the number. -/
@[simp] theorem digitsNumber_padded (width n : Nat) : digitsNumber (padded width n) = n := by
  unfold padded
  rw [digitsNumber_replicate_append, digitsNumber_eq]
  exact Nat.ofDigitChars_toDigits (by decide) (by decide)

theorem isDigit_of_mem_padded {width n : Nat} {c : Char} (h : c ∈ padded width n) :
    c.isDigit = true := by
  unfold padded at h
  rcases List.mem_append.1 h with h | h
  · rw [List.eq_of_mem_replicate h]
    rfl
  · exact Nat.isDigit_of_mem_toDigits (by decide) (by decide) h

theorem width_le_length_padded (width n : Nat) : width ≤ (padded width n).length := by
  unfold padded
  simp only [List.length_append, List.length_replicate]
  omega

theorem length_padded {width n : Nat} (hpos : 0 < width) (h : n < 10 ^ width) :
    (padded width n).length = width := by
  have hlength : (Nat.toDigits 10 n).length ≤ width :=
    (Nat.length_toDigits_le_iff (by decide) hpos).2 h
  unfold padded
  simp only [List.length_append, List.length_replicate]
  omega

theorem exists_padded_eq_cons {width : Nat} (hpos : 0 < width) (n : Nat) :
    ∃ c rest, c.isDigit = true ∧ padded width n = c :: rest := by
  cases h : padded width n with
  | nil =>
    have hlength := width_le_length_padded width n
    rw [h, List.length_nil] at hlength
    omega
  | cons c rest => exact ⟨c, rest, isDigit_of_mem_padded (h ▸ List.mem_cons_self), rfl⟩

/-- Whether digits end where a text goes on. -/
def Stops (rest : List Char) : Prop :=
  ∀ c ∈ rest.head?, c.isDigit = false

theorem takeWhile_isDigit_append {ds rest : List Char} (hds : ∀ c ∈ ds, c.isDigit = true)
    (hrest : Stops rest) : (ds ++ rest).takeWhile Char.isDigit = ds := by
  rw [List.takeWhile_append_of_pos hds]
  cases rest with
  | nil => simp
  | cons c rest =>
    have hc : c.isDigit = false := hrest c rfl
    rw [List.takeWhile_cons_of_neg (by simp [hc]), List.append_nil]

theorem dropWhile_isDigit {rest : List Char} (hrest : Stops rest) :
    rest.dropWhile Char.isDigit = rest := by
  cases rest with
  | nil => rfl
  | cons c rest =>
    have hc : c.isDigit = false := hrest c rfl
    rw [List.dropWhile_cons_of_neg (by simp [hc])]

/-- Among the characters that are looked at, the digits are those before they stop. -/
theorem takeWhile_isDigit_take {most : Nat} {ds rest : List Char}
    (hds : ∀ c ∈ ds, c.isDigit = true) (hmost : ds.length ≤ most) (hrest : Stops rest) :
    ((ds ++ rest).take most).takeWhile Char.isDigit = ds := by
  rw [List.take_append, List.take_of_length_le hmost]
  apply takeWhile_isDigit_append hds
  intro c hc
  rw [List.head?_take] at hc
  split at hc
  · cases hc
  · exact hrest c hc

/-- A number that may have more digits is read up to where they stop. -/
theorem number?_of_stops {least most : Nat} {ds rest : List Char}
    (hds : ∀ c ∈ ds, c.isDigit = true) (hleast : least ≤ ds.length) (hmost : ds.length ≤ most)
    (hrest : Stops rest) : number? least most (ds ++ rest) = some (digitsNumber ds, rest) := by
  unfold number?
  rw [takeWhile_isDigit_take hds hmost hrest, if_neg (by omega), List.drop_left]

/-- A number that has all the digits it may have is read whatever follows. -/
theorem number?_of_length {least : Nat} {ds : List Char} (hds : ∀ c ∈ ds, c.isDigit = true)
    (hleast : least ≤ ds.length) (rest : List Char) :
    number? least ds.length (ds ++ rest) = some (digitsNumber ds, rest) := by
  have htake : ((ds ++ rest).take ds.length).takeWhile Char.isDigit = ds := by
    have hall := takeWhile_isDigit_append hds (show Stops [] from fun _ hc => nomatch hc)
    rw [List.append_nil] at hall
    rw [List.take_left, hall]
  unfold number?
  rw [htake, if_neg (by omega), List.drop_left]

/-! ## Parts of a time -/

theorem trimStart_padded {width n : Nat} (hpos : 0 < width) (rest : List Char) :
    Text.trimStart (padded width n ++ rest) = padded width n ++ rest := by
  obtain ⟨c, ds, hc, hpadded⟩ := exists_padded_eq_cons hpos n
  rw [hpadded, List.cons_append]
  exact List.dropWhile_cons_of_neg (by simp [Text.isBlank_of_isDigit hc])

/-- Two digits are read whatever follows. -/
theorem relaxedNumber?_padded {n : Nat} (h : n < 100) (rest : List Char) :
    relaxedNumber? (padded 2 n ++ rest) = some (n, rest) := by
  have hlength : (padded 2 n).length = 2 := length_padded (by decide) h
  have hread := number?_of_length (fun _ hc => isDigit_of_mem_padded hc)
    (show 1 ≤ (padded 2 n).length by omega) rest
  unfold relaxedNumber?
  rw [trimStart_padded (by decide)]
  rw [hlength, digitsNumber_padded] at hread
  exact hread

/-- A number with a sign has as many digits as there are. -/
theorem number?_padded (n : Nat) {rest : List Char} (hrest : Stops rest) :
    number? 1 (padded 4 n ++ rest).length (padded 4 n ++ rest) = some (n, rest) := by
  have hlong := width_le_length_padded 4 n
  have hshort : (padded 4 n).length ≤ (padded 4 n ++ rest).length := by simp
  have hread := number?_of_stops (fun _ hc => isDigit_of_mem_padded hc)
    (show 1 ≤ (padded 4 n).length by omega) hshort hrest
  rw [digitsNumber_padded] at hread
  exact hread

/-- Years outside those of four digits are read with their sign. -/
theorem relaxedYear?_yearText (year : Int) {rest : List Char} (hrest : Stops rest) :
    relaxedYear? (yearText year ++ rest) = some (year, rest) := by
  unfold yearText relaxedYear?
  by_cases hfour : 0 ≤ year ∧ year ≤ 9999
  · rw [if_pos hfour, trimStart_padded (by decide)]
    have hlength : (padded 4 year.toNat).length = 4 := length_padded (by decide) (by omega)
    have hread := number?_of_length (fun _ hc => isDigit_of_mem_padded hc)
      (show 1 ≤ (padded 4 year.toNat).length by omega) rest
    rw [hlength, digitsNumber_padded] at hread
    -- the first digit is no sign
    obtain ⟨c, ds, hc, hpadded⟩ := exists_padded_eq_cons (show 0 < 4 by decide) year.toNat
    rw [hpadded, List.cons_append] at hread ⊢
    split
    · next hsign =>
      obtain ⟨rfl, -⟩ := List.cons.inj hsign
      cases hc
    · next hsign =>
      obtain ⟨rfl, -⟩ := List.cons.inj hsign
      cases hc
    · rw [hread]
      show some ((year.toNat : Int), rest) = _
      rw [Int.toNat_of_nonneg hfour.1]
  · rw [if_neg hfour]
    by_cases hneg : year < 0
    · rw [if_pos hneg]
      show Option.bind (number? 1 (padded 4 year.natAbs ++ rest).length (padded 4 year.natAbs ++ rest))
        _ = _
      rw [number?_padded _ hrest]
      show some (-(year.natAbs : Int), rest) = _
      congr 2
      omega
    · rw [if_neg hneg]
      show Option.bind (number? 1 (padded 4 year.natAbs ++ rest).length (padded 4 year.natAbs ++ rest))
        _ = _
      rw [number?_padded _ hrest]
      show some ((year.natAbs : Int), rest) = _
      congr 2
      omega

/-- At most nine digits after the point are read as a part of a second. -/
theorem fraction?_padded {width n : Nat} (hpos : 0 < width) (hwidth : width ≤ 9)
    (hn : n < 10 ^ width) {rest : List Char} (hrest : Stops rest) :
    fraction? ('.' :: padded width n ++ rest) = some (n * 10 ^ (9 - width), rest) := by
  have hlength := length_padded hpos hn
  have hall : ∀ c ∈ padded width n, c.isDigit = true := fun _ hc => isDigit_of_mem_padded hc
  have htake : ((padded width n ++ rest).take 9).takeWhile Char.isDigit = padded width n :=
    takeWhile_isDigit_take hall (by omega) hrest
  have hne : (padded width n).isEmpty = false := by
    rw [List.isEmpty_eq_false_iff]
    intro hnil
    rw [hnil, List.length_nil] at hlength
    omega
  have hdrop : (padded width n ++ rest).drop (padded width n).length = rest := List.drop_left
  rw [hlength] at hdrop
  unfold fraction?
  simp only [List.cons_append, htake, hne, hlength, hdrop, dropWhile_isDigit hrest,
    digitsNumber_padded]
  rfl

/-- The digits after the second are read as nanoseconds, as few of them as there are. -/
theorem fraction?_fractionText {nanos : Nat} (h : nanos < 1000000000) {rest : List Char}
    (hrest : Stops rest) (hpoint : rest.head? ≠ some '.') :
    fraction? (fractionText nanos ++ rest) = some (nanos, rest) := by
  unfold fractionText
  by_cases hzero : nanos = 0
  · subst hzero
    rw [if_pos rfl, List.nil_append]
    unfold fraction?
    split
    · exact absurd rfl hpoint
    · rfl
  · rw [if_neg hzero]
    by_cases hmillis : nanos % 1000000 = 0
    · rw [if_pos hmillis, fraction?_padded (by decide) (by decide) (by omega) hrest]
      congr 2
      omega
    · rw [if_neg hmillis]
      by_cases hmicros : nanos % 1000 = 0
      · rw [if_pos hmicros, fraction?_padded (by decide) (by decide) (by omega) hrest]
        congr 2
        omega
      · rw [if_neg hmicros, fraction?_padded (by decide) (by decide) (by omega) hrest]
        congr 2
        omega

/-! ## Whole times -/

theorem relaxedMark?_cons {c : Char} (h : Text.isBlank c = false) (rest : List Char) :
    relaxedMark? c (c :: rest) = some rest := by
  unfold relaxedMark? Text.trimStart
  rw [List.dropWhile_cons_of_neg (by simp [h])]
  exact if_pos rfl

/-- The parts in which an instant is written. -/
def parts (t : Instant) : Parts where
  date := Date.ofDays (t.seconds / 86400)
  hour := (t.seconds % 86400).toNat / 3600
  minute := (t.seconds % 86400).toNat / 60 % 60
  second := (t.seconds % 86400).toNat % 60 + if 1000000000 ≤ t.nanos then 1 else 0
  nanos := t.nanos % 1000000000
  offset := 0

theorem date_parts_isValid {t : Instant} (h : t.IsValid) : t.parts.date.isValid = true := by
  have hrange := h.year
  unfold inRange leastSeconds greatestSeconds at hrange
  simp only [Bool.and_eq_true, decide_eq_true_eq] at hrange
  apply Date.isValid_ofDays
  · omega
  · omega

/-- The parts of an instant make up the instant. -/
theorem instant?_parts {t : Instant} (h : t.IsValid) : t.parts.instant? = some t := by
  have hnanos := h.nanos
  have hhour : t.parts.hour ≤ 23 := by
    show (t.seconds % 86400).toNat / 3600 ≤ 23
    omega
  have hminute : t.parts.minute ≤ 59 := by
    show (t.seconds % 86400).toNat / 60 % 60 ≤ 59
    omega
  -- a leap second is written as second 60, and held as second 59 with a second of nanoseconds more
  have hsecond : t.parts.second = (t.seconds % 86400).toNat % 60 +
    if 1000000000 ≤ t.nanos then 1 else 0 := rfl
  have hsixty : t.parts.second = 60 ↔ 1000000000 ≤ t.nanos := by
    rw [hsecond]
    split <;> omega
  have hmin : min t.parts.second 59 = (t.seconds % 86400).toNat % 60 := by
    rw [hsecond]
    split <;> omega
  have hdays : t.parts.date.toDays = t.seconds / 86400 := Date.toDays_ofDays _
  have hseconds : t.parts.date.toDays * 86400 +
      (t.parts.hour * 3600 + t.parts.minute * 60 + min t.parts.second 59 : Nat) - t.parts.offset =
      t.seconds := by
    rw [hdays, hmin]
    show t.seconds / 86400 * 86400 + ((t.seconds % 86400).toNat / 3600 * 3600 +
      (t.seconds % 86400).toNat / 60 % 60 * 60 + (t.seconds % 86400).toNat % 60 : Nat) - 0 = _
    omega
  have hfraction : (if t.parts.second = 60 then t.parts.nanos + 1000000000 else t.parts.nanos) =
      t.nanos := by
    show (if t.parts.second = 60 then t.nanos % 1000000000 + 1000000000
      else t.nanos % 1000000000) = _
    simp only [hsixty]
    split <;> omega
  have hle : t.parts.second ≤ 60 := by
    rw [hsecond]
    split <;> omega
  have hzone : t.parts.offset.natAbs < 86400 := show (0 : Int).natAbs < 86400 by decide
  unfold Parts.instant?
  simp only [date_parts_isValid h, hhour, hminute, hle, hzone, decide_true, Bool.and_true,
    hseconds, hfraction, h.year]
  rfl

theorem toList_text (t : Instant) :
    t.text.toList = yearText t.parts.date.year ++ '-' :: (padded 2 t.parts.date.month ++
      '-' :: (padded 2 t.parts.date.day ++ 'T' :: (padded 2 t.parts.hour ++
      ':' :: (padded 2 t.parts.minute ++ ':' :: (padded 2 t.parts.second ++
      (fractionText t.parts.nanos ++ ['Z'])))))) := by
  unfold text dateTimeText
  simp only [String.toList_ofList, List.append_assoc, List.cons_append]
  rfl

/-- The text of an instant reads back as the instant. -/
theorem ofRelaxed?_text {t : Instant} (h : t.IsValid) : ofRelaxed? t.text = some t := by
  -- every part but the year fits in its two digits
  have hdate := date_parts_isValid h
  unfold Date.isValid at hdate
  simp only [Bool.and_eq_true, decide_eq_true_eq] at hdate
  have hmonth : t.parts.date.month < 100 := by omega
  have hday : t.parts.date.day < 100 := by
    have hlength : Date.monthLength t.parts.date.year t.parts.date.month ≤ 31 := by
      unfold Date.monthLength
      split
      · split <;> omega
      · split <;> omega
    omega
  have hhour : t.parts.hour < 100 := by
    show (t.seconds % 86400).toNat / 3600 < 100
    omega
  have hminute : t.parts.minute < 100 := by
    show (t.seconds % 86400).toNat / 60 % 60 < 100
    omega
  have hsecond : t.parts.second < 100 := by
    show (t.seconds % 86400).toNat % 60 + (if 1000000000 ≤ t.nanos then 1 else 0) < 100
    split <;> omega
  have hnanos : t.parts.nanos < 1000000000 := Nat.mod_lt _ (by decide)
  have hzone : relaxedZone? (Text.trimStart ['Z']) = some (0, []) := by decide
  have hdash (rest : List Char) : relaxedMark? '-' ('-' :: rest) = some rest :=
    relaxedMark?_cons (by decide) rest
  have hcolon (rest : List Char) : relaxedMark? ':' (':' :: rest) = some rest :=
    relaxedMark?_cons (by decide) rest
  have hmark (rest : List Char) : separator? ('T' :: rest) = some rest := rfl
  have hstops (c : Char) (rest : List Char) (hc : c.isDigit = false) : Stops (c :: rest) := by
    rintro d ⟨⟩
    exact hc
  have hfraction : fraction? (fractionText t.parts.nanos ++ ['Z']) = some (t.parts.nanos, ['Z']) :=
    fraction?_fractionText hnanos (hstops 'Z' [] rfl) (by decide)
  unfold ofRelaxed?
  simp only [toList_text, relaxedYear?_yearText _ (hstops '-' _ rfl), hdash, hcolon, hmark,
    relaxedNumber?_padded hmonth, relaxedNumber?_padded hday, relaxedNumber?_padded hhour,
    relaxedNumber?_padded hminute, relaxedNumber?_padded hsecond, hfraction, hzone,
    Option.bind_eq_bind, Option.bind_some]
  exact instant?_parts h

/-! ## What is read can be represented -/

theorem digitsNumber_lt {ds : List Char} (h : ∀ c ∈ ds, c.isDigit = true) :
    digitsNumber ds < 10 ^ ds.length := by
  induction ds using List.reverseRecOn with
  | nil => exact Nat.one_pos
  | append_singleton ds c ih =>
    have hrest := ih fun d hd => h d (List.mem_append_left _ hd)
    have hc : c.toNat - '0'.toNat ≤ 9 := by
      have hdigit := h c (by simp)
      simp only [Char.isDigit, Bool.and_eq_true, decide_eq_true_eq] at hdigit
      have hle : c.toNat ≤ '9'.toNat := hdigit.2
      have h9 : '9'.toNat = 57 := rfl
      have h0 : '0'.toNat = 48 := rfl
      omega
    have hsum : digitsNumber (ds ++ [c]) = digitsNumber ds * 10 + (c.toNat - '0'.toNat) := by
      simp [digitsNumber]
    rw [hsum, List.length_append, List.length_singleton, Nat.pow_succ]
    omega

/-- Nanoseconds that are read are less than a second. -/
theorem lt_of_fraction? {cs rest : List Char} {nanos : Nat} (h : fraction? cs = some (nanos, rest)) :
    nanos < 1000000000 := by
  unfold fraction? at h
  split at h
  · next cs =>
    have hlength : ((cs.take 9).takeWhile Char.isDigit).length ≤ 9 :=
      Nat.le_trans (List.takeWhile_prefix _).length_le (List.length_take_le 9 cs)
    have hdigits : digitsNumber ((cs.take 9).takeWhile Char.isDigit) <
        10 ^ ((cs.take 9).takeWhile Char.isDigit).length :=
      digitsNumber_lt (List.all_eq_true.1 List.all_takeWhile)
    generalize (cs.take 9).takeWhile Char.isDigit = ds at h hlength hdigits
    simp only at h
    split at h
    · cases h
    · obtain ⟨rfl, -⟩ := Prod.mk.inj (Option.some.inj h)
      calc digitsNumber ds * 10 ^ (9 - ds.length)
          < 10 ^ ds.length * 10 ^ (9 - ds.length) :=
            Nat.mul_lt_mul_of_pos_right hdigits (Nat.pow_pos (by decide))
        _ = 1000000000 := by
            rw [← Nat.pow_add, Nat.add_sub_cancel' hlength]
  · cases h
    decide

theorem zoneSeconds_emod (negative : Bool) (hours minutes : Nat) :
    zoneSeconds negative hours minutes % 60 = 0 := by
  unfold zoneSeconds
  cases negative <;> simp only <;> omega

/-- A zone is read in whole minutes. -/
theorem emod_of_relaxedZone? {cs rest : List Char} {offset : Int}
    (h : relaxedZone? cs = some (offset, rest)) : offset % 60 = 0 := by
  have hsigned : ∀ cs, (do
      let sign ← zoneSign? cs
      let hours ← twoDigits? '9' sign.2
      let minutes ← twoDigits? '5' (hours.2.dropWhile fun c => c == ':' || Text.isBlank c)
      pure (zoneSeconds sign.1 hours.1 minutes.1, minutes.2)) = some (offset, rest) →
        offset % 60 = 0 := by
    intro cs h
    obtain ⟨sign, -, h⟩ := Option.bind_eq_some_iff.1 h
    obtain ⟨hours, -, h⟩ := Option.bind_eq_some_iff.1 h
    obtain ⟨minutes, -, h⟩ := Option.bind_eq_some_iff.1 h
    cases h
    exact zoneSeconds_emod ..
  unfold relaxedZone? at h
  -- `UTC` is looked for in each of the cases
  split at h
  · simp only at h
    split at h
    · split at h <;> cases h <;> rfl
    · cases h
      rfl
  · simp only at h
    split at h
    · split at h <;> cases h <;> rfl
    · cases h
      rfl
  · simp only at h
    split at h
    · split at h
      · cases h
        rfl
      · exact hsigned _ h
    · exact hsigned _ h

theorem isValid_of_instant? {p : Parts} {t : Instant} (hnanos : p.nanos < 1000000000)
    (hoffset : p.offset % 60 = 0) (h : p.instant? = some t) : t.IsValid := by
  unfold Parts.instant? at h
  split at h
  · simp only at h
    split at h
    · next hrange =>
      cases h
      refine ⟨hrange, ?_⟩
      simp only
      split
      · next hleap =>
        right
        omega
      · exact .inl hnanos
    · cases h
  · cases h

/-- What reads as an instant is one that can be represented. -/
theorem isValid_of_ofRelaxed? {s : String} {t : Instant} (h : ofRelaxed? s = some t) :
    t.IsValid := by
  unfold ofRelaxed? at h
  simp only [Option.bind_eq_bind, Option.bind_eq_some_iff] at h
  obtain ⟨_, -, _, -, _, -, _, -, _, -, _, -, _, -, _, -, _, -, _, -, _, -, ⟨nanos, _⟩, hnanos,
    ⟨offset, _⟩, hoffset, h⟩ := h
  split at h
  · exact isValid_of_instant? (lt_of_fraction? hnanos) (emod_of_relaxedZone? hoffset) h
  · cases h

/-! ## Documents -/

theorem ofJson?_toJson {t : Instant} (h : t.IsValid) : ofJson? t.toJson = some t := by
  unfold ofJson? toJson Json.asString?
  rw [Option.bind_some, ofRelaxed?_text h]

theorem isValid_of_ofJson? {v : Json} {t : Instant} (h : ofJson? v = some t) : t.IsValid := by
  obtain ⟨s, -, hs⟩ := Option.bind_eq_some_iff.1 h
  exact isValid_of_ofRelaxed? hs

/-- The text of an instant reads back exactly when the instant can be represented. -/
theorem ofJson?_toJson_iff {t : Instant} : ofJson? t.toJson = some t ↔ t.IsValid :=
  ⟨isValid_of_ofJson?, ofJson?_toJson⟩

end Mooring.Instant

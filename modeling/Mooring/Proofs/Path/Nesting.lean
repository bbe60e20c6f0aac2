import Mooring.Proofs.Path.Descent
import Mooring.Proofs.Path.Steps

set_option autoImplicit false

/-!
# Paths in filters in paths

A path holds filters between brackets and a filter holds paths, so the reader of paths is a
parameter of everything it calls, and reads with a bound on the nesting. A reader is asked for
shorter texts only: `IsRoute.mono` carries a path from one reader to another that reads all the
first one reads of shorter texts. So the bound plays no part (`routeWithin_mono`), and what a path
or a filter writes is said with `route` itself as the reader of the texts inside
(`route_eq_ok_iff`, `condition_eq_ok_iff`).
-/

namespace Mooring.Path

variable {routeOf routeOf' : RouteReader} {cs : List Char}

/-- Whether a reader reads what another one reads of the texts that are shorter than `n`. -/
def Extends (n : Nat) (routeOf routeOf' : RouteReader) : Prop :=
  ∀ text, text.length < n → ∀ r, routeOf text = .ok r → routeOf' text = .ok r

theorem Extends.of_le {n m : Nat} (h : Extends n routeOf routeOf') (hle : m ≤ n) :
    Extends m routeOf routeOf' :=
  fun text ht => h text (Nat.lt_of_lt_of_le ht hle)

/-! ## Conditions -/

theorem conditionOfText_eq_ok_iff [Regex.Compiler] {a : Condition} :
    conditionOfText routeOf cs = .ok a ↔
      ∃ ts, AreTokens cs ts ∧ Derives routeOf.routes .disjunction ts a := by
  unfold conditionOfText
  rw [bind_eq_ok_iff]
  simp only [tokens_eq_ok_iff, conditionOf_eq_ok_iff]

theorem conditionOfText_mono [Regex.Compiler] (hreads : Extends (cs.length + 1) routeOf routeOf')
    {a : Condition} (h : conditionOfText routeOf cs = .ok a) :
    conditionOfText routeOf' cs = .ok a := by
  obtain ⟨ts, hts, hderives⟩ := conditionOfText_eq_ok_iff.1 h
  refine conditionOfText_eq_ok_iff.2 ⟨ts, hts, hderives.mono fun text ht => ?_⟩
  exact hreads text (Nat.lt_succ_of_le (hts.path_length ht))

/-! ## Segments -/

theorem filterBody?_length {body : List Char} (h : filterBody? cs = some body) :
    body.length + 2 ≤ cs.length := by
  unfold filterBody? at h
  split at h
  · next rest htrim =>
    split at h
    · next hlast =>
      cases h
      have hne : rest ≠ [] := by
        rintro rfl
        cases hlast
      have hpos := List.length_pos_iff.2 hne
      have hle := Text.trim_length_le cs
      rw [htrim, List.length_cons] at hle
      rw [List.length_dropLast]
      omega
    · cases h
  · cases h

theorem selectorSegment_mono [Regex.Compiler] {selector : List Char}
    (hreads : Extends selector.length routeOf routeOf') {g : Segment}
    (h : selectorSegment routeOf selector = .ok g) : selectorSegment routeOf' selector = .ok g := by
  unfold selectorSegment at h ⊢
  split at h
  · exact h
  · next rest =>
    split at h
    · next body hbody =>
      obtain ⟨c, hc, hg⟩ := bind_eq_ok_iff.1 h
      have hlength := filterBody?_length hbody
      refine bind_eq_ok_iff.2 ⟨c, conditionOfText_mono (hreads.of_le ?_) hc, hg⟩
      rw [List.length_cons]
      omega
    · cases h
  · exact h

theorem Step.segment_mono [Regex.Compiler] {s : Step}
    (hreads : ∀ selector, s = .bracket selector → Extends selector.length routeOf routeOf')
    {g : Segment} (h : s.segment routeOf = .ok g) : s.segment routeOf' = .ok g := by
  cases s with
  | bracket selector =>
    exact selectorSegment_mono ((hreads selector rfl).of_le (Text.trim_length_le selector)) h
  | _ => exact h

/-- The segments that a text writes. -/
def AreSegments [Regex.Compiler] (routeOf : RouteReader) (cs : List Char)
    (segments : List Segment) : Prop :=
  ∃ found, AreSteps cs found ∧
    List.Forall₂ (fun (s : Step) g => s.segment routeOf = .ok g) found segments

theorem segmentsOf_eq_ok_iff [Regex.Compiler] {total : Nat} {segments : List Segment} :
    segmentsOf routeOf total cs = .ok segments ↔ AreSegments routeOf cs segments := by
  unfold segmentsOf
  constructor
  · intro h
    obtain ⟨gs, hgs, h⟩ := bind_eq_ok_iff.1 h
    split at h
    · cases h
    · next hnone =>
      cases h
      exact ⟨_, steps_eq_iff.1 (Prod.ext rfl hnone), mapM_eq_ok_iff.1 hgs⟩
  · rintro ⟨found, hfound, hsegments⟩
    rw [steps_eq_iff.2 hfound]
    exact bind_eq_ok_iff.2 ⟨segments, mapM_eq_ok_iff.2 hsegments, rfl⟩

theorem areSegments_child [Regex.Compiler] {name : List Char} (hne : name ≠ [])
    (hstar : name.head? ≠ some '*') (hname : name.all isNamePart = true) :
    AreSegments routeOf ('.' :: name) [.child (String.ofList name)] := by
  have hchild := AreSteps.child hne hstar (List.all_eq_true.1 hname) endsName_nil .nil
  rw [List.append_nil] at hchild
  exact ⟨_, hchild, .cons rfl .nil⟩

theorem AreSegments.append [Regex.Compiler] {ds : List Char} {gs hs : List Segment}
    (hc : AreSegments routeOf cs gs) (hends : EndsName ds) (hd : AreSegments routeOf ds hs) :
    AreSegments routeOf (cs ++ ds) (gs ++ hs) := by
  obtain ⟨found, hfound, hgs⟩ := hc
  obtain ⟨more, hmore, hhs⟩ := hd
  exact ⟨found ++ more, hfound.append hends hmore, List.rel_append hgs hhs⟩

theorem AreSegments.mono [Regex.Compiler] {gs : List Segment}
    (hreads : Extends cs.length routeOf routeOf') (h : AreSegments routeOf cs gs) :
    AreSegments routeOf' cs gs := by
  obtain ⟨found, hfound, hgs⟩ := h
  refine ⟨found, hfound, ?_⟩
  -- of the text, the induction needs only that its selectors are shorter
  have hselector : ∀ selector, .bracket selector ∈ found → selector.length < cs.length :=
    fun _ => hfound.selector_length
  clear hfound
  induction hgs with
  | nil => exact .nil
  | @cons s g found gs hs hgs ih =>
    refine .cons (s.segment_mono (fun selector he => hreads.of_le ?_) hs) (ih fun selector hmem => ?_)
    · exact Nat.le_of_lt (hselector selector (by simp [he]))
    · exact hselector selector (List.mem_cons_of_mem s hmem)

/-! ## Routes -/

/-- The route that a text without blanks around it writes. -/
inductive IsRoute [Regex.Compiler] (routeOf : RouteReader) : List Char → Route → Prop where
  | document {cs : List Char} {gs : List Segment} (h : AreSegments routeOf cs gs) :
      IsRoute routeOf ('$' :: cs) (.document, gs)
  | current {cs : List Char} {gs : List Segment} (h : AreSegments routeOf cs gs) :
      IsRoute routeOf ('@' :: cs) (.current, gs)
  | named {name cs : List Char} {gs : List Segment} (hne : name ≠ [])
      (hdollar : name.head? ≠ some '$') (hat : name.head? ≠ some '@')
      (hname : ∀ c ∈ name, isNamePart c = true) (hends : EndsName cs)
      (h : AreSegments routeOf cs gs) :
      IsRoute routeOf (name ++ cs) (.document, .child (String.ofList name) :: gs)

/-- After the sign of a root stand segments. -/
theorem IsRoute.of_sign [Regex.Compiler] {c : Char} {r : Route} (h : IsRoute routeOf (c :: cs) r)
    (hc : c = '@' ∨ c = '$') :
    r.1 = (if c = '$' then .document else .current) ∧ AreSegments routeOf cs r.2 := by
  generalize hds : c :: cs = ds at h
  cases h with
  | document h =>
    cases hds
    exact ⟨rfl, h⟩
  | current h =>
    cases hds
    exact ⟨rfl, h⟩
  | named hne hdollar hat =>
    obtain ⟨d, name, rfl⟩ := List.exists_cons_of_ne_nil hne
    obtain ⟨rfl, -⟩ := List.cons.inj hds
    rcases hc with rfl | rfl
    · exact absurd rfl hat
    · exact absurd rfl hdollar

theorem routeOfTrimmed_eq_ok_iff [Regex.Compiler] {r : Route} :
    routeOfTrimmed routeOf cs = .ok r ↔ IsRoute routeOf cs r := by
  constructor
  · intro h
    unfold routeOfTrimmed at h
    split at h
    · cases h
    · obtain ⟨gs, hgs, h⟩ := bind_eq_ok_iff.1 h
      cases h
      exact .document (segmentsOf_eq_ok_iff.1 hgs)
    · obtain ⟨gs, hgs, h⟩ := bind_eq_ok_iff.1 h
      cases h
      exact .current (segmentsOf_eq_ok_iff.1 hgs)
    · next cs c rest hdollar hat =>
      simp only at h
      split at h
      · cases h
      · next hname =>
        obtain ⟨gs, hgs, h⟩ := bind_eq_ok_iff.1 h
        cases h
        -- the name is not empty, so it starts as the text does: with no sign of a root
        have hhead : ∀ d, ((c :: rest).takeWhile isNamePart).head? = some d → c = d := by
          intro d hd
          obtain ⟨more, hmore⟩ := List.head?_eq_some_iff.1 hd
          have happend := List.takeWhile_append_dropWhile (p := isNamePart) (l := c :: rest)
          rw [hmore] at happend
          exact (List.cons.inj happend).1.symm
        have hroute := IsRoute.named (mt List.isEmpty_iff.2 hname) (fun hd => hdollar (hhead _ hd))
          (fun hd => hat (hhead _ hd)) (List.all_eq_true.1 List.all_takeWhile)
          (endsName_dropWhile (c :: rest)) (segmentsOf_eq_ok_iff.1 hgs)
        rwa [List.takeWhile_append_dropWhile] at hroute
  · intro h
    unfold routeOfTrimmed
    cases h with
    | document h =>
      split
      · next he => cases he
      · next he =>
        cases he
        exact bind_eq_ok_iff.2 ⟨_, segmentsOf_eq_ok_iff.2 h, rfl⟩
      · next he => exact absurd (List.cons.inj he).1 (by decide)
      · next hdollar _ he => exact (hdollar (List.cons.inj he).1.symm).elim
    | current h =>
      split
      · next he => cases he
      · next he => exact absurd (List.cons.inj he).1 (by decide)
      · next he =>
        cases he
        exact bind_eq_ok_iff.2 ⟨_, segmentsOf_eq_ok_iff.2 h, rfl⟩
      · next hat he => exact (hat (List.cons.inj he).1.symm).elim
    | @named name cs gs hne hdollar hat hname hends h =>
      have hhead : ∀ c rest, name ++ cs = c :: rest → name.head? = some c := by
        intro c rest he
        obtain ⟨d, name, rfl⟩ := List.exists_cons_of_ne_nil hne
        rw [(List.cons.inj he).1, List.head?_cons]
      split
      · next he => exact absurd (List.append_eq_nil_iff.1 he).1 hne
      · next he => exact absurd (hhead _ _ he) hdollar
      · next he => exact absurd (hhead _ _ he) hat
      · next he =>
        simp only [takeWhile_name hname hends, dropWhile_name hname hends]
        rw [if_neg (mt List.isEmpty_iff.1 hne)]
        exact bind_eq_ok_iff.2 ⟨gs, segmentsOf_eq_ok_iff.2 h, rfl⟩

theorem IsRoute.mono [Regex.Compiler] {r : Route} (hreads : Extends cs.length routeOf routeOf')
    (h : IsRoute routeOf cs r) : IsRoute routeOf' cs r := by
  cases h with
  | document h => exact .document (h.mono (hreads.of_le (by simp)))
  | current h => exact .current (h.mono (hreads.of_le (by simp)))
  | named hne hdollar hat hname hends h =>
    exact .named hne hdollar hat hname hends (h.mono (hreads.of_le (by simp)))

/-- A text that is read with some bound on the nesting is read in the same way with every bound
above its length. -/
theorem routeWithin_mono [Regex.Compiler] {n m : Nat} {r : Route} (hlt : cs.length < m)
    (h : routeWithin n cs = .ok r) : routeWithin m cs = .ok r := by
  induction m generalizing n cs r with
  | zero => cases hlt
  | succ m ih =>
    cases n with
    | zero => cases h
    | succ n =>
      -- the texts inside are shorter than this one, and so shorter than the bound left for them
      refine routeOfTrimmed_eq_ok_iff.2 (IsRoute.mono ?_ (routeOfTrimmed_eq_ok_iff.1 h))
      intro text ht r hr
      have hle := Text.trim_length_le cs
      exact ih (by omega) hr

theorem extends_routeWithin [Regex.Compiler] {n : Nat} : Extends n (routeWithin n) route :=
  fun _ _ _ h => routeWithin_mono (Nat.lt_succ_self _) h

theorem extends_route [Regex.Compiler] {n : Nat} : Extends n route (routeWithin n) :=
  fun _ ht _ h => routeWithin_mono ht h

theorem route_eq_ok_iff [Regex.Compiler] {r : Route} :
    route cs = .ok r ↔ IsRoute route (Text.trim cs) r := by
  have hle := Text.trim_length_le cs
  rw [route, routeWithin, routeOfTrimmed_eq_ok_iff]
  exact ⟨IsRoute.mono (extends_routeWithin.of_le hle), IsRoute.mono (extends_route.of_le hle)⟩

theorem condition_eq_ok_iff [Regex.Compiler] {a : Condition} :
    condition cs = .ok a ↔
      ∃ ts, AreTokens cs ts ∧ Derives (RouteReader.routes route) .disjunction ts a := by
  rw [condition, ← conditionOfText_eq_ok_iff]
  exact ⟨conditionOfText_mono extends_routeWithin, conditionOfText_mono extends_route⟩

end Mooring.Path

namespace Mooring

/-- A text is read as a filter just if it is cut into tokens from which the grammar derives a
condition, and that condition is the filter's. The paths among the tokens are those that `route`
reads. -/
theorem Filter.read_iff_derives [Regex.Compiler] {source : String} {f : Filter} :
    Filter.read source = .ok f ↔
      f.source = source ∧ ∃ ts, Path.tokens source.toList.length source.toList = .ok ts ∧
        Path.Derives (fun text r => Path.route text = .ok r) .disjunction ts f.condition := by
  simp only [Path.tokens_eq_ok_iff]
  constructor
  · intro h
    obtain ⟨a, ha, hf⟩ := bind_eq_ok_iff.1 h
    cases hf
    exact ⟨rfl, Path.condition_eq_ok_iff.1 ha⟩
  · rintro ⟨rfl, hts⟩
    exact bind_eq_ok_iff.2 ⟨f.condition, Path.condition_eq_ok_iff.2 hts, rfl⟩

end Mooring

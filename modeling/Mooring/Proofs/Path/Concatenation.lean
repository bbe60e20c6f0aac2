import Mooring.Proofs.Path.Nesting
import Mooring.Proofs.Path.Relative
import Mooring.Proofs.Text.Blank

set_option autoImplicit false

/-!
# Joined paths

Steps after the text of a path are steps of the joined path: no step reaches across the seam, since
a step that goes on needs a character of a name and further steps start with none. So a path and
steps after it select what the steps select from each node of the path.
-/

namespace Mooring

namespace Path

variable {cs ds : List Char}

theorem IsRoute.ne_nil [Regex.Compiler] {routeOf : RouteReader} {r : Route}
    (h : IsRoute routeOf cs r) : cs ≠ [] := by
  cases h with
  | named hne => simp [hne]
  | _ => exact List.cons_ne_nil _ _

theorem IsRoute.append [Regex.Compiler] {routeOf : RouteReader} {root : Root} {gs hs : List Segment}
    (hc : IsRoute routeOf cs (root, gs)) (hends : EndsName ds) (hd : AreSegments routeOf ds hs) :
    IsRoute routeOf (cs ++ ds) (root, gs ++ hs) := by
  cases hc with
  | document h => exact .document (h.append hends hd)
  | current h => exact .current (h.append hends hd)
  | named hne hdollar hat hname hrest h =>
    rw [List.append_assoc]
    exact .named hne hdollar hat hname (hrest.append hends) (h.append hends hd)

theorem read_eq_ok_iff [Regex.Compiler] {source : String} {p : Path} :
    read source = .ok p ↔
      p.source = source ∧ IsRoute route (Text.trim source.toList) (p.root, p.segments) := by
  rw [← route_eq_ok_iff]
  constructor
  · intro h
    obtain ⟨r, hr, hp⟩ := bind_eq_ok_iff.1 h
    cases hp
    exact ⟨rfl, hr⟩
  · rintro ⟨rfl, hr⟩
    exact bind_eq_ok_iff.2 ⟨(p.root, p.segments), hr, rfl⟩

/-- A path and steps after it, all of whose filters are relative, select what the steps select from
each node of the path. -/
theorem exists_read_append [Regex.Compiler] {p s : String} {a b : Path} (ha : read p = .ok a)
    (hp : ∀ c, p.toList.getLast? = some c → Text.isBlank c = false)
    (hs : s.toList.head? = some '.' ∨ s.toList.head? = some '[') (hb : read ("$" ++ s) = .ok b)
    (hrelative : areRelative b.segments = true) :
    ∃ c, read (p ++ s) = .ok c ∧
      ∀ document, c.select document = (a.select document).flatMap b.select := by
  obtain ⟨-, hroute⟩ := read_eq_ok_iff.1 ha
  obtain ⟨-, hsteps⟩ := read_eq_ok_iff.1 hb
  obtain ⟨d, ds, hds, hblank, hname⟩ :
      ∃ d ds, s.toList = d :: ds ∧ Text.isBlank d = false ∧ isNamePart d = false := by
    rcases hs with hs | hs
    all_goals
      obtain ⟨ds, hds⟩ := List.head?_eq_some_iff.1 hs
      exact ⟨_, ds, hds, by decide, by decide⟩
  -- the text of the path is not empty and ends at the seam
  obtain ⟨cs, c, hcs⟩ : ∃ cs c, p.toList = cs ++ [c] := by
    refine (List.eq_nil_or_concat' p.toList).resolve_left fun hnil => ?_
    rw [hnil] at hroute
    exact hroute.ne_nil rfl
  have hc : Text.isBlank c = false := hp c (by simp [hcs])
  have hdollar : Text.trim ("$" ++ s).toList = '$' :: d :: Text.trimEnd ds := by
    rw [String.toList_append, hds]
    exact Text.trim_append [] (c := '$') (by decide) hblank
  rw [hdollar] at hsteps
  obtain ⟨-, hsegments⟩ := hsteps.of_sign (.inr rfl)
  rw [hcs] at hroute
  -- the first character of the steps is none of a name, so no name goes on across the seam
  have hjoined := hroute.append (endsName_cons hname) hsegments
  refine ⟨⟨p ++ s, a.root, a.segments ++ b.segments⟩, read_eq_ok_iff.2 ⟨rfl, ?_⟩, fun document => ?_⟩
  · rw [String.toList_append, hcs, hds, Text.trim_append cs hc hblank]
    exact hjoined
  · show selectFrom document (a.segments ++ b.segments) [a.root.start document document] = _
    rw [selectFrom_append, selectFrom_eq_flatMap hrelative]
    show (a.select document).flatMap _ = _
    refine congrArg (List.flatMap · _) (funext fun n => ?_)
    rw [Path.select, Root.start_self]

/-- The items with a member `b` of what the member `a` holds. -/
theorem exists_read_append_filter :
    ∃ a b c, read "$.a" = .ok a ∧ read "$[?(@.b)]" = .ok b ∧ read "$.a[?(@.b)]" = .ok c ∧
      ∀ document, c.select document = (a.select document).flatMap b.select := by
  have hchild : ∀ c : Char, c = 'a' ∨ c = 'b' →
      AreSegments route ['.', c] [.child (String.ofList [c])] := by
    rintro c hc
    apply areSegments_child
    all_goals rcases hc with rfl | rfl <;> decide
  have ha : read "$.a" = .ok ⟨"$.a", .document, [.child "a"]⟩ :=
    read_eq_ok_iff.2 ⟨rfl, .document (hchild 'a' (.inl rfl))⟩
  have hcondition : conditionOfText route ['@', '.', 'b'] = .ok (.selects .current [.child "b"]) :=
    conditionOfText_eq_ok_iff.2 ⟨[.path ['@', '.', 'b']], .token rfl (.path (.inl rfl)) .nil,
      .disjunct (.conjunct (.selects
        (route_eq_ok_iff.2 (.current (hchild 'b' (.inr rfl))))))⟩
  have hfilter : Step.segment route (.bracket ['?', '(', '@', '.', 'b', ')']) =
      .ok (.filter (.selects .current [.child "b"])) :=
    bind_eq_ok_iff.2 ⟨_, hcondition, rfl⟩
  have hb : read ("$" ++ "[?(@.b)]") =
      .ok ⟨"$[?(@.b)]", .document, [.filter (.selects .current [.child "b"])]⟩ :=
    read_eq_ok_iff.2 ⟨rfl, .document
      ⟨[.bracket ['?', '(', '@', '.', 'b', ')']], .bracket rfl .nil, .cons hfilter .nil⟩⟩
  have hlast : ∀ c, "$.a".toList.getLast? = some c → Text.isBlank c = false := by
    intro c hc
    obtain rfl : 'a' = c := Option.some.inj hc
    rfl
  obtain ⟨c, hc, hselect⟩ := exists_read_append ha hlast (.inr rfl) hb rfl
  exact ⟨_, _, c, ha, hb, hc, hselect⟩

end Path

end Mooring

import Mooring.Proofs.Path.Concatenation
import Mooring.Proofs.Path.Parenthesis

set_option autoImplicit false

/-!
# Filters in paths

A filter stands in a path as `$[?(filter)]`. The path is read just if the scan for the bracket that
closes passes over the filter, and it is then a path with that filter and nothing else: a scan that
ends early leaves the filter cut off before a closing parenthesis, where no filter is read. So a
filter in a path keeps what it keeps by itself, or its path is no path. What the scan may not pass
over is a regular expression with a quote or a bracket that is open.
-/

namespace Mooring

namespace Path

variable {cs body : List Char} {routeOf : RouteReader}

/-- The selector of a filter. -/
def filterSelector (body : List Char) : List Char :=
  '?' :: '(' :: (body ++ [')'])

theorem filterBody?_parenthesized (body : List Char) :
    filterBody? ('(' :: (body ++ [')'])) = some body := by
  have htrim : Text.trim ('(' :: (body ++ [')'])) = '(' :: (body ++ [')']) :=
    Text.trim_cons_concat body (by decide) (by decide)
  unfold filterBody?
  rw [htrim]
  simp

theorem filterBody?_spec (h : filterBody? cs = some body) :
    ∃ before after, cs = before ++ '(' :: (body ++ ')' :: after) ∧
      ∀ c ∈ before, Text.isBlank c = true := by
  obtain ⟨before, after, hcs, hbefore, -⟩ := Text.exists_eq_append_trim cs
  unfold filterBody? at h
  split at h
  · next rest htrim =>
    split at h
    · next hlast =>
      cases h
      obtain ⟨body, rfl⟩ := List.getLast?_eq_some_iff.1 hlast
      refine ⟨before, after, ?_, hbefore⟩
      rw [hcs, htrim]
      simp
    · cases h
  · cases h

theorem selectorSegment_filterSelector [Regex.Compiler] (body : List Char) :
    selectorSegment routeOf (filterSelector body) =
      (conditionOfText routeOf body).map Segment.filter := by
  unfold selectorSegment filterSelector
  split
  · next he => cases he
  · next he =>
    cases he
    rw [filterBody?_parenthesized]
    show (conditionOfText routeOf body >>= _) = _
    cases conditionOfText routeOf body <;> rfl
  · next hne => exact absurd rfl (hne _)

theorem exists_of_selectorSegment [Regex.Compiler] {g : Segment}
    (h : selectorSegment routeOf ('?' :: cs) = .ok g) :
    ∃ body a, filterBody? cs = some body ∧ conditionOfText routeOf body = .ok a ∧
      g = .filter a := by
  unfold selectorSegment at h
  split at h
  · next he => cases he
  · next he =>
    cases he
    split at h
    · next body hbody =>
      obtain ⟨a, ha, hg⟩ := bind_eq_ok_iff.1 h
      cases hg
      exact ⟨body, a, hbody, ha, rfl⟩
    · cases h
  · next hne => exact absurd rfl (hne _)

theorem conditionOfText_route_eq_ok_iff [Regex.Compiler] {a : Condition} :
    conditionOfText route cs = .ok a ↔ condition cs = .ok a := by
  rw [conditionOfText_eq_ok_iff, condition_eq_ok_iff]

/-! ## The bracket of a filter -/

theorem passes_filterSelector_iff (cs : List Char) : Passes (filterSelector cs) ↔ Passes cs := by
  rw [filterSelector, passes_cons_iff (by decide), passes_cons_iff (by decide),
    passes_concat_iff (by decide)]

theorem segment_filterSelector [Regex.Compiler] {a : Condition} (ha : condition cs = .ok a) :
    Step.segment route (.bracket (filterSelector cs)) = .ok (.filter a) := by
  have htrim : Text.trim (filterSelector cs) = filterSelector cs :=
    Text.trim_cons_concat ('(' :: cs) (by decide) (by decide)
  show selectorSegment route (Text.trim _) = _
  rw [htrim, selectorSegment_filterSelector, conditionOfText_route_eq_ok_iff.2 ha]
  rfl

theorem areSegments_of_passes [Regex.Compiler] {a : Condition} (ha : condition cs = .ok a)
    (hpasses : Passes cs) :
    AreSegments route ('[' :: (filterSelector cs ++ [']'])) [.filter a] := by
  have hselector : Passes (filterSelector cs) := (passes_filterSelector_iff cs).2 hpasses
  exact ⟨[.bracket (filterSelector cs)],
    .bracket (cutBracket_eq_some_iff.2 ⟨rfl, hselector⟩) .nil, .cons (segment_filterSelector ha) .nil⟩

/-- Where the scan cuts the brackets of a filter: after it, or in it. -/
theorem exists_of_filterSelector_append {selector rest : List Char}
    (h : filterSelector cs ++ [']'] = selector ++ ']' :: rest) :
    (selector = filterSelector cs ∧ rest = []) ∨
      ∃ front back, selector = '?' :: '(' :: front ∧ cs = front ++ ']' :: back := by
  obtain ⟨front, rfl⟩ : ∃ front, selector = '?' :: '(' :: front := by
    cases selector with
    | nil => simp [filterSelector] at h
    | cons c selector =>
      cases selector with
      | nil => simp [filterSelector] at h
      | cons d selector =>
        simp only [filterSelector, List.cons_append, List.cons.injEq] at h
        obtain ⟨rfl, rfl, -⟩ := h
        exact ⟨selector, rfl⟩
  -- the bracket that closes is the last character, or stands before the parenthesis
  have hcs : cs ++ [')', ']'] = front ++ ']' :: rest := by simpa [filterSelector] using h
  rcases List.append_eq_append_iff.1 hcs with ⟨between, rfl, hend⟩ | ⟨between, rfl, hend⟩
  · left
    cases between with
    | nil => exact absurd (List.cons.inj hend).1 (by decide)
    | cons c between =>
      obtain ⟨rfl, hend⟩ := List.cons.inj hend
      cases between with
      | nil => exact ⟨rfl, by simpa using hend⟩
      | cons d between => simp at hend
  · right
    cases between with
    | nil => exact absurd (List.cons.inj hend).1 (by decide)
    | cons c between =>
      obtain ⟨rfl, -⟩ := List.cons.inj hend
      exact ⟨front, between, rfl, rfl⟩

/-- No filter goes on after a part of it that a filter selector could end with. -/
theorem not_selectorSegment [Regex.Compiler] {a : Condition} {front back : List Char} {g : Segment}
    (ha : condition (front ++ ']' :: back) = .ok a)
    (h : selectorSegment route (Text.trim ('?' :: '(' :: front)) = .ok g) : False := by
  rw [Text.trim, Text.trimStart_cons (by decide), Text.trimEnd_cons (by decide),
    Text.trimEnd_cons (by decide)] at h
  obtain ⟨body, b, hbody, hb, -⟩ := exists_of_selectorSegment h
  obtain ⟨before, after, hsplit, hbefore⟩ := filterBody?_spec hbody
  -- nothing stands before the parenthesis that opens, so the body starts where the filter does
  obtain rfl : before = [] := by
    cases before with
    | nil => rfl
    | cons c before =>
      obtain ⟨rfl, -⟩ := List.cons.inj hsplit
      exact absurd (hbefore _ List.mem_cons_self) (by decide)
  obtain ⟨blanks, hfront, -⟩ := Text.exists_eq_trimEnd_append front
  rw [hfront, (List.cons.inj hsplit).2, List.append_assoc, List.append_assoc] at ha
  exact not_condition_append (conditionOfText_route_eq_ok_iff.1 hb) ha

theorem passes_of_areSegments [Regex.Compiler] {a : Condition} (ha : condition cs = .ok a)
    {gs : List Segment} (h : AreSegments route ('[' :: (filterSelector cs ++ [']'])) gs) :
    Passes cs ∧ gs = [.filter a] := by
  obtain ⟨found, hfound, hgs⟩ := h
  cases hfound with
  | @bracket _ selector rest more hcut hmore =>
    obtain ⟨hsplit, hselector⟩ := cutBracket_eq_some_iff.1 hcut
    obtain ⟨g, gs', hg, hgs', rfl⟩ := List.forall₂_cons_left_iff.1 hgs
    rcases exists_of_filterSelector_append hsplit with ⟨rfl, rfl⟩ | ⟨front, back, rfl, rfl⟩
    · have hpasses : Passes cs := (passes_filterSelector_iff cs).1 hselector
      cases hmore
      cases hgs'
      rw [segment_filterSelector ha] at hg
      cases hg
      exact ⟨hpasses, rfl⟩
    · -- a bracket that closes in the filter leaves a selector that is none
      exact (not_selectorSegment ha hg).elim

/-! ## The path of a filter -/

/-- The text of the path that applies a filter to the document. -/
def embedded (source : String) : String :=
  "$[?(" ++ source ++ ")]"

theorem read_embedded_iff [Regex.Compiler] {source : String} {a : Condition}
    (ha : condition source.toList = .ok a) {p : Path} :
    read (embedded source) = .ok p ↔
      Passes source.toList ∧ p = ⟨embedded source, .document, [.filter a]⟩ := by
  have htoList : (embedded source).toList =
      '$' :: '[' :: (filterSelector source.toList ++ [']']) := by
    simp [embedded, filterSelector]
  have htrim : Text.trim (embedded source).toList =
      '$' :: '[' :: (filterSelector source.toList ++ [']']) := by
    rw [htoList]
    exact Text.trim_cons_concat ('[' :: filterSelector source.toList) (by decide) (by decide)
  rw [read_eq_ok_iff, htrim]
  constructor
  · rintro ⟨hsource, hroute⟩
    obtain ⟨hroot, hsegments⟩ := hroute.of_sign (.inr rfl)
    obtain ⟨hpasses, hgs⟩ := passes_of_areSegments ha hsegments
    obtain ⟨psource, root, gs⟩ := p
    obtain rfl : root = .document := hroot
    cases hsource
    cases hgs
    exact ⟨hpasses, rfl⟩
  · rintro ⟨hpasses, rfl⟩
    exact ⟨rfl, .document (areSegments_of_passes ha hpasses)⟩

/-- A relative filter as the only segment keeps the items that satisfy it as documents. -/
theorem select_filter {a : Condition} (h : a.isRelative = true) (source : String)
    (items : List Json) :
    Path.select ⟨source, .document, [.filter a]⟩ (.arr items) =
      items.filter fun item => a.holds item item := by
  show selectFrom (.arr items) [.filter a] [.arr items] = _
  rw [selectFrom, selectFrom, List.flatMap_singleton, Segment.find]
  exact List.filter_congr fun item _ => a.holds_of_isRelative _ _ h item

end Path

/-- A relative filter in the brackets of a path keeps what it keeps by itself just if the bracket
around it closes after it; otherwise the path is not read at all. The bracket closes after it if
one around the pattern of each of its regular expressions would. -/
theorem Filter.read_in_path [Regex.Compiler] {source : String} {f : Filter}
    (hf : Filter.read source = .ok f) (hrelative : f.condition.isRelative = true) :
    ((∃ p, Path.read (Path.embedded source) = .ok p ∧
        ∀ items, p.select (.arr items) = f.retain items) ↔ Path.FillsBracket source.toList) ∧
      (∀ p, Path.read (Path.embedded source) = .ok p →
        ∀ items, p.select (.arr items) = f.retain items) ∧
      ∀ ts, Path.tokens source.toList.length source.toList = .ok ts →
        (∀ pattern, .regex pattern ∈ ts → Path.FillsBracket pattern.toList) →
          Path.FillsBracket source.toList := by
  obtain ⟨a, ha, hfilter⟩ := bind_eq_ok_iff.1 hf
  cases hfilter
  have hselect : ∀ p, Path.read (Path.embedded source) = .ok p →
      ∀ items, p.select (.arr items) = Filter.retain ⟨source, a⟩ items := by
    intro p hp items
    obtain ⟨-, rfl⟩ := (Path.read_embedded_iff ha).1 hp
    exact Path.select_filter hrelative _ items
  simp only [Path.fillsBracket_iff]
  refine ⟨⟨?_, fun hpasses => ?_⟩, hselect, fun ts hts hregexes => ?_⟩
  · rintro ⟨p, hp, -⟩
    exact ((Path.read_embedded_iff ha).1 hp).1
  · have hread := (Path.read_embedded_iff ha).2 ⟨hpasses, rfl⟩
    exact ⟨_, hread, hselect _ hread⟩
  · exact Path.passes_of_condition ha ((Path.tokens_eq_ok_iff _).1 hts) hregexes

/-- The filter that matches a member with a pattern. -/
theorem Filter.exists_read_matching [Regex.Compiler] (source pattern : String)
    (hsource : source.toList =
      ['@', '.', 'a', ' ', '=', '~', ' ', '/'] ++ (pattern.toList ++ ['/']))
    (hcut : Path.cutRegex (pattern.toList ++ ['/']) = some (pattern.toList, []))
    (hread : (Regex.Compiler.compile? pattern).isSome = true) :
    ∃ f, Filter.read source = .ok f ∧ f.condition.isRelative = true := by
  obtain ⟨r, hr⟩ := Option.isSome_iff_exists.1 hread
  have hroute : Path.route ['@', '.', 'a'] = .ok (.current, [.child "a"]) :=
    Path.route_eq_ok_iff.2
      (.current (Path.areSegments_child (by decide) (by decide) (by decide)))
  have htokens : Path.AreTokens source.toList
      [.path ['@', '.', 'a'], .op .like, .regex (String.ofList pattern.toList)] := by
    rw [hsource]
    refine .token rfl (.path (.inl rfl)) (.blank rfl ?_)
    refine .token rfl (.punctuation (n := 2) (by simp [Path.startsCut, Path.isQuote]) rfl) ?_
    exact .blank rfl (.token rfl (.regex hcut rfl) .nil)
  rw [String.ofList_toList] at htokens
  have hleft : Path.IsOperand (Path.RouteReader.routes Path.route) [.path ['@', '.', 'a']] _ :=
    .path hroute
  have hcondition := Path.condition_eq_ok_iff.2 ⟨_, htokens,
    .disjunct (.conjunct (.compare hleft (.regex hr)))⟩
  exact ⟨⟨source, _⟩, bind_eq_ok_iff.2 ⟨_, hcondition, rfl⟩, rfl⟩

/-- A class of characters is no obstacle. -/
theorem Filter.read_in_path_class :
    ∃ f p, Filter.read "@.a =~ /[a-z]+/" = .ok f ∧
      Path.read (Path.embedded "@.a =~ /[a-z]+/") = .ok p ∧
        ∀ items, p.select (.arr items) = f.retain items := by
  obtain ⟨f, hf, hrelative⟩ := Filter.exists_read_matching "@.a =~ /[a-z]+/" "[a-z]+"
    (by decide) (by decide) (by decide +kernel)
  obtain ⟨p, hp, hselect⟩ := (Filter.read_in_path hf hrelative).1.2
    (Path.fillsBracket_iff.2 (by decide))
  exact ⟨f, p, hf, hp, hselect⟩

/-- A quote in a regular expression is one: a filter that is read by itself is not always read in
the brackets of a path. -/
theorem Filter.not_read_in_path :
    ¬ ∀ (source : String) (f : Filter), Filter.read source = .ok f →
      f.condition.isRelative = true → ∃ p, Path.read (Path.embedded source) = .ok p ∧
        ∀ items, p.select (.arr items) = f.retain items := by
  intro h
  obtain ⟨f, hf, hrelative⟩ := Filter.exists_read_matching "@.a =~ /it's/" "it's"
    (by decide) (by decide) (by decide +kernel)
  obtain ⟨p, hp, -⟩ := h _ f hf hrelative
  obtain ⟨a, ha, -⟩ := bind_eq_ok_iff.1 hf
  exact absurd ((Path.read_embedded_iff ha).1 hp).1 (by decide)

end Mooring

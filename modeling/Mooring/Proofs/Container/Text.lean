import Mooring.Container.Document

set_option autoImplicit false

/-!
# The history in the text of a record

The history is the last member of the document of a record, so that the text of the record ends with
it. A text therefore tells whether the history is empty, whatever else the record holds.
-/

namespace Mooring

namespace Json

/-! ## Where a text ends -/

theorem exists_intercalate_concat (sep : String) (lines : List String) (last : String) :
    ∃ front, sep.intercalate (lines ++ [last]) = front ++ last := by
  by_cases hlines : lines = []
  · rw [hlines]
    exact ⟨"", by simp⟩
  · refine ⟨sep.intercalate lines ++ sep, ?_⟩
    rw [String.intercalate_append_of_ne_nil hlines (List.cons_ne_nil _ _),
      String.intercalate_singleton]

/-- Lines between brackets end with the last of them. -/
theorem exists_bracketed_concat (start stop indent : String) (lines : List String)
    (last : String) : ∃ front,
      bracketed start stop indent (lines ++ [last]) = front ++ last ++ "\n" ++ indent ++ stop := by
  obtain ⟨front, hfront⟩ := exists_intercalate_concat ",\n"
    (lines.map fun line => indent ++ "  " ++ line) (indent ++ "  " ++ last)
  refine ⟨start ++ "\n" ++ front ++ indent ++ "  ", ?_⟩
  unfold bracketed
  rw [if_neg (by simp), List.map_append, List.map_singleton, hfront]
  simp only [String.append_assoc]

theorem prettyMembers_append (indent : String) (front back : List (String × Json)) :
    prettyMembers indent (front ++ back) =
      prettyMembers indent front ++ prettyMembers indent back := by
  induction front with
  | nil => rfl
  | cons m front ih =>
    rw [List.cons_append, prettyMembers, ih, prettyMembers, List.cons_append]

/-- The text of an object ends with that of its last member. -/
theorem exists_pretty_obj_concat (members : List (String × Json)) (name : String) (v : Json) :
    ∃ front, (obj (members ++ [(name, v)])).pretty = front ++ prettyAt "  " v ++ "\n\x7d" := by
  have hlast : prettyMembers "  " [(name, v)] = [quote name ++ ": " ++ prettyAt "  " v] := rfl
  have htext : (obj (members ++ [(name, v)])).pretty =
      bracketed "\x7b" "\x7d" "" (prettyMembers "  " (members ++ [(name, v)])) := rfl
  obtain ⟨front, hfront⟩ := exists_bracketed_concat "\x7b" "\x7d" "" (prettyMembers "  " members)
    (quote name ++ ": " ++ prettyAt "  " v)
  refine ⟨front ++ (quote name ++ ": "), ?_⟩
  rw [htext, prettyMembers_append, hlast, hfront]
  simp only [String.append_assoc]
  rfl

/-- The text of an array that is not empty ends with a line of its own. -/
theorem exists_prettyAt_arr (indent : String) {items : List Json} (h : items ≠ []) :
    ∃ front, prettyAt indent (.arr items) = front ++ "\n" ++ indent ++ "]" := by
  have hlines : prettyItems (indent ++ "  ") items ≠ [] := by
    cases items with
    | nil => exact absurd rfl h
    | cons v items => exact List.cons_ne_nil _ _
  obtain ⟨lines, last, hconcat⟩ := (List.eq_nil_or_concat _).resolve_left hlines
  obtain ⟨front, hfront⟩ := exists_bracketed_concat "[" "]" indent lines last
  refine ⟨front ++ last, ?_⟩
  rw [prettyAt, hconcat, List.concat_eq_append, hfront]

end Json

namespace Container

theorem exists_text (c : Container) : ∃ front,
    c.text = front ++ Json.prettyAt "  " (Json.ofList HistoryEntry.toJson c.history) ++ "\n\x7d" := by
  obtain ⟨members, hmembers, hlast⟩ : ∃ members, c.toJson = .obj members ∧
      members = members.dropLast ++ [("history", Json.ofList HistoryEntry.toJson c.history)] :=
    ⟨_, rfl, rfl⟩
  unfold text
  rw [hmembers, hlast]
  exact Json.exists_pretty_obj_concat members.dropLast "history" _

/-- The text of a record tells whether its history is empty. -/
theorem history_eq_nil_of_text {c d : Container} (h : c.text = d.text) (hd : d.history = []) :
    c.history = [] := by
  cases hc : c.history with
  | nil => rfl
  | cons entry rest =>
    obtain ⟨front, hfront⟩ := c.exists_text
    obtain ⟨back, hback⟩ := d.exists_text
    have hnil : Json.prettyAt "  " (Json.ofList HistoryEntry.toJson []) = "[]" := rfl
    obtain ⟨lines, hlines⟩ :=
      Json.exists_prettyAt_arr "  " (List.cons_ne_nil entry.toJson (rest.map HistoryEntry.toJson))
    rw [hc, Json.ofList, List.map_cons, hlines] at hfront
    rw [hd, hnil] at hback
    rw [hfront, hback] at h
    -- one text ends with the bracket on a line of its own, the other with an empty array
    have hends := congrArg (fun s => s.toList.reverse) h
    simp at hends

end Container

end Mooring

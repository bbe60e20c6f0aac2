import Mooring.Path.Selection

set_option autoImplicit false

/-!
# Paths that start at the current item

Segments are relative when no path in their filters starts at the document. Relative segments find
the same in every document, so what they select from several nodes is what they select from each of
them as a document of its own (`selectFrom_eq_flatMap`).
-/

namespace Mooring.Path

/-! ## Relative segments -/

mutual

/-- Whether no path in the filter of a segment starts at the document. -/
def Segment.isRelative : Segment → Bool
  | .filter c => c.isRelative
  | .child _ | .descendant _ | .wildcard | .index _ => true
termination_by structural s => s

/-- Whether no path in the filters of segments starts at the document. -/
def areRelative : List Segment → Bool
  | [] => true
  | s :: rest => s.isRelative && areRelative rest
termination_by structural segments => segments

/-- Whether no path in a condition starts at the document, those in its filters included. -/
def Condition.isRelative : Condition → Bool
  | .or a b | .and a b => a.isRelative && b.isRelative
  | .not a => a.isRelative
  | .compare left _ right => left.isRelative && right.isRelative
  | .selects root segments => root == .current && areRelative segments
termination_by structural c => c

/-- Whether no path in an operand starts at the document, those in its filters included. -/
def Operand.isRelative : Operand → Bool
  | .path root segments => root == .current && areRelative segments
  | .literal _ | .regex _ => true
termination_by structural o => o

end

/-! ## The document plays no part -/

-- one induction over segments, conditions and operands, which hold each other
mutual

theorem Segment.find_of_isRelative (d e : Json) :
    (s : Segment) → s.isRelative = true → ∀ node, s.find d node = s.find e node
  | .filter c, h, .arr items => by
    simp only [Segment.find]
    exact List.filter_congr fun item _ => c.holds_of_isRelative d e h item
  | .filter c, h, .obj members => by
    simp only [Segment.find, c.holds_of_isRelative d e h]
  | .filter _, _, .null | .filter _, _, .bool _ | .filter _, _, .num _ | .filter _, _, .str _ => rfl
  | .child _, _, _ | .descendant _, _, _ => rfl
  | .wildcard, _, node | .index _, _, node => by cases node <;> rfl

theorem selectFrom_of_areRelative (d e : Json) :
    (segments : List Segment) → areRelative segments = true →
      ∀ nodes, selectFrom d segments nodes = selectFrom e segments nodes
  | [], _, _ => rfl
  | s :: rest, h, nodes => by
    simp only [areRelative, Bool.and_eq_true] at h
    simp only [selectFrom, s.find_of_isRelative d e h.1,
      selectFrom_of_areRelative d e rest h.2]

theorem Condition.holds_of_isRelative (d e : Json) :
    (c : Condition) → c.isRelative = true → ∀ item, c.holds item d = c.holds item e
  | .or a b, h, item => by
    simp only [Condition.isRelative, Bool.and_eq_true] at h
    simp only [Condition.holds, a.holds_of_isRelative d e h.1, b.holds_of_isRelative d e h.2]
  | .and a b, h, item => by
    simp only [Condition.isRelative, Bool.and_eq_true] at h
    simp only [Condition.holds, a.holds_of_isRelative d e h.1, b.holds_of_isRelative d e h.2]
  | .not a, h, item => by
    simp only [Condition.isRelative] at h
    simp only [Condition.holds, a.holds_of_isRelative d e h]
  | .compare left op right, h, item => by
    simp only [Condition.isRelative, Bool.and_eq_true] at h
    simp only [Condition.holds, left.value?_of_isRelative d e h.1,
      right.value?_of_isRelative d e h.2]
  | .selects root segments, h, item => by
    simp only [Condition.isRelative, Bool.and_eq_true, beq_iff_eq] at h
    obtain ⟨rfl, h⟩ := h
    simp only [Condition.holds, Root.start, selectFrom_of_areRelative d e segments h]

theorem Operand.value?_of_isRelative (d e : Json) :
    (o : Operand) → o.isRelative = true → ∀ item, o.value? item d = o.value? item e
  | .path root segments, h, item => by
    simp only [Operand.isRelative, Bool.and_eq_true, beq_iff_eq] at h
    obtain ⟨rfl, h⟩ := h
    simp only [Operand.value?, Root.start, selectFrom_of_areRelative d e segments h]
  | .literal _, _, _ => rfl
  | .regex _, _, _ => rfl

end

/-! ## Selecting from several nodes -/

/-- An item that is the document is the start of every path. -/
theorem Root.start_self (root : Root) (document : Json) :
    root.start document document = document := by
  cases root <;> rfl

/-- What segments select from nodes is what they select from one node after the other. -/
theorem selectFrom_flatMap (document : Json) (segments : List Segment) (nodes : List Json) :
    selectFrom document segments nodes =
      nodes.flatMap fun n => selectFrom document segments [n] := by
  induction segments generalizing nodes with
  | nil => simp [selectFrom]
  | cons s rest ih =>
    -- a segment already finds from one node after the other
    rw [selectFrom, ih, List.flatMap_assoc]
    refine congrArg (nodes.flatMap ·) (funext fun n => ?_)
    rw [selectFrom, ← ih, List.flatMap_singleton]

/-- Relative segments select from each node as from a document of its own. -/
theorem selectFrom_eq_flatMap {segments : List Segment} (h : areRelative segments = true)
    (document : Json) (nodes : List Json) :
    selectFrom document segments nodes = nodes.flatMap fun n => selectFrom n segments [n] := by
  rw [selectFrom_flatMap]
  exact congrArg (nodes.flatMap ·)
    (funext fun n => selectFrom_of_areRelative document n segments h [n])

end Mooring.Path

import Mathlib.Data.List.Forall2
import Mooring.Files.Tree

set_option autoImplicit false

/-!
# Trees that differ in texts alone

Two trees are related if the same places are taken in both, in the same order, by directories or by
files with related texts. No change of files tells such trees apart: it succeeds in both or in
neither, and leaves them related.
-/

namespace Mooring

/-- Whether two nodes are directories, or files with related texts. -/
inductive FileNode.Related (T : String → String → Prop) : FileNode → FileNode → Prop
  | file {text text' : String} (texts : T text text') : Related T (.file text) (.file text')
  | directory : Related T .directory .directory

theorem FileNode.Related.mono {T T' : String → String → Prop} {node node' : FileNode}
    (h : node.Related T node') (hT : ∀ text text', T text text' → T' text text') :
    node.Related T' node' := by
  cases h with
  | file texts => exact .file (hT _ _ texts)
  | directory => exact .directory

namespace FileTree

variable {T T' : String → String → Prop} {t t' : FileTree} {node node' : FileNode}

/-- Whether two trees have related nodes at the same places. -/
def Related (T : String → String → Prop) (t t' : FileTree) : Prop :=
  List.Forall₂ (fun n n' => n.1 = n'.1 ∧ n.2.Related T n'.2) t.nodes t'.nodes

/-- Whether a text is that of a file. -/
def Holds (t : FileTree) (text : String) : Prop :=
  ∃ place, (place, .file text) ∈ t.nodes

/-- A tree is related to itself if its texts are. -/
theorem Related.refl (h : ∀ text, t.Holds text → T text text) :
    t.Related T t := by
  refine List.forall₂_same.2 fun ⟨place, node⟩ hn => ⟨rfl, ?_⟩
  cases node with
  | file text => exact .file (h text ⟨place, hn⟩)
  | directory => exact .directory

theorem Related.mono (h : t.Related T t') (hT : ∀ text text', T text text' → T' text text') :
    t.Related T' t' :=
  List.Forall₂.imp (fun _ _ hn => ⟨hn.1, hn.2.mono hT⟩) h

/-- Every text of a tree is related to one of the other. -/
theorem Related.text (h : t.Related T t') {text : String} (htext : t.Holds text) :
    ∃ text', T text text' := by
  obtain ⟨place, hmem⟩ := htext
  obtain ⟨ns⟩ := t
  obtain ⟨ns'⟩ := t'
  change List.Forall₂ _ ns ns' at h
  induction h with
  | nil => cases hmem
  | @cons n n' rest rest' hn hrest ih =>
    obtain ⟨place', node'⟩ := n'
    rcases List.mem_cons.1 hmem with rfl | hmem
    · cases hn.2 with
      | file texts => exact ⟨_, texts⟩
    · exact ih hmem

/-! ## What stands where -/

theorem related_lookup {ns ns' : List (List String × FileNode)}
    (h : List.Forall₂ (fun n n' => n.1 = n'.1 ∧ n.2.Related T n'.2) ns ns')
    (place : List String) : Option.Rel (FileNode.Related T) (ns.lookup place) (ns'.lookup place) := by
  induction h with
  | nil => exact .none
  | @cons n n' rest rest' hn hrest ih =>
    obtain ⟨key, node⟩ := n
    obtain ⟨key', node'⟩ := n'
    obtain ⟨rfl, hnode⟩ := hn
    rw [List.lookup_cons, List.lookup_cons]
    cases place == key with
    | true => exact .some hnode
    | false => exact ih

theorem Related.at? (h : t.Related T t') (place : List String) :
    Option.Rel (FileNode.Related T) (t.at? place) (t'.at? place) := by
  unfold FileTree.at?
  split
  · exact .some .directory
  · exact related_lookup h place

/-- A directory stands in both trees or in neither. -/
theorem Related.at?_eq_directory (h : t.Related T t') (place : List String) :
    t.at? place = some .directory ↔ t'.at? place = some .directory := by
  have hat := h.at? place
  generalize t.at? place = o, t'.at? place = o' at hat ⊢
  cases hat with
  | none => rfl
  | some hnode => cases hnode <;> simp

/-! ## Changes -/

theorem Related.without (h : t.Related T t') (place : List String) :
    FileTree.Related T ⟨t.nodes.filter fun n => n.1 ≠ place⟩
      ⟨t'.nodes.filter fun n => n.1 ≠ place⟩ := by
  refine List.rel_filter (fun n n' hn => ?_) h
  dsimp only
  rw [hn.1]

theorem Related.put (h : t.Related T t') (place : List String) (hnode : node.Related T node') :
    (t.put place node).Related T (t'.put place node') :=
  List.rel_append (h.without place) (.cons ⟨rfl, hnode⟩ .nil)

theorem Related.write? (h : t.Related T t') (path : String) {text text' : String}
    (htext : T text text') :
    Option.Rel (FileTree.Related T) (t.write? path text) (t'.write? path text') := by
  unfold FileTree.write?
  simp only [ne_eq, h.at?_eq_directory]
  split
  · exact .some (h.put _ (.file htext))
  · exact .none

theorem Related.rename? (h : t.Related T t') (source target : String) :
    Option.Rel (FileTree.Related T) (t.rename? source target) (t'.rename? source target) := by
  unfold FileTree.rename?
  simp only [ne_eq, h.at?_eq_directory]
  have hat := h.at? (Files.parts source)
  generalize t.at? (Files.parts source) = o, t'.at? (Files.parts source) = o' at hat ⊢
  cases hat with
  | none => exact .none
  | some hnode =>
    cases hnode with
    | directory => exact .none
    | file texts =>
      dsimp only
      split
      · exact .some ((h.without _).put _ (.file texts))
      · exact .none

theorem Related.makeDirsFrom? (h : t.Related T t') (done names : List String) :
    Option.Rel (FileTree.Related T) (t.makeDirsFrom? done names) (t'.makeDirsFrom? done names) := by
  induction names generalizing t t' done with
  | nil => exact .some h
  | cons name rest ih =>
    unfold FileTree.makeDirsFrom?
    dsimp only
    have hat := h.at? (done ++ [name])
    generalize t.at? (done ++ [name]) = o, t'.at? (done ++ [name]) = o' at hat ⊢
    cases hat with
    | none => exact ih (h.put _ .directory) _
    | some hnode =>
      cases hnode with
      | directory => exact ih h _
      | file texts => exact .none

theorem Related.makeDirs? (h : t.Related T t') (path : String) :
    Option.Rel (FileTree.Related T) (t.makeDirs? path) (t'.makeDirs? path) :=
  h.makeDirsFrom? [] _

end FileTree

end Mooring

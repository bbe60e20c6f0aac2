import Mathlib.Data.List.Forall2
import Mooring.Resolution.HostPath

set_option autoImplicit false

/-!
# Which resource a mount is bound to

A mount whose source is a site object takes the only resource of it, or the first of several with
the label that it selects (`IsChosen`), and is ambiguous where there is no such resource among
several (`IsAmbiguous`). Its host directory is that of the chosen resource, and depends on the
others by their number alone (`hostPath_of_offers`).
-/

namespace Mooring

/-! ## The resources of a document -/

/-- Whether a document is an object with a list of resources: one member of it has this name, and
the items of its array read as resources. -/
def HoldsResources (document : Json) (resources : List ResourceEntry) : Prop :=
  ∃ front items back, document = .obj (front ++ ("resources", .arr items) :: back) ∧
    (∀ member ∈ front ++ back, member.1 ≠ "resources") ∧
    List.Forall₂ (fun item r => ResourceEntry.ofJson? item = some r) items resources

namespace Record

theorem cellOf?_append_cons {front back : List (String × Json)} {name : String}
    (h : ∀ member ∈ front ++ back, member.1 ≠ name) (v : Json) :
    cellOf? (front ++ (name, v) :: back) name = some (some v) := by
  have hothers : ∀ members : List (String × Json), (∀ member ∈ members, member.1 ≠ name) →
      members.filter (fun member => member.1 == name) = [] := by
    intro members hmembers
    exact List.filter_eq_nil_iff.2 fun member hmember => by simpa using hmembers member hmember
  have hfront := hothers front fun member hmember => h member (List.mem_append_left _ hmember)
  have hback := hothers back fun member hmember => h member (List.mem_append_right _ hmember)
  unfold cellOf?
  rw [List.filter_append, hfront, List.filter_cons_of_pos (by simp), hback]
  rfl

end Record

theorem mapM_eq_some_of_forall₂ {α β : Type} {f : α → Option β} {xs : List α} {ys : List β}
    (h : List.Forall₂ (fun x y => f x = some y) xs ys) : xs.mapM f = some ys := by
  induction h with
  | nil => rfl
  | cons hx _ ih =>
    rw [List.mapM_cons, hx, ih]
    rfl

theorem resourcesOf?_of_holdsResources {document : Json} {resources : List ResourceEntry}
    (h : HoldsResources document resources) : resourcesOf? document = some resources := by
  obtain ⟨front, items, back, rfl, hothers, hitems⟩ := h
  have hrecord : Record.ofJson? ["resources"] (.obj (front ++ ("resources", .arr items) :: back)) =
      some ⟨false, [("resources", some (.arr items))]⟩ := by
    unfold Record.ofJson? Record.cellsOf?
    dsimp only
    rw [Record.cellOf?_append_cons hothers]
    rfl
  unfold resourcesOf?
  rw [hrecord]
  exact mapM_eq_some_of_forall₂ hitems

namespace Resolution

variable {mount : Command.Mount} {inputs inputs' : OrderedMap Resolved.Input} {source : String}
  {type : InputType} {resources resources' : List ResourceEntry} {r : ResourceEntry}
  {selector : Option String}

/-! ## The choice among resources -/

/-- Whether a resource is the one to take: the only one, or the first of several with the label that
is selected. -/
def IsChosen (selector : Option String) (resources : List ResourceEntry) (r : ResourceEntry) :
    Prop :=
  resources = [r] ∨
    2 ≤ resources.length ∧ ∃ label front back, selector = some label ∧
      resources = front ++ r :: back ∧ r.label = some label ∧ ∀ s ∈ front, s.label ≠ some label

/-- Whether there are several resources and none of them is selected: there is no selector, or no
resource has its label. -/
def IsAmbiguous (selector : Option String) (resources : List ResourceEntry) : Prop :=
  2 ≤ resources.length ∧ ∀ label, selector = some label → ∀ r ∈ resources, r.label ≠ some label

/-- What the search for a label finds is the first resource with it. -/
theorem find?_label_eq_some_iff :
    (resources.find? fun s => selector.isSome && s.label == selector) = some r ↔
      ∃ label front back, selector = some label ∧ resources = front ++ r :: back ∧
        r.label = some label ∧ ∀ s ∈ front, s.label ≠ some label := by
  rw [List.find?_eq_some_iff_append]
  cases selector with
  | none => simp
  | some label =>
    simp only [Option.isSome_some, Bool.true_and, beq_iff_eq, Bool.not_eq_true',
      beq_eq_false_iff_ne]
    constructor
    · rintro ⟨hlabel, front, back, hsplit, hfront⟩
      exact ⟨label, front, back, rfl, hsplit, hlabel, hfront⟩
    · rintro ⟨other, front, back, hother, hsplit, hlabel, hfront⟩
      obtain rfl := Option.some.inj hother
      exact ⟨hlabel, front, back, hsplit, hfront⟩

theorem find?_label_eq_none_iff :
    (resources.find? fun s => selector.isSome && s.label == selector) = none ↔
      ∀ label, selector = some label → ∀ r ∈ resources, r.label ≠ some label := by
  cases selector <;> simp

theorem chooseResource_of_several (h : 2 ≤ resources.length) :
    chooseResource mount source type resources =
      match resources.find? fun s => mount.resource.isSome && s.label == mount.resource with
      | some r => .ok r
      | none => .error (.ambiguousResource mount.name source mount.resource) := by
  match resources with
  | _ :: _ :: _ => rfl

/-- There is no resource, or one is chosen, or several are there and none is selected. -/
theorem chooseResource_cases (mount : Command.Mount) (source : String) (type : InputType)
    (resources : List ResourceEntry) :
    (resources = [] ∧ chooseResource mount source type resources =
      .error (.mount mount.name (.noResources source type))) ∨
    (∃ r, IsChosen mount.resource resources r ∧
      chooseResource mount source type resources = .ok r) ∨
    (IsAmbiguous mount.resource resources ∧ chooseResource mount source type resources =
      .error (.ambiguousResource mount.name source mount.resource)) := by
  match resources with
  | [] => exact .inl ⟨rfl, rfl⟩
  | [only] => exact .inr (.inl ⟨only, .inl rfl, rfl⟩)
  | first :: second :: rest =>
    right
    have hseveral : 2 ≤ (first :: second :: rest).length := by simp
    rw [chooseResource_of_several hseveral]
    cases hfind : (first :: second :: rest).find?
        fun s => mount.resource.isSome && s.label == mount.resource with
    | some r => exact .inl ⟨r, .inr ⟨hseveral, find?_label_eq_some_iff.1 hfind⟩, rfl⟩
    | none => exact .inr ⟨⟨hseveral, find?_label_eq_none_iff.1 hfind⟩, rfl⟩

theorem IsChosen.not_isAmbiguous (h : IsChosen selector resources r) :
    ¬ IsAmbiguous selector resources := by
  rintro ⟨hseveral, hnone⟩
  rcases h with rfl | ⟨-, label, front, back, hselector, rfl, hlabel, -⟩
  · simp at hseveral
  · exact hnone label hselector r (by simp) hlabel

theorem IsAmbiguous.ne_nil (h : IsAmbiguous selector resources) : resources ≠ [] := by
  rintro rfl
  exact absurd h.1 (by simp)

theorem chooseResource_of_isChosen (h : IsChosen mount.resource resources r) :
    chooseResource mount source type resources = .ok r := by
  rcases h with rfl | ⟨hseveral, hfirst⟩
  · rfl
  · rw [chooseResource_of_several hseveral, find?_label_eq_some_iff.2 hfirst]

/-! ## The host directory -/

/-- Whether the input of a name is a site object of a type, with a value that is an object with a
list of resources. -/
def Offers (inputs : OrderedMap Resolved.Input) (source : String) (type : InputType)
    (resources : List ResourceEntry) : Prop :=
  type.isSiteObject = true ∧ ∃ input value document, inputs.get? source = some input ∧
    input.type = type ∧ input.value = some value ∧ Json.readAll? value = some document ∧
    HoldsResources document resources

/-- What the directory of a mount has to be, if its source offers some resources. -/
structure BindsChosen (mount : Command.Mount) (source : String) (type : InputType)
    (resources : List ResourceEntry) (outcome : Except ResolutionError String) : Prop where
  empty : resources = [] → outcome = .error (.mount mount.name (.noResources source type))
  directory : ∀ r d, IsChosen mount.resource resources r → r.directory = some d → outcome = .ok d
  noDirectory : ∀ r, IsChosen mount.resource resources r → r.directory = none →
    outcome = .error (.mount mount.name (.noDirectory r.label))
  chosen : ∀ d, outcome = .ok d → ∃ r, IsChosen mount.resource resources r ∧ r.directory = some d
  ambiguous : ∀ name input label, outcome = .error (.ambiguousResource name input label) ↔
    IsAmbiguous mount.resource resources ∧ name = mount.name ∧ input = source ∧
      label = mount.resource

theorem hostPath_eq (hsource : mount.sourceInput = some source)
    (h : Offers inputs source type resources) :
    hostPath mount inputs = chooseResource mount source type resources >>= directoryOf mount := by
  obtain ⟨htype, input, value, document, hinput, rfl, hvalue, hread, hholds⟩ := h
  have hresources : (Json.readAll? value >>= resourcesOf?) = some resources := by
    rw [hread]
    exact resourcesOf?_of_holdsResources hholds
  unfold hostPath
  simp only [hsource, hinput, hvalue]
  unfold directoryIn
  split
  · next hfile => simp [hfile, InputType.isSiteObject] at htype
  · next hresource => simp [hresource, InputType.isSiteObject] at htype
  · simp only [htype, if_true, hresources]

theorem directoryOf_eq_ok_iff {d : String} : directoryOf mount r = .ok d ↔ r.directory = some d := by
  unfold directoryOf
  cases r.directory <;> simp

theorem directoryOf_of_none (h : r.directory = none) :
    directoryOf mount r = .error (.mount mount.name (.noDirectory r.label)) := by
  unfold directoryOf
  rw [h]

theorem directoryOf_ne_ambiguous {name input : String} {label : Option String} :
    directoryOf mount r ≠ .error (.ambiguousResource name input label) := by
  cases hd : r.directory with
  | some d => simp [directoryOf_eq_ok_iff.2 hd]
  | none => simp [directoryOf_of_none hd]

theorem bindsChosen_choice (mount : Command.Mount) (source : String) (type : InputType)
    (resources : List ResourceEntry) :
    BindsChosen mount source type resources
      (chooseResource mount source type resources >>= directoryOf mount) where
  empty := by
    rintro rfl
    rfl
  directory r d hr hd := by
    rw [chooseResource_of_isChosen hr]
    exact directoryOf_eq_ok_iff.2 hd
  noDirectory r hr hd := by
    rw [chooseResource_of_isChosen hr]
    exact directoryOf_of_none hd
  chosen d hd := by
    rcases chooseResource_cases mount source type resources with
      ⟨-, hc⟩ | ⟨r, hr, hc⟩ | ⟨-, hc⟩
    · rw [hc] at hd
      cases hd
    · rw [hc] at hd
      exact ⟨r, hr, directoryOf_eq_ok_iff.1 hd⟩
    · rw [hc] at hd
      cases hd
  ambiguous name input label := by
    rcases chooseResource_cases mount source type resources with
      ⟨hempty, hc⟩ | ⟨r, hr, hc⟩ | ⟨hambiguous, hc⟩
    · rw [hc]
      exact iff_of_false nofun fun h => h.1.ne_nil hempty
    · rw [hc]
      exact iff_of_false directoryOf_ne_ambiguous fun h => hr.not_isAmbiguous h.1
    · rw [hc]
      constructor
      · intro h
        cases h
        exact ⟨hambiguous, rfl, rfl, rfl⟩
      · rintro ⟨-, rfl, rfl, rfl⟩
        rfl

/-- Lists of resources of one length, from which the same resource is chosen, are the same to a
mount. -/
theorem chooseResource_congr (hlength : resources'.length = resources.length)
    (hchosen : ∀ r, IsChosen mount.resource resources' r ↔ IsChosen mount.resource resources r) :
    chooseResource mount source type resources' = chooseResource mount source type resources := by
  rcases chooseResource_cases mount source type resources with
    ⟨rfl, hc⟩ | ⟨r, hr, hc⟩ | ⟨hambiguous, hc⟩
  · rw [List.eq_nil_of_length_eq_zero hlength]
  · rw [hc, chooseResource_of_isChosen ((hchosen r).2 hr)]
  · rcases chooseResource_cases mount source type resources' with
      ⟨rfl, -⟩ | ⟨r, hr, -⟩ | ⟨-, hc'⟩
    · exact absurd (List.eq_nil_of_length_eq_zero hlength.symm) hambiguous.ne_nil
    · exact absurd hambiguous ((hchosen r).1 hr).not_isAmbiguous
    · rw [hc, hc']

/-- A mount whose source is a site object with a list of resources fails if there are none of them,
and otherwise has the directory of the chosen one, if it has one, or is ambiguous. The outcome is
the same for any other resources, as many of them, from which the same is chosen. -/
theorem hostPath_of_offers (hsource : mount.sourceInput = some source)
    (h : Offers inputs source type resources) :
    BindsChosen mount source type resources (hostPath mount inputs) ∧
      ∀ inputs' resources', Offers inputs' source type resources' →
        resources'.length = resources.length →
        (∀ r, IsChosen mount.resource resources' r ↔ IsChosen mount.resource resources r) →
        hostPath mount inputs' = hostPath mount inputs := by
  constructor
  · rw [hostPath_eq hsource h]
    exact bindsChosen_choice mount source type resources
  · intro inputs' resources' h' hlength hchosen
    rw [hostPath_eq hsource h, hostPath_eq hsource h', chooseResource_congr hlength hchosen]

/-! ## Two resources, of which the second is selected -/

/-- A mount that selects one of the resources of a session. -/
def selecting : Command.Mount :=
  { name := "in", path := "/in", sourceInput := some "session", resource := some "DICOM" }

/-- The text of a session with two resources, of which the first has no label. -/
def twofoldText : String :=
  "\x7b\"id\": \"S1\", \"resources\": [\x7b\"directory\": \"/a\"\x7d, " ++
    "\x7b\"label\": \"DICOM\", \"directory\": \"/b\"\x7d]\x7d"

/-- The inputs of a command whose one input is that session. -/
def twofold : OrderedMap Resolved.Input :=
  .ofPairs [("session", { name := "session", type := .session, value := some twofoldText })]

theorem offers_twofold : Offers twofold "session" .session
    [⟨none, some "/a"⟩, ⟨some "DICOM", some "/b"⟩] := by
  let items : List Json :=
    [.obj [("directory", .str "/a")], .obj [("label", .str "DICOM"), ("directory", .str "/b")]]
  have hread : Json.readAll? twofoldText =
      some (.obj ([("id", .str "S1")] ++ ("resources", .arr items) :: [])) := by decide +kernel
  refine ⟨rfl, _, _, _, rfl, rfl, rfl, hread, _, items, [], rfl, by decide, ?_⟩
  exact .cons rfl (.cons rfl .nil)

theorem hostPath_of_offers_twofold :
    selecting.sourceInput = some "session" ∧
      Offers twofold "session" .session [⟨none, some "/a"⟩, ⟨some "DICOM", some "/b"⟩] ∧
      hostPath selecting twofold = .ok "/b" := by
  have hsource : selecting.sourceInput = some "session" := rfl
  have hbinds := (hostPath_of_offers hsource offers_twofold).1
  have hchosen : IsChosen selecting.resource
      [⟨none, some "/a"⟩, ⟨some "DICOM", some "/b"⟩] ⟨some "DICOM", some "/b"⟩ :=
    .inr ⟨by decide, "DICOM", [⟨none, some "/a"⟩], [], rfl, rfl, rfl, by decide⟩
  exact ⟨hsource, offers_twofold, hbinds.directory _ _ hchosen rfl⟩

end Resolution

end Mooring

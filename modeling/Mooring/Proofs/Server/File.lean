import Mooring.Proofs.Json.Record
import Mooring.Proofs.Json.RoundTrip
import Mooring.Proofs.Store.Directory
import Mooring.Proofs.Time.Rfc3339
import Mooring.Server.Basic

set_option autoImplicit false

/-!
# The configuration and its file

A server reads back from its file. A time of the last check that is noted is the one that is loaded
from then on, and one that cannot be noted, wherever that goes wrong, leaves the loaded server as it
was (`saveCheckTimeWith_cases`).
-/

namespace Mooring

/-! ## The document of a server -/

namespace PathMapping

theorem ofJson?_toJson (m : PathMapping) : ofJson? m.toJson = some m := by
  unfold ofJson? toJson
  rw [Record.ofJson?_of_nodup _ (by simp)]
  simp [Record.need_ofNames, List.lookup_cons]

end PathMapping

namespace Server

theorem fits_toJson (s : Server) : s.toJson.fits = true := by
  obtain ⟨name, host, certPath, swarmMode, lastEventCheck, mapping⟩ := s
  cases certPath <;> cases lastEventCheck <;> cases mapping <;> rfl

theorem ofJson?_toJson {s : Server} (h : ∀ t, s.lastEventCheck = some t → t.IsValid) :
    ofJson? s.toJson = some s := by
  have hcheck : Json.asOption? Instant.ofJson? (Json.ofOption Instant.toJson s.lastEventCheck) =
      some s.lastEventCheck :=
    Json.asOption?_ofOption nofun fun t ht => Instant.ofJson?_toJson (h t ht)
  have hmapping : Json.asOption? PathMapping.ofJson? (Json.ofOption PathMapping.toJson s.mapping) =
      some s.mapping := Json.asOption?_ofOption nofun fun m _ => PathMapping.ofJson?_toJson m
  unfold ofJson? toJson
  rw [Record.ofJson?_of_nodup _ (by simp)]
  simp [Record.orElse, Record.option, Record.cell?_ofNames, List.lookup_cons, Json.asOption?_texts,
    hcheck, hmapping]

/-- A server reads back from its text. -/
theorem read_pretty_toJson {s : Server} (h : ∀ t, s.lastEventCheck = some t → t.IsValid) :
    (Json.readAll? s.toJson.pretty).bind ofJson? = some s := by
  rw [Json.readAll?_pretty (fits_toJson s), Option.bind_some, ofJson?_toJson h]

/-! ## Loading -/

section Loading

open FileTree

variable {dir name : String} {files files' : FileTree} {s : Server}

/-- What is loaded depends on nothing but what stands in the place of the file. -/
theorem load_congr (hname : Files.IsName name)
    (h : files'.below? dir name = files.below? dir name) :
    load (Files.join dir name) files' = load (Files.join dir name) files := by
  unfold below? at h
  rw [← Files.parts_join dir hname] at h
  unfold load exists? read?
  rw [h]

theorem load_of_below? (hname : Files.IsName name)
    (hfile : files.below? dir name = some (.file s.toJson.pretty))
    (hcheck : ∀ t, s.lastEventCheck = some t → t.IsValid) :
    load (Files.join dir name) files = .ok (some s) := by
  have hexists : files.exists? (Files.join dir name) = true := by
    unfold exists?
    rw [Files.parts_join dir hname]
    exact congrArg Option.isSome hfile
  unfold load
  simp only [hexists, (read?_join hname).2 hfile, read_pretty_toJson hcheck]
  rfl

end Loading

/-! ## Saves that go wrong -/

section Saving

open FileTree Store

/-- The files after the draft of a configuration could not be written. -/
def tornDraft (path : String) (left : Option String) (files : FileTree) : FileTree :=
  match left with
  | some text => ((files.makeParents? path).bind fun t => t.write? (draftPath path) text).getD files
  | none => files

/-- Write a configuration, except that its draft cannot be moved. -/
def leaveDraft (path : String) (s : Server) (files : FileTree) :
    Except ServerError Unit × FileTree :=
  match files.makeParents? path with
  | none => (.error (.noDirectory (directoryOf path)), files)
  | some files =>
    match files.write? (draftPath path) s.toJson.pretty with
    | none => (.error (.unwritable (draftPath path)), files)
    | some files => (.error (.notMoved (draftPath path) path), files)

/-- Write a configuration while something goes wrong. -/
def saveWith (path : String) (fault : Fault) (s : Server) (files : FileTree) :
    Except ServerError Unit × FileTree :=
  match fault with
  | .none => save path s files
  | .write left => (.error (.unwritable (draftPath path)), tornDraft path left files)
  | .move => leaveDraft path s files

/-- Note the time of a check while something goes wrong. -/
def saveCheckTimeWith (path : String) (fault : Fault) (t : Instant) (files : FileTree) :
    Except ServerError Unit × FileTree :=
  match load path files with
  | .error e => (.error e, files)
  | .ok none => (.error .notConfigured, files)
  | .ok (some s) => saveWith path fault { s with lastEventCheck := some t } files

theorem saveCheckTimeWith_none (path : String) (t : Instant) (files : FileTree) :
    saveCheckTimeWith path .none t files = saveCheckTime path t files := by
  unfold saveCheckTimeWith saveCheckTime
  cases load path files with
  | error e => rfl
  | ok server =>
    cases server with
    | none => rfl
    | some s => rfl

variable {dir name : String} {files files' : FileTree} {s : Server} {fault : Fault}

/-- The name of the file that the configuration is written to first. -/
def draftName (name : String) : String :=
  name ++ ".tmp"

theorem isName_draftName (hname : Files.IsName name) : Files.IsName (draftName name) := by
  apply isName_of_length
  · simp [draftName]
  · simp [draftName, hname.slash]

theorem ne_draftName (name : String) : name ≠ draftName name := by
  intro h
  have hlength := congrArg (fun s => s.toList.length) h
  simp [draftName] at hlength

theorem draftPath_join (dir : String) (hname : Files.IsName name) :
    draftPath (Files.join dir name) = Files.join dir (draftName name) := by
  have hhead := Files.head?_of_isName hname
  have hhead' := Files.head?_of_isName (isName_draftName hname)
  unfold draftPath Files.join draftName at *
  simp only [hhead, hhead', false_or]
  split
  · rfl
  · split <;> simp only [String.append_assoc]

theorem makeParents?_join (files : FileTree) (dir : String) (hname : Files.IsName name) :
    files.makeParents? (Files.join dir name) = files.makeDirs? dir := by
  unfold makeParents? makeDirs?
  rw [Files.parts_join dir hname, List.dropLast_concat]

/-- Nothing has changed but the file of the configuration and its draft, if their directory was
there before. -/
def OnlyBeside (dir name : String) (files files' : FileTree) : Prop :=
  files.Stands dir → ∀ place, place ≠ Files.parts dir ++ [name] →
    place ≠ Files.parts dir ++ [draftName name] →
      files'.nodes.lookup place = files.nodes.lookup place

/-- The configuration is as it was, and so is all but its draft. -/
structure Spared (dir name : String) (files files' : FileTree) : Prop where
  file : files'.below? dir name = files.below? dir name
  beside : OnlyBeside dir name files files'

theorem Spared.refl (dir name : String) (files : FileTree) : Spared dir name files files :=
  ⟨rfl, fun _ _ _ _ => rfl⟩

section Made

variable {made : FileTree}

theorem spared_made (hmade : files.makeDirs? dir = some made) : Spared dir name files made := by
  refine ⟨below?_makeDirs? hmade name, fun hdir place _ _ => ?_⟩
  obtain rfl : files = made := Option.some.inj (hdir.makeDirs?.symm.trans hmade)
  rfl

theorem spared_put (hname : Files.IsName name) (hmade : files.makeDirs? dir = some made)
    (node : FileNode) :
    Spared dir name files (made.put (Files.parts dir ++ [draftName name]) node) := by
  have hspared : Spared dir name files made := spared_made hmade
  constructor
  · rw [below?_put (isName_draftName hname) (ne_draftName name), hspared.file]
  · intro hdir place hne hdraft
    rw [lookup_put, if_neg hdraft]
    exact hspared.beside hdir place hne hdraft

theorem write?_draft (hname : Files.IsName name) (hmade : files.makeDirs? dir = some made)
    (text : String) :
    made.write? (draftPath (Files.join dir name)) text =
      if made.below? dir (draftName name) = some .directory then none
      else some (made.put (Files.parts dir ++ [draftName name]) (.file text)) := by
  rw [draftPath_join dir hname]
  exact write?_join (isName_draftName hname) (stands_of_makeDirs? hmade).at? text

theorem rename?_draft (hname : Files.IsName name) (hmade : files.makeDirs? dir = some made)
    (text : String) :
    (made.put (Files.parts dir ++ [draftName name]) (.file text)).rename?
        (draftPath (Files.join dir name)) (Files.join dir name) =
      if made.below? dir name = some .directory then none
      else some (replaced dir (draftName name) name text made) := by
  rw [draftPath_join dir hname]
  exact rename?_put (isName_draftName hname) hname (ne_draftName name)
    (stands_of_makeDirs? hmade) text

end Made

theorem spared_tornDraft (hname : Files.IsName name) (left : Option String) :
    Spared dir name files (tornDraft (Files.join dir name) left files) := by
  cases left with
  | none => exact .refl ..
  | some text =>
    unfold tornDraft
    simp only [makeParents?_join files dir hname]
    cases hmade : files.makeDirs? dir with
    | none => exact .refl ..
    | some made =>
      rw [Option.bind_some, write?_draft hname hmade]
      split
      · exact .refl ..
      · exact spared_put hname hmade _

theorem spared_leaveDraft (hname : Files.IsName name) :
    ∃ e files', leaveDraft (Files.join dir name) s files = (.error e, files') ∧
      Spared dir name files files' := by
  unfold leaveDraft
  simp only [makeParents?_join files dir hname]
  cases hmade : files.makeDirs? dir with
  | none => exact ⟨_, _, rfl, .refl ..⟩
  | some made =>
    simp only [write?_draft hname hmade]
    by_cases hdirectory : made.below? dir (draftName name) = some .directory
    · simp only [if_pos hdirectory]
      exact ⟨_, _, rfl, spared_made hmade⟩
    · simp only [if_neg hdirectory]
      exact ⟨_, _, rfl, spared_put hname hmade _⟩

theorem save_cases (hname : Files.IsName name) :
    (∃ files', save (Files.join dir name) s files = (.ok (), files') ∧
      files'.below? dir name = some (.file s.toJson.pretty) ∧ OnlyBeside dir name files files') ∨
    (∃ e files', save (Files.join dir name) s files = (.error e, files') ∧
      Spared dir name files files') := by
  unfold save
  simp only [makeParents?_join files dir hname]
  cases hmade : files.makeDirs? dir with
  | none => exact .inr ⟨_, _, rfl, .refl ..⟩
  | some made =>
    simp only [write?_draft hname hmade]
    by_cases hdirectory : made.below? dir (draftName name) = some .directory
    · simp only [if_pos hdirectory]
      exact .inr ⟨_, _, rfl, spared_made hmade⟩
    · simp only [if_neg hdirectory, rename?_draft hname hmade]
      by_cases hfile : made.below? dir name = some .directory
      · simp only [if_pos hfile]
        exact .inr ⟨_, _, rfl, spared_put hname hmade _⟩
      · simp only [if_neg hfile]
        left
        refine ⟨_, rfl, ?_, ?_⟩
        · rw [below?_eq_lookup hname, lookup_replaced, if_pos rfl]
        · intro hdir place hne hdraft
          rw [lookup_replaced, if_neg hne, if_neg hdraft]
          have hspared : Spared dir name files made := spared_made hmade
          exact hspared.beside hdir place hne hdraft

/-- A save puts the configuration in its place, or fails and leaves it as it was. -/
theorem saveWith_cases (dir : String) (hname : Files.IsName name) (fault : Fault) (s : Server)
    (files : FileTree) :
    (∃ files', saveWith (Files.join dir name) fault s files = (.ok (), files') ∧
      files'.below? dir name = some (.file s.toJson.pretty) ∧ OnlyBeside dir name files files') ∨
    (∃ e files', saveWith (Files.join dir name) fault s files = (.error e, files') ∧
      Spared dir name files files') := by
  unfold saveWith
  cases fault with
  | none => exact save_cases hname
  | write left => exact .inr ⟨_, _, rfl, spared_tornDraft hname left⟩
  | move => exact .inr (spared_leaveDraft hname)

/-- The time of a check is noted and loaded from then on, or the loaded server is as it was. -/
theorem saveCheckTimeWith_cases (dir : String) (hname : Files.IsName name) (fault : Fault)
    {t : Instant} (ht : t.IsValid) (files : FileTree) :
    ∃ r files', saveCheckTimeWith (Files.join dir name) fault t files = (r, files') ∧
      OnlyBeside dir name files files' ∧
      ((∃ s, r = .ok () ∧ load (Files.join dir name) files = .ok (some s) ∧
        load (Files.join dir name) files' = .ok (some { s with lastEventCheck := some t })) ∨
      (∃ e, r = .error e ∧
        load (Files.join dir name) files' = load (Files.join dir name) files)) := by
  unfold saveCheckTimeWith
  cases hload : load (Files.join dir name) files with
  | error e => exact ⟨_, _, rfl, (Spared.refl ..).beside, .inr ⟨e, rfl, hload⟩⟩
  | ok server =>
    cases server with
    | none => exact ⟨_, _, rfl, (Spared.refl ..).beside, .inr ⟨_, rfl, hload⟩⟩
    | some s =>
      rcases saveWith_cases dir hname fault { s with lastEventCheck := some t } files with
        ⟨files', hr, hfile, hbeside⟩ | ⟨e, files', hr, hspared⟩
      · refine ⟨_, files', hr, hbeside, .inl ⟨s, rfl, rfl, load_of_below? hname hfile ?_⟩⟩
        rintro _ ⟨⟩
        exact ht
      · refine ⟨_, files', hr, hspared.beside, .inr ⟨e, rfl, ?_⟩⟩
        rw [load_congr hname hspared.file, hload]

end Saving

end Server

end Mooring

import Mooring.Proofs.Container.Ending
import Mooring.Proofs.Resolved.Document
import Mooring.Proofs.Store.Mirror
import Mooring.Proofs.Time.Rfc3339

set_option autoImplicit false

/-!
# Records and their documents

A record whose numbers are within the signed 64-bit range and whose times are times of the calendar
reads back from its text (`Container.readsBack_of_isRepresentable`). Whatever is read is such a
record (`Container.isRepresentable_of_ofText?`), and what the tracker does to one leaves it one.
-/

namespace Mooring

open Json

/-! ## Numbers that fit -/

namespace Json

variable {α : Type} {encode : α → Json}

theorem fits_ofList (h : ∀ x, (encode x).fits = true) (xs : List α) :
    (ofList encode xs).fits = true := by
  have hitems : fitsItems (xs.map encode) = true := by
    induction xs with
    | nil => rfl
    | cons x xs ih =>
      rw [List.map_cons, fitsItems, h, ih]
      rfl
  simp [ofList, fits, hitems]

theorem fits_ofOption {o : Option α} (h : ∀ a, o = some a → (encode a).fits = true) :
    (ofOption encode o).fits = true := by
  cases o with
  | none => rfl
  | some a => exact h a rfl

theorem fits_ofInt {n : Int} (h : IsInt64 n) : (ofInt n).fits = true := by
  have hupper : n < Int.pow 2 64 := Int.lt_trans h.2 (by decide)
  exact Bool.and_eq_true_iff.2 ⟨decide_eq_true h.1, decide_eq_true hupper⟩

theorem fits_text (o : Option String) : (ofOption .str o).fits = true :=
  fits_ofOption fun _ _ => rfl

theorem fits_ofStringMap (m : OrderedMap String) : (ofStringMap m).fits = true := by
  have hmembers : ∀ entries : List (String × String),
      fitsMembers (entries.map fun e => (e.1, Json.str e.2)) = true := by
    intro entries
    induction entries with
    | nil => rfl
    | cons e entries ih => exact ih
  simp [ofStringMap, fits, hmembers]

end Json

/-! ## Entries -/

namespace HistoryEntry

theorem ofJson?_toJson {e : HistoryEntry} (h : e.recorded.IsValid) : ofJson? e.toJson = some e := by
  have horigin : asNamed? Origin.names (.str e.origin.name) = some e.origin := by
    cases e.origin <;> rfl
  unfold ofJson? toJson
  rw [Record.ofJson?_of_nodup _ (by simp)]
  simp [Record.need, Record.optional, Record.cell?_ofNames, List.lookup_cons, asOption?_texts,
    horigin, Instant.ofJson?_toJson h]

theorem isValid_of_ofJson? {v : Json} {e : HistoryEntry} (h : ofJson? v = some e) :
    e.recorded.IsValid := by
  unfold ofJson? at h
  simp only [Option.bind_eq_bind, Option.bind_eq_some_iff] at h
  obtain ⟨r, -, _, -, _, -, _, -, recorded, hrecorded, _, -, _, -, _, -, h⟩ := h
  cases h
  obtain ⟨v, hv⟩ := Record.decode_of_need hrecorded
  exact Instant.isValid_of_ofJson? hv

end HistoryEntry

/-! ## Containers -/

namespace Container

/-- Whether the numbers and times of a record can be represented. -/
structure IsRepresentable (c : Container) : Prop where
  databaseId : IsInt64 c.databaseId
  commandId : IsInt64 c.commandId
  wrapperId : ∀ id, c.wrapperId = some id → IsInt64 id
  statusTime : c.statusTime.IsValid
  history : ∀ e ∈ c.history, e.recorded.IsValid

variable {c d : Container}

theorem ofJson?_toJson (h : c.IsRepresentable) : ofJson? c.toJson = some c.unmemoized := by
  have hwrapper : asOption? asInt64? (ofOption ofInt c.wrapperId) = some c.wrapperId :=
    asOption?_ofOption nofun fun id hid => asInt64?_ofInt (h.wrapperId id hid)
  have hmounts : asList? Resolved.Mount.ofJson? (ofList Resolved.Mount.toJson c.mounts) =
      some c.mounts := asList?_ofList fun m _ => Resolved.Mount.ofJson?_toJson m
  have hinputs : asList? Resolved.Input.ofJson? (ofList Resolved.Input.toJson c.inputs) =
      some c.inputs := asList?_ofList fun i _ => Resolved.Input.ofJson?_toJson i
  have houtputs : asList? Resolved.Output.ofJson? (ofList Resolved.Output.toJson c.outputs) =
      some c.outputs := asList?_ofList fun o _ => Resolved.Output.ofJson?_toJson o
  have hpaths : asList? asString? (ofList .str c.logPaths) = some c.logPaths :=
    asList?_ofList fun _ _ => rfl
  have hhistory : asList? HistoryEntry.ofJson? (ofList HistoryEntry.toJson c.history) =
      some c.history := asList?_ofList fun e he => HistoryEntry.ofJson?_toJson (h.history e he)
  have hstatus : asNamed? Status.names (.str c.status.name) = some c.status := by
    cases c.status <;> rfl
  unfold ofJson? toJson
  rw [Record.ofJson?_of_nodup _ (by simp), Option.bind_eq_bind, Option.bind_some]
  simp (disch := decide) only [Record.need_ofNames, Record.optional, Record.orElse,
    Record.cell?_ofNames, List.lookup_cons, String.reduceBEq, Option.bind_some, asOption?_texts,
    asString?_str, asBool?_bool, asInt64?_ofInt h.databaseId, asInt64?_ofInt h.commandId, hwrapper,
    asStringMap?_ofStringMap, hmounts, hinputs, houtputs, hstatus,
    Instant.ofJson?_toJson h.statusTime, hpaths, hhistory]
  rfl

theorem fits_toJson (h : c.IsRepresentable) : c.toJson.fits = true := by
  have hwrapper : (ofOption ofInt c.wrapperId).fits = true :=
    fits_ofOption fun id hid => fits_ofInt (h.wrapperId id hid)
  have hmounts : (ofList Resolved.Mount.toJson c.mounts).fits = true := by
    refine fits_ofList (fun m => ?_) c.mounts
    obtain ⟨_, _, _, hostPath, enginePath, sourceInput⟩ := m
    cases hostPath <;> cases enginePath <;> cases sourceInput <;> rfl
  have hinputs : (ofList Resolved.Input.toJson c.inputs).fits = true := by
    refine fits_ofList (fun i => ?_) c.inputs
    obtain ⟨_, _, value, parent, sensitive⟩ := i
    cases value <;> cases parent <;> cases sensitive <;> rfl
  have houtputs : (ofList Resolved.Output.toJson c.outputs).fits = true := by
    refine fits_ofList (fun o => ?_) c.outputs
    obtain ⟨_, _, path, glob, _⟩ := o
    cases path <;> cases glob <;> rfl
  have hpaths : (ofList .str c.logPaths).fits = true :=
    fits_ofList (fun _ => rfl) c.logPaths
  have hhistory : (ofList HistoryEntry.toJson c.history).fits = true := by
    refine fits_ofList (fun e => ?_) c.history
    obtain ⟨_, _, author, _, externalTime, message, exitCode⟩ := e
    cases author <;> cases externalTime <;> cases message <;> cases exitCode <;> rfl
  have henvironment : (ofStringMap c.environment).fits = true := fits_ofStringMap c.environment
  simp only [toJson, fits, fitsMembers, fitsMember, Instant.toJson, Bool.and_self,
    fits_ofInt h.databaseId, fits_ofInt h.commandId, hwrapper, fits_text, henvironment, hmounts,
    hinputs, houtputs, hpaths, hhistory]

/-- A record reads back from its text. -/
theorem readsBack_of_isRepresentable (h : c.IsRepresentable) : c.ReadsBack :=
  readsBack_of_toJson (fits_toJson h) (ofJson?_toJson h)

/-- What reads as a record can be represented, and no exit code was looked up for it. -/
theorem isRepresentable_of_ofText? {text : String} (h : ofText? text = some c) :
    c.IsRepresentable ∧ c.exitMemo = none := by
  obtain ⟨v, -, h⟩ := Option.bind_eq_some_iff.1 h
  unfold ofJson? at h
  obtain ⟨r, -, h⟩ := Option.bind_eq_some_iff.1 h
  obtain ⟨databaseId, hdatabaseId, h⟩ := Option.bind_eq_some_iff.1 h
  obtain ⟨commandId, hcommandId, h⟩ := Option.bind_eq_some_iff.1 h
  obtain ⟨wrapperId, hwrapperId, h⟩ := Option.bind_eq_some_iff.1 h
  -- The fields up to the time of the status may hold anything.
  iterate 15 obtain ⟨_, -, h⟩ := Option.bind_eq_some_iff.1 h
  obtain ⟨statusTime, hstatusTime, h⟩ := Option.bind_eq_some_iff.1 h
  obtain ⟨_, -, h⟩ := Option.bind_eq_some_iff.1 h
  obtain ⟨history, hhistory, h⟩ := Option.bind_eq_some_iff.1 h
  cases h
  obtain ⟨v, hv⟩ := Record.decode_of_need hdatabaseId
  obtain ⟨u, hu⟩ := Record.decode_of_need hcommandId
  obtain ⟨t, ht⟩ := Record.decode_of_need hstatusTime
  obtain ⟨l, hl⟩ := Record.decode_of_need hhistory
  refine ⟨⟨range_of_asInt64? hv, range_of_asInt64? hu, fun id hid => ?_,
    Instant.isValid_of_ofJson? ht, fun e he => ?_⟩, rfl⟩
  · obtain ⟨x, hx⟩ := Record.decode_of_optional (hwrapperId.trans (congrArg some hid))
    exact range_of_asInt64? hx
  · obtain ⟨x, hx⟩ := decode_of_asList? hl e he
    exact HistoryEntry.isValid_of_ofJson? hx

/-- A status is reached when an entry is recorded. -/
theorem recorded_of_statusOf {history : List HistoryEntry} {r : StatusReached}
    (h : statusOf history = some r) : ∃ e ∈ history, r.2 = e.recorded := by
  induction history using List.reverseRecOn with
  | nil => cases h
  | append_singleton rest e ih =>
    rw [statusOf_append_singleton] at h
    have hcases : statusOf rest = some r ∨ r.2 = e.recorded := by
      unfold nextStatus at h
      split at h
      · exact .inl h
      · split at h
        · cases h
          exact .inr rfl
        · exact .inl h
    rcases hcases with hbefore | hnow
    · obtain ⟨f, hf, hr⟩ := ih hbefore
      exact ⟨f, List.mem_append_left _ hf, hr⟩
    · exact ⟨e, by simp, hnow⟩

/-- A record that gets an entry at a time of the calendar can still be represented. -/
theorem IsRepresentable.append? {e : HistoryEntry} (h : c.IsRepresentable)
    (he : e.recorded.IsValid) (hd : c.append? e = some d) : d.IsRepresentable := by
  obtain ⟨-, rfl⟩ := append?_eq_some_iff.1 hd
  have hhistory : ∀ f ∈ c.history ++ [e], f.recorded.IsValid := by
    intro f hf
    rcases List.mem_append.1 hf with hold | hnew
    · exact h.history f hold
    · rw [List.mem_singleton.1 hnew]
      exact he
  unfold withStatus
  split
  · next status time hstatus =>
    obtain ⟨f, hf, htime⟩ := recorded_of_statusOf hstatus
    have hvalid : time.IsValid := by
      rw [show time = f.recorded from htime]
      exact hhistory f hf
    exact ⟨h.databaseId, h.commandId, h.wrapperId, hvalid, hhistory⟩
  · exact ⟨h.databaseId, h.commandId, h.wrapperId, h.statusTime, hhistory⟩

end Container

end Mooring

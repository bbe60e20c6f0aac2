import Mooring.Proofs.Command.Document
import Mooring.Resolved.Document

set_option autoImplicit false

/-!
# Resolved commands and their documents

A resolved command whose numbers fit their ranges reads back from its document, with its maps in
their order (`Resolved.ofJson?_toJson`). Most fields of it have to be there when it is read, and
these are the fields that are always written.
-/

namespace Mooring.Resolved

open Json

/-! ## Parts of resolved commands -/

theorem Input.toJson_eq (i : Input) :
    i.toJson = .obj (Record.present [("name", some (.str i.name)), ("type", some (.str i.type.name)),
      ("value", some (nullable i.value)), ("parent", i.parent.map .str),
      ("sensitive", if i.sensitive then some (.bool true) else none)]) := by
  simp [toJson, optionalText]

theorem Input.ofJson?_toJson (i : Input) : ofJson? i.toJson = some i := by
  unfold ofJson?
  rw [toJson_eq, Record.ofJson?_present, Option.bind_eq_bind, Option.bind_some]
  · simp only [Record.need, Record.optional, Record.option, Record.orElse_eq_elim, Record.cell?,
      List.lookup_cons, String.reduceBEq, Option.bind_eq_bind, Option.bind_some, Option.join_some,
      elim_texts, elim_flag, nullable, asOption?_texts, asString?_str, InputType.ofJson?_name]
    rfl
  · decide
  · rfl

theorem Mount.toJson_eq (m : Mount) :
    m.toJson = .obj (Record.present [("name", some (.str m.name)),
      ("container-path", some (.str m.containerPath)), ("writable", some (.bool m.writable)),
      ("host-path", some (nullable m.hostPath)), ("engine-host-path", m.enginePath.map .str),
      ("source-input", m.sourceInput.map .str)]) := by
  simp [toJson, optionalText]

theorem Mount.ofJson?_toJson (m : Mount) : ofJson? m.toJson = some m := by
  unfold ofJson?
  rw [toJson_eq, Record.ofJson?_present, Option.bind_eq_bind, Option.bind_some]
  · simp only [Record.need, Record.optional, Record.option, Record.orElse_eq_elim, Record.cell?,
      List.lookup_cons, String.reduceBEq, Option.bind_eq_bind, Option.bind_some, Option.join_some,
      elim_texts, nullable, asOption?_texts, asString?_str, asBool?_bool]
    rfl
  · decide
  · rfl

theorem Output.toJson_eq (o : Output) :
    o.toJson = .obj (Record.present [("name", some (.str o.name)), ("mount", some (.str o.mount)),
      ("path", o.path.map .str), ("glob", o.glob.map .str),
      ("required", some (.bool o.required))]) := by
  simp [toJson, optionalText]

theorem Output.ofJson?_toJson (o : Output) : ofJson? o.toJson = some o := by
  unfold ofJson?
  rw [toJson_eq, Record.ofJson?_present, Option.bind_eq_bind, Option.bind_some]
  · simp only [Record.need, Record.option, Record.orElse_eq_elim, Record.cell?, List.lookup_cons,
      String.reduceBEq, Option.bind_eq_bind, Option.bind_some, Option.join_some, elim_texts,
      asString?_str, asBool?_bool]
    rfl
  · decide
  · rfl

/-! ## Resolved commands -/

/-- Whether the numbers of a resolved command can be represented. -/
structure IsRepresentable (r : Resolved) : Prop where
  commandId : IsInt64 r.commandId
  reserveMemory : ∀ n, r.reserveMemory = some n → IsNat64 n
  limitMemory : ∀ n, r.limitMemory = some n → IsNat64 n
  limitCpu : ∀ d, r.limitCpu = some d → d.isFinite = true

theorem toJson_eq (r : Resolved) :
    r.toJson = .obj (Record.present [("command-id", some (ofInt r.commandId)),
      ("command-name", some (.str r.commandName)), ("image", some (.str r.image)),
      ("working-directory", some (nullable r.workingDirectory)),
      ("command-line", some (.str r.commandLine)),
      ("environment", some (ofStringMap r.environment)), ("ports", some (ofStringMap r.ports)),
      ("mounts", some (ofList Mount.toJson r.mounts)),
      ("inputs", some (ofList Input.toJson r.inputs)),
      ("outputs", some (ofList Output.toJson r.outputs)),
      ("reserve-memory", r.reserveMemory.map ofNat), ("limit-memory", r.limitMemory.map ofNat),
      ("limit-cpu", r.limitCpu.map ofDouble)]) := by
  simp [toJson]

/-- A resolved command reads back from its document. -/
theorem ofJson?_toJson {r : Resolved} (h : r.IsRepresentable) : ofJson? r.toJson = some r := by
  have hmounts : asList? Mount.ofJson? (ofList Mount.toJson r.mounts) = some r.mounts :=
    asList?_ofList fun m _ => m.ofJson?_toJson
  have hinputs : asList? Input.ofJson? (ofList Input.toJson r.inputs) = some r.inputs :=
    asList?_ofList fun i _ => i.ofJson?_toJson
  have houtputs : asList? Output.ofJson? (ofList Output.toJson r.outputs) = some r.outputs :=
    asList?_ofList fun o _ => o.ofJson?_toJson
  unfold ofJson?
  rw [toJson_eq, Record.ofJson?_present, Option.bind_eq_bind, Option.bind_some]
  · simp only [Record.need, Record.optional, Record.option, Record.orElse_eq_elim, Record.cell?,
      List.lookup_cons, String.reduceBEq, Option.bind_eq_bind, Option.bind_some, Option.join_some,
      nullable, asOption?_texts, asString?_str, asInt64?_ofInt h.commandId,
      asStringMap?_ofStringMap, hmounts, hinputs, houtputs, elim_ofNat h.reserveMemory,
      elim_ofNat h.limitMemory, elim_ofDouble h.limitCpu]
    rfl
  · decide
  · rfl

end Mooring.Resolved

import Mooring.Command.Document
import Mooring.Proofs.Json.Record

set_option autoImplicit false

/-!
# Commands and their documents

A command whose numbers fit their ranges reads back from its document, with its maps in their order
(`Command.ofJson?_toJson`). A document leaves absent fields out, so each structure is first stated
as the list of all its fields (`Command.toJson_eq`), and is read field by field from that list.
-/

namespace Mooring

open Json

theorem InputType.ofJson?_name (t : InputType) : ofJson? (.str t.name) = some t := by
  cases t <;> rfl

namespace Json

@[simp] theorem present_cons_flag (name : String) (b : Bool)
    (fields : List (String × Option Json)) :
    Record.present ((name, if b then some (.bool true) else none) :: fields) =
      optionalFlag name b ++ Record.present fields := by
  cases b <;> rfl

/-- A truth value reads back where it is left out when false. -/
theorem elim_flag (b : Bool) :
    (if b then some (Json.bool true) else none).elim (some false) asBool? = some b := by
  cases b <;> rfl

theorem asNat64?_ofNat {n : Nat} (h : IsNat64 n) : asNat64? (ofNat n) = some n := by
  have hrange : 0 ≤ (n : Int) ∧ (n : Int) < Int.pow 2 64 :=
    ⟨Int.natCast_nonneg n, Int.ofNat_lt.2 h⟩
  simp only [asNat64?, ofNat, ofInt, if_pos hrange, Int.toNat_natCast]

theorem asDouble?_ofDouble {d : Double} (h : d.isFinite = true) :
    ofDouble d ≠ .null ∧ asDouble? (ofDouble d) = some d := by
  rw [ofDouble, if_pos h]
  exact ⟨nofun, rfl⟩

/-- A size in memory reads back where it is left out when absent. -/
theorem elim_ofNat {o : Option Nat} (h : ∀ n, o = some n → IsNat64 n) :
    (o.map ofNat).elim (some none) (asOption? asNat64?) = some o :=
  elim_asOption? nofun fun n hn => asNat64?_ofNat (h n hn)

/-- A share of processors reads back where it is left out when absent. -/
theorem elim_ofDouble {o : Option Double} (h : ∀ d, o = some d → d.isFinite = true) :
    (o.map ofDouble).elim (some none) (asOption? asDouble?) = some o :=
  elim_asOption? (fun d hd => (asDouble?_ofDouble (h d hd)).1)
    fun d hd => (asDouble?_ofDouble (h d hd)).2

end Json

namespace Command

/-! ## Parts of commands -/

theorem Input.toJson_eq (i : Input) :
    i.toJson = .obj (Record.present [("name", some (.str i.name)),
      ("description", i.description.map .str), ("type", some (.str i.type.name)),
      ("required", some (.bool i.required)), ("parent", i.parent.map .str),
      ("parent-property", i.parentProperty.map .str), ("default-value", i.defaultValue.map .str),
      ("matcher", i.matcher.map .str), ("replacement-key", i.replacementKey.map .str),
      ("command-line-flag", i.flag.map .str), ("command-line-separator", i.separator.map .str),
      ("true-value", i.trueValue.map .str), ("false-value", i.falseValue.map .str),
      ("sensitive", if i.sensitive then some (.bool true) else none)]) := by
  simp [toJson, optionalText]

theorem Input.ofJson?_toJson (i : Input) : ofJson? i.toJson = some i := by
  unfold ofJson?
  rw [toJson_eq, Record.ofJson?_present, Option.bind_eq_bind, Option.bind_some]
  · simp only [Record.option, Record.orElse_eq_elim, Record.cell?, List.lookup_cons,
      String.reduceBEq, Option.join_some, Option.elim_some, elim_texts, elim_flag, asString?_str,
      asBool?_bool, InputType.ofJson?_name]
    rfl
  · decide
  · rfl

theorem Mount.toJson_eq (m : Mount) :
    m.toJson = .obj (Record.present [("name", some (.str m.name)), ("path", some (.str m.path)),
      ("writable", some (.bool m.writable)), ("source-input", m.sourceInput.map .str),
      ("resource", m.resource.map .str)]) := by
  simp [toJson, optionalText]

theorem Mount.ofJson?_toJson (m : Mount) : ofJson? m.toJson = some m := by
  unfold ofJson?
  rw [toJson_eq, Record.ofJson?_present, Option.bind_eq_bind, Option.bind_some]
  · simp only [Record.option, Record.orElse_eq_elim, Record.cell?, List.lookup_cons,
      String.reduceBEq, Option.join_some, Option.elim_some, elim_texts, asString?_str, asBool?_bool]
    rfl
  · decide
  · rfl

theorem Output.toJson_eq (o : Output) :
    o.toJson = .obj (Record.present [("name", some (.str o.name)), ("mount", some (.str o.mount)),
      ("path", o.path.map .str), ("glob", o.glob.map .str),
      ("required", some (.bool o.required))]) := by
  simp [toJson, optionalText]

theorem Output.ofJson?_toJson (o : Output) : ofJson? o.toJson = some o := by
  unfold ofJson?
  rw [toJson_eq, Record.ofJson?_present, Option.bind_eq_bind, Option.bind_some]
  · simp only [Record.option, Record.orElse_eq_elim, Record.cell?, List.lookup_cons,
      String.reduceBEq, Option.join_some, Option.elim_some, elim_texts, asString?_str, asBool?_bool]
    rfl
  · decide
  · rfl

/-! ## Commands -/

/-- Whether the numbers of a command can be represented. -/
structure IsRepresentable (c : Command) : Prop where
  id : IsInt64 c.id
  reserveMemory : ∀ n, c.reserveMemory = some n → IsNat64 n
  limitMemory : ∀ n, c.limitMemory = some n → IsNat64 n
  limitCpu : ∀ d, c.limitCpu = some d → d.isFinite = true

theorem toJson_eq (c : Command) :
    c.toJson = .obj (Record.present [("id", some (ofInt c.id)), ("name", some (.str c.name)),
      ("description", c.description.map .str), ("version", c.version.map .str),
      ("image", some (.str c.image)), ("working-directory", c.workingDirectory.map .str),
      ("command-line", some (.str c.commandLine)),
      ("environment-variables", some (ofStringMap c.environment)),
      ("ports", some (ofStringMap c.ports)), ("mounts", some (ofList Mount.toJson c.mounts)),
      ("inputs", some (ofList Input.toJson c.inputs)),
      ("outputs", some (ofList Output.toJson c.outputs)),
      ("reserve-memory", c.reserveMemory.map ofNat), ("limit-memory", c.limitMemory.map ofNat),
      ("limit-cpu", c.limitCpu.map ofDouble)]) := by
  simp [toJson, optionalText]

/-- A command reads back from its document. -/
theorem ofJson?_toJson {c : Command} (h : c.IsRepresentable) : ofJson? c.toJson = some c := by
  have hmounts : asList? Mount.ofJson? (ofList Mount.toJson c.mounts) = some c.mounts :=
    asList?_ofList fun m _ => m.ofJson?_toJson
  have hinputs : asList? Input.ofJson? (ofList Input.toJson c.inputs) = some c.inputs :=
    asList?_ofList fun i _ => i.ofJson?_toJson
  have houtputs : asList? Output.ofJson? (ofList Output.toJson c.outputs) = some c.outputs :=
    asList?_ofList fun o _ => o.ofJson?_toJson
  unfold ofJson?
  rw [toJson_eq, Record.ofJson?_present, Option.bind_eq_bind, Option.bind_some]
  · simp only [Record.option, Record.orElse_eq_elim, Record.cell?, List.lookup_cons,
      String.reduceBEq, Option.join_some, Option.elim_some, elim_texts, asString?_str,
      asInt64?_ofInt h.id, asStringMap?_ofStringMap, hmounts, hinputs, houtputs,
      elim_ofNat h.reserveMemory, elim_ofNat h.limitMemory, elim_ofDouble h.limitCpu]
    rfl
  · decide
  · rfl

end Command

end Mooring

import Mooring.Proofs.Container.Document
import Mooring.Proofs.Server.File

set_option autoImplicit false

/-!
# Documents read back

Everything that is written as a document reads back from it (`documents_read_back`): a record, less
the exit code that was looked up in it, the configuration of the server, a resolved command and a
command. The numbers have to fit their ranges, and the times have to be times whose text reads back
(`Instant.ofJson?_toJson_iff`). Maps keep the order of their entries, as equal maps have equal lists
of entries.
-/

namespace Mooring.Json

variable {c : Container} {s : Server} {r : Resolved} {d : Command}

/-- Each structure reads back from its document. -/
theorem documents_read_back (hc : c.IsRepresentable)
    (hs : ∀ t, s.lastEventCheck = some t → t.IsValid) (hr : r.IsRepresentable)
    (hd : d.IsRepresentable) :
    Container.ofJson? c.toJson = some c.unmemoized ∧
      Server.ofJson? s.toJson = some s ∧
      Resolved.ofJson? r.toJson = some r ∧
      Command.ofJson? d.toJson = some d :=
  ⟨Container.ofJson?_toJson hc, Server.ofJson?_toJson hs, Resolved.ofJson?_toJson hr,
    Command.ofJson?_toJson hd⟩

section Written

/-- A command in which some optional fields are there and others are not, its variables out of
alphabetical order. -/
def writtenCommand : Command :=
  { id := 3, name := "convert", image := "busybox:1.36", commandLine := "sh -c #SCRIPT#",
    environment := .ofPairs [("ZONE", "eu"), ("AREA", "7")],
    mounts := [{ name := "in", path := "/input", sourceInput := some "scan" }],
    inputs := [{ name := "scan", type := .scan, required := true, matcher := some "@.id" },
      { name := "key", sensitive := true, parent := some "scan" }],
    outputs := [{ name := "log", mount := "in", glob := some "*.log" }],
    reserveMemory := some 512, limitCpu := some (.ofInt 2) }

/-- What is launched for it. -/
def writtenResolved : Resolved :=
  { commandId := 3, commandName := "convert", image := "busybox:1.36", commandLine := "sh -c run",
    environment := .ofPairs [("ZONE", "eu"), ("AREA", "7")],
    mounts := [⟨"in", "/input", false, some "/data/1", some "/mnt/1", none⟩],
    inputs := [{ name := "key", type := .string, value := some "k", sensitive := true }],
    outputs := [{ name := "log", mount := "in", glob := some "*.log", required := true }],
    limitMemory := some 1024 }

/-- Its record, after an exit code was looked up. -/
def writtenContainer : Container :=
  { commandId := 3, containerId := some "c1", userId := "ann", image := "busybox:1.36",
    commandLine := "sh -c run", environment := writtenResolved.environment,
    mounts := writtenResolved.mounts, inputs := writtenResolved.inputs,
    outputs := writtenResolved.outputs, status := .failed, statusTime := ⟨1700000000, 5⟩,
    history := [.ofSystem ⟨1700000000, 5⟩ "Failed", .ofUser ⟨1700000060, 0⟩ "Killed" "ann"],
    exitMemo := some "1" }

/-- The server it runs at. -/
def writtenServer : Server :=
  { name := "engine", host := "tcp://engine:2376", swarmMode := true,
    lastEventCheck := some ⟨1700000000, 0⟩, mapping := some ⟨"/data", "/mnt"⟩ }

theorem documents_read_back_written :
    Container.ofJson? writtenContainer.toJson = some writtenContainer.unmemoized ∧
      Server.ofJson? writtenServer.toJson = some writtenServer ∧
      Resolved.ofJson? writtenResolved.toJson = some writtenResolved ∧
      Command.ofJson? writtenCommand.toJson = some writtenCommand := by
  have hentry : (⟨1700000060, 0⟩ : Instant).IsValid := ⟨by decide, by decide⟩
  have htime : (⟨1700000000, 5⟩ : Instant).IsValid := ⟨by decide, by decide⟩
  refine documents_read_back ⟨by decide, by decide, nofun, htime, ?_⟩ ?_
    ⟨by decide, nofun, ?_, nofun⟩ ⟨by decide, ?_, nofun, ?_⟩
  · exact List.forall_mem_cons.2 ⟨htime, List.forall_mem_singleton.2 hentry⟩
  · rintro _ ⟨⟩
    exact ⟨by decide, by decide⟩
  · rintro _ ⟨⟩
    decide
  · rintro _ ⟨⟩
    decide
  · rintro _ ⟨⟩
    decide

end Written

end Mooring.Json

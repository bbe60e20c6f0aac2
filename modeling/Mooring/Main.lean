import Mooring.CommandLine.Footprint
import Std.Time.DateTime.Timestamp

set_option autoImplicit false

/-!
# The command line

Fetches the files that a request reads, carries the request out on them, writes back what changed,
and prints the ending. No engine can be reached from here: every call of its program counts as a
program that could not be run.
-/

namespace Mooring.CommandLine

/-- The time. -/
def currentInstant : IO Instant := do
  let d := (← Std.Time.Timestamp.now).toDurationSinceUnixEpoch
  return ⟨d.second.val, d.nano.val.toNat⟩

/-- The variables of the environment that override settings. -/
def currentEnvironment : IO Settings.Environment := do
  let pairs ← Settings.variableNames.filterMapM fun name => do
    return (← IO.getEnv name).map fun value => (name, value)
  return fun name => pairs.lookup name

/-- Thirty-two hexadecimal digits of a number. -/
def hexName (n : Nat) : List Char :=
  (List.range 32).reverse.map fun i => Json.hexDigit (n / Nat.pow 16 i % 16)

/-- The digits of a name in five groups. -/
def groupedName (cs : List Char) : String :=
  let groups :=
    [cs.take 8, (cs.drop 8).take 4, (cs.drop 12).take 4, (cs.drop 16).take 4, cs.drop 20]
  "-".intercalate (groups.map String.ofList)

/-- The host that this program runs on. -/
def currentHost : IO (Host Unit) := do
  let seed ← IO.rand 0 (Nat.pow 2 128 - 1)
  return {
    now := ← currentInstant
    environment := ← currentEnvironment
    runProgram := fun _ => pure .notRun
    directoryNames := fun n => groupedName (hexName (seed + n))
    tokens := fun n => String.ofList (hexName (seed + n)) }

/-- The text of a file, if it can be read. -/
def readText? (path : String) : IO (Option String) := do
  try return some (← IO.FS.readFile path)
  catch _ => return none

/-- The files with one more, if it can be read. -/
def fetch (files : FileTree) (path : String) : IO FileTree := do
  match ← readText? path with
  | some text => return ((files.makeParents? path).bind (·.write? path text)).getD files
  | none => return files

/-- The files with the records of a store. Records are numbered from one, and a long gap ends
them. -/
def fetchRecords (ctx : Context Unit) (files : FileTree) : IO FileTree := do
  let mut found := files
  let mut missed := 0
  for id in [1:1000000] do
    if (← readText? (ctx.recordPath id)).isSome then
      found ← fetch found (ctx.recordPath id)
      missed := 0
    else
      missed := missed + 1
      if missed > 1000 then break
  return found

/-- The files that a request reads. -/
def fetchAll (host : Host Unit) (r : Request) : IO FileTree := do
  let files ← (r.settingsPath :: r.namedPaths).foldlM fetch ⟨[]⟩
  match (contextOf host r.config).run.run ⟨(), files, 0⟩ with
  | (.error _, _) => return files
  | (.ok ctx, _) =>
    let files ← fetch files ctx.settings.serverPath
    let files ← (r.source?.toList.flatMap (ctx.objectPaths · files)).foldlM fetch files
    fetchRecords ctx files

/-- The path of a place. -/
def pathOf : List String → String
  | "/" :: names => "/" ++ "/".intercalate names
  | names => "/".intercalate names

/-- Write the files and directories that are new or changed. -/
def writeBack (before after : FileTree) : IO Unit := do
  for (place, node) in after.nodes do
    if before.at? place ≠ some node then
      match node with
      | .directory => IO.FS.createDirAll (pathOf place)
      | .file text => IO.FS.writeFile (pathOf place) text

/-- Print an ending. The value is the exit code. -/
def report (e : Ending) : IO UInt32 := do
  IO.print e.printed
  if let some error := e.error then IO.eprintln ("Error: " ++ error)
  return e.code.toUInt32

/-- Watch round after round. -/
partial def watchOn (ctx : Context Unit) (w : Watch Unit) (s : Outside Unit) : IO UInt32 := do
  match (({ ctx with host := ← currentHost }).watchRound w).run.run s with
  | (.error e, _) => report (.ofResult (.error e))
  | (.ok (text, w), after) =>
    writeBack s.files after.files
    IO.print text
    IO.sleep (1000 * ctx.settings.pollInterval).toUInt32
    watchOn ctx w after

/-- Watch until interrupted. -/
def watchFrom (host : Host Unit) (config : Option String) (files : FileTree) : IO UInt32 := do
  let start : Session Unit (Context Unit × Watch Unit) := do
    let ctx ← contextOf host config
    return (ctx, ← ctx.startWatching)
  match start.run.run ⟨(), files, 0⟩ with
  | (.error e, _) => report (.ofResult (.error e))
  | (.ok (ctx, w), after) =>
    writeBack files after.files
    watchOn ctx w after

/-- Carry out the arguments of a command line. -/
def runHere (args : List String) : IO UInt32 := do
  match Request.ofArguments args with
  | .error refusal => report (.ofRefusal refusal)
  | .ok request =>
    let host ← currentHost
    let files ← fetchAll host request
    match request.invocation with
    | .watch _ false => watchFrom host request.config files
    | _ =>
      let (ending, after) := run host args ⟨(), files, 0⟩
      writeBack files after.files
      report ending

end Mooring.CommandLine

/-- The program. -/
def main (args : List String) : IO UInt32 :=
  Mooring.CommandLine.runHere args

import ArbitratedEscrow.Archive.Text
import ArbitratedEscrow.Terminal.Run
import Std.Time.DateTime.Timestamp

/-!
# The program

The outer layer: it fetches the arguments, the data directory, the time and
random bytes, runs the request, and puts back what has changed. A dialog that
runs out of keys is held again once the user has typed another line; what is
already on the screen is not written again.
-/

namespace ArbitratedEscrow.Program

open Terminal

/-- The data directory of a user who names none. -/
def usualDirectory : IO String := do
  match ← IO.getEnv "XDG_DATA_HOME", ← IO.getEnv "HOME" with
  | some data, some home =>
    return (if data.startsWith "/" then data else home ++ "/.local/share") ++ "/escrow"
  | some data, none => return (if data.startsWith "/" then data else ".") ++ "/escrow"
  | none, some home => return home ++ "/.local/share/escrow"
  | none, none => return "./escrow"

def fileAt? (path : String) : IO (Option String) := do
  try
    return some (← IO.FS.readFile path)
  catch
    | .noFileOrDirectory .. => return none
    | fault => throw fault

def settingsAt (directory : String) : IO SettingsFile := do
  try
    match ← fileAt? (directory ++ "/config.json") with
    | some content => return .text content
    | none => return .missing
  catch
    | .inappropriateType .. => return .folder
    | fault => throw fault

/-- Where the database of a path from a data directory is. -/
def databasePath (directory path : String) : String :=
  if path.startsWith "/" then path else directory ++ "/" ++ path

def pathLengthOf (directory : String) : IO Nat := do
  if directory.startsWith "/" then return directory.utf8ByteSize
  else return (toString (← IO.currentDir)).utf8ByteSize + 1 + directory.utf8ByteSize

/-- The data directory with the one database that its settings name. -/
def directoryAt (directory : String) : IO (DataDirectory × Option String) := do
  let found := { DataDirectory.empty with
    pathLength := ← pathLengthOf directory
    settings := ← settingsAt directory }
  match found.loadSettings with
  | .error _ => return (found, none)
  | .ok settings =>
    let path := settings.databaseFile
    let place := Place.ofPath path
    try
      match ← fileAt? (databasePath directory path) with
      | none => return (found, some path)
      | some content =>
        match (Json.Tree.parse content.toList).bind Archive.ofTree? with
        | some archive => return (found.put place archive, some path)
        | none => throw (.userError "not a database")
    catch
      | .inappropriateType .. => return (found.makeFolder place, some path)
      | fault => throw fault

def writeFileAt (path content : String) : IO Unit := do
  IO.FS.createDirAll ("/".intercalate (path.splitOn "/").dropLast)
  IO.FS.writeFile path content

def save (directory : String) (path : Option String) (before after : DataDirectory) : IO Unit := do
  match after.settings with
  | .text content =>
    if before.settings ≠ after.settings then writeFileAt (directory ++ "/config.json") content
  | _ => pure ()
  match path with
  | none => pure ()
  | some path =>
    let place := Place.ofPath path
    match after.databases place with
    | some archive =>
      if before.databases place ≠ some archive then
        writeFileAt (databasePath directory path) archive.toJson.compact
    | none => pure ()

def randomWord : IO UInt64 := do
  let bytes ← IO.getRandomBytes 8
  return bytes.toList.foldl (fun word byte => word * 256 + byte.toUInt64) 0

/-- A source of random identifiers. No request draws more than one. -/
def randomIds : IO IdSource := do
  let first := Uuid.ofWords (← randomWord) (← randomWord)
  let others := IdSource.ofSeed (← randomWord)
  return { nth := fun n => if n = 0 then first else others.nth n }

def present : IO Instant := do
  let now ← Std.Time.Timestamp.now
  let nanos := now.toNanosecondsSinceUnixEpoch.toInt
  return (Instant.ofParts? (nanos / 1000000000) (nanos % 1000000000).toNat).getD .epoch

/-- Writes what a transcript has on the screen beyond what is there already. -/
def showFrom (shown : Nat) (transcript : Transcript) : IO Unit := do
  IO.eprint (transcript.err.drop shown).toString
  (← IO.getStderr).flush
  IO.print transcript.out
  (← IO.getStdout).flush

def ranOut (transcript : Transcript) : Bool :=
  transcript.err.endsWith (EscrowError.dialog .endOfInput).report

/-- Runs a request, and again with another line of keys as long as it runs out of them. -/
partial def converse (run : Option (List Char) → Transcript × DataDirectory)
    (keys : Option (List Char)) (shown : Nat) : IO (Transcript × Nat × DataDirectory) := do
  let (transcript, directory) := run keys
  match keys with
  | none => return (transcript, shown, directory)
  | some typed =>
    if !ranOut transcript then return (transcript, shown, directory)
    else
      let drawn := transcript.err.length - (EscrowError.dialog .endOfInput).report.length
      IO.eprint ((transcript.err.take drawn).drop shown).toString
      (← IO.getStderr).flush
      let line ← (← IO.getStdin).getLine
      if line.isEmpty then return (transcript, drawn, directory)
      else converse run (some (typed ++ line.toList)) drawn

def carryOut (invocation : Invocation) : IO UInt32 := do
  let directory ←
    match invocation.directory with
    | some directory => pure directory
    | none => usualDirectory
  let (before, path) ← directoryAt directory
  let keys := if ← (← IO.getStdin).isTty then some [] else none
  let ids ← randomIds
  let now ← present
  let run := fun keys => runRequest directory ⟨keys, ids, now⟩ invocation.request before
  let (transcript, shown, after) ← converse run keys 0
  save directory path before after
  showFrom shown transcript
  return UInt32.ofNat transcript.exit

end ArbitratedEscrow.Program

open ArbitratedEscrow in
def main (arguments : List String) : IO UInt32 := do
  match Terminal.Invocation.read arguments with
  | .ok invocation => Program.carryOut invocation
  | .error halt =>
    Program.showFrom 0 halt.transcript
    return UInt32.ofNat halt.transcript.exit

import ArbitratedEscrow.DataDirectory
import ArbitratedEscrow.Json.Entity
import ArbitratedEscrow.Terminal.Arguments
import ArbitratedEscrow.Terminal.Perform

/-!
# Running the program once

A run reads its arguments and either writes the settings of a data directory or
opens the database that the settings name, performs a task on the ledger kept
there, and keeps the ledger if the task succeeded. The database of a run that
fails is as it was before. The wallet of a run is a rehearsal wallet of its own.
-/

namespace ArbitratedEscrow

/-- The settings of a data directory, the usual ones for want of a settings file. -/
def DataDirectory.loadSettings (directory : DataDirectory) : Except EscrowError Settings := do
  let settings ←
    match directory.settings with
    | .missing => .ok default
    | .text content => Json.parseAs Settings.ofTree? content
    | .folder => .error (.file .isDirectory)
  settings.validate
  return settings

def DataDirectory.saveSettings (directory : DataDirectory) (settings : Settings) :
    Except EscrowError DataDirectory :=
  match directory.settings with
  | .folder => .error (.file .isDirectory)
  | _ => .ok { directory with settings := .text settings.toJson.pretty }

namespace Terminal

/-- What a run leaves behind for its caller: an exit code and two texts. -/
structure Transcript where
  exit : Nat
  out : String := ""
  err : String := ""
deriving DecidableEq, Repr

/-- What a run finds: the keys typed if there is a terminal, fresh identifiers, the time. -/
structure Circumstances where
  keys : Option (List Char)
  ids : IdSource
  now : Instant

def Transcript.failure (fault : EscrowError) : Transcript := ⟨1, "", fault.report⟩

def Scene.transcript (scene : Scene) : Except EscrowError Unit → Transcript
  | .ok () => ⟨0, scene.out, scene.err⟩
  | .error fault => ⟨1, scene.out, scene.err ++ fault.report⟩

/-- Writes the usual settings for a network into a data directory. -/
def writeSettings (directoryName network : String) (directory : DataDirectory) :
    Except EscrowError (String × DataDirectory) := do
  let network ← Network.ofRequest network
  let directory ← directory.saveSettings (.forNetwork network)
  return ("Wrote config for " ++ network.name ++ " to " ++ directoryName ++ "\n", directory)

/-- Performs a task on the ledger in an archive and keeps the ledger if that succeeds. -/
def performOnArchive (settings : Settings) (found : Circumstances) (task : Task)
    (archive : Archive) : Transcript × Archive :=
  match archive.load? found.now with
  | none => (.failure .storage, archive)
  | some ledger =>
    let session : Session :=
      { settings, desk := ⟨ledger, found.ids⟩, archive, medium := .file, now := found.now }
    match (task.perform.run).run { session, keys := found.keys } with
    | (.error fault, scene) => (scene.transcript (.error fault), archive)
    | (.ok (), scene) =>
      match archive.keep? scene.session.desk.ledger with
      | some kept => (scene.transcript (.ok ()), kept)
      | none => (scene.transcript (.error .storage), archive)

/-- Performs a task on the ledger of a data directory. -/
def runTask (found : Circumstances) (task : Task) (directory : DataDirectory) :
    Transcript × DataDirectory :=
  match directory.loadSettings with
  | .error fault => (.failure fault, directory)
  | .ok settings =>
    match directory.openDatabase settings.databaseFile with
    | (.error fault, directory) => (.failure fault, directory)
    | (.ok archive, directory) =>
      let (transcript, archive) := performOnArchive settings found task archive
      (transcript, directory.put (Place.ofPath settings.databaseFile) archive)

/-- Carries out a request on a data directory, which is shown under a name. -/
def runRequest (directoryName : String) (found : Circumstances) (request : Request)
    (directory : DataDirectory) : Transcript × DataDirectory :=
  match request with
  | .init network =>
    match writeSettings directoryName network directory with
    | .ok (told, directory) => (⟨0, told, ""⟩, directory)
    | .error fault => (.failure fault, directory)
  | .task task => runTask found task directory

def versionText : String := "escrow 0.1.0\n"

def helpText : String :=
  "Arbitrated two-party escrow contracts\n\n" ++
    "Usage: escrow [OPTIONS] <COMMAND>\n\n" ++
    "Commands:\n" ++
    "  init [--network <NETWORK>]\n" ++
    "  player new|add <NAME>\n" ++
    "  player list\n" ++
    "  player remove <NAME> [--force]\n" ++
    "  contract new <PLAYER_ONE> <PLAYER_TWO> <AMOUNT> [--desc <DESC>]\n" ++
    "  contract show|sign|decline|submit|broadcast|confirm <ID>\n" ++
    "  contract dismiss <ID> [--force]\n" ++
    "  payout new <CONTRACT> <P1_AMOUNT> <P2_AMOUNT>\n" ++
    "  payout sign <CONTRACT> [--token]\n" ++
    "  payout submit|deny|broadcast|confirm <CONTRACT>\n" ++
    "  select <NAME>\n" ++
    "  status\n\n" ++
    "Options:\n" ++
    "  -d, --data-dir <DATA_DIR>\n" ++
    "  -v, --verbose\n" ++
    "  -h, --help\n" ++
    "  -V, --version\n"

def Halt.transcript : Halt → Transcript
  | usage => ⟨2, "", "error: wrong usage\n\nFor more information, try '--help'.\n"⟩
  | help => ⟨0, helpText, ""⟩
  | version => ⟨0, versionText, ""⟩

end Terminal

end ArbitratedEscrow

import ArbitratedEscrow.Archive.Basic
import ArbitratedEscrow.Error
import ArbitratedEscrow.Text.Hex
import ArbitratedEscrow.Text.Split

/-!
# Data directories

A data directory has a settings file and databases, whose places are given by
paths from the directory. Opening a database makes the folders on the way to
it, and the database itself if it is not there. Names and paths have greatest
lengths, in bytes, and those of a database leave room for its journal.
-/

namespace ArbitratedEscrow

/--
The names that lead to a place from the data directory. The name `/` stands for
the root of all places, and `..` for the folder above the one before it.
-/
abbrev Place := List String

namespace Place

/-- The names in a path. Empty names and `.` lead nowhere. -/
def namesOf (path : String) : List String :=
  ((Text.split '/' path.toList).map String.ofList).filter fun name => name != "" && name != "."

/-- Where a path starts: at the data directory, or at the root. -/
def startOf (path : String) : Place := if path.toList.head? = some '/' then ["/"] else []

/-- The place of a name in a folder. -/
def enter (folder : Place) (name : String) : Place :=
  if name = ".." then
    match folder.getLast? with
    | none => [".."]
    | some last =>
      if last = "/" then folder
      else if last = ".." then folder ++ [".."]
      else folder.dropLast
  else folder ++ [name]

def ofPath (path : String) : Place := (namesOf path).foldl enter (startOf path)

/-- Whether the data directory lies at a place or below it. -/
def holdsDirectory (place : Place) : Bool := place.all fun name => name == ".." || name == "/"

def settings : Place := ["config.json"]

/-- The bytes of the shortest path to a place, if `root` of them lead to the data directory. -/
def pathLength (root : Nat) : Place → Nat
  | "/" :: names => names.foldr (fun name length => name.utf8ByteSize + 1 + length) 0
  | names => names.foldr (fun name length => name.utf8ByteSize + 1 + length) root

/-- Parts of a path, without those at the end that lead nowhere. -/
def trimParts (parts : List (List Char)) : List (List Char) :=
  (parts.reverse.dropWhile fun part => part = [] ∨ part = ['.']).reverse

/-- The bytes of a path up to the folder that its last name lies in. -/
def folderPathLength (root : Nat) (path : String) : Nat :=
  let folders := trimParts (trimParts (Text.split '/' path.toList)).dropLast
  let length := (String.ofList (Text.join '/' folders)).utf8ByteSize
  if path.toList.head? = some '/' then length
  else if folders.isEmpty then root
  else root + 1 + length

end Place

inductive SettingsFile where
  | missing
  | text (content : String)
  | folder
deriving DecidableEq

structure DataDirectory where
  /-- How many bytes the path to the directory has. -/
  pathLength : Nat
  settings : SettingsFile
  databases : Place → Option Archive
  /-- Places of folders. What lies above them is a folder, too. -/
  folders : List Place

inductive Occupant where
  | nothing
  | file
  | folder
deriving DecidableEq

namespace DataDirectory

def empty : DataDirectory := ⟨0, .missing, fun _ => none, []⟩

def put (directory : DataDirectory) (place : Place) (archive : Archive) : DataDirectory :=
  { directory with
    databases := fun other => if other = place then some archive else directory.databases other }

@[simp] theorem databases_put_self (directory : DataDirectory) (place : Place)
    (archive : Archive) : (directory.put place archive).databases place = some archive := by
  simp [put]

theorem databases_put_of_ne {place other : Place} (different : other ≠ place)
    (directory : DataDirectory) (archive : Archive) :
    (directory.put place archive).databases other = directory.databases other := by
  simp [put, different]

def makeFolder (directory : DataDirectory) (place : Place) : DataDirectory :=
  { directory with
    folders := place :: directory.folders.filter fun other => !other.isPrefixOf place }

/-- What is at a place. -/
def occupant (directory : DataDirectory) (place : Place) : Occupant :=
  if place.holdsDirectory || directory.folders.any (place.isPrefixOf ·) then .folder
  else if (directory.databases place).isSome then .file
  else if place = .settings then
    match directory.settings with
    | .missing => .nothing
    | .text _ => .file
    | .folder => .folder
  else .nothing

def longestName : Nat := 255

def longestPath : Nat := 4095

/-- The bytes that a database's journal has in its name beyond those of the database. -/
def journalSuffix : Nat := 8

def longestJournalPath : Nat := 512

def tooLong (name : String) : Bool := longestName < name.utf8ByteSize

/-- Whether a name has a character that no name can have. -/
def unusable (name : String) : Bool := name.toList.contains '\x00'

/-- Makes the folders of names one below the other, as far as they can be made. -/
def makeFolders (directory : DataDirectory) (place : Place) :
    List String → Except DirectoryFault Unit × DataDirectory
  | [] => (.ok (), directory)
  | name :: names =>
    let next := place.enter name
    if tooLong name then (.error .nameTooLong, directory)
    else
      match directory.occupant next with
      | .folder => directory.makeFolders next names
      | .nothing => (directory.makeFolder next).makeFolders next names
      | .file => (.error (if names.isEmpty then .fileInPlace else .belowFile), directory)

/-- Making folders leaves all databases as they are. -/
theorem databases_makeFolders (directory : DataDirectory) (place : Place) (names : List String) :
    (directory.makeFolders place names).2.databases = directory.databases := by
  induction names generalizing directory place with
  | nil => rfl
  | cons name names ih =>
    simp only [makeFolders]
    split
    · rfl
    · split
      · exact ih directory _
      · exact ih (directory.makeFolder _) _
      · rfl

/-- Whether the way along some names is short enough, from each of its places to the journal. -/
def reaches (directory : DataDirectory) (place : Place) : List String → Bool
  | [] => place.pathLength directory.pathLength + journalSuffix ≤ longestJournalPath
  | name :: names =>
    let next := place.enter name
    next.pathLength directory.pathLength < longestJournalPath && directory.reaches next names

/--
Opens the database at a path whose folders are there. One whose journal cannot be
named is made, but cannot be used.
-/
def openIn (directory : DataDirectory) (path : String) :
    Except EscrowError Archive × DataDirectory :=
  let names := Place.namesOf path
  let place := Place.ofPath path
  if !directory.reaches (Place.startOf path) names ||
      names.getLast?.any fun name => tooLong name || unusable name then
    (.error .storage, directory)
  else
    let journalFits := names.getLast?.all fun name =>
      name.utf8ByteSize + journalSuffix ≤ longestName
    match directory.databases place, directory.occupant place with
    | some archive, .file => (if journalFits then .ok archive else .error .storage, directory)
    | none, .nothing =>
      (if journalFits then .ok .empty else .error .storage, directory.put place .empty)
    | _, _ => (.error .storage, directory)

def openDatabase (directory : DataDirectory) (path : String) :
    Except EscrowError Archive × DataDirectory :=
  let folders := (Place.namesOf path).dropLast
  if folders.any unusable then (.error (.internal .unusableName), directory)
  else if longestPath < Place.folderPathLength directory.pathLength path then
    (.error (.internal .nameTooLong), directory)
  else
    match directory.makeFolders (Place.startOf path) folders with
    | (.error fault, directory) => (.error (.internal fault), directory)
    | (.ok (), directory) => directory.openIn path

end DataDirectory

end ArbitratedEscrow

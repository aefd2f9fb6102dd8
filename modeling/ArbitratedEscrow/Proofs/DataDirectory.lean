import ArbitratedEscrow.Archive.Keep
import ArbitratedEscrow.DataDirectory

/-!
# The archives of a data directory

A database that is not there has no rows, as a new one has none. So to open a
database, which may make it and the folders on the way, changes no rows anywhere.
-/

namespace ArbitratedEscrow.DataDirectory

variable {directory : DataDirectory}

/-- The rows in the database at a place; there are none where there is no database. -/
def archiveAt (directory : DataDirectory) (place : Place) : Archive :=
  (directory.databases place).getD .empty

theorem archiveAt_put (directory : DataDirectory) (place other : Place) (archive : Archive) :
    (directory.put place archive).archiveAt other =
      if other = place then archive else directory.archiveAt other := by
  unfold archiveAt
  by_cases same : other = place
  · rw [if_pos same, same, databases_put_self, Option.getD_some]
  · rw [if_neg same, databases_put_of_ne same]

theorem archiveAt_put_self (directory : DataDirectory) (place : Place) :
    (directory.put place (directory.archiveAt place)).archiveAt = directory.archiveAt := by
  funext other
  rw [archiveAt_put]
  split
  · rename_i same
    rw [same]
  · rfl

theorem archiveAt_openIn (directory : DataDirectory) (path : String) :
    (directory.openIn path).2.archiveAt = directory.archiveAt ∧
      ∀ archive, (directory.openIn path).1 = .ok archive →
        archive = directory.archiveAt (Place.ofPath path) := by
  unfold openIn
  dsimp only
  split
  · exact ⟨rfl, fun _ opened => nomatch opened⟩
  · split
    · rename_i there _
      refine ⟨rfl, fun archive opened => ?_⟩
      split at opened
      · cases opened
        rw [archiveAt, there, Option.getD_some]
      · cases opened
    · rename_i absent _
      have blank : directory.archiveAt (Place.ofPath path) = .empty := by
        rw [archiveAt, absent, Option.getD_none]
      refine ⟨?_, fun archive opened => ?_⟩
      · rw [← blank]
        exact archiveAt_put_self directory _
      · split at opened
        · cases opened
          exact blank.symm
        · cases opened
    · exact ⟨rfl, fun _ opened => nomatch opened⟩

theorem archiveAt_openDatabase (directory : DataDirectory) (path : String) :
    (directory.openDatabase path).2.archiveAt = directory.archiveAt ∧
      ∀ archive, (directory.openDatabase path).1 = .ok archive →
        archive = directory.archiveAt (Place.ofPath path) := by
  unfold openDatabase
  dsimp only
  split
  · exact ⟨rfl, fun _ opened => nomatch opened⟩
  · split
    · exact ⟨rfl, fun _ opened => nomatch opened⟩
    · have same : (directory.makeFolders (Place.startOf path)
          (Place.namesOf path).dropLast).2.archiveAt = directory.archiveAt := by
        funext place
        rw [archiveAt, databases_makeFolders, archiveAt]
      generalize directory.makeFolders (Place.startOf path) (Place.namesOf path).dropLast = made
        at same
      obtain ⟨outcome, next⟩ := made
      cases outcome with
      | error fault => exact ⟨same, fun _ opened => nomatch opened⟩
      | ok =>
        obtain ⟨kept, opens⟩ := archiveAt_openIn next path
        refine ⟨kept.trans same, fun archive opened => ?_⟩
        rw [opens archive opened]
        exact congrFun same _

end ArbitratedEscrow.DataDirectory

import BssLiteRt.Archive.RoundTrip
import BssLiteRt.Downloadable.Files
import BssLiteRt.Library.FileCalls

/-!
Owns `write_archive` on a file system that may refuse any step: the target gets the
whole archive or keeps what it held. A path is given from the root, with its links and
its `..` as they are written.
-/

namespace BssLiteRt.Downloadable

open BssLiteRt.Library BssLiteRt.Python BssLiteRt.Archive

/-! ### Writing an archive -/

/-- What the operating system refuses: the places where it makes no directory, to open
or to rename, and the bytes it is willing to write before it fails. -/
structure Faults where
  refuses : Path → Bool
  refusesOpen : Bool
  written : Option Nat
  refusesRename : Bool

/-- Why `write_archive` raises. -/
inductive Failure where
  | python (error : PyError)
  | system (error : FileSystem.OsError)
deriving DecidableEq

def nulInPath (call : String) : String :=
  call ++ ": embedded null character in path"

/-- What a call raises, with the message for a path that cannot be given to the system. -/
def raised (embeddedNull : String) (error : FileSystem.OsError) : Failure :=
  if error = .embeddedNull then .python ⟨.valueError, embeddedNull⟩ else .system error

/-- `path.with_name(f".{path.name}.tmp")` -/
def temporaryPath (path : List String) : Option (List String) :=
  path.getLast?.map fun name => path.dropLast ++ [temporaryName name]

/-- `path.write_bytes(data)` -/
def writeBytes (faults : Faults) (system : FileSystem) (path : List String) (data : Bytes) :
    Except Failure Unit × FileSystem :=
  if faults.refusesOpen then (.error (.system .refused), system)
  else
    match system.openTruncated path with
    | .error error => (.error (raised "embedded null byte" error), system)
    | .ok (number, opened) =>
        match faults.written with
        | some count => (.error (.system .refused), opened.setContents number (data.take count))
        | none => (.ok (), opened.setContents number data)

/-- `source.replace(target)` -/
def replace (faults : Faults) (system : FileSystem) (source target : List String) :
    Except Failure Unit × FileSystem :=
  if faults.refusesRename then (.error (.system .refused), system)
  else
    match system.rename source target with
    | .error error => (.error (raised "replace: embedded null character in src" error), system)
    | .ok renamed => (.ok (), renamed)

/-- The body of the `try` of `write_archive`. -/
def writeAndReplace (py : StandardLibrary) (faults : Faults) (system : FileSystem)
    (temporary path : List String) (entries : Dict String Bytes) :
    Except Failure Unit × FileSystem :=
  match archiveBytes py entries with
  | .error error => (.error (.python error), system)
  | .ok data =>
      match writeBytes faults system temporary data with
      | (.error failure, written) => (.error failure, written)
      | (.ok (), written) => replace faults written temporary path

/-- What a call leaves behind, and whether the `unlink` of its `finally` has returned
where the call got there. -/
structure Written where
  result : Except Failure Unit
  system : FileSystem
  cleaned : Bool

/-- `write_archive`, with the `finally` after either outcome of its body. -/
def writeArchiveFile (py : StandardLibrary) (faults : Faults) (system : FileSystem)
    (path : List String) (entries : Dict String Bytes) : Written :=
  match system.makeDirectories faults.refuses path.dropLast with
  | (.error error, made) => ⟨.error (raised (nulInPath "mkdir") error), made, true⟩
  | (.ok (), made) =>
      match temporaryPath path with
      | none => ⟨.error (.python ⟨.valueError, "PosixPath('/') has an empty name"⟩), made, true⟩
      | some temporary =>
          let (result, after) := writeAndReplace py faults made temporary path entries
          match after.unlinkIfThere temporary with
          | .error error => ⟨.error (raised (nulInPath "unlink") error), after, false⟩
          | .ok cleaned => ⟨result, cleaned, true⟩

/-! ### A file that is written aside -/

section Steps

variable {faults : Faults} {system after : FileSystem} {temporary path : List String}
  {held place : Path} {data : Bytes}

/-- Only a file of one's own has changed. -/
structure ChangedAt (held : Path) (before after : FileSystem) : Prop where
  onlyAt : FileSystem.OnlyAt held before after
  keeps : FileSystem.Keeps before after
  own : after.Unshared held
  notDirectory : before.nodes held ≠ some .directory → after.nodes held ≠ some .directory

theorem ChangedAt.refl (own : system.Unshared held) : ChangedAt held system system :=
  ⟨.refl held system, fun _ _ found _ => found, own, id⟩

theorem writeBytes_unshared (located : system.locate .isADirectory temporary = .ok held)
    (own : system.Unshared held) :
    ChangedAt held system (writeBytes faults system temporary data).2 ∧
      ((writeBytes faults system temporary data).1 = .ok () → ∃ number,
        (writeBytes faults system temporary data).2.nodes held = some (.file number) ∧
          (writeBytes faults system temporary data).2.contents number = data) := by
  unfold writeBytes
  split
  · exact ⟨.refl own, nofun⟩
  · rw [FileSystem.openTruncated_of_locate located own.notLink]
    split
    · exact ⟨.refl own, nofun⟩
    · rename_i number opened returned
      obtain ⟨onlyAt, found, stillOwn, notDirectory⟩ :=
        FileSystem.truncateAt_unshared own returned
      have changed (bytes : Bytes) : ChangedAt held system (opened.setContents number bytes) := by
        have whole := onlyAt.trans
          (@FileSystem.setContents_onlyAt opened held number bytes stillOwn found)
        exact ⟨whole, whole.keeps own notDirectory, stillOwn.setContents, fun _ => by simp [found]⟩
      split
      · exact ⟨changed _, nofun⟩
      · exact ⟨changed _,
          fun _ => ⟨number, found, FileSystem.contents_setContents_self number data⟩⟩

/-- A path without a place is not written. -/
theorem writeBytes_unlocated (siblings : FileSystem.Siblings temporary path)
    (unlocated : ∀ held, system.locate .isADirectory temporary ≠ .ok held) :
    ∃ failure, writeBytes faults system temporary data = (.error failure, system) := by
  unfold writeBytes
  split
  · exact ⟨_, rfl⟩
  · split
    · exact ⟨_, rfl⟩
    · rename_i number opened returned
      obtain ⟨above, left, right, rfl, -, -, notDots⟩ := siblings.names
      obtain ⟨held, located⟩ := FileSystem.locate_of_openTruncated notDots returned
      exact absurd located (unlocated held)

/-- What writing aside and renaming leave to the `finally`: only then is the place of the
path another, and it holds what is `good`. -/
structure Saved {Error : Type} (good : Bytes → Prop) (temporary path : List String)
    (held place : Path) (before : FileSystem) (outcome : Except Error Unit × FileSystem) :
    Prop where
  located : outcome.2.locate .isADirectory temporary = .ok held ∨
    ∃ error, outcome.2.locate .isADirectory temporary = .error error ∧ error ≠ .noSuchFile
  notDirectory : before.nodes held ≠ some .directory → outcome.2.nodes held ≠ some .directory
  others : ∀ other, other ≠ held → other ≠ place → outcome.2.entry other = before.entry other
  raised : ∀ failure, outcome.1 = .error failure → outcome.2.entry place = before.entry place
  returned : outcome.1 = .ok () → outcome.2.nodes held = none ∧
    (outcome.2.locate .isADirectory temporary = .ok held →
      outcome.2.locate .isADirectory path = .ok place) ∧
    ∃ data, good data ∧ outcome.2.entry place = some (.bytes data)

variable {Error : Type} {good : Bytes → Prop}

/-- A body that fails has touched the temporary file only. -/
theorem Saved.stops {failure : Error}
    (located : system.locate .isADirectory temporary = .ok held) (apart : place ≠ held)
    (changed : ChangedAt held system after) :
    Saved good temporary path held place system (.error failure, after) :=
  ⟨.inl (FileSystem.locate_keeps changed.keeps located), changed.notDirectory,
    fun other different _ => changed.onlyAt.entry other different,
    fun _ _ => changed.onlyAt.entry place apart, nofun⟩

/-- The rename of a written file puts it in the place of the path. -/
theorem Saved.replaced {written : FileSystem} {number : Nat}
    (siblings : FileSystem.Siblings temporary path)
    (located : system.locate .isADirectory temporary = .ok held)
    (changed : ChangedAt held system written)
    (found : written.nodes held = some (.file number)) (isGood : good (written.contents number))
    (replaced : replace faults written temporary path = (.ok (), after)) :
    Saved good temporary path held (FileSystem.beside held path) system
      ((.ok (), after) : Except Error Unit × FileSystem) := by
  have locatedWritten := FileSystem.locate_keeps changed.keeps located
  unfold replace at replaced
  split at replaced
  · cases replaced
  · split at replaced
    · cases replaced
    · rename_i moves renamed
      obtain rfl := (Prod.mk.inj replaced).2
      obtain ⟨source, isSource, rest⟩ := FileSystem.bind_ok.mp renamed
      obtain ⟨target, isTarget, moved⟩ := FileSystem.bind_ok.mp rest
      obtain rfl := Except.ok.inj
        ((FileSystem.locate_any isSource .isADirectory).symm.trans locatedWritten)
      have locatedTarget := FileSystem.locate_any isTarget .isADirectory
      obtain rfl := siblings.located locatedWritten locatedTarget
      have apart := siblings.apart located
      have placed := FileSystem.renameAt_unshared changed.own found apart moved
      refine ⟨?_, fun _ => by simp [placed.gone], fun spot notHeld notPlace => ?_, nofun,
        fun _ => ⟨placed.gone, siblings.follows locatedWritten locatedTarget, _, isGood, ?_⟩⟩
      · refine ((placed.losesAt found).locate locatedWritten).imp_right
          fun ⟨error, failed, absent⟩ => ⟨error, failed, fun missing => ?_⟩
        exact absurd ((absent missing).symm.trans placed.atTarget) nofun
      · exact (placed.entry spot notHeld notPlace).trans (changed.onlyAt.entry spot notHeld)
      · rw [FileSystem.entry_file placed.atTarget, placed.contents]

/-- What is left after the last unlink. -/
structure Kept {Error : Type} (good : Bytes → Prop) (path : List String) (held place : Path)
    (before : FileSystem) (result : Except Error Unit) (after : FileSystem) : Prop where
  others : ∀ other, other ≠ held → other ≠ place → after.entry other = before.entry other
  raised : ∀ failure, result = .error failure → after.entry place = before.entry place
  returned : result = .ok () → ∃ data, good data ∧ after.entry place = some (.bytes data) ∧
    after.readFile path = some data

theorem Saved.cleaned {outcome : Except Error Unit × FileSystem} (apart : place ≠ held)
    (saved : Saved good temporary path held place system outcome)
    (removed : outcome.2.unlinkIfThere temporary = .ok after) :
    Kept good path held place system outcome.1 after := by
  have located : outcome.2.locate .isADirectory temporary = .ok held := by
    rcases saved.located with found | ⟨error, failed, other⟩
    · exact found
    · rcases FileSystem.unlinkIfThere_ok removed with ⟨-, missing | ⟨_, found, -⟩⟩ | ⟨_, found, -⟩
      · exact absurd (Except.error.inj (failed.symm.trans missing)) other
      · exact absurd (failed.symm.trans found) nofun
      · exact absurd (failed.symm.trans found) nofun
  have gone : after = outcome.2 ∨ FileSystem.OnlyAt held outcome.2 after ∧
      outcome.2.nodes held ≠ none := by
    rcases FileSystem.unlinkIfThere_ok removed with ⟨same, -⟩ | ⟨spot, found, unlinked⟩
    · exact .inl same
    · obtain rfl := Except.ok.inj (located.symm.trans found)
      refine .inr ⟨(FileSystem.unlinkAt_onlyAt unlinked).1, fun absent => ?_⟩
      rw [FileSystem.unlinkAt, if_pos absent] at unlinked
      cases unlinked
  have entries (other : Path) (notHeld : other ≠ held) :
      after.entry other = outcome.2.entry other := by
    rcases gone with rfl | ⟨onlyAt, -⟩
    · rfl
    · exact onlyAt.entry other notHeld
  refine ⟨fun other notHeld notPlace => ?_, fun failure failed => ?_, fun succeeded => ?_⟩
  · exact (entries other notHeld).trans (saved.others other notHeld notPlace)
  · exact (entries place apart).trans (saved.raised failure failed)
  · obtain ⟨absent, follows, data, isGood, holds⟩ := saved.returned succeeded
    obtain rfl := gone.resolve_right fun removed => removed.2 absent
    exact ⟨data, isGood, holds, FileSystem.readFile_of_locate (follows located) holds⟩

end Steps

/-! ### All or nothing -/

section Archive

variable {py : StandardLibrary} {faults : Faults} {system after : FileSystem}
  {path temporary : List String} {held place : Path} {entries : Dict String Bytes}

theorem temporaryName_length (name : String) : 5 ≤ (temporaryName name).toList.length := by
  simp only [temporaryName, String.toList_append, List.length_append]
  have front : ".".toList.length = 1 := by decide
  have back : ".tmp".toList.length = 4 := by decide
  omega

/-- The temporary path is another name in the same directory. -/
theorem temporaryPath_eq_some (named : temporaryPath path = some temporary) :
    FileSystem.Siblings temporary path := by
  obtain ⟨name, last, rfl⟩ := Option.map_eq_some_iff.mp named
  have shape := List.dropLast_append_getLast? name last
  have notShort (short : String) (few : short.toList.length < 5) : temporaryName name ≠ short := by
    rintro rfl
    exact absurd (temporaryName_length name) (Nat.not_le.mpr few)
  exact ⟨path.dropLast, temporaryName name, name, rfl, shape.symm, temporaryName_ne name,
    notShort "." (by decide), notShort ".." (by decide)⟩

theorem replace_error {failure : Failure} {source target : List String}
    (failed : replace faults system source target = (.error failure, after)) : after = system := by
  unfold replace at failed
  split at failed
  · exact (Prod.mk.inj failed).2.symm
  · split at failed
    · exact (Prod.mk.inj failed).2.symm
    · cases failed

theorem writeAndReplace_saved (siblings : FileSystem.Siblings temporary path)
    (located : system.locate .isADirectory temporary = .ok held) (own : system.Unshared held) :
    Saved (fun data => archiveBytes py entries = .ok data) temporary path held
      (FileSystem.beside held path) system
      (writeAndReplace py faults system temporary path entries) := by
  have apart := siblings.apart located
  unfold writeAndReplace
  split
  · exact .stops located apart (.refl own)
  · rename_i data archived
    obtain ⟨changed, complete⟩ :=
      @writeBytes_unshared faults system temporary held data located own
    split
    · rename_i failure written outcome
      rw [outcome] at changed complete
      exact .stops located apart changed
    · rename_i written outcome
      rw [outcome] at changed complete
      obtain ⟨number, found, holds⟩ := complete rfl
      have isGood : archiveBytes py entries = .ok (written.contents number) := holds ▸ archived
      cases replaced : replace faults written temporary path with
      | mk result moved =>
          cases result with
          | error failure =>
              obtain rfl := replace_error replaced
              exact .stops located apart changed
          | ok returned => exact .replaced siblings located changed found isGood replaced

/-- A temporary path without a place leaves everything as it is. -/
theorem writeAndReplace_unlocated (siblings : FileSystem.Siblings temporary path)
    (unlocated : ∀ held, system.locate .isADirectory temporary ≠ .ok held) :
    ∃ failure, writeAndReplace py faults system temporary path entries =
      (.error failure, system) := by
  unfold writeAndReplace
  split
  · exact ⟨_, rfl⟩
  · rename_i data archived
    obtain ⟨failure, failed⟩ := @writeBytes_unlocated faults system temporary path data siblings
      unlocated
    rw [failed]
    exact ⟨failure, rfl⟩

end Archive

/-- The target holds the whole archive, or it holds what it held and an error is
raised. Nothing else is left behind. -/
structure AllOrNothing (py : StandardLibrary) (entries : Dict String Bytes) (path : List String)
    (before : FileSystem) (outcome : Written) : Prop where
  raised : ∀ failure, outcome.result = .error failure → ∀ place, before.placeOf path = some place →
    outcome.system.entry place = before.entry place
  returned : outcome.result = .ok () → ∃ data place, archiveBytes py entries = .ok data ∧
    before.placeOf path = some place ∧ outcome.system.entry place = some (.bytes data) ∧
    outcome.system.readFile path = some data
  temporaryGone : ∀ temporary, temporaryPath path = some temporary →
    outcome.system.lexists temporary = false
  others : ∀ other, before.placeOf path ≠ some other →
    (∀ temporary, temporaryPath path = some temporary → before.placeOf temporary ≠ some other) →
      outcome.system.entry other = before.entry other

theorem allOrNothing_stops {py : StandardLibrary} {entries : Dict String Bytes}
    {path : List String} {system after : FileSystem} {failure : Failure} {cleaned : Bool}
    (same : ∀ other, after.entry other = system.entry other)
    (gone : ∀ temporary, temporaryPath path = some temporary → after.lexists temporary = false) :
    AllOrNothing py entries path system ⟨.error failure, after, cleaned⟩ :=
  ⟨fun _ _ place _ => same place, nofun, gone, fun other _ _ => same other⟩

theorem writeArchiveFile_unshared (py : StandardLibrary) (faults : Faults)
    (system : FileSystem) (path : List String) (entries : Dict String Bytes)
    (cleaned : (writeArchiveFile py faults system path entries).cleaned = true)
    (own : ∀ temporary held, temporaryPath path = some temporary →
      system.placeOf temporary = some held → system.Unshared held) :
    AllOrNothing py entries path system (writeArchiveFile py faults system path entries) := by
  obtain ⟨made, complete⟩ :=
    FileSystem.makeDirectories_made faults.refuses system path.dropLast
  unfold writeArchiveFile at cleaned ⊢
  split
  · rename_i error after outcome
    rw [outcome] at made complete
    refine allOrNothing_stops made.entry fun temporary named => ?_
    obtain ⟨name, -, rfl⟩ := Option.map_eq_some_iff.mp named
    exact FileSystem.lexists_of_not_isDir fun isDirectory => absurd (complete.mpr isDirectory) nofun
  · rename_i after outcome
    rw [outcome] at made cleaned
    dsimp only at cleaned
    split
    · rename_i unnamed
      refine allOrNothing_stops made.entry fun temporary named => ?_
      rw [unnamed] at named
      cases named
    · rename_i temporary named
      have siblings := temporaryPath_eq_some named
      rw [named] at cleaned
      dsimp only at cleaned ⊢
      split
      · rename_i error failed
        rw [failed] at cleaned
        cases cleaned
      · rename_i cleared removed
        have gone (other : List String) (sameName : temporaryPath path = some other) :
            cleared.lexists other = false := by
          obtain rfl := Option.some.inj (named.symm.trans sameName)
          exact FileSystem.lexists_of_unlinkIfThere removed
        by_cases found : ∃ held, after.locate .isADirectory temporary = .ok held
        · obtain ⟨held, located⟩ := found
          have heldBefore := (made.placeOf temporary).symm.trans
            (FileSystem.placeOf_of_locate located)
          have placedBefore := (made.placeOf path).symm.trans (siblings.placeOf located)
          have saved := @writeAndReplace_saved py faults after path temporary held entries
            siblings located ((own temporary held named heldBefore).made made)
          have kept := saved.cleaned (siblings.apart located) removed
          refine ⟨fun failure failed other sameTarget => ?_, fun succeeded => ?_, gone,
            fun other notTarget notTemporary => ?_⟩
          · obtain rfl := Option.some.inj (placedBefore.symm.trans sameTarget)
            exact (kept.raised failure failed).trans (made.entry _)
          · obtain ⟨data, archived, holds, read⟩ := kept.returned succeeded
            exact ⟨data, _, archived, placedBefore, holds, read⟩
          · have notHeld : other ≠ held := fun same =>
              notTemporary temporary named (same ▸ heldBefore)
            have notPlace : other ≠ FileSystem.beside held path :=
              fun same => notTarget (same ▸ placedBefore)
            exact (kept.others other notHeld notPlace).trans (made.entry other)
        · obtain ⟨failure, failed⟩ := @writeAndReplace_unlocated py faults after path temporary
            entries siblings (not_exists.mp found)
          rw [failed] at removed ⊢
          rcases FileSystem.unlinkIfThere_ok removed with ⟨rfl, -⟩ | ⟨held, located, -⟩
          · exact allOrNothing_stops made.entry gone
          · exact absurd ⟨held, located⟩ found

/-- Writing is all or nothing when the temporary name is no link to another file, and its
last `unlink` returns. -/
theorem write_archive_all_or_nothing (py : StandardLibrary) (faults : Faults)
    (system : FileSystem) (path : List String) (entries : Dict String Bytes)
    (cleaned : (writeArchiveFile py faults system path entries).cleaned = true)
    (own : ∀ temporary held, temporaryPath path = some temporary →
      system.placeOf temporary = some held → system.Unshared held) :
    AllOrNothing py entries path system (writeArchiveFile py faults system path entries) :=
  writeArchiveFile_unshared py faults system path entries cleaned own

/-! ### The files of a directory -/

/-- The regular files right in the directory. -/
def HoldsFiles (system : FileSystem) (directory : Path) (files : Dict String Bytes) : Prop :=
  ∀ name data, system.entry (directory ++ [name]) = some (.bytes data) ↔ files.get? name = some data

theorem placeOf_child {system : FileSystem} {directory : Path}
    (stands : system.nodes directory = some .directory) (name : String) :
    system.placeOf (directory ++ [name]) = some (directory ++ [name]) := by
  have resolved := FileSystem.realPath_of_walk (FileSystem.walk_directory stands _)
  rw [FileSystem.placeOf, List.getLast?_concat, List.dropLast_concat, resolved]

/-- The builder's `writeArchive` is what a write on the file system does, when it
returns; a refused write only takes an older temporary file away. -/
theorem holdsFiles_writeArchiveFile {py : StandardLibrary} (faults : Faults) {system : FileSystem}
    {directory : Path} {output : Dict String Bytes} (name : String) (entries : Dict String Bytes)
    (stands : system.nodes directory = some .directory)
    (own : system.Unshared (directory ++ [temporaryName name]))
    (cleaned : (writeArchiveFile py faults system (directory ++ [name]) entries).cleaned = true)
    (holds : HoldsFiles system directory output) :
    let outcome := writeArchiveFile py faults system (directory ++ [name]) entries
    (outcome.result = .ok () → ∃ output', writeArchive py output name entries = .ok output' ∧
        HoldsFiles outcome.system directory output') ∧
      (∀ failure, outcome.result = .error failure →
        HoldsFiles outcome.system directory (output.erase (temporaryName name))) := by
  have named : temporaryPath (directory ++ [name]) = some (directory ++ [temporaryName name]) := by
    rw [temporaryPath, List.getLast?_concat, List.dropLast_concat]
    rfl
  have result := writeArchiveFile_unshared py faults system (directory ++ [name]) entries cleaned
    (by
      intro temporary held same placed
      obtain rfl := Option.some.inj (named.symm.trans same)
      rw [placeOf_child stands] at placed
      exact Option.some.inj placed ▸ own)
  intro outcome
  have others (other : String) (notTarget : other ≠ name)
      (notTemporary : other ≠ temporaryName name) :
      outcome.system.entry (directory ++ [other]) = system.entry (directory ++ [other]) := by
    apply result.others
    · rw [placeOf_child stands]
      simpa using Ne.symm notTarget
    · intro temporary same
      obtain rfl := Option.some.inj (named.symm.trans same)
      rw [placeOf_child stands]
      simpa using Ne.symm notTemporary
  have noTemporary (data : Bytes) :
      outcome.system.entry (directory ++ [temporaryName name]) ≠ some (.bytes data) := by
    intro present
    obtain ⟨number, found, -⟩ := FileSystem.entry_eq_bytes.mp present
    have there := FileSystem.lexists_of_locate (@FileSystem.locate_of_present _ .busy _ _ _ found)
    rw [result.temporaryGone _ named, found] at there
    cases there
  refine ⟨fun returned => ?_, fun failure raised other data => ?_⟩
  · obtain ⟨data, place, archived, placed, written, -⟩ := result.returned returned
    rw [placeOf_child stands] at placed
    obtain rfl := Option.some.inj placed
    refine ⟨Downloadable.place output name data, by rw [writeArchive, archived]; rfl,
      fun other found => ?_⟩
    rw [get?_place]
    by_cases temporary : other = temporaryName name
    · rw [if_pos temporary, temporary]
      exact ⟨fun present => absurd present (noTemporary _),
        fun absent => absurd absent.symm (Option.some_ne_none _)⟩
    · rw [if_neg temporary]
      by_cases target : other = name
      · rw [if_pos target, target, written]
        simp
      · rw [if_neg target, others other target temporary]
        exact holds other found
  · rw [Dict.get?_erase]
    by_cases temporary : other = temporaryName name
    · rw [if_pos temporary, temporary]
      exact ⟨fun present => absurd present (noTemporary _),
        fun absent => absurd absent.symm (Option.some_ne_none _)⟩
    · rw [if_neg temporary]
      by_cases target : other = name
      · rw [target, result.raised failure raised _ (placeOf_child stands name)]
        exact holds name data
      · rw [others other target temporary]
        exact holds other data

/-! ### A temporary name that is a link -/

/-- The directory `dist` with the file `out.zip`, and a link `release` to it. -/
def releaseTree : FileSystem :=
  (((FileSystem.unplaced [[1], [2]]).setNode ["dist"] (some .directory) (by decide)).setNode
    ["dist", "out.zip"] (some (.file 0)) (by decide)).setNode ["release"]
      (some (.symlink ["dist"])) (by decide)

/-- The name `write_archive` writes to leads to the target. -/
def linkedSystem : FileSystem :=
  releaseTree.setNode ["dist", ".out.zip.tmp"] (some (.symlink ["dist", "out.zip"])) (by decide)

/-- The name `write_archive` writes to is another name of the target's file. -/
def hardLinkedSystem : FileSystem :=
  releaseTree.setNode ["dist", ".out.zip.tmp"] (some (.file 0)) (by decide)

/-- An older temporary file is left over. -/
def leftOverSystem : FileSystem :=
  releaseTree.setNode ["dist", ".out.zip.tmp"] (some (.file 1)) (by decide)

/-- A disk that is full at once. -/
def fullDisk : Faults where
  refuses _ := false
  refusesOpen := false
  written := some 0
  refusesRename := false

/-- `write_archive` raises, and `out.zip` has lost what it held. -/
def TruncatesTarget (system : FileSystem) : Prop :=
  let outcome :=
    writeArchiveFile concreteLibrary fullDisk system ["release", "out.zip"] Dict.empty
  outcome.result = .error (.system .refused) ∧ outcome.cleaned = true ∧
    system.entry ["dist", "out.zip"] = some (.bytes [1]) ∧
      outcome.system.entry ["dist", "out.zip"] = some (.bytes [])

instance (system : FileSystem) : Decidable (TruncatesTarget system) :=
  inferInstanceAs (Decidable (_ ∧ _))

theorem linked_target_truncated :
    TruncatesTarget linkedSystem ∧ TruncatesTarget hardLinkedSystem := by
  decide

theorem write_archive_all_or_nothing_left_over :
    AllOrNothing concreteLibrary Dict.empty ["release", "out.zip"] leftOverSystem
      (writeArchiveFile concreteLibrary fullDisk leftOverSystem ["release", "out.zip"]
        Dict.empty) := by
  refine write_archive_all_or_nothing _ _ _ _ _ (by decide) fun temporary held named placed => ?_
  obtain rfl : temporary = ["release", ".out.zip.tmp"] := by
    have computed : temporaryPath ["release", "out.zip"] = some ["release", ".out.zip.tmp"] := by
      decide
    exact Option.some.inj (named.symm.trans computed)
  obtain rfl : held = ["dist", ".out.zip.tmp"] := by
    have computed : leftOverSystem.placeOf ["release", ".out.zip.tmp"] =
        some ["dist", ".out.zip.tmp"] := by decide
    exact Option.some.inj (placed.symm.trans computed)
  refine ⟨fun target => ?_, fun number other atTemporary atOther => ?_⟩
  · rw [leftOverSystem, FileSystem.nodes_setNode_self]
    nofun
  · by_contra different
    rw [leftOverSystem, FileSystem.nodes_setNode_self] at atTemporary
    rw [leftOverSystem, FileSystem.nodes_setNode_of_ne different] at atOther
    obtain rfl := FileSystem.Node.file.inj (Option.some.inj atTemporary)
    simp only [releaseTree, FileSystem.nodes_setNode, FileSystem.unplaced] at atOther
    split_ifs at atOther <;> cases atOther

end BssLiteRt.Downloadable

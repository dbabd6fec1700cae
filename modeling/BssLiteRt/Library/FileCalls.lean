import BssLiteRt.Library.PathWalk

/-!
Owns the calls that a program makes on paths: each walks to the directory of its path
and changes one place there. A link in the last component is followed only when a file
is opened.
-/

namespace BssLiteRt.Library.FileSystem

variable {system after : FileSystem} {path : List String} {place : Path}

/-! ### Places -/

/-- The directory that a path leads to. -/
def enter (system : FileSystem) (path : List String) : Except OsError Path := do
  let found ← system.walk linkLimit [] path
  if system.nodes found = some .directory then return found else .error .notADirectory

/-- `path.is_dir()` -/
def isDir (system : FileSystem) (path : List String) : Bool :=
  (system.enter path).isOk

/-- The place of a path in the directory that the rest of it leads to, or the error of
a call that needs a name there. -/
def locate (system : FileSystem) (unnamed : OsError) (path : List String) :
    Except OsError Path :=
  if path.any hasNul then .error .embeddedNull
  else
    match path.getLast? with
    | none => .error unnamed
    | some name => do
        let parent ← system.enter path.dropLast
        if name = "." ∨ name = ".." then .error unnamed else return parent ++ [name]

/-- Something stands where a path leads that ends in a name. -/
def lexists (system : FileSystem) (path : List String) : Bool :=
  match system.locate .busy path with
  | .ok place => (system.nodes place).isSome
  | .error _ => false

/-- The place of a path, also of one whose directories are not there yet. -/
def placeOf (system : FileSystem) (path : List String) : Option Path :=
  match path.getLast?, system.realPath path.dropLast with
  | some name, .ok parent => some (parent ++ [name])
  | some _, .error _ => none
  | none, _ => none

/-! ### Calls -/

/-- Make a directory, unless the system refuses one at its place. -/
def mkdir (refuses : Path → Bool) (system : FileSystem) (path : List String) :
    Except OsError FileSystem := do
  let place ← system.locate .fileExists path
  if system.nodes place ≠ none then .error .fileExists
  else if refuses place then .error .refused
  else if settable : system.Settable place (some .directory) then
    return system.setNode place (some .directory) settable
  else .error .noSuchFile

/-- `path.mkdir(exist_ok=True)` -/
def makeDirectory (refuses : Path → Bool) (system : FileSystem) (path : List String) :
    Except OsError Unit × FileSystem :=
  match system.mkdir refuses path with
  | .ok made => (.ok (), made)
  | .error error =>
      if error ≠ .noSuchFile ∧ system.isDir path then (.ok (), system) else (.error error, system)

/-- `path.mkdir(parents=True, exist_ok=True)` of a path in reverse. -/
def makeReversed (refuses : Path → Bool) (system : FileSystem) :
    List String → Except OsError Unit × FileSystem
  | [] => makeDirectory refuses system []
  | name :: above =>
      match system.mkdir refuses (name :: above).reverse with
      | .error .noSuchFile =>
          match makeReversed refuses system above with
          | (.error error, made) => (.error error, made)
          | (.ok (), made) => makeDirectory refuses made (name :: above).reverse
      | _ => makeDirectory refuses system (name :: above).reverse

def makeDirectories (refuses : Path → Bool) (system : FileSystem) (path : List String) :
    Except OsError Unit × FileSystem :=
  makeReversed refuses system path.reverse

/-- Open a file for writing: an empty file, new when there is none. -/
def openTruncated (system : FileSystem) (path : List String) :
    Except OsError (Nat × FileSystem) :=
  if path.any hasNul then .error .embeddedNull
  else do
    let place ← system.walkTo true linkLimit [] path
    system.truncateAt place

/-- The bytes of the file that a path leads to. -/
def readFile (system : FileSystem) (path : List String) : Option (List UInt8) :=
  match system.walk linkLimit [] path with
  | .error _ => none
  | .ok found =>
      match system.nodes found with
      | some (.file number) => some (system.contents number)
      | _ => none

/-- `path.exists()` -/
def pathExists (system : FileSystem) (path : List String) : Bool :=
  (system.walk linkLimit [] path).isOk

def rename (system : FileSystem) (source target : List String) : Except OsError FileSystem := do
  let source ← system.locate .busy source
  let target ← system.locate .busy target
  system.renameAt source target

def unlink (system : FileSystem) (path : List String) : Except OsError FileSystem := do
  let place ← system.locate .isADirectory path
  system.unlinkAt place

/-- `path.unlink(missing_ok=True)` -/
def unlinkIfThere (system : FileSystem) (path : List String) : Except OsError FileSystem :=
  match system.unlink path with
  | .error .noSuchFile => .ok system
  | result => result

/-! ### Directories and places -/

section Places

variable {above : List String} {name : String} {parent : Path} {unnamed : OsError}

theorem bind_ok {α β : Type} {first : Except OsError α} {next : α → Except OsError β} {result : β} :
    (first >>= next) = .ok result ↔ ∃ value, first = .ok value ∧ next value = .ok result := by
  cases first with
  | error error => exact ⟨nofun, fun ⟨_, failed, _⟩ => absurd failed nofun⟩
  | ok value => exact ⟨fun returned => ⟨value, rfl, returned⟩, fun ⟨_, same, returned⟩ =>
      Except.ok.inj same ▸ returned⟩

theorem enter_eq_ok : system.enter path = .ok place ↔
    system.walk linkLimit [] path = .ok place ∧ system.nodes place = some .directory := by
  rw [enter, bind_ok]
  constructor
  · rintro ⟨found, walked, entered⟩
    split at entered
    · rename_i directory
      obtain rfl := Except.ok.inj entered
      exact ⟨walked, directory⟩
    · cases entered
  · rintro ⟨walked, directory⟩
    exact ⟨place, walked, if_pos directory⟩

theorem isDir_iff : system.isDir path = true ↔ ∃ place, system.enter path = .ok place := by
  unfold isDir
  cases system.enter path with
  | error => exact ⟨nofun, fun ⟨_, entered⟩ => absurd entered nofun⟩
  | ok place => exact ⟨fun _ => ⟨place, rfl⟩, fun _ => rfl⟩

theorem enter_keeps (keeps : Keeps system after) (entered : system.enter path = .ok place) :
    after.enter path = .ok place := by
  obtain ⟨arrives, directory⟩ := enter_eq_ok.mp entered
  obtain ⟨used, within, walked⟩ := walk_walks arrives
  have stays := keeps place _ directory nofun
  exact enter_eq_ok.mpr ⟨(walked.keeps keeps (stays.trans directory.symm)).walk within, stays⟩

/-- A walk to a name goes on from the directory of the name. -/
theorem walkTo_child (entered : system.enter above = .ok parent) (name : String) :
    ∃ left, ∀ creates, system.walkTo creates linkLimit [] (above ++ [name]) =
      system.walkTo creates left parent [name] := by
  obtain ⟨used, within, walked⟩ := walk_walks (enter_eq_ok.mp entered).1
  exact ⟨linkLimit - used, fun creates => walked.walkTo_append creates [name] within⟩

/-- A walk that gets to a name has entered the directory of the name. -/
theorem enter_of_walkTo {creates : Bool}
    (arrives : system.walkTo creates linkLimit [] (above ++ [name]) = .ok place) :
    ∃ parent, system.enter above = .ok parent := by
  cases walked : system.walkTo false linkLimit [] above with
  | error error =>
      rw [walkTo_append_error walked creates (List.cons_ne_nil _ _)] at arrives
      cases arrives
  | ok parent =>
      obtain ⟨used, within, derived⟩ := walk_walks walked
      refine ⟨parent, enter_eq_ok.mpr ⟨walked, ?_⟩⟩
      by_contra notDirectory
      rw [derived.walkTo_append creates [name] within, walkTo_cons, if_pos notDirectory] at arrives
      cases arrives

theorem isDir_parent (isDirectory : system.isDir (above ++ [name]) = true) :
    system.isDir above = true := by
  obtain ⟨place, entered⟩ := isDir_iff.mp isDirectory
  exact isDir_iff.mpr (enter_of_walkTo (enter_eq_ok.mp entered).1)

theorem locate_eq_ok : system.locate unnamed path = .ok place ↔
    path.any hasNul = false ∧ ∃ above name parent, path = above ++ [name] ∧
      system.enter above = .ok parent ∧ (name ≠ "." ∧ name ≠ "..") ∧ place = parent ++ [name] := by
  unfold locate
  split
  · rename_i nul
    rw [nul]
    exact ⟨nofun, fun both => absurd both.1 nofun⟩
  · rename_i noNul
    rw [Bool.not_eq_true] at noNul
    rw [and_iff_right noNul]
    rcases List.eq_nil_or_concat path with rfl | ⟨above, name, rfl⟩
    · exact ⟨nofun, fun ⟨above, name, _, same, _⟩ => absurd same (by simp)⟩
    · rw [List.concat_eq_append, List.getLast?_concat, List.dropLast_concat]
      dsimp only
      rw [bind_ok]
      constructor
      · rintro ⟨parent, entered, named⟩
        split at named
        · cases named
        · rename_i notDots
          exact ⟨above, name, parent, rfl, entered, not_or.mp notDots, (Except.ok.inj named).symm⟩
      · rintro ⟨front, last, parent, same, entered, notDots, rfl⟩
        obtain ⟨rfl, names⟩ := List.append_inj' same rfl
        obtain rfl := List.singleton_inj.mp names
        exact ⟨parent, entered, if_neg (not_or.mpr notDots)⟩

theorem locate_keeps (keeps : Keeps system after) (located : system.locate unnamed path = .ok place) :
    after.locate unnamed path = .ok place := by
  obtain ⟨noNul, above, name, parent, same, entered, rest⟩ := locate_eq_ok.mp located
  exact locate_eq_ok.mpr ⟨noNul, above, name, parent, same, enter_keeps keeps entered, rest⟩

/-- The error that it would have been does not matter. -/
theorem locate_any (located : system.locate unnamed path = .ok place) (other : OsError) :
    system.locate other path = .ok place :=
  locate_eq_ok.mpr (locate_eq_ok.mp located)

theorem placeOf_of_locate (located : system.locate unnamed path = .ok place) :
    system.placeOf path = some place := by
  obtain ⟨-, above, name, parent, rfl, entered, -, rfl⟩ := locate_eq_ok.mp located
  rw [placeOf, List.getLast?_concat, List.dropLast_concat,
    realPath_of_walk (enter_eq_ok.mp entered).1]

theorem Made.placeOf (made : Made system after) (path : List String) :
    after.placeOf path = system.placeOf path := by
  rw [FileSystem.placeOf, made.realPath, FileSystem.placeOf]

/-! A path is found where it was, or no longer, when a place has lost its link. -/

theorem LosesAt.enter {target : Path} (loses : LosesAt target system after)
    (entered : system.enter path = .ok place) :
    after.enter path = .ok place ∨
      ∃ error, after.enter path = .error error ∧
        (error = .noSuchFile → after.nodes target = none) := by
  obtain ⟨arrives, directory⟩ := enter_eq_ok.mp entered
  obtain ⟨used, within, walked⟩ := walk_walks arrives
  have kept : after.nodes place = some .directory :=
    loses.keeps place _ (fun same => loses.was (same ▸ directory)) directory nofun
  have outcome := walked.loses loses directory false [] within
  rw [List.append_nil, walkTo_nil] at outcome
  rcases outcome with same | stopped | ⟨error, failed, absent⟩
  · exact .inl (enter_eq_ok.mpr ⟨same, kept⟩)
  · refine .inr ⟨.notADirectory, ?_, nofun⟩
    rw [FileSystem.enter, FileSystem.walk, stopped]
    refine if_neg fun isDirectory => ?_
    obtain ⟨number, isFile⟩ := loses.now _ isDirectory
    cases isFile
  · refine .inr ⟨error, ?_, absent⟩
    rw [FileSystem.enter, FileSystem.walk, failed]
    rfl

theorem LosesAt.locate {target : Path} (loses : LosesAt target system after)
    (located : system.locate unnamed path = .ok place) :
    after.locate unnamed path = .ok place ∨
      ∃ error, after.locate unnamed path = .error error ∧
        (error = .noSuchFile → after.nodes target = none) := by
  obtain ⟨noNul, above, name, parent, rfl, entered, notDots, rfl⟩ := locate_eq_ok.mp located
  rcases loses.enter entered with same | ⟨error, failed, absent⟩
  · exact .inl (locate_eq_ok.mpr ⟨noNul, above, name, parent, rfl, same, notDots, rfl⟩)
  · refine .inr ⟨error, ?_, absent⟩
    rw [FileSystem.locate, noNul, if_neg Bool.false_ne_true, List.getLast?_concat,
      List.dropLast_concat]
    dsimp only
    rw [failed]
    rfl

theorem Moved.losesAt {source target : Path} {number : Nat}
    (moved : Moved source target number system after)
    (found : system.nodes source = some (.file number)) : LosesAt target system after where
  keeps spot node notTarget atSpot notFile := by
    rw [moved.others spot _ notTarget, atSpot]
    rintro rfl
    exact notFile number (Option.some.inj (atSpot.symm.trans found))
  was := moved.notDirectory
  now node atTarget := ⟨number, Option.some.inj (atTarget.symm.trans moved.atTarget)⟩

theorem unlinkAt_losesAt (unlinked : system.unlinkAt place = .ok after) :
    LosesAt place system after := by
  obtain ⟨onlyAt, gone, notDirectory⟩ := unlinkAt_onlyAt unlinked
  refine ⟨fun spot node different atSpot _ => (onlyAt.nodes spot different).trans atSpot,
    notDirectory, fun node atPlace => ?_⟩
  rw [gone] at atPlace
  cases atPlace

end Places

/-! ### Directories that are made -/

section Made

variable {refuses : Path → Bool} {above : List String} {name : String}

theorem mkdir_made (made : system.mkdir refuses path = .ok after) :
    Made system after ∧ after.isDir path = true := by
  obtain ⟨place, located, rest⟩ := bind_ok.mp made
  split at rest
  · cases rest
  · rename_i absent
    rw [not_not] at absent
    split at rest
    · cases rest
    · split at rest
      · rename_i settable
        obtain rfl := Except.ok.inj rest
        have isMade : Made system (system.setNode place (some .directory) settable) := by
          refine ⟨fun other => ?_, rfl⟩
          by_cases same : other = place
          · exact Or.inr ⟨same ▸ absent, same ▸ nodes_setNode_self⟩
          · exact Or.inl (nodes_setNode_of_ne same)
        obtain ⟨-, above, name, parent, rfl, entered, ⟨notSame, notUp⟩, rfl⟩ :=
          locate_eq_ok.mp located
        have enteredAfter := enter_keeps isMade.keeps entered
        obtain ⟨left, walked⟩ := walkTo_child enteredAfter name
        refine ⟨isMade, isDir_iff.mpr ⟨_, enter_eq_ok.mpr ⟨?_, nodes_setNode_self⟩⟩⟩
        rw [FileSystem.walk, walked, walkTo_cons,
          if_neg (not_not.mpr (enter_eq_ok.mp enteredAfter).2), if_neg notSame, if_neg notUp,
          nodes_setNode_self]
        dsimp only
        rw [walkTo_nil]
      · cases rest

/-- Only a path that leads to no directory lacks one above it. -/
theorem mkdir_of_isDir (isDirectory : system.isDir path = true) :
    system.mkdir refuses path ≠ .error .noSuchFile := by
  intro missing
  obtain ⟨found, entered⟩ := isDir_iff.mp isDirectory
  obtain ⟨arrives, directory⟩ := enter_eq_ok.mp entered
  rw [mkdir] at missing
  cases located : system.locate .fileExists path with
  | error error =>
      rw [located] at missing
      obtain rfl := Except.error.inj missing
      unfold locate at located
      split at located
      · cases located
      · rcases List.eq_nil_or_concat path with rfl | ⟨above, name, rfl⟩
        · cases located
        · rw [List.concat_eq_append] at arrives located
          obtain ⟨parent, enteredParent⟩ := enter_of_walkTo arrives
          rw [List.getLast?_concat, List.dropLast_concat] at located
          dsimp only at located
          rw [enteredParent] at located
          change (if name = "." ∨ name = ".." then _ else _) = _ at located
          split at located
          · cases located
          · cases located
  | ok place =>
      obtain ⟨-, above, name, parent, rfl, enteredParent, ⟨notSame, notUp⟩, rfl⟩ :=
        locate_eq_ok.mp located
      obtain ⟨left, walked⟩ := walkTo_child enteredParent name
      rw [FileSystem.walk, walked, walkTo_cons,
        if_neg (not_not.mpr (enter_eq_ok.mp enteredParent).2), if_neg notSame, if_neg notUp]
        at arrives
      rw [located] at missing
      change (if system.nodes (parent ++ [name]) ≠ none then _ else _) = _ at missing
      split at missing
      · cases missing
      · rename_i absent
        rw [not_not.mp absent] at arrives
        dsimp only at arrives
        rw [if_neg (fun creates => Bool.false_ne_true creates.1)] at arrives
        cases arrives

theorem makeDirectory_made : Made system (makeDirectory refuses system path).2 ∧
    ((makeDirectory refuses system path).1 = .ok () ↔
      (makeDirectory refuses system path).2.isDir path = true) := by
  unfold makeDirectory
  split
  · rename_i made returned
    obtain ⟨isMade, isDirectory⟩ := mkdir_made returned
    exact ⟨isMade, fun _ => isDirectory, fun _ => rfl⟩
  · rename_i error raised
    split
    · rename_i there
      exact ⟨.refl system, fun _ => there.2, fun _ => rfl⟩
    · rename_i notThere
      refine ⟨.refl system, nofun, fun isDirectory => absurd ⟨?_, isDirectory⟩ notThere⟩
      rintro rfl
      exact mkdir_of_isDir isDirectory raised

theorem makeReversed_made (reversed : List String) :
    Made system (makeReversed refuses system reversed).2 ∧
      ((makeReversed refuses system reversed).1 = .ok () ↔
        (makeReversed refuses system reversed).2.isDir reversed.reverse = true) := by
  induction reversed with
  | nil => exact makeDirectory_made
  | cons name above inductionHypothesis =>
      obtain ⟨made, complete⟩ := inductionHypothesis
      rw [makeReversed]
      split
      · split
        · rename_i error between outcome
          rw [outcome] at made complete
          refine ⟨made, nofun, fun isDirectory => ?_⟩
          rw [List.reverse_cons] at isDirectory
          exact absurd (complete.mpr (isDir_parent isDirectory)) nofun
        · rename_i between outcome
          rw [outcome] at made
          obtain ⟨later, decides⟩ := @makeDirectory_made between (name :: above).reverse refuses
          exact ⟨made.trans later, decides⟩
      · exact makeDirectory_made

/-- Directories are made, and the call returns where the path leads to one. -/
theorem makeDirectories_made (refuses : Path → Bool) (system : FileSystem) (path : List String) :
    Made system (makeDirectories refuses system path).2 ∧
      ((makeDirectories refuses system path).1 = .ok () ↔
        (makeDirectories refuses system path).2.isDir path = true) := by
  have reversed := @makeReversed_made system refuses path.reverse
  rwa [List.reverse_reverse] at reversed

end Made

/-! ### Files at a place -/

section Files

variable {unnamed : OsError}

/-- A located path is opened at its place, unless there is a link. -/
theorem openTruncated_of_locate (located : system.locate unnamed path = .ok place)
    (notLink : ∀ target, system.nodes place ≠ some (.symlink target)) :
    system.openTruncated path = system.truncateAt place := by
  obtain ⟨noNul, above, name, parent, rfl, entered, ⟨notSame, notUp⟩, rfl⟩ :=
    locate_eq_ok.mp located
  obtain ⟨left, walked⟩ := walkTo_child entered name
  have arrives : system.walkTo true linkLimit [] (above ++ [name]) = .ok (parent ++ [name]) := by
    rw [walked, walkTo_cons, if_neg (not_not.mpr (enter_eq_ok.mp entered).2), if_neg notSame,
      if_neg notUp]
    split
    · exact if_pos ⟨rfl, rfl⟩
    · rename_i target isLink
      exact absurd isLink (notLink target)
    · rw [walkTo_nil]
    · rw [walkTo_nil]
  rw [openTruncated, noNul, if_neg Bool.false_ne_true, arrives]
  rfl

/-- What is opened has a place. -/
theorem locate_of_openTruncated {above : List String} {name : String} {number : Nat}
    (notDots : name ≠ "." ∧ name ≠ "..")
    (opened : system.openTruncated (above ++ [name]) = .ok (number, after)) :
    ∃ place, system.locate unnamed (above ++ [name]) = .ok place := by
  unfold openTruncated at opened
  split at opened
  · cases opened
  · rename_i noNul
    obtain ⟨found, arrives, -⟩ := bind_ok.mp opened
    obtain ⟨parent, entered⟩ := enter_of_walkTo arrives
    rw [Bool.not_eq_true] at noNul
    exact ⟨_, locate_eq_ok.mpr ⟨noNul, above, name, parent, rfl, entered, notDots, rfl⟩⟩

theorem readFile_of_locate {data : List UInt8} (located : system.locate unnamed path = .ok place)
    (holds : system.entry place = some (.bytes data)) : system.readFile path = some data := by
  obtain ⟨-, above, name, parent, rfl, entered, ⟨notSame, notUp⟩, rfl⟩ := locate_eq_ok.mp located
  obtain ⟨left, walked⟩ := walkTo_child entered name
  obtain ⟨number, found, rfl⟩ := entry_eq_bytes.mp holds
  have arrives : system.walk linkLimit [] (above ++ [name]) = .ok (parent ++ [name]) := by
    rw [FileSystem.walk, walked, walkTo_cons, if_neg (not_not.mpr (enter_eq_ok.mp entered).2),
      if_neg notSame, if_neg notUp, found]
    dsimp only
    rw [walkTo_nil]
  rw [readFile, arrives]
  dsimp only
  rw [found]

theorem noNul_of_readFile {data : List UInt8} (read : system.readFile path = some data) :
    path.any hasNul = false := by
  unfold readFile at read
  split at read
  · cases read
  · rename_i found arrives
    obtain ⟨_, _, walked⟩ := walk_walks arrives
    exact walked.noNul

/-- A file is read alike through any path that leads to it. -/
theorem readFile_of_walk {found : Path} (arrives : system.walk linkLimit [] path = .ok found) :
    system.readFile path = system.readFile found := by
  rw [readFile, arrives, readFile, walk_again arrives]

theorem readFile_file {number : Nat} (present : system.nodes path = some (.file number)) :
    system.readFile path = some (system.contents number) := by
  rw [readFile, walk_file present]
  dsimp only
  rw [present]

/-- New directories hide no file. -/
theorem Made.readFile {data : List UInt8} (made : Made system after)
    (read : system.readFile path = some data) : after.readFile path = some data := by
  unfold FileSystem.readFile at read
  split at read
  · cases read
  · rename_i found arrives
    split at read
    · rename_i number isFile
      obtain ⟨used, within, walked⟩ := walk_walks arrives
      have kept : after.nodes found = system.nodes found := by
        refine (made.nodes found).resolve_right fun absent => ?_
        rw [isFile] at absent
        cases absent.1
      rw [FileSystem.readFile, (walked.keeps made.keeps kept).walk within]
      dsimp only
      rw [kept, isFile, made.contents]
      exact read
    · cases read

theorem lexists_of_locate (located : system.locate unnamed path = .ok place) :
    system.lexists path = (system.nodes place).isSome := by
  rw [lexists, locate_any located .busy]

/-- Nothing is found in what is no directory. -/
theorem lexists_of_not_isDir {above : List String} {name : String}
    (notDirectory : system.isDir above ≠ true) : system.lexists (above ++ [name]) = false := by
  unfold lexists
  split
  · rename_i place located
    obtain ⟨-, front, last, parent, same, entered, -⟩ := locate_eq_ok.mp located
    obtain ⟨rfl, -⟩ := List.append_inj' same rfl
    exact absurd (isDir_iff.mpr ⟨parent, entered⟩) notDirectory
  · rfl

/-- What stands somewhere is found by its place. -/
theorem locate_of_present {parent : Path} {name : String} {node : Node}
    (present : system.nodes (parent ++ [name]) = some node) :
    system.locate unnamed (parent ++ [name]) = .ok (parent ++ [name]) := by
  have directory : system.nodes parent = some .directory := by
    have stands := system.rooted _ node (by simp) present
    rwa [List.dropLast_concat] at stands
  exact locate_eq_ok.mpr ⟨noNul_of_present present, parent, name, parent, rfl,
    enter_eq_ok.mpr ⟨walk_directory directory _, directory⟩,
    not_dots_of_isName (isName_of_child present), rfl⟩

/-- Nothing was there, or what was there has been removed. -/
theorem unlinkIfThere_ok (removed : system.unlinkIfThere path = .ok after) :
    (after = system ∧ (system.locate .isADirectory path = .error .noSuchFile ∨
      ∃ place, system.locate .isADirectory path = .ok place ∧ system.nodes place = none)) ∨
    ∃ place, system.locate .isADirectory path = .ok place ∧
      system.unlinkAt place = .ok after := by
  unfold unlinkIfThere at removed
  split at removed
  · rename_i missing
    obtain rfl := Except.ok.inj removed
    refine .inl ⟨rfl, ?_⟩
    rw [unlink] at missing
    cases located : system.locate .isADirectory path with
    | error error =>
        rw [located] at missing
        exact .inl (congrArg Except.error (Except.error.inj missing))
    | ok place =>
        rw [located] at missing
        change system.unlinkAt place = _ at missing
        refine .inr ⟨place, rfl, ?_⟩
        unfold unlinkAt at missing
        split at missing
        · assumption
        · split at missing <;> cases missing
  · exact .inr (bind_ok.mp removed)

/-- What is found after a removal was found before, and nothing stands there. -/
theorem locate_of_unlinkIfThere (removed : system.unlinkIfThere path = .ok after)
    (located : after.locate .isADirectory path = .ok place) :
    system.locate .isADirectory path = .ok place ∧ after.nodes place = none := by
  rcases unlinkIfThere_ok removed with ⟨rfl, missing | ⟨other, found, absent⟩⟩ |
    ⟨other, found, unlinked⟩
  · rw [missing] at located
    cases located
  · obtain rfl := Except.ok.inj (found.symm.trans located)
    exact ⟨found, absent⟩
  · rcases (unlinkAt_losesAt unlinked).locate found with same | ⟨error, failed, -⟩
    · obtain rfl := Except.ok.inj (same.symm.trans located)
      exact ⟨found, (unlinkAt_onlyAt unlinked).2.1⟩
    · rw [failed] at located
      cases located

theorem unlinkIfThere_returns (located : system.locate .isADirectory path = .ok place)
    (notDirectory : system.nodes place ≠ some .directory) :
    ∃ after, system.unlinkIfThere path = .ok after := by
  have called : system.unlink path = system.unlinkAt place := by
    rw [unlink, located]
    rfl
  have removable : system.Settable place none := by
    obtain ⟨-, _, name, parent, -, -, -, rfl⟩ := locate_eq_ok.mp located
    exact ⟨by simp, notDirectory, nofun, nofun, nofun⟩
  by_cases absent : system.nodes place = none
  · rw [unlinkIfThere, called, unlinkAt, if_pos absent]
    exact ⟨_, rfl⟩
  · rw [unlinkIfThere, called, unlinkAt, if_neg absent, dif_pos removable]
    exact ⟨_, rfl⟩

theorem lexists_eq_false (unnamed : OsError)
    (absent : ∀ place, system.locate unnamed path = .ok place → system.nodes place = none) :
    system.lexists path = false := by
  unfold lexists
  split
  · rename_i place located
    rw [absent place (locate_any located unnamed), Option.isSome_none]
  · rfl

/-- What has been removed is not there. -/
theorem lexists_of_unlinkIfThere (removed : system.unlinkIfThere path = .ok after) :
    after.lexists path = false := by
  rcases unlinkIfThere_ok removed with ⟨rfl, missing | ⟨place, located, gone⟩⟩ |
    ⟨place, located, unlinked⟩
  · refine lexists_eq_false .isADirectory fun place located => ?_
    rw [missing] at located
    cases located
  · refine lexists_eq_false .isADirectory fun other locatedAgain => ?_
    obtain rfl := Except.ok.inj (located.symm.trans locatedAgain)
    exact gone
  · obtain ⟨-, gone, -⟩ := unlinkAt_onlyAt unlinked
    refine lexists_eq_false .isADirectory fun other locatedAfter => ?_
    rcases (unlinkAt_losesAt unlinked).locate located with same | ⟨error, failed, -⟩
    · obtain rfl := Except.ok.inj (same.symm.trans locatedAfter)
      exact gone
    · rw [failed] at locatedAfter
      cases locatedAfter

end Files

/-! ### Two names in one directory -/

/-- Two paths with different last components, of which the first is a name. -/
structure Siblings (first second : List String) : Prop where
  names : ∃ above left right, first = above ++ [left] ∧ second = above ++ [right] ∧ left ≠ right ∧
    left ≠ "." ∧ left ≠ ".."

section Siblings

variable {first second : List String} {held : Path} {unnamed : OsError}

/-- The place of a path in the directory of another place. -/
def beside (held : Path) (path : List String) : Path :=
  held.dropLast ++ path.getLast?.toList

/-- Where the one is, the other belongs into the same directory. -/
theorem Siblings.placeOf (siblings : Siblings first second)
    (located : system.locate unnamed first = .ok held) :
    system.placeOf second = some (beside held second) := by
  obtain ⟨above, left, right, rfl, rfl, -⟩ := siblings.names
  obtain ⟨-, front, name, parent, same, entered, -, rfl⟩ := locate_eq_ok.mp located
  obtain ⟨rfl, -⟩ := List.append_inj' same rfl
  rw [FileSystem.placeOf, beside, List.getLast?_concat, List.dropLast_concat,
    List.dropLast_concat, realPath_of_walk (enter_eq_ok.mp entered).1]
  rfl

theorem Siblings.apart (siblings : Siblings first second)
    (located : system.locate unnamed first = .ok held) : beside held second ≠ held := by
  obtain ⟨above, left, right, rfl, rfl, different, -⟩ := siblings.names
  obtain ⟨-, front, name, parent, same, -, -, rfl⟩ := locate_eq_ok.mp located
  obtain ⟨-, names⟩ := List.append_inj' same rfl
  obtain rfl := List.singleton_inj.mp names
  rw [beside, List.dropLast_concat, List.getLast?_concat]
  exact fun equal => different (List.singleton_inj.mp (List.append_cancel_left equal)).symm

theorem Siblings.located {place : Path} (siblings : Siblings first second)
    (locatedFirst : system.locate unnamed first = .ok held)
    (locatedSecond : system.locate unnamed second = .ok place) : place = beside held second :=
  Option.some.inj ((placeOf_of_locate locatedSecond).symm.trans (siblings.placeOf locatedFirst))

/-- What is found beside a place is found there as long as the place is. -/
theorem Siblings.follows (siblings : Siblings first second)
    (locatedFirst : system.locate unnamed first = .ok held)
    (locatedSecond : system.locate unnamed second = .ok place)
    (locatedAfter : after.locate unnamed first = .ok held) :
    after.locate unnamed second = .ok place := by
  obtain rfl := siblings.located locatedFirst locatedSecond
  obtain ⟨above, left, right, rfl, rfl, -⟩ := siblings.names
  obtain ⟨noNul, front, name, -, same, -, notDots, -⟩ := locate_eq_ok.mp locatedSecond
  obtain ⟨-, other, last, parent, sameFirst, entered, -, rfl⟩ := locate_eq_ok.mp locatedAfter
  obtain ⟨rfl, -⟩ := List.append_inj' same rfl
  obtain ⟨rfl, -⟩ := List.append_inj' sameFirst rfl
  refine locate_eq_ok.mpr ⟨noNul, _, name, parent, same, entered, notDots, ?_⟩
  rw [beside, List.dropLast_concat, same, List.getLast?_concat]
  rfl

/-- Removing the one leaves what stands in the place of the other. -/
theorem Siblings.unlinkIfThere (siblings : Siblings first second)
    (removed : system.unlinkIfThere first = .ok after) (other : Path)
    (notFirst : system.placeOf first ≠ some other ∨ system.placeOf second = some other) :
    after.entry other = system.entry other := by
  rcases unlinkIfThere_ok removed with ⟨rfl, -⟩ | ⟨spot, located, unlinked⟩
  · rfl
  · refine (unlinkAt_onlyAt unlinked).1.entry other fun same => ?_
    rcases notFirst with elsewhere | placed
    · exact elsewhere (same ▸ placeOf_of_locate located)
    · rw [siblings.placeOf located] at placed
      exact siblings.apart located ((Option.some.inj placed).trans same)

end Siblings

end BssLiteRt.Library.FileSystem

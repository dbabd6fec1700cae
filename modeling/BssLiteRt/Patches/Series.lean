import BssLiteRt.Python.Collections
import BssLiteRt.Python.Concrete
import BssLiteRt.Python.JsonFiles
import BssLiteRt.Python.Paths

/-!
Owns the two readers of the patch series and its lock:
`apply-complete-runtime-patches.py` up to the patches it applies, and the checks of
`verify_complete_source_lock.py`. The one resolves the name of a patch before it looks
at the file, the other opens the name as it is written.
-/

namespace BssLiteRt.Patches

open BssLiteRt.Library BssLiteRt.Python

/-! ### Files -/

/-- An exception of Python, or of the operating system about a path. -/
inductive Failure where
  | python (error : PyError)
  | system (path : List String)
deriving DecidableEq

abbrev Script := Except Failure

def call {α : Type} (result : Py α) : Script α :=
  result.mapError .python

/-- The bytes that `path.open("rb")` reads. -/
def openFile (system : FileSystem) (path : List String) : Script Bytes :=
  if path.any FileSystem.hasNul then .error (.python ⟨.valueError, "embedded null byte"⟩)
  else
    match system.readFile path with
    | some data => .ok data
    | none => .error (.system path)

/-- `path.is_file()` -/
def isFile (system : FileSystem) (path : List String) : Bool :=
  (system.readFile path).isSome

/-- `path.resolve()` -/
def resolvePath (system : FileSystem) (path : List String) : Script Path :=
  call (resolve system path)

/-! ### The series and the lock -/

/-- The names of a series: its lines without comments. -/
def seriesNames (text : String) : List String :=
  let lines := (splitLines text.toList).map String.ofList
  let kept := lines.filter fun line =>
    strip line ≠ "" ∧ !startsWith (String.ofList (line.toList.dropWhile isSpace)) "#"
  kept.map strip

def readSeries (system : FileSystem) (root : Path) : Script (List String) := do
  let data ← openFile system (root ++ ["series"])
  let text ← call (readTextUtf8 data)
  return seriesNames text

/-- `lock["patchSeries"]`, as a loop meets it. -/
def patchEntries (lock : Json) : Py (List Json) := do
  elements (← getItem lock "patchSeries")

/-- The series has to be the one that the lock names. -/
def checkSeries (series : List String) (entries : List Json) : Py Unit := do
  let locked ← entries.mapM fun entry => getItem entry "file"
  raiseIf (!(Json.arr (series.map Json.str)).pyEq (.arr locked)) .valueError
    "Patch series order does not match the source lock."

def checkSchema (lock : Json) : Py Unit := do
  let version ← getD lock "schemaVersion" .null
  raiseIf (!version.pyEq (.int 1)) .valueError "Unsupported complete-runtime source lock schema."

/-! ### The applier -/

def readLock (py : StandardLibrary) (data : Bytes) : Py Json := do
  let lock ← readJson py data
  checkSchema lock
  return lock

/-- The loop of `resolve_patches` over the entries. -/
def collectPatches (py : StandardLibrary) (system : FileSystem) (root : Path) :
    List Json → Script (List Path)
  | [] => .ok []
  | entry :: rest => do
      let file ← call (getItem entry "file" >>= asStr)
      let patch ← resolvePath system (joinName root file)
      call (raiseIf (patch.dropLast ≠ root) .valueError
        ("Patch escapes the patch directory: " ++ pathText patch))
      call (raiseIf (!isFile system patch) .fileNotFoundError
        ("Patch not found: " ++ pathText patch))
      let actual := py.hashlib.sha256 (← openFile system patch)
      let expected ← call (getItem entry "sha256")
      call (raiseIf (!(Json.str actual).pyEq expected) .valueError
        ("Patch SHA-256 mismatch for " ++ patch.getLastD "" ++ ": expected " ++ py.str expected ++
          ", got " ++ actual))
      let patches ← collectPatches py system root rest
      return patch :: patches

def resolvePatches (py : StandardLibrary) (system : FileSystem) (lock : Json) (patchDir : Path) :
    Script (List Path) := do
  let root ← resolvePath system patchDir
  let series ← readSeries system root
  let entries ← call (patchEntries lock)
  call (checkSeries series entries)
  collectPatches py system root entries

/-! ### The verifier -/

/-- The loop of the verifier over the entries. -/
def verifyPatches (py : StandardLibrary) (system : FileSystem) (patchDir : Path) :
    List Json → Script Unit
  | [] => .ok ()
  | entry :: rest => do
      let file ← call (getItem entry "file" >>= asStr)
      let patch := joinName patchDir file
      let actual := py.hashlib.sha256 (← openFile system patch)
      let expected ← call (getItem entry "sha256")
      call (raiseIf (!(Json.str actual).pyEq expected) .valueError
        ("Patch SHA-256 mismatch: " ++ pathText patch))
      verifyPatches py system patchDir rest

/-- `main` of `verify_complete_source_lock.py` without `--require-gpu-source`. -/
def verifySourceLock (py : StandardLibrary) (system : FileSystem) (lockData : Bytes)
    (patchDir : Path) : Script Unit := do
  let lock ← call (readJson py lockData)
  call (checkSchema lock)
  let patchDir ← resolvePath system patchDir
  let series ← readSeries system patchDir
  let entries ← call (patchEntries lock)
  call (checkSeries series entries)
  verifyPatches py system patchDir entries

/-! ### Calls -/

section Calls

variable {α β : Type}

theorem script_bind_eq_ok {first : Script α} {next : α → Script β} {result : β} :
    (first >>= next) = .ok result ↔ ∃ value, first = .ok value ∧ next value = .ok result := by
  cases first with
  | error failure => exact ⟨nofun, fun ⟨_, failed, _⟩ => absurd failed nofun⟩
  | ok value =>
      constructor
      · exact fun returned => ⟨value, rfl, returned⟩
      · rintro ⟨other, same, returned⟩
        cases same
        exact returned

@[simp] theorem call_eq_ok {result : Py α} {value : α} :
    call result = .ok value ↔ result = .ok value := by
  cases result <;> simp [call, Except.mapError]

theorem openFile_eq_ok {system : FileSystem} {path : Path} {data : Bytes} :
    openFile system path = .ok data ↔ system.readFile path = some data := by
  unfold openFile
  split
  · rename_i nul
    refine ⟨nofun, fun read => absurd nul ?_⟩
    rw [FileSystem.noNul_of_readFile read]
    exact Bool.false_ne_true
  · cases system.readFile path <;> simp

theorem resolvePath_eq_ok {system : FileSystem} {path found : Path} :
    resolvePath system path = .ok found ↔ resolve system path = .ok found := by
  rw [resolvePath, call_eq_ok]

end Calls

/-! ### What the readers look at -/

/-- An entry of the lock with its name and its digest. -/
def HasPatch (entry : Json) (item : String × String) : Prop :=
  getItem entry "file" = .ok (.str item.1) ∧ getItem entry "sha256" = .ok (.str item.2)

/-- The lock names the patches that the series of the directory names. -/
structure SeriesLocked (system : FileSystem) (lock : Json) (patchDir root : Path)
    (locked : List (String × String)) : Prop where
  resolved : resolve system patchDir = .ok root
  entries : ∃ entries, patchEntries lock = .ok entries ∧ List.Forall₂ HasPatch entries locked
  series : readSeries system root = .ok (locked.map Prod.fst)

/-- The name resolves to a file right in the directory with the locked digest. -/
def Applies (py : StandardLibrary) (system : FileSystem) (root : Path) (item : String × String)
    (patch : Path) : Prop :=
  resolve system (joinName root item.1) = .ok patch ∧ patch.dropLast = root ∧
    ∃ data, system.readFile patch = some data ∧ py.hashlib.sha256 data = item.2

/-- The name as it is written opens a file with the locked digest. -/
def Opens (py : StandardLibrary) (system : FileSystem) (root : Path) (item : String × String) :
    Prop :=
  ∃ data, system.readFile (joinName root item.1) = some data ∧ py.hashlib.sha256 data = item.2

section Readers

variable {py : StandardLibrary} {system : FileSystem} {lock : Json} {patchDir root : Path}
  {entries : List Json} {patches : List Path}

/-- An entry has one name and one digest. -/
theorem HasPatch.unique {entry : Json} {item other : String × String} (first : HasPatch entry item)
    (second : HasPatch entry other) : item = other := by
  have sameName := first.1.symm.trans second.1
  have sameDigest := first.2.symm.trans second.2
  simp only [Except.ok.injEq, Json.str.injEq] at sameName sameDigest
  exact Prod.ext sameName sameDigest

theorem rightUnique_hasPatch : Relator.RightUnique HasPatch :=
  fun _ _ _ first second => first.unique second

theorem SeriesLocked.unique {otherRoot : Path} {locked other : List (String × String)}
    (first : SeriesLocked system lock patchDir root locked)
    (second : SeriesLocked system lock patchDir otherRoot other) :
    otherRoot = root ∧ other = locked := by
  obtain ⟨entries, read, items⟩ := first.entries
  obtain ⟨others, otherRead, otherItems⟩ := second.entries
  obtain rfl := Except.ok.inj (read.symm.trans otherRead)
  refine ⟨Except.ok.inj (second.resolved.symm.trans first.resolved), ?_⟩
  exact List.right_unique_forall₂' rightUnique_hasPatch otherItems items

theorem textItem_eq_ok {entry : Json} {key text : String} :
    (getItem entry key >>= asStr) = .ok text ↔ getItem entry key = .ok (.str text) := by
  rw [bind_eq_ok]
  simp only [asStr_ok_iff]
  exact ⟨fun ⟨_, found, same⟩ => same ▸ found, fun found => ⟨_, found, rfl⟩⟩

theorem isFile_iff {path : Path} :
    isFile system path = true ↔ ∃ data, system.readFile path = some data := by
  rw [isFile, Option.isSome_iff_exists]

theorem collectPatches_cons {entry : Json} {rest : List Json} :
    collectPatches py system root (entry :: rest) = .ok patches ↔
      ∃ item patch later, patches = patch :: later ∧ HasPatch entry item ∧
        Applies py system root item patch ∧ collectPatches py system root rest = .ok later := by
  simp only [collectPatches, script_bind_eq_ok, call_eq_ok, textItem_eq_ok, resolvePath_eq_ok,
    raiseIf_eq_ok, exists_unit, openFile_eq_ok, decide_eq_false_iff_not, not_not, Bool.not_eq_false',
    isFile_iff, Json.str_pyEq_iff]
  constructor
  · rintro ⟨file, named, patch, located, inRoot, -, data, read, expected, digest, rfl, later,
      collected, returned⟩
    cases returned
    exact ⟨(file, _), patch, later, rfl, ⟨named, digest⟩, ⟨located, inRoot, data, read, rfl⟩, collected⟩
  · rintro ⟨item, patch, later, rfl, ⟨named, digest⟩, ⟨located, inRoot, data, read, same⟩, collected⟩
    exact ⟨item.1, named, patch, located, inRoot, ⟨data, read⟩, data, read, .str item.2, digest,
      by rw [same], later, collected, rfl⟩

theorem collectPatches_eq_ok :
    collectPatches py system root entries = .ok patches ↔
      ∃ locked, List.Forall₂ HasPatch entries locked ∧
        List.Forall₂ (Applies py system root) locked patches := by
  induction entries generalizing patches with
  | nil =>
      rw [collectPatches]
      constructor
      · intro returned
        cases returned
        exact ⟨[], .nil, .nil⟩
      · rintro ⟨locked, items, applies⟩
        cases items
        cases applies
        rfl
  | cons entry rest inductionHypothesis =>
      rw [collectPatches_cons]
      simp only [inductionHypothesis]
      constructor
      · rintro ⟨item, patch, later, rfl, hasPatch, applies, locked, items, restApplies⟩
        exact ⟨item :: locked, .cons hasPatch items, .cons applies restApplies⟩
      · rintro ⟨locked, items, applies⟩
        cases items with
        | cons hasPatch items =>
            cases applies with
            | cons applies restApplies =>
                exact ⟨_, _, _, rfl, hasPatch, applies, _, items, restApplies⟩

theorem verifyPatches_eq_ok :
    verifyPatches py system root entries = .ok () ↔
      ∃ locked, List.Forall₂ HasPatch entries locked ∧ ∀ item ∈ locked, Opens py system root item := by
  induction entries with
  | nil =>
      refine ⟨fun _ => ⟨[], .nil, nofun⟩, fun _ => rfl⟩
  | cons entry rest inductionHypothesis =>
      simp only [verifyPatches, script_bind_eq_ok, call_eq_ok, textItem_eq_ok, raiseIf_eq_ok,
        exists_unit, openFile_eq_ok, Bool.not_eq_false', Json.str_pyEq_iff, inductionHypothesis]
      constructor
      · rintro ⟨file, named, data, read, expected, digest, rfl, locked, items, opens⟩
        exact ⟨(file, _) :: locked, .cons ⟨named, digest⟩ items,
          List.forall_mem_cons.mpr ⟨⟨data, read, rfl⟩, opens⟩⟩
      · rintro ⟨locked, items, opens⟩
        cases items with
        | cons hasPatch items =>
            obtain ⟨⟨data, read, same⟩, restOpens⟩ := List.forall_mem_cons.mp opens
            exact ⟨_, hasPatch.1, data, read, _, hasPatch.2, by rw [same], _, items, restOpens⟩

/-- The series is compared with the names of the entries. -/
theorem checkSeries_eq_ok {series : List String} {locked : List (String × String)}
    (items : List.Forall₂ HasPatch entries locked) :
    checkSeries series entries = .ok () ↔ series = locked.map Prod.fst := by
  have names : (entries.mapM fun entry => getItem entry "file") =
      .ok ((locked.map Prod.fst).map Json.str) := by
    induction items with
    | nil => rfl
    | cons hasPatch _ inductionHypothesis =>
        rw [List.mapM_cons, hasPatch.1, ok_bind, inductionHypothesis]
        rfl
  have texts (names : List String) :
      (Json.arr (names.map .str)).normal = .arr (names.map .str) := by
    rw [Json.normal_arr, List.map_map]
    rfl
  rw [checkSeries, names, ok_bind, raiseIf_eq_ok, Bool.not_eq_false', Json.pyEq_iff, texts, texts,
    Json.arr.injEq]
  exact (List.map_injective_iff.mpr fun _ _ => Json.str.inj).eq_iff

theorem resolvePatches_eq_ok :
    resolvePatches py system lock patchDir = .ok patches ↔
      ∃ root locked, SeriesLocked system lock patchDir root locked ∧
        List.Forall₂ (Applies py system root) locked patches := by
  simp only [resolvePatches, script_bind_eq_ok, call_eq_ok, resolvePath_eq_ok, exists_unit,
    collectPatches_eq_ok]
  constructor
  · rintro ⟨root, resolved, series, read, entries, listed, checked, locked, items, applies⟩
    obtain rfl := (checkSeries_eq_ok items).mp checked
    exact ⟨root, locked, ⟨resolved, ⟨entries, listed, items⟩, read⟩, applies⟩
  · rintro ⟨root, locked, ⟨resolved, ⟨entries, listed, items⟩, read⟩, applies⟩
    exact ⟨root, resolved, _, read, entries, listed, (checkSeries_eq_ok items).mpr rfl, locked, items,
      applies⟩

theorem readLock_eq_ok {lockData : Bytes} :
    readLock py lockData = .ok lock ↔ readJson py lockData = .ok lock ∧ checkSchema lock = .ok () := by
  simp only [readLock, bind_eq_ok, exists_unit, pure_eq_ok]
  constructor
  · rintro ⟨found, read, schema, returned⟩
    cases returned
    exact ⟨read, schema⟩
  · rintro ⟨read, schema⟩
    exact ⟨lock, read, schema, rfl⟩

theorem verifySourceLock_eq_ok {lockData : Bytes} (loaded : readLock py lockData = .ok lock) :
    verifySourceLock py system lockData patchDir = .ok () ↔
      ∃ root locked, SeriesLocked system lock patchDir root locked ∧
        ∀ item ∈ locked, Opens py system root item := by
  obtain ⟨read, schema⟩ := readLock_eq_ok.mp loaded
  simp only [verifySourceLock, script_bind_eq_ok, call_eq_ok, resolvePath_eq_ok, exists_unit,
    verifyPatches_eq_ok]
  constructor
  · rintro ⟨found, sameLock, -, root, resolved, series, readSeries, entries, listed, checked, locked,
      items, opens⟩
    obtain rfl := Except.ok.inj (read.symm.trans sameLock)
    obtain rfl := (checkSeries_eq_ok items).mp checked
    exact ⟨root, locked, ⟨resolved, ⟨entries, listed, items⟩, readSeries⟩, opens⟩
  · rintro ⟨root, locked, ⟨resolved, ⟨entries, listed, items⟩, readSeries⟩, opens⟩
    exact ⟨lock, read, schema, root, resolved, _, readSeries, entries, listed,
      (checkSeries_eq_ok items).mpr rfl, locked, items, opens⟩

end Readers

/-! ### Names that open as they are written -/

/-- The system finds its way along the name as it is written. -/
def Arrives (system : FileSystem) (path : Path) : Prop :=
  ∃ found, system.walk FileSystem.linkLimit [] path = .ok found

section Arrives

variable {py : StandardLibrary} {system : FileSystem} {root path patch : Path}
  {item : String × String} {data : Bytes}

theorem arrives_of_readFile (read : system.readFile path = some data) : Arrives system path := by
  unfold FileSystem.readFile at read
  split at read
  · cases read
  · exact ⟨_, ‹_›⟩

/-- Where the system arrives, it opens the file that the name resolves to. -/
theorem readFile_of_resolve (arrives : Arrives system path)
    (resolved : resolve system path = .ok patch) :
    system.readFile path = system.readFile patch := by
  obtain ⟨found, walked⟩ := arrives
  obtain rfl := Except.ok.inj (resolved.symm.trans (resolve_of_walk walked))
  exact FileSystem.readFile_of_walk walked

theorem opens_iff_of_arrives (arrives : Arrives system (joinName root item.1))
    (resolved : resolve system (joinName root item.1) = .ok patch) :
    Opens py system root item ↔
      ∃ data, system.readFile patch = some data ∧ py.hashlib.sha256 data = item.2 := by
  rw [Opens, readFile_of_resolve arrives resolved]

/-- A patch right in the directory that is a regular file with the locked digest. -/
def IsPatch (py : StandardLibrary) (system : FileSystem) (root : Path) (item : String × String)
    (patch : Path) : Prop :=
  resolve system (joinName root item.1) = .ok patch ∧ (∃ name, patch = root ++ [name]) ∧
    ∃ number, system.nodes patch = some (.file number) ∧
      py.hashlib.sha256 (system.contents number) = item.2

/-- A name that opens as it is written resolves to what it opens. -/
theorem isPatch_of_applies (applies : Applies py system root item patch)
    (arrives : Arrives system (joinName root item.1)) : IsPatch py system root item patch := by
  obtain ⟨resolved, inRoot, data, read, digest⟩ := applies
  obtain ⟨found, walked⟩ := arrives
  obtain rfl := Except.ok.inj (resolved.symm.trans (resolve_of_walk walked))
  rw [FileSystem.readFile, FileSystem.walk_again walked] at read
  dsimp only at read
  split at read
  · rename_i number isFile
    cases read
    refine ⟨resolved, ?_, number, isFile, digest⟩
    have notRoot : patch ≠ [] := by
      rintro rfl
      rw [system.root] at isFile
      cases isFile
    exact ⟨patch.getLast notRoot, by rw [← inRoot, List.dropLast_append_getLast]⟩
  · cases read

end Arrives

/-! ### The agreement -/

/-- What the applier and the verifier promise each other. -/
def Agree (py : StandardLibrary) (system : FileSystem) (lockData : Bytes) (lock : Json)
    (patchDir : Path) : Prop :=
  (∀ patches, resolvePatches py system lock patchDir = .ok patches →
    (∃ root locked, SeriesLocked system lock patchDir root locked ∧
      List.Forall₂ (IsPatch py system root) locked patches) ∧
    verifySourceLock py system lockData patchDir = .ok ()) ∧
  (verifySourceLock py system lockData patchDir = .ok () →
    (∀ patches, resolvePatches py system lock patchDir ≠ .ok patches) →
      ∃ root locked, SeriesLocked system lock patchDir root locked ∧ ∃ item ∈ locked, ∃ patch,
        resolve system (joinName root item.1) = .ok patch ∧ patch.dropLast ≠ root)

/-- Where every locked name resolves to a file right in the directory with the locked
digest, the system finds its way along each as it is written. -/
def ArrivesAsWritten (py : StandardLibrary) (system : FileSystem) (lock : Json) (patchDir : Path) :
    Prop :=
  ∀ root locked, SeriesLocked system lock patchDir root locked →
    (∀ item ∈ locked, ∃ patch, Applies py system root item patch) →
      ∀ item ∈ locked, Arrives system (joinName root item.1)

section Agreement

variable {py : StandardLibrary} {system : FileSystem} {lockData : Bytes} {lock : Json}
  {patchDir root : Path} {locked : List (String × String)}

/-- The applier succeeds where each name applies. -/
theorem exists_patches (applies : ∀ item ∈ locked, ∃ patch, Applies py system root item patch) :
    ∃ patches, List.Forall₂ (Applies py system root) locked patches := by
  induction locked with
  | nil => exact ⟨[], .nil⟩
  | cons item rest inductionHypothesis =>
      obtain ⟨⟨patch, head⟩, tail⟩ := List.forall_mem_cons.mp applies
      obtain ⟨patches, later⟩ := inductionHypothesis tail
      exact ⟨patch :: patches, .cons head later⟩

theorem applies_of_patches {patches : List Path} {relation : String × String → Path → Prop}
    (applies : List.Forall₂ relation locked patches) :
    ∀ item ∈ locked, ∃ patch, relation item patch := by
  induction applies with
  | nil => exact nofun
  | cons head _ inductionHypothesis =>
      exact List.forall_mem_cons.mpr ⟨⟨_, head⟩, inductionHypothesis⟩

/-- What the verifier accepts applies, unless it resolves to another place. -/
theorem applies_of_opens {item : String × String} (opens : Opens py system root item)
    (inRoot : ∀ patch, resolve system (joinName root item.1) = .ok patch → patch.dropLast = root) :
    ∃ patch, Applies py system root item patch := by
  obtain ⟨data, read, digest⟩ := opens
  obtain ⟨found, walked⟩ := arrives_of_readFile read
  have resolved := resolve_of_walk walked
  rw [readFile_of_resolve ⟨found, walked⟩ resolved] at read
  exact ⟨found, resolved, inRoot found resolved, data, read, digest⟩

/-- Checks that accept leave the applier nothing but an escape to raise. -/
theorem escapes_of_accepted (loaded : readLock py lockData = .ok lock)
    (accepted : verifySourceLock py system lockData patchDir = .ok ())
    (raises : ∀ patches, resolvePatches py system lock patchDir ≠ .ok patches) :
    ∃ root locked, SeriesLocked system lock patchDir root locked ∧ ∃ item ∈ locked, ∃ patch,
      resolve system (joinName root item.1) = .ok patch ∧ patch.dropLast ≠ root := by
  obtain ⟨root, locked, seriesLocked, opens⟩ := (verifySourceLock_eq_ok loaded).mp accepted
  refine ⟨root, locked, seriesLocked, ?_⟩
  by_contra noEscape
  have applies : ∀ item ∈ locked, ∃ patch, Applies py system root item patch := by
    intro item member
    refine applies_of_opens (opens item member) fun patch resolved => ?_
    by_contra escapes
    exact noEscape ⟨item, member, patch, resolved, escapes⟩
  obtain ⟨patches, collected⟩ := exists_patches applies
  exact raises patches (resolvePatches_eq_ok.mpr ⟨root, locked, seriesLocked, collected⟩)

/-- The applier and the verifier agree exactly where no name has to be resolved before
the system can open it. -/
theorem patch_readers_agree_iff (py : StandardLibrary) (system : FileSystem) (lockData : Bytes)
    (lock : Json) (patchDir : Path) (loaded : readLock py lockData = .ok lock) :
    Agree py system lockData lock patchDir ↔ ArrivesAsWritten py system lock patchDir := by
  constructor
  · rintro ⟨accepts, -⟩ root locked seriesLocked applies item member
    obtain ⟨patches, collected⟩ := exists_patches applies
    obtain ⟨-, accepted⟩ :=
      accepts patches (resolvePatches_eq_ok.mpr ⟨root, locked, seriesLocked, collected⟩)
    obtain ⟨otherRoot, other, otherLocked, opens⟩ := (verifySourceLock_eq_ok loaded).mp accepted
    obtain ⟨rfl, rfl⟩ := seriesLocked.unique otherLocked
    obtain ⟨data, read, -⟩ := opens item member
    exact arrives_of_readFile read
  · intro arrives
    refine ⟨fun patches collected => ?_, escapes_of_accepted loaded⟩
    obtain ⟨root, locked, seriesLocked, applies⟩ := resolvePatches_eq_ok.mp collected
    have each := applies_of_patches applies
    have arrivesEach := arrives root locked seriesLocked each
    refine ⟨⟨root, locked, seriesLocked, ?_⟩,
      (verifySourceLock_eq_ok loaded).mpr ⟨root, locked, seriesLocked, fun item member => ?_⟩⟩
    · refine List.forall₂_iff_zip.mpr ⟨applies.length_eq, fun {item patch} paired => ?_⟩
      exact isPatch_of_applies (List.forall₂_zip applies paired)
        (arrivesEach item (List.of_mem_zip paired).1)
    · obtain ⟨patch, resolved, -, held⟩ := each item member
      exact (opens_iff_of_arrives (arrivesEach item member) resolved).mpr held

end Agreement

/-! ### A name that only resolves -/

/-- A patch directory with one patch, and with the series given. -/
def onePatch (series : String) : FileSystem where
  nodes path := if path = [] ∨ path = ["patches"] then some .directory
    else if path = ["patches", "series"] then some (.file 0)
    else if path = ["patches", "a.patch"] then some (.file 1) else none
  contents number := if number = 0 then encodeUtf8 series else [1]
  next := 2
  root := rfl
  rooted := by
    intro path node notRoot found
    split at found
    · rename_i isDirectory
      rw [isDirectory.resolve_left notRoot]
      rfl
    · split at found
      · rename_i named
        rw [named]
        rfl
      · split at found
        · rename_i named
          rw [named]
          rfl
        · cases found
  fresh := by
    intro path number found
    split at found
    · cases found
    · split at found
      · cases found
        decide
      · split at found
        · cases found
          decide
        · cases found
  named := by
    intro path node found
    split at found
    · rename_i isDirectory
      rcases isDirectory with isRoot | named
      · rw [isRoot]
        rfl
      · rw [named]
        decide
    · split at found
      · rename_i named
        rw [named]
        decide
      · split at found
        · rename_i named
          rw [named]
          decide
        · cases found

def onePatchDigest : String :=
  concreteLibrary.hashlib.sha256 [1]

/-- A lock of that patch under the name given. -/
def onePatchLock (name : String) : Json :=
  .obj [("patchSeries", .arr [.obj [("file", .str name), ("sha256", .str onePatchDigest)]]),
    ("schemaVersion", .int 1)]

section OnePatch

variable {name : String}

theorem readLock_onePatch : readLock concreteLibrary (jsonBytes (onePatchLock name)) =
    .ok (onePatchLock name) := by
  have wellFormed : (onePatchLock name).WellFormed := by
    simp [onePatchLock, Json.wellFormed_obj, Json.wellFormed_arr]
  have sorted : (onePatchLock name).sortKeys = onePatchLock name := by
    rw [onePatchLock, Json.sortKeys_obj, sortByKey_eq_self (by simp)]
    simp only [List.map_cons, List.map_nil, Json.sortKeys_arr]
    rw [Json.sortKeys_obj, sortByKey_eq_self (by simp)]
    rfl
  refine readLock_eq_ok.mpr ⟨?_, rfl⟩
  rw [readJson_jsonBytes concreteLibrary wellFormed, sorted]

theorem seriesLocked_onePatch (noReturn : '\r' ∉ (name ++ "\n").toList)
    (alone : seriesNames (name ++ "\n") = [name]) :
    SeriesLocked (onePatch (name ++ "\n")) (onePatchLock name) ["patches"] ["patches"]
      [(name, onePatchDigest)] where
  resolved := resolve_of_walk (FileSystem.walk_directory rfl _)
  entries := ⟨_, rfl, .cons ⟨rfl, rfl⟩ .nil⟩
  series := by
    have read : (onePatch (name ++ "\n")).readFile ["patches", "series"] =
        some (encodeUtf8 (name ++ "\n")) :=
      @FileSystem.readFile_file _ _ 0 rfl
    refine script_bind_eq_ok.mpr ⟨_, openFile_eq_ok.mpr read, script_bind_eq_ok.mpr
      ⟨name ++ "\n", call_eq_ok.mpr (readTextUtf8_encodeUtf8 noReturn), ?_⟩⟩
    exact congrArg Except.ok alone

theorem readFile_onePatch (series : String) :
    (onePatch series).readFile ["patches", "a.patch"] = some [1] :=
  @FileSystem.readFile_file _ _ 1 rfl

end OnePatch

/-- The missing directory before `..` stops the verifier, and the applier goes on. -/
theorem strayed_name_resolved :
    resolvePatches concreteLibrary (onePatch "missing/../a.patch\n")
        (onePatchLock "missing/../a.patch") ["patches"] = .ok [["patches", "a.patch"]] ∧
      verifySourceLock concreteLibrary (onePatch "missing/../a.patch\n")
        (jsonBytes (onePatchLock "missing/../a.patch")) ["patches"] ≠ .ok () ∧
      ¬ Agree concreteLibrary (onePatch "missing/../a.patch\n")
        (jsonBytes (onePatchLock "missing/../a.patch")) (onePatchLock "missing/../a.patch")
        ["patches"] := by
  have seriesLocked := @seriesLocked_onePatch "missing/../a.patch" (by decide) (by decide)
  have written : joinName ["patches"] "missing/../a.patch" =
      ["patches", "missing", "..", "a.patch"] := by decide
  have patch : resolve (onePatch "missing/../a.patch\n")
      (joinName ["patches"] "missing/../a.patch") = .ok ["patches", "a.patch"] := by
    rw [written]
    exact resolve_of_realPath rfl (@FileSystem.walk_file _ _ 1 rfl _)
  have resolved : resolvePatches concreteLibrary (onePatch "missing/../a.patch\n")
      (onePatchLock "missing/../a.patch") ["patches"] = .ok [["patches", "a.patch"]] :=
    resolvePatches_eq_ok.mpr ⟨_, _, seriesLocked,
      .cons ⟨patch, rfl, _, readFile_onePatch _, rfl⟩ .nil⟩
  have raises : verifySourceLock concreteLibrary (onePatch "missing/../a.patch\n")
      (jsonBytes (onePatchLock "missing/../a.patch")) ["patches"] ≠ .ok () := by
    intro accepted
    obtain ⟨root, locked, otherLocked, opens⟩ :=
      (verifySourceLock_eq_ok readLock_onePatch).mp accepted
    obtain ⟨rfl, rfl⟩ := seriesLocked.unique otherLocked
    obtain ⟨data, read, -⟩ := opens _ (List.mem_singleton_self _)
    obtain ⟨found, walked⟩ := arrives_of_readFile read
    rw [written] at walked
    simp [FileSystem.walk, FileSystem.walkTo_cons, onePatch] at walked
  exact ⟨resolved, raises, fun agree => raises (agree.1 _ resolved).2⟩

theorem patch_readers_agree_iff_plain :
    Agree concreteLibrary (onePatch "a.patch\n") (jsonBytes (onePatchLock "a.patch"))
      (onePatchLock "a.patch") ["patches"] := by
  refine (patch_readers_agree_iff concreteLibrary _ _ _ ["patches"] readLock_onePatch).mpr ?_
  intro root locked otherLocked _ item member
  obtain ⟨rfl, rfl⟩ :=
    (@seriesLocked_onePatch "a.patch" (by decide) (by decide)).unique otherLocked
  obtain rfl := List.mem_singleton.mp member
  have written : joinName ["patches"] "a.patch" = ["patches", "a.patch"] := by decide
  rw [written]
  exact arrives_of_readFile (readFile_onePatch _)

end BssLiteRt.Patches

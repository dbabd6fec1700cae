import BssLiteRt.Audit.NativeArtifacts

/-!
Owns `main` of `audit_release_inputs.py`: the files that git tracks, the binary inputs of
the source tree, the component directory and the candidate, in one report.
-/

namespace BssLiteRt.Audit

open BssLiteRt.Library BssLiteRt.Python BssLiteRt.Archive BssLiteRt.Complete

/-! ### The files that git tracks -/

/-- `tracked_files`, of the output of `git ls-files -z`. -/
def trackedFiles (listing : Bytes) : Py (List String) := do
  let names ← ((listing.splitOn 0).filter (· ≠ [])).mapM decodeUtf8
  return names.insertionSort (· ≤ ·)

def RELEVANT_PREFIXES : List String :=
  ["config/complete-runtime", "contracts/", "packaging/", "patches/complete-runtime/",
    "publication/", "scripts/"]

/-- The markers, each with the text that a message quotes it by. -/
def BINARY_PATCH_MARKERS : List (Bytes × String) :=
  [(encodeUtf8 "GIT binary patch", "b'GIT binary patch'"),
    (encodeUtf8 "Binary files ", "b'Binary files '"),
    (encodeUtf8 "literal 0\n", "b'literal 0\\n'")]

/-- `Path(relative).suffix.lower() in (".aar", ".so")`. No letter beyond ASCII has one of
these as its lower case. -/
def isBinaryInput (relative : String) : Bool :=
  let suffix := PurePosixPath.suffix (PurePosixPath.parse relative).name.toList
  String.ofList (suffix.map Char.toLower) ∈ [".aar", ".so"]

/-- `relative.startswith(RELEVANT_PREFIXES)` -/
def isRelevant (relative : String) : Bool :=
  RELEVANT_PREFIXES.any fun front => startsWith relative front

def readTracked (files : Files) (repository : PurePosixPath) (relative : String) : Py Bytes :=
  match files (repository.child relative) with
  | some data => .ok data
  | none =>
      raise .fileNotFoundError
        ("[Errno 2] No such file or directory: " ++ (repository.child relative).asPosix)

def markerErrors (relative : String) (data : Bytes) : List String :=
  match BINARY_PATCH_MARKERS.find? fun marker => containsBytes marker.1 data with
  | none => []
  | some marker => ["Binary patch marker " ++ marker.2 ++ " found in " ++ relative]

/-- The loop over the patches. -/
def auditPatches (files : Files) (repository : PurePosixPath) : List String → Py (List String)
  | [] => .ok []
  | relative :: rest => do
      let data ← readTracked files repository relative
      let later ← auditPatches files repository rest
      return markerErrors relative data ++ later

/-- `{relative: file_record(repository / relative) for ...}` -/
def releaseInputHashes (py : StandardLibrary) (files : Files) (repository : PurePosixPath) :
    List String → Dict String Json → Py (Dict String Json)
  | [], hashes => .ok hashes
  | relative :: rest, hashes => do
      let data ← readTracked files repository relative
      releaseInputHashes py files repository rest (hashes.set relative (componentRecord py data))

def auditRepository (py : StandardLibrary) (files : Files) (repository : PurePosixPath)
    (listing : Bytes) : Py (Json × List String) := do
  let tracked ← trackedFiles listing
  let forbiddenBinary := tracked.filter isBinaryInput
  let patches := tracked.filter fun relative => endsWith relative ".patch"
  let markers ← auditPatches files repository patches
  let relevant ←
    releaseInputHashes py files repository (tracked.filter isRelevant) Dict.empty
  return (.obj [("trackedFileCount", .int tracked.length), ("releaseInputHashes", .ofDict relevant),
      ("textPatchCount", .int patches.length)],
    errorIf (forbiddenBinary ≠ [])
      ("Repository tracks release binary inputs: " ++ showNames py forbiddenBinary) ++ markers)

/-! ### The source tree -/

/-- A file of the source tree. A symlink to a file has the contents of the file. -/
structure SourceFile where
  data : Bytes
  symlink : Bool

/-- The files that `source_tree.rglob("*")` meets, by their relative paths. -/
abbrev SourceTree := Dict String SourceFile

def LFS_PREFIX : Bytes := encodeUtf8 "version https://git-lfs.github.com/spec/v1\n"

/-- `sorted(source_tree.rglob("*" + ending))` -/
def filesEndingIn (tree : SourceTree) (ending : String) : List (String × SourceFile) :=
  (tree.items.filter fun item => endsWith item.1 ending).insertionSort fun left right =>
    (PurePosixPath.parse left.1).parts ≤ (PurePosixPath.parse right.1).parts

/-- The loop over the binaries: the placeholders, and an error for every other one. -/
def auditBinaries : List (String × SourceFile) → List String × List String
  | [] => ([], [])
  | (relative, file) :: rest =>
      let later := auditBinaries rest
      if file.symlink then later
      else if file.data.take LFS_PREFIX.length = LFS_PREFIX then (relative :: later.1, later.2)
      else
        (later.1, ("Source tree contains a materialized binary input: " ++ relative) :: later.2)

def auditSourcePlaceholders (py : StandardLibrary) (tree : SourceTree) : Json × List String :=
  let binaries := auditBinaries (filesEndingIn tree ".aar" ++ filesEndingIn tree ".so")
  let oclq := tree.keys.filter fun relative => (PurePosixPath.parse relative).name = "libOCLQ.so"
  (.obj [("lfsBinaryPlaceholders", .arr (binaries.1.map .str))],
    binaries.2 ++ errorIf (oclq ≠ [])
      ("Diagnostic libOCLQ.so is present in source inputs: " ++ showNames py oclq))

/-! ### The whole audit -/

/-- What the arguments of `main` lead to. -/
structure AuditInputs where
  repository : PurePosixPath
  listing : Bytes
  sourceTree : SourceTree
  componentDir : PurePosixPath
  components : ComponentDir
  componentManifest : Bytes
  candidateName : String
  candidate : Bytes
  contract : Contract
  sourceLock : Json
  mode : Mode

/-- The reports of the four audits, and all their errors. -/
structure AuditReport where
  repository : Json
  source : Json
  components : Json
  candidate : Json
  errors : List String

def auditRelease (py : StandardLibrary) (files : Files) (inputs : AuditInputs) :
    Py AuditReport := do
  let componentManifest ← readJson py inputs.componentManifest
  let repository ← auditRepository py files inputs.repository inputs.listing
  let source := auditSourcePlaceholders py inputs.sourceTree
  let components ← auditComponentDir py inputs.components componentManifest inputs.contract
    inputs.sourceLock inputs.mode
  let candidate ← auditCandidate py files inputs.candidateName inputs.candidate
    inputs.componentDir inputs.contract inputs.mode
  return {
    repository := repository.1
    source := source.1
    components := components.1
    candidate := candidate.1
    errors := repository.2 ++ source.2 ++ components.2 ++ candidate.2 }

/-- The document of `--report`, with errors or without. -/
def AuditReport.json (report : AuditReport) (mode : Mode) : Json :=
  .obj [("schemaVersion", .int 1), ("mode", .str mode.text), ("repository", report.repository),
    ("source", report.source), ("components", report.components),
    ("candidate", report.candidate), ("errors", .arr (report.errors.map .str))]

/-- What `main` returns. -/
def AuditReport.exitStatus (report : AuditReport) : Nat :=
  if report.errors = [] then 0 else 1

/-! ### What git lists -/

/-- What `git ls-files -z` writes for the paths. -/
def listedPaths (paths : List String) : Bytes :=
  paths.flatMap fun path => encodeUtf8 path ++ [0]

/-- A path that `-z` tells apart from the others. -/
def IsGitPath (path : String) : Prop :=
  encodeUtf8 path ≠ [] ∧ 0 ∉ encodeUtf8 path

instance (path : String) : Decidable (IsGitPath path) :=
  inferInstanceAs (Decidable (_ ∧ _))

/-- A repository of text: no binary is tracked, the patches hold no binary, and what a
release is made from is there. -/
structure TextRepository (files : Files) (repository : PurePosixPath) (paths : List String) :
    Prop where
  noBinary : ∀ path ∈ paths, isBinaryInput path = false
  patches : ∀ path ∈ paths, endsWith path ".patch" = true →
    ∃ data, files (repository.child path) = some data ∧
      ∀ marker ∈ BINARY_PATCH_MARKERS, ¬ marker.1 <:+: data
  relevant : ∀ path ∈ paths, isRelevant path = true →
    ∃ data, files (repository.child path) = some data

section Repository

variable {py : StandardLibrary} {files : Files} {repository : PurePosixPath}
  {paths names errors : List String}

theorem splitOn_listedPaths (gitPaths : ∀ path ∈ paths, IsGitPath path) :
    (listedPaths paths).splitOn 0 = paths.map encodeUtf8 ++ [[]] := by
  induction paths with
  | nil => rfl
  | cons path rest inductionHypothesis =>
      obtain ⟨first, others⟩ := List.forall_mem_cons.mp gitPaths
      have shape : listedPaths (path :: rest) = encodeUtf8 path ++ 0 :: listedPaths rest := by
        simp [listedPaths]
      rw [shape, List.splitOn_append_cons_self_of_not_mem first.2, inductionHypothesis others]
      rfl

theorem mapM_decodeUtf8 (texts : List String) :
    (texts.map encodeUtf8).mapM decodeUtf8 = (.ok texts : Py (List String)) := by
  induction texts with
  | nil => rfl
  | cons text rest inductionHypothesis =>
      rw [List.map_cons, List.mapM_cons, decodeUtf8_encodeUtf8, ok_bind, inductionHypothesis]
      rfl

/-- The paths that git lists are read back, whatever their order. -/
theorem trackedFiles_listed (gitPaths : ∀ path ∈ paths, IsGitPath path) :
    trackedFiles (listedPaths paths) = .ok (paths.insertionSort (· ≤ ·)) := by
  have kept : (paths.map encodeUtf8 ++ [[]]).filter (· ≠ []) = paths.map encodeUtf8 := by
    rw [List.filter_append, List.filter_eq_self.mpr]
    · simp
    · intro data member
      obtain ⟨path, isPath, rfl⟩ := List.mem_map.mp member
      exact decide_eq_true (gitPaths path isPath).1
  rw [trackedFiles, splitOn_listedPaths gitPaths, kept, mapM_decodeUtf8, ok_bind]
  rfl

theorem readTracked_eq_ok {relative : String} {data : Bytes} :
    readTracked files repository relative = .ok data ↔
      files (repository.child relative) = some data := by
  rw [readTracked]
  cases files (repository.child relative) <;> simp

theorem markerErrors_eq_nil_iff {relative : String} {data : Bytes} :
    markerErrors relative data = [] ↔ ∀ marker ∈ BINARY_PATCH_MARKERS, ¬ marker.1 <:+: data := by
  unfold markerErrors
  split
  · rename_i none
    rw [List.find?_eq_none] at none
    simp only [containsBytes, decide_eq_true_iff] at none
    exact ⟨fun _ => none, fun _ => rfl⟩
  · rename_i marker some
    have held := List.find?_some some
    rw [containsBytes, decide_eq_true_iff] at held
    exact ⟨fun absurdity => absurd absurdity (List.cons_ne_nil _ _),
      fun absent => absurd held (absent marker (List.mem_of_find?_eq_some some))⟩

theorem auditPatches_noError_iff : auditPatches files repository names = .ok [] ↔
    ∀ path ∈ names, ∃ data, files (repository.child path) = some data ∧
      ∀ marker ∈ BINARY_PATCH_MARKERS, ¬ marker.1 <:+: data := by
  induction names with
  | nil => simp [auditPatches]
  | cons path rest inductionHypothesis =>
      rw [auditPatches, List.forall_mem_cons, ← inductionHypothesis]
      simp only [bind_eq_ok, readTracked_eq_ok, pure_eq_ok, Except.ok.injEq,
        List.append_eq_nil_iff, markerErrors_eq_nil_iff]
      constructor
      · rintro ⟨data, read, later, audited, clean, rfl⟩
        exact ⟨⟨data, read, clean⟩, audited⟩
      · rintro ⟨⟨data, read, clean⟩, audited⟩
        exact ⟨data, read, [], audited, clean, rfl⟩

theorem releaseInputHashes_ok_iff {start : Dict String Json} :
    (∃ hashes, releaseInputHashes py files repository names start = .ok hashes) ↔
      ∀ path ∈ names, ∃ data, files (repository.child path) = some data := by
  induction names generalizing start with
  | nil => simp [releaseInputHashes]
  | cons path rest inductionHypothesis =>
      rw [List.forall_mem_cons]
      simp only [releaseInputHashes, bind_eq_ok, readTracked_eq_ok]
      constructor
      · rintro ⟨hashes, data, read, later⟩
        exact ⟨⟨data, read⟩, inductionHypothesis.mp ⟨hashes, later⟩⟩
      · rintro ⟨⟨data, read⟩, others⟩
        obtain ⟨hashes, later⟩ := inductionHypothesis.mpr others
        exact ⟨hashes, data, read, later⟩

/-- The audit of a repository finds no error exactly in one of text. -/
theorem auditRepository_noError_iff (gitPaths : ∀ path ∈ paths, IsGitPath path) :
    (∃ report, auditRepository py files repository (listedPaths paths) = .ok (report, [])) ↔
      TextRepository files repository paths := by
  have listed (path : String) : path ∈ paths.insertionSort (· ≤ ·) ↔ path ∈ paths :=
    (List.perm_insertionSort _ _).mem_iff
  have noBinary : (paths.insertionSort (· ≤ ·)).filter isBinaryInput = [] ↔
      ∀ path ∈ paths, isBinaryInput path = false := by
    simp only [List.filter_eq_nil_iff, listed, Bool.not_eq_true]
  have patches := @auditPatches_noError_iff files repository
    ((paths.insertionSort (· ≤ ·)).filter fun relative => endsWith relative ".patch")
  have relevant := @releaseInputHashes_ok_iff py files repository
    ((paths.insertionSort (· ≤ ·)).filter isRelevant) Dict.empty
  simp only [List.mem_filter, listed, and_imp] at patches relevant
  unfold auditRepository
  rw [trackedFiles_listed gitPaths, ok_bind]
  simp only [bind_eq_ok, pure_eq_ok, Except.ok.injEq, Prod.mk.injEq, List.append_eq_nil_iff,
    errorIf_eq_nil_iff, decide_eq_false_iff_not, ne_eq, not_not, noBinary]
  constructor
  · rintro ⟨_, markers, audited, hashes, hashed, -, none, rfl⟩
    exact ⟨none, patches.mp audited, relevant.mp ⟨hashes, hashed⟩⟩
  · rintro ⟨none, patchesClean, present⟩
    obtain ⟨hashes, hashed⟩ := relevant.mpr present
    exact ⟨_, [], patches.mpr patchesClean, hashes, hashed, rfl, none, rfl⟩

end Repository

/-! ### Placeholders -/

/-- A source tree without the diagnostic library, whose binaries are placeholders. -/
structure PlaceholderTree (tree : SourceTree) : Prop where
  placeholders : ∀ relative file, tree.get? relative = some file → file.symlink = false →
    (endsWith relative ".aar" = true ∨ endsWith relative ".so" = true) → LFS_PREFIX <+: file.data
  noDiagnostic : ∀ relative ∈ tree, (PurePosixPath.parse relative).name ≠ "libOCLQ.so"

section Source

variable {py : StandardLibrary} {tree : SourceTree}

theorem auditBinaries_noError_iff {found : List (String × SourceFile)} :
    (auditBinaries found).2 = [] ↔
      ∀ item ∈ found, item.2.symlink = false → LFS_PREFIX <+: item.2.data := by
  induction found with
  | nil => simp [auditBinaries]
  | cons item rest inductionHypothesis =>
      obtain ⟨relative, file⟩ := item
      rw [List.forall_mem_cons, ← inductionHypothesis, auditBinaries]
      dsimp only
      split
      · rename_i linked
        simp [linked]
      · rename_i regular
        rw [List.prefix_iff_eq_take]
        split
        · rename_i placeholder
          simp [placeholder]
        · rename_i materialized
          simp [Ne.symm materialized, regular]

theorem mem_filesEndingIn {ending : String} {item : String × SourceFile} :
    item ∈ filesEndingIn tree ending ↔
      tree.get? item.1 = some item.2 ∧ endsWith item.1 ending = true := by
  rw [filesEndingIn, (List.perm_insertionSort _ _).mem_iff, List.mem_filter,
    Dict.get?_eq_some_iff]

theorem auditSourcePlaceholders_noError_iff :
    (auditSourcePlaceholders py tree).2 = [] ↔ PlaceholderTree tree := by
  rw [auditSourcePlaceholders]
  dsimp only
  rw [List.append_eq_nil_iff, auditBinaries_noError_iff, errorIf_eq_nil_iff]
  simp only [List.mem_append, mem_filesEndingIn, decide_eq_false_iff_not, ne_eq, not_not,
    List.filter_eq_nil_iff, decide_eq_true_iff]
  constructor
  · rintro ⟨placeholders, noDiagnostic⟩
    refine ⟨fun relative file found regular ending => ?_, noDiagnostic⟩
    exact placeholders (relative, file) (ending.imp (⟨found, ·⟩) (⟨found, ·⟩)) regular
  · rintro ⟨placeholders, noDiagnostic⟩
    refine ⟨?_, noDiagnostic⟩
    rintro ⟨relative, file⟩ (⟨found, ending⟩ | ⟨found, ending⟩) regular
    · exact placeholders relative file found regular (.inl ending)
    · exact placeholders relative file found regular (.inr ending)

end Source

/-! ### The components -/

/-- A component directory with the files of the contract and no other, whose libraries
are ELF. -/
structure ReleaseComponents (contract : Contract) (mode : Mode) (components : ComponentDir) :
    Prop where
  files : ∀ name, (∃ data, dataAt components name = some data) ↔
    name ∈ expectedComponentPaths contract mode
  elf : ∀ name data, dataAt components name = some data → endsWith name ".so" = true →
    data.take 4 = [0x7f, 0x45, 0x4c, 0x46]
  noDiagnostic : ∀ name data, dataAt components name = some data →
    (PurePosixPath.parse name).name ≠ "libOCLQ.so"

section Components

variable {py : StandardLibrary} {components recorded later : ComponentDir} {contract : Contract}
  {mode : Mode}

theorem auditFiles_eq_nil_iff {files : List (String × Bytes)} :
    auditFiles files = [] ↔ ∀ file ∈ files,
      (endsWith file.1 ".so" = true → file.2.take 4 = [0x7f, 0x45, 0x4c, 0x46]) ∧
        (PurePosixPath.parse file.1).name ≠ "libOCLQ.so" := by
  induction files with
  | nil => simp [auditFiles]
  | cons file rest inductionHypothesis =>
      obtain ⟨name, data⟩ := file
      rw [auditFiles, List.forall_mem_cons, ← inductionHypothesis, List.append_eq_nil_iff,
        List.append_eq_nil_iff, errorIf_eq_nil_iff, errorIf_eq_nil_iff]
      simp

theorem mem_files_iff {name : String} {data : Bytes} :
    (name, data) ∈ (components.filterMap fun _ => fileData).items ↔
      dataAt components name = some data := by
  rw [← Dict.get?_eq_some_iff, Dict.get?_filterMap, dataAt_eq]

theorem releaseComponents_iff :
    (∀ name, name ∈ (components.filterMap fun _ => fileData).keys ↔
        name ∈ expectedComponentPaths contract mode) ∧
      auditFiles (components.filterMap fun _ => fileData).items = [] ↔
    ReleaseComponents contract mode components := by
  have isFile (name : String) : name ∈ (components.filterMap fun _ => fileData).keys ↔
      ∃ data, dataAt components name = some data := by
    rw [← Dict.mem_iff_keys, Dict.mem_iff_get?, Dict.get?_filterMap, dataAt_eq]
  simp only [isFile, auditFiles_eq_nil_iff, Prod.forall, mem_files_iff]
  constructor
  · rintro ⟨files, each⟩
    exact ⟨files, fun name data found => (each name data found).1,
      fun name data found => (each name data found).2⟩
  · rintro ⟨files, elf, noDiagnostic⟩
    exact ⟨files, fun name data found => ⟨elf name data found, noDiagnostic name data found⟩⟩

/-- An audit of a manifest that has the fields of a record. -/
theorem auditComponentDir_noError_iff {componentManifest sourceLock : Json}
    {fields : AuditedFields} (stand : fields.Of componentManifest sourceLock) :
    ∃ report errors,
      auditComponentDir py components componentManifest contract sourceLock mode =
        .ok (report, errors) ∧
      (errors = [] ↔ fields.Agree py components mode ∧
        ReleaseComponents contract mode components) := by
  unfold auditComponentDir
  rw [getD_of_field? stand.components, getD_of_field? stand.mode, getD_of_field? stand.liteRt,
    getD_of_field? stand.lockLiteRt, getD_of_field? stand.patchSeries,
    getD_of_field? stand.lockPatchSeries]
  refine ⟨_, _, rfl, ?_⟩
  simp only [List.append_eq_nil_iff, errorIf_eq_nil_iff, Bool.not_eq_false', sameNames_iff]
  rw [← releaseComponents_iff]
  constructor
  · rintro ⟨⟨⟨⟨⟨sameFiles, hashes⟩, sameMode⟩, source⟩, patches⟩, clean⟩
    exact ⟨⟨hashes, sameMode, source, patches⟩, sameFiles, clean⟩
  · rintro ⟨⟨hashes, sameMode, source, patches⟩, sameFiles, clean⟩
    exact ⟨⟨⟨⟨⟨sameFiles, hashes⟩, sameMode⟩, source⟩, patches⟩, clean⟩

/-- With the manifest of the recorded directory, the audit of a later one finds no error
exactly when it holds the same files, and they are those of the contract. -/
theorem auditComponentDir_written {sourceLock : Document} {artifactVersion : String}
    {output : PurePosixPath} {manifest : Bytes}
    (collisionFree : CollisionFree py.hashlib.sha256 (dataAt recorded) (dataAt later))
    (outside : Outside output recorded)
    (written : writeComponentManifest py recorded sourceLock.val artifactVersion mode output =
      .ok manifest) :
    ∃ componentManifest report errors, readJson py manifest = .ok componentManifest ∧
      auditComponentDir py later componentManifest contract sourceLock.val mode =
        .ok (report, errors) ∧
      (errors = [] ↔ (∀ relative, dataAt later relative = dataAt recorded relative) ∧
        ReleaseComponents contract mode later) := by
  obtain ⟨componentManifest, fields, read, stand, agree_iff⟩ :=
    fields_of_written collisionFree outside written
  obtain ⟨report, errors, audited, noError⟩ :=
    @auditComponentDir_noError_iff py later contract mode _ _ fields stand
  exact ⟨componentManifest, report, errors, read, audited,
    noError.trans (and_congr_left fun _ => agree_iff)⟩

end Components

/-! ### A release that the scripts make -/

/-- The packager reads the files of the component directory. -/
structure PackagedFrom (components : ComponentDir) (contract : Complete.Contract)
    (inputs : Inputs) : Prop where
  api : dataAt components "api/litert-bss-api.aar" = some inputs.apiAar
  native : ∀ pair ∈ nativePairs contract,
    dataAt components ("native/" ++ (pair.1 ++ "/" ++ pair.2)) =
      inputs.nativeDir.get? (pair.1 ++ "/" ++ pair.2)

/-- The files below the component directory are those that the walk meets. -/
def HoldsComponents (files : Files) (componentDir : PurePosixPath) (contract : Contract)
    (components : ComponentDir) : Prop :=
  ∀ relative ∈ expectedComponentPaths contract .complete,
    files (componentDir.child relative) = dataAt components relative

section Release

variable {py : StandardLibrary} {files : Files} {inputs : AuditInputs} {paths : List String}
  {recorded : ComponentDir} {contract : Complete.Contract} {audit : Contract}
  {packagerInputs : Inputs}

theorem mem_expectedComponentPaths_native
    (sameLibraries : audit.nativeLibraries = contract.nativeLibraries) {pair : String × String}
    (member : pair ∈ nativePairs contract) :
    "native/" ++ (pair.1 ++ "/" ++ pair.2) ∈ expectedComponentPaths audit .complete := by
  rw [expectedComponentPaths, List.mem_append]
  refine .inr (List.mem_map_of_mem ?_)
  exact (mem_expectedNativePaths_iff sameLibraries _).mpr ⟨pair, member, rfl⟩

/-- The candidate is compared with the directory that it was packaged from. -/
theorem builtFrom_of_packagedFrom {componentDir : PurePosixPath} {components : ComponentDir}
    (sameLibraries : audit.nativeLibraries = contract.nativeLibraries)
    (holds : HoldsComponents files componentDir audit components)
    (unchanged : ∀ relative, dataAt components relative = dataAt recorded relative)
    (packagedFrom : PackagedFrom recorded contract packagerInputs) :
    BuiltFrom files componentDir contract packagerInputs where
  api := by
    rw [holds _ (List.mem_append_left _ List.mem_cons_self), unchanged, packagedFrom.api]
  native := by
    intro pair member
    rw [nativeFile, holds _ (mem_expectedComponentPaths_native sameLibraries member), unchanged,
      packagedFrom.native pair member]

/-- The diagnostic library is no library of a contract whose components are audited. -/
theorem noDiagnostic_of_releaseComponents (plain : contract.PlainLibraries)
    (sameLibraries : audit.nativeLibraries = contract.nativeLibraries)
    (release : ReleaseComponents audit .complete recorded) : NoDiagnostic contract := by
  intro pair member
  obtain ⟨data, found⟩ :=
    (release.files _).mpr (mem_expectedComponentPaths_native sameLibraries member)
  obtain ⟨abiPlain, libraryPlain⟩ := plain pair member
  have named : (PurePosixPath.parse ("native/" ++ (pair.1 ++ "/" ++ pair.2))).name = pair.2 := by
    rw [← String.append_assoc, ← String.append_assoc]
    exact @name_parse_below "native" _ _ (by decide) abiPlain libraryPlain
  exact named ▸ release.noDiagnostic _ data found

theorem auditRelease_exitStatus_iff :
    (∃ report, auditRelease py files inputs = .ok report ∧ report.exitStatus = 0) ↔
      ∃ componentManifest, readJson py inputs.componentManifest = .ok componentManifest ∧
        (∃ report, auditRepository py files inputs.repository inputs.listing =
          .ok (report, [])) ∧
        (auditSourcePlaceholders py inputs.sourceTree).2 = [] ∧
        (∃ report, auditComponentDir py inputs.components componentManifest inputs.contract
          inputs.sourceLock inputs.mode = .ok (report, [])) ∧
        ∃ report, auditCandidate py files inputs.candidateName inputs.candidate
          inputs.componentDir inputs.contract inputs.mode = .ok (report, []) := by
  have noError (report : AuditReport) : report.exitStatus = 0 ↔ report.errors = [] := by
    rw [AuditReport.exitStatus]
    split <;> simp_all
  simp only [noError, auditRelease, bind_eq_ok, pure_eq_ok, Except.ok.injEq]
  constructor
  · rintro ⟨report, ⟨manifest, read, repository, repositoryOk, components, componentsOk, candidate,
      candidateOk, rfl⟩, noErrors⟩
    simp only [List.append_eq_nil_iff] at noErrors
    obtain ⟨⟨⟨repositoryClean, sourceClean⟩, componentsClean⟩, candidateClean⟩ := noErrors
    exact ⟨manifest, read, ⟨repository.1, repositoryClean ▸ repositoryOk⟩, sourceClean,
      ⟨components.1, componentsClean ▸ componentsOk⟩, candidate.1, candidateClean ▸ candidateOk⟩
  · rintro ⟨manifest, read, ⟨repository, repositoryOk⟩, sourceClean, ⟨components, componentsOk⟩,
      candidate, candidateOk⟩
    refine ⟨_, ⟨manifest, read, _, repositoryOk, _, componentsOk, _, candidateOk, rfl⟩, ?_⟩
    simp [sourceClean]

end Release

/-- The release inputs that the scripts make pass their audit exactly when the repository
and the components are as a release wants them, no file of the components has changed since
their manifest was written, and no class is a forbidden one. -/
theorem own_release_audited_iff (py : StandardLibrary) (files : Files) (inputs : AuditInputs)
    (paths : List String) (recorded : ComponentDir) (packagerInputs : Inputs)
    (contract : Complete.Contract) (sourceLock : Document) (artifactVersion version : String)
    (manifestOutput : PurePosixPath) (output : Output) (classesJar apiManifest : Bytes)
    (plain : contract.PlainLibraries) (complete : inputs.mode = .complete)
    (sameLibraries : inputs.contract.nativeLibraries = contract.nativeLibraries)
    (sameLock : inputs.sourceLock = sourceLock.val)
    (gitPaths : ∀ path ∈ paths, IsGitPath path) (listed : inputs.listing = listedPaths paths)
    (collisionFree : CollisionFree py.hashlib.sha256 (dataAt recorded) (dataAt inputs.components))
    (outside : Outside manifestOutput recorded)
    (holds : HoldsComponents files inputs.componentDir inputs.contract inputs.components)
    (written : writeComponentManifest py recorded sourceLock.val artifactVersion .complete
      manifestOutput = .ok inputs.componentManifest)
    (packagedFrom : PackagedFrom recorded contract packagerInputs)
    (apiPackaged : packageApi py classesJar apiManifest = .ok packagerInputs.apiAar)
    (packaged : packageMain py packagerInputs contract sourceLock version = .ok output)
    (sameCandidate : inputs.candidate = output.aar) :
    ∃ compiled, readClassesJar py classesJar = .ok compiled ∧
      ((∃ report, auditRelease py files inputs = .ok report ∧ report.exitStatus = 0) ↔
        TextRepository files inputs.repository paths ∧ PlaceholderTree inputs.sourceTree ∧
        (∀ relative, dataAt inputs.components relative = dataAt recorded relative) ∧
        ReleaseComponents inputs.contract .complete inputs.components ∧
        ∀ forbidden ∈ inputs.contract.forbiddenClassPrefixes, ∀ name ∈ compiled,
          startsWith (normalizeName name) forbidden = false) := by
  obtain ⟨compiled, normalizedClasses, packed⟩ := packageApi_eq_ok.mp apiPackaged
  refine ⟨compiled, packed.read, ?_⟩
  obtain ⟨componentManifest, report, errors, read, audited, noError⟩ :=
    @auditComponentDir_written py recorded inputs.components inputs.contract .complete sourceLock
      _ _ _ collisionFree outside written
  have candidate (unchanged : ∀ relative,
      dataAt inputs.components relative = dataAt recorded relative) :=
    auditCandidate_packaged_iff inputs.candidateName plain sameLibraries
      (builtFrom_of_packagedFrom sameLibraries holds unchanged packagedFrom) packed packaged
  have componentsClean (manifest : Json)
      (isManifest : readJson py inputs.componentManifest = .ok manifest) :
      (∃ report, auditComponentDir py inputs.components manifest inputs.contract sourceLock.val
        .complete = .ok (report, [])) ↔
          (∀ relative, dataAt inputs.components relative = dataAt recorded relative) ∧
            ReleaseComponents inputs.contract .complete inputs.components := by
    obtain rfl := Except.ok.inj (read.symm.trans isManifest)
    simp only [audited, Except.ok.injEq, Prod.mk.injEq, exists_and_right, exists_eq', true_and,
      noError]
  simp only [auditRelease_exitStatus_iff, listed, auditRepository_noError_iff gitPaths,
    auditSourcePlaceholders_noError_iff, complete, sameLock, sameCandidate]
  constructor
  · rintro ⟨manifest, isManifest, text, placeholders, components, accepted⟩
    obtain ⟨unchanged, release⟩ := (componentsClean manifest isManifest).mp components
    exact ⟨text, placeholders, unchanged, release, ((candidate unchanged).mp accepted).1⟩
  · rintro ⟨text, placeholders, unchanged, release, allowed⟩
    have noDiagnostic := noDiagnostic_of_releaseComponents plain sameLibraries release
    exact ⟨componentManifest, read, text, placeholders,
      (componentsClean _ read).mpr ⟨unchanged, release⟩,
      (candidate unchanged).mpr ⟨allowed, noDiagnostic⟩⟩

/-! ### The release inputs of one library -/

def releaseComponents (apiAar : Bytes) : ComponentDir where
  items := [("LICENSE-LiteRT.txt", .file (.parse "/components/LICENSE-LiteRT.txt") []),
    ("THIRD_PARTY_LICENSES.txt", .file (.parse "/components/THIRD_PARTY_LICENSES.txt") []),
    ("THIRD_PARTY_NOTICES.md", .file (.parse "/components/THIRD_PARTY_NOTICES.md") []),
    ("api", .other),
    ("api/litert-bss-api.aar", .file (.parse "/components/api/litert-bss-api.aar") apiAar),
    ("native/arm64-v8a/libLiteRt.so",
      .file (.parse "/components/native/arm64-v8a/libLiteRt.so") ELF_MAGIC)]
  unique := by simp

def releasePaths : List String :=
  ["scripts/build-release.sh", "patches/complete-runtime/0001.patch"]

def releaseRepository : PurePosixPath := .parse "/repository"

/-- The files of the repository are empty; the others are components. -/
def releaseFiles (apiAar : Bytes) : Files := fun path =>
  if path ∈ releasePaths.map releaseRepository.child then some []
  else dataAt (releaseComponents apiAar) (withoutFront path.asPosix "/build/components/")

def placeholderTree : SourceTree :=
  ⟨[("prebuilt/libLiteRt.so", ⟨LFS_PREFIX ++ encodeUtf8 "oid sha256:0f\n", false⟩)],
    List.nodup_singleton _⟩

theorem releaseFiles_hold (apiAar : Bytes) : HoldsComponents (releaseFiles apiAar)
    componentDirectory arm64Audit (releaseComponents apiAar) := by
  have located : ∀ relative ∈ expectedComponentPaths arm64Audit .complete,
      componentDirectory.child relative ∉ releasePaths.map releaseRepository.child ∧
        withoutFront (componentDirectory.child relative).asPosix "/build/components/" =
          relative := by
    decide
  intro relative member
  obtain ⟨outside, named⟩ := located relative member
  rw [releaseFiles, if_neg outside, named]

theorem releaseComponents_release (apiAar : Bytes) :
    ReleaseComponents arm64Audit .complete (releaseComponents apiAar) := by
  refine releaseComponents_iff.mp ⟨?_, ?_⟩
  · have keys : ((releaseComponents apiAar).filterMap fun _ => fileData).keys =
        ["LICENSE-LiteRT.txt", "THIRD_PARTY_LICENSES.txt", "THIRD_PARTY_NOTICES.md",
          "api/litert-bss-api.aar", "native/arm64-v8a/libLiteRt.so"] := rfl
    have same : ["LICENSE-LiteRT.txt", "THIRD_PARTY_LICENSES.txt", "THIRD_PARTY_NOTICES.md",
        "api/litert-bss-api.aar", "native/arm64-v8a/libLiteRt.so"].Perm
          (expectedComponentPaths arm64Audit .complete) := by
      decide
    exact fun name => keys ▸ same.mem_iff
  · have items : ((releaseComponents apiAar).filterMap fun _ => fileData).items =
        [("LICENSE-LiteRT.txt", []), ("THIRD_PARTY_LICENSES.txt", []),
          ("THIRD_PARTY_NOTICES.md", []), ("api/litert-bss-api.aar", apiAar),
          ("native/arm64-v8a/libLiteRt.so", ELF_MAGIC)] := rfl
    rw [auditFiles_eq_nil_iff, items]
    simp only [List.forall_mem_cons]
    exact ⟨by decide, by decide, by decide, ⟨fun library => absurd library (by decide), by decide⟩,
      by decide, fun _ absent => absurd absent List.not_mem_nil⟩

theorem releaseText (apiAar : Bytes) :
    TextRepository (releaseFiles apiAar) releaseRepository releasePaths := by
  have empty : ∀ path ∈ releasePaths, releaseFiles apiAar (releaseRepository.child path) =
      some [] := by
    intro path member
    rw [releaseFiles, if_pos (List.mem_map_of_mem member)]
  have markers : ∀ marker ∈ BINARY_PATCH_MARKERS, ¬ marker.1 <:+: [] := by decide
  exact ⟨by decide, fun path member _ => ⟨[], empty path member, markers⟩,
    fun path member _ => ⟨[], empty path member⟩⟩

theorem placeholderTree_placeholders : PlaceholderTree placeholderTree := by
  refine (@auditSourcePlaceholders_noError_iff concreteLibrary _).mp ?_
  decide

theorem releaseComponents_outside (apiAar : Bytes) :
    Outside (.parse "/out/manifest.json") (releaseComponents apiAar) := by
  intro relative resolved data found same
  have listed := Dict.get?_eq_some_iff.mp found
  have elsewhere : ∀ path ∈ ["/components/LICENSE-LiteRT.txt",
      "/components/THIRD_PARTY_LICENSES.txt", "/components/THIRD_PARTY_NOTICES.md",
      "/components/api/litert-bss-api.aar", "/components/native/arm64-v8a/libLiteRt.so"],
        PurePosixPath.parse path ≠ .parse "/out/manifest.json" := by
    decide
  simp only [releaseComponents, List.mem_cons, Prod.mk.injEq, Node.file.injEq, reduceCtorEq,
    and_false, List.not_mem_nil, or_false, false_or] at listed
  rcases listed with ⟨-, rfl, -⟩ | ⟨-, rfl, -⟩ | ⟨-, rfl, -⟩ | ⟨-, rfl, -⟩ | ⟨-, rfl, -⟩
  all_goals exact elsewhere _ (by simp) same

theorem releaseComponents_api (apiAar : Bytes) :
    dataAt (releaseComponents apiAar) "api/litert-bss-api.aar" = some apiAar := rfl

theorem releaseComponents_packaged : PackagedFrom (releaseComponents arm64Inputs.apiAar)
    Complete.sampleContract arm64Inputs where
  api := releaseComponents_api _
  native := by
    refine List.forall_mem_singleton.mpr ?_
    rw [arm64_sameFiles]
    rfl

theorem own_release_audited_iff_arm64 : ∃ inputs report,
    auditRelease concreteLibrary (releaseFiles arm64Inputs.apiAar) inputs = .ok report ∧
      report.exitStatus = 0 := by
  obtain ⟨output, packaged⟩ := arm64_packs
  obtain ⟨manifest, written⟩ : ∃ manifest, writeComponentManifest concreteLibrary
      (releaseComponents arm64Inputs.apiAar) Complete.sampleLock.val "1.0" .complete
        (.parse "/out/manifest.json") = .ok manifest := ⟨_, rfl⟩
  have gitPaths : ∀ path ∈ releasePaths, IsGitPath path := by decide
  have unchanged : CollisionFree concreteLibrary.hashlib.sha256
      (dataAt (releaseComponents arm64Inputs.apiAar))
      (dataAt (releaseComponents arm64Inputs.apiAar)) :=
    fun _ _ _ first second _ => Option.some.inj (first.symm.trans second)
  obtain ⟨compiled, read, accepted_iff⟩ := own_release_audited_iff concreteLibrary
    (releaseFiles arm64Inputs.apiAar) {
      repository := releaseRepository
      listing := listedPaths releasePaths
      sourceTree := placeholderTree
      componentDir := componentDirectory
      components := releaseComponents arm64Inputs.apiAar
      componentManifest := manifest
      candidateName := "candidate.aar"
      candidate := output.aar
      contract := arm64Audit
      sourceLock := Complete.sampleLock.val
      mode := .complete }
    releasePaths (releaseComponents arm64Inputs.apiAar) arm64Inputs Complete.sampleContract
    Complete.sampleLock "1.0" "1.0" (.parse "/out/manifest.json") output compiledJar []
    sample_plain rfl arm64_sameLibraries rfl gitPaths rfl unchanged (releaseComponents_outside _)
    (releaseFiles_hold _) written releaseComponents_packaged arm64_apiPackaged packaged rfl
  obtain rfl := Except.ok.inj (read_compiledJar.symm.trans read)
  have allowed : ∀ forbidden ∈ arm64Audit.forbiddenClassPrefixes, ∀ name ∈ compiledApi,
      startsWith (normalizeName name) forbidden = false := by decide
  obtain ⟨report, audited⟩ := accepted_iff.mpr ⟨releaseText _, placeholderTree_placeholders,
    fun _ => rfl, releaseComponents_release _, allowed⟩
  exact ⟨_, report, audited⟩

end BssLiteRt.Audit

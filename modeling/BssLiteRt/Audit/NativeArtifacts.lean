import BssLiteRt.Audit.ComponentDir
import BssLiteRt.Audit.ElfTools
import BssLiteRt.Audit.OwnCandidate
import BssLiteRt.Complete.Preparation

/-!
Owns `verify_native_artifacts.py`: every library of the native directory is inspected and
held against the policy of the contract, and what was verified is what
`package_complete_aar.py` packages.
-/

namespace BssLiteRt.Audit

open BssLiteRt.Library BssLiteRt.Python BssLiteRt.Archive BssLiteRt.Complete

/-! ### Inspections -/

/-- A file below the native directory. A symlink to a file has the contents of the file. -/
structure NativeFile where
  data : Bytes
  symlink : Bool

/-- The files of the native directory by their relative paths. -/
abbrev NativeDir := Dict String NativeFile

/-- What `native_dir.rglob("*.so")` finds. -/
def sharedObjects (directory : NativeDir) : NativeDir :=
  directory.filter fun relative _ => endsWith relative ".so"

structure ElfInspection where
  path : String
  bytes : Nat
  sha256 : String
  elfClass : Json
  machine : Json
  androidApi : Nat
  soname : Json
  needed : List String
  definedSymbols : List String

/-- `value[key][...]` -/
def valueAt (value : Json) : List String → Py Json
  | [] => .ok value
  | key :: rest => do
      let inner ← getItem value key
      valueAt inner rest

/-- `value.startswith(front)` -/
def valueStartsWith (value : Json) (front : String) : Py Bool :=
  match value with
  | .str text => .ok (startsWith text front)
  | .obj _ => raise .attributeError "'dict' object has no attribute 'startswith'"
  | .arr _ => raise .attributeError "'list' object has no attribute 'startswith'"
  | .null => raise .attributeError "'NoneType' object has no attribute 'startswith'"
  | .bool _ => raise .attributeError "'bool' object has no attribute 'startswith'"
  | .int _ => raise .attributeError "'int' object has no attribute 'startswith'"

def ELF_MAGIC : Bytes := [0x7f, 0x45, 0x4c, 0x46]

/-- `inspect_elf` of the file under the path. -/
def inspectElf (py : StandardLibrary) (tools : Toolchain) (path : String) (file : NativeFile)
    (relative : String) : Inspecting ElfInspection := do
  fromPy (raiseIf file.symlink .valueError
    ("Native library must not be a symlink: " ++ relative))
  fromPy (raiseIf (file.data.take 4 ≠ ELF_MAGIC) .valueError
    ("Native library is not ELF: " ++ relative))
  let document ← tools.readobjHeaderAndNotes py path
  let header ← fromPy (getItem document "ElfHeader")
  let summary ← fromPy (getItem document "FileSummary")
  let encoding ← fromPy (valueAt header ["Ident", "DataEncoding", "Value"])
  fromPy (raiseIf (encoding ≠ .str "LittleEndian") .valueError
    ("Native library is not little-endian: " ++ relative))
  let fileType ← fromPy (getItem header "Type")
  let shared ← fromPy (valueStartsWith fileType "SharedObject")
  fromPy (raiseIf (!shared) .valueError
    ("Native library is not a shared object: " ++ relative))
  let neededOutput ← tools.runTool [tools.llvmReadobj, "--needed-libs", path]
  let needed ← fromPy (parseNeeded neededOutput)
  let symbolOutput ← tools.runTool
    [tools.llvmNm, "-D", "--defined-only", "--format=posix", path]
  let elfClass ← fromPy (valueAt header ["Ident", "Class", "Value"])
  let machine ← fromPy (valueAt header ["Machine", "Value"])
  let androidApi ← fromPy (parseAndroidApi document)
  let soname ← fromPy (getItem summary "LoadName")
  return {
    path := relative
    bytes := file.data.length
    sha256 := py.hashlib.sha256 file.data
    elfClass, machine, androidApi, soname, needed
    definedSymbols := parseDefinedSymbols symbolOutput }

/-! ### The policy -/

structure AbiPolicy where
  elfClass : String
  machine : String

/-- What the contract asks of a library. A list that it leaves out is empty. -/
structure LibraryPolicy where
  sonames : List String
  needed : List String
  requiredSymbols : List String
  requiredSymbolsFile : Option String
  exportedJniSymbolsFile : Option String

/-- `contract["nativeValidation"]`, with the root that its files are found from. -/
structure NativePolicy where
  androidApi : Int
  abis : Dict String AbiPolicy
  libraries : Dict String LibraryPolicy
  contractRoot : PurePosixPath

/-- `entries[key]` -/
def lookupKey {α : Type} (py : StandardLibrary) (entries : Dict String α) (key : String) : Py α :=
  match entries.get? key with
  | some value => .ok value
  | none => raise .keyError (py.repr key)

/-- `read_lines` -/
def readLines (files : Files) (path : PurePosixPath) : Py (List String) := do
  let data ← match files path with
    | some data => .ok data
    | none =>
        raise .fileNotFoundError ("[Errno 2] No such file or directory: " ++ path.asPosix)
  let lines := allowlistEntries (← readTextUtf8 data)
  raiseIf (lines.length ≠ lines.dedup.length) .valueError ("Duplicate entries in " ++ path.asPosix)
  return lines

/-- The symbols of a file that the policy names. An empty name names none. -/
def symbolsOfFile (files : Files) (policy : NativePolicy) (named : Option String) :
    Py (Option (List String)) :=
  match named.filter (· ≠ "") with
  | none => .ok none
  | some name => do
      let lines ← readLines files (policy.contractRoot.child name)
      return some lines

/-- A value as a message quotes it. -/
def showValue (py : StandardLibrary) : Json → String
  | .str text => py.repr text
  | value => py.str value

/-- The libraries among the SONAMEs. -/
def isAllowedSoname (sonames : List String) : Json → Bool
  | .str text => text ∈ sonames
  | _ => false

def jniErrors (py : StandardLibrary) (inspection : ElfInspection) :
    Option (List String) → List String
  | none => []
  | some expectedJni =>
      let actualJni := inspection.definedSymbols.filter fun symbol => startsWith symbol "Java_"
      errorIf (!sameNames actualJni expectedJni)
        (inspection.path ++ ": JNI export drift; missing=" ++
          showNames py (sortedDifference expectedJni actualJni) ++ ", extra=" ++
          showNames py (sortedDifference actualJni expectedJni))

def validateInspection (py : StandardLibrary) (files : Files) (policy : NativePolicy)
    (inspection : ElfInspection) (abi library : String) : Py (List String) := do
  let abiPolicy ← lookupKey py policy.abis abi
  let libraryPolicy ← lookupKey py policy.libraries library
  let expectedNeeded := libraryPolicy.needed.insertionSort (· ≤ ·)
  let listed ← symbolsOfFile files policy libraryPolicy.requiredSymbolsFile
  let required := libraryPolicy.requiredSymbols ++ listed.getD []
  let missing := sortedDifference required inspection.definedSymbols
  let expectedJni ← symbolsOfFile files policy libraryPolicy.exportedJniSymbolsFile
  return errorIf (inspection.elfClass ≠ .str abiPolicy.elfClass)
      (inspection.path ++ ": class " ++ py.str inspection.elfClass ++ ", expected " ++
        abiPolicy.elfClass) ++
    errorIf (inspection.machine ≠ .str abiPolicy.machine)
      (inspection.path ++ ": machine " ++ py.str inspection.machine ++ ", expected " ++
        abiPolicy.machine) ++
    errorIf ((inspection.androidApi : Int) ≠ policy.androidApi)
      (inspection.path ++ ": Android API " ++ toString inspection.androidApi ++ ", expected " ++
        toString policy.androidApi) ++
    errorIf (!isAllowedSoname libraryPolicy.sonames inspection.soname)
      (inspection.path ++ ": SONAME " ++ showValue py inspection.soname ++ " is not allowed") ++
    errorIf (inspection.needed ≠ expectedNeeded)
      (inspection.path ++ ": DT_NEEDED " ++ showNames py inspection.needed ++ ", expected " ++
        showNames py expectedNeeded) ++
    errorIf (missing ≠ [])
      (inspection.path ++ ": missing symbols " ++ showNames py missing) ++
    jniErrors py inspection expectedJni

/-! ### The verification -/

/-- The report, before it is written. -/
structure NativeReport where
  inspections : List ElfInspection
  errors : List String

/-- The loop over the libraries that are expected and there. -/
def inspectLibraries (py : StandardLibrary) (tools : Toolchain) (files : Files)
    (policy : NativePolicy) (nativeDir : PurePosixPath) (actual : NativeDir)
    (expected : Dict String (String × String)) : List String → Inspecting NativeReport
  | [] => .ok ⟨[], []⟩
  | relative :: rest => do
      let pair ← fromPy (lookupKey py expected relative)
      let file ← fromPy (lookupKey py actual relative)
      let inspection ← inspectElf py tools (nativeDir.child relative).asPosix file relative
      let errors ← fromPy (validateInspection py files policy inspection pair.1 pair.2)
      let later ← inspectLibraries py tools files policy nativeDir actual expected rest
      return ⟨inspection :: later.inspections, errors ++ later.errors⟩

/-- `main` up to its report. -/
def verifyNative (py : StandardLibrary) (tools : Toolchain) (files : Files)
    (policy : NativePolicy) (contract : Contract) (mode : Mode) (nativeDir : PurePosixPath)
    (directory : NativeDir) : Inspecting NativeReport := do
  let expected := expectedNativePaths contract mode
  let actual := sharedObjects directory
  let missing := sortedDifference expected.keys actual.keys
  let extra := sortedDifference actual.keys expected.keys
  let inspected ← inspectLibraries py tools files policy nativeDir actual expected
    (sortedIntersection expected.keys actual.keys)
  return ⟨inspected.inspections,
    errorIf (missing ≠ []) ("Missing native libraries: " ++ showNames py missing) ++
      errorIf (extra ≠ []) ("Unexpected native libraries: " ++ showNames py extra) ++
      inspected.errors⟩

/-- `asdict(inspection)` -/
def ElfInspection.json (inspection : ElfInspection) : Json :=
  .obj [("path", .str inspection.path), ("bytes", .int inspection.bytes),
    ("sha256", .str inspection.sha256), ("elf_class", inspection.elfClass),
    ("machine", inspection.machine), ("android_api", .int inspection.androidApi),
    ("soname", inspection.soname), ("needed", .arr (inspection.needed.map .str)),
    ("defined_symbols", .arr (inspection.definedSymbols.map .str))]

/-- The document that `--report` writes, with errors or without. -/
def NativeReport.json (report : NativeReport) (mode : Mode) (contractName : String) : Json :=
  .obj [("schemaVersion", .int 1), ("mode", .str mode.text), ("contract", .str contractName),
    ("libraries", .arr (report.inspections.map ElfInspection.json)),
    ("errors", .arr (report.errors.map .str))]

/-- What `main` returns. -/
def NativeReport.exitStatus (report : NativeReport) : Nat :=
  if report.errors = [] then 0 else 1

/-! ### What is read of one library -/

section Inspection

variable {py : StandardLibrary} {tools : Toolchain} {file : NativeFile} {path relative : String}
  {inspection : ElfInspection} {α β : Type}

theorem inspecting_bind_eq_ok {call : Inspecting α} {next : α → Inspecting β} {result : β} :
    (call >>= next) = .ok result ↔ ∃ value, call = .ok value ∧ next value = .ok result := by
  cases call with
  | error failure => exact ⟨nofun, fun ⟨_, failed, _⟩ => absurd failed nofun⟩
  | ok value =>
      constructor
      · exact fun returned => ⟨value, rfl, returned⟩
      · rintro ⟨other, same, returned⟩
        cases same
        exact returned

theorem fromPy_eq_ok {result : Py α} {value : α} :
    fromPy result = .ok value ↔ result = .ok value := by
  cases result <;> simp [fromPy, Except.mapError]

theorem pure_inspecting_eq_ok {value result : α} :
    (pure value : Inspecting α) = .ok result ↔ value = result :=
  ⟨Except.ok.inj, congrArg Except.ok⟩

/-- An inspected library is a regular file, and its record is that of its bytes. -/
structure RecordsFile (py : StandardLibrary) (file : NativeFile) (relative : String)
    (inspection : ElfInspection) : Prop where
  regular : file.symlink = false
  elf : file.data.take 4 = ELF_MAGIC
  path : inspection.path = relative
  bytes : inspection.bytes = file.data.length
  sha256 : inspection.sha256 = py.hashlib.sha256 file.data
  sorted : inspection.needed.Pairwise (· ≤ ·)

theorem parseNeeded_sorted {output : String} {needed : List String}
    (parsed : parseNeeded output = .ok needed) : needed.Pairwise (· ≤ ·) := by
  unfold parseNeeded at parsed
  split at parsed
  · cases parsed
  · exact Except.ok.inj parsed ▸ List.pairwise_insertionSort _ _

theorem inspectElf_records (inspected : inspectElf py tools path file relative = .ok inspection) :
    RecordsFile py file relative inspection := by
  unfold inspectElf at inspected
  simp only [inspecting_bind_eq_ok, fromPy_eq_ok, pure_inspecting_eq_ok, exists_unit,
    raiseIf_eq_ok, decide_eq_false_iff_not, ne_eq, not_not] at inspected
  obtain ⟨regular, elf, document, -, header, -, summary, -, encoding, -, -, fileType, -, shared, -,
    -, neededOutput, -, needed, parsed, symbolOutput, -, elfClass, -, machine, -, androidApi, -,
    soname, -, rfl⟩ := inspected
  exact ⟨regular, elf, rfl, rfl, rfl, parseNeeded_sorted parsed⟩

end Inspection

/-! ### When a library meets the policy -/

section Policy

variable {py : StandardLibrary} {files : Files} {policy : NativePolicy}
  {inspection : ElfInspection} {abi library : String} {α : Type}

theorem lookupKey_eq_ok {entries : Dict String α} {key : String} {value : α} :
    lookupKey py entries key = .ok value ↔ entries.get? key = some value := by
  unfold lookupKey
  cases entries.get? key <;> simp

/-- A library as the policy wants it, with what the policy says of it. -/
structure MeetsPolicy (files : Files) (policy : NativePolicy) (abi library : String)
    (inspection : ElfInspection) (abiPolicy : AbiPolicy) (libraryPolicy : LibraryPolicy)
    (listed exported : Option (List String)) : Prop where
  abiKnown : policy.abis.get? abi = some abiPolicy
  libraryKnown : policy.libraries.get? library = some libraryPolicy
  listedRead : symbolsOfFile files policy libraryPolicy.requiredSymbolsFile = .ok listed
  exportedRead : symbolsOfFile files policy libraryPolicy.exportedJniSymbolsFile = .ok exported
  elfClass : inspection.elfClass = .str abiPolicy.elfClass
  machine : inspection.machine = .str abiPolicy.machine
  androidApi : (inspection.androidApi : Int) = policy.androidApi
  soname : ∃ text ∈ libraryPolicy.sonames, inspection.soname = .str text
  needed : inspection.needed.Perm libraryPolicy.needed
  required : ∀ symbol ∈ libraryPolicy.requiredSymbols ++ listed.getD [],
    symbol ∈ inspection.definedSymbols
  jni : ∀ expected, exported = some expected → ∀ symbol,
    symbol ∈ inspection.definedSymbols ∧ startsWith symbol "Java_" = true ↔ symbol ∈ expected

theorem isAllowedSoname_iff {sonames : List String} {soname : Json} :
    isAllowedSoname sonames soname = true ↔ ∃ text ∈ sonames, soname = .str text := by
  cases soname <;> simp [isAllowedSoname]

theorem eq_sorted_iff_perm {names expected : List String} (sorted : names.Pairwise (· ≤ ·)) :
    names = expected.insertionSort (· ≤ ·) ↔ names.Perm expected := by
  constructor
  · intro same
    rw [same]
    exact List.perm_insertionSort _ _
  · intro same
    refine (same.trans (List.perm_insertionSort _ _).symm).eq_of_pairwise ?_ sorted
      (List.pairwise_insertionSort _ _)
    exact fun _ _ _ _ below above => le_antisymm below above

theorem jniErrors_eq_nil_iff {exported : Option (List String)} :
    jniErrors py inspection exported = [] ↔ ∀ expected, exported = some expected → ∀ symbol,
      symbol ∈ inspection.definedSymbols ∧ startsWith symbol "Java_" = true ↔
        symbol ∈ expected := by
  cases exported with
  | none => simp [jniErrors]
  | some expected =>
      simp only [jniErrors, errorIf_eq_nil_iff, Bool.not_eq_false', sameNames_iff, List.mem_filter,
        Option.some.injEq, forall_eq']

/-- The validation reports nothing exactly when the library meets the policy. -/
theorem validateInspection_eq_nil_iff (sorted : inspection.needed.Pairwise (· ≤ ·)) :
    validateInspection py files policy inspection abi library = .ok [] ↔
      ∃ abiPolicy libraryPolicy listed exported,
        MeetsPolicy files policy abi library inspection abiPolicy libraryPolicy listed exported := by
  unfold validateInspection
  simp only [bind_eq_ok, lookupKey_eq_ok, pure_eq_ok, Except.ok.injEq, List.append_eq_nil_iff,
    errorIf_eq_nil_iff, jniErrors_eq_nil_iff, decide_eq_false_iff_not, ne_eq, not_not,
    Bool.not_eq_false', isAllowedSoname_iff, eq_sorted_iff_perm sorted,
    sortedDifference_eq_nil_iff]
  constructor
  · rintro ⟨abiPolicy, abiKnown, libraryPolicy, libraryKnown, listed, listedRead, exported,
      exportedRead, ⟨⟨⟨⟨⟨elfClass, machine⟩, androidApi⟩, soname⟩, needed⟩, required⟩, jni⟩
    exact ⟨abiPolicy, libraryPolicy, listed, exported, abiKnown, libraryKnown, listedRead,
      exportedRead, elfClass, machine, androidApi, soname, needed, required, jni⟩
  · rintro ⟨abiPolicy, libraryPolicy, listed, exported, meets⟩
    exact ⟨abiPolicy, meets.abiKnown, libraryPolicy, meets.libraryKnown, listed, meets.listedRead,
      exported, meets.exportedRead, ⟨⟨⟨⟨⟨meets.elfClass, meets.machine⟩, meets.androidApi⟩,
      meets.soname⟩, meets.needed⟩, meets.required⟩, meets.jni⟩

end Policy

/-! ### A whole verification -/

section Verification

variable {py : StandardLibrary} {tools : Toolchain} {files : Files} {policy : NativePolicy}
  {contract : Contract} {mode : Mode} {nativeDir : PurePosixPath} {actual directory : NativeDir}
  {expected : Dict String (String × String)}

/-- An expected library that is there was inspected and meets the policy. -/
def Verified (py : StandardLibrary) (tools : Toolchain) (files : Files) (policy : NativePolicy)
    (nativeDir : PurePosixPath) (actual : NativeDir) (expected : Dict String (String × String))
    (relative : String) (inspection : ElfInspection) : Prop :=
  ∃ pair file, expected.get? relative = some pair ∧ actual.get? relative = some file ∧
    inspectElf py tools (nativeDir.child relative).asPosix file relative = .ok inspection ∧
    ∃ abiPolicy libraryPolicy listed exported,
      MeetsPolicy files policy pair.1 pair.2 inspection abiPolicy libraryPolicy listed exported

theorem inspectLibraries_noError_iff {names : List String} {inspections : List ElfInspection} :
    inspectLibraries py tools files policy nativeDir actual expected names =
        .ok ⟨inspections, []⟩ ↔
      List.Forall₂ (Verified py tools files policy nativeDir actual expected) names
        inspections := by
  induction names generalizing inspections with
  | nil =>
      rw [List.forall₂_nil_left_iff, inspectLibraries, Except.ok.injEq, NativeReport.mk.injEq]
      exact ⟨fun same => same.1.symm, fun same => ⟨same.symm, rfl⟩⟩
  | cons relative rest inductionHypothesis =>
      simp only [inspectLibraries, inspecting_bind_eq_ok, fromPy_eq_ok, lookupKey_eq_ok,
        pure_inspecting_eq_ok, NativeReport.mk.injEq, List.append_eq_nil_iff]
      rw [List.forall₂_cons_left_iff]
      constructor
      · rintro ⟨pair, isPair, file, isFile, inspection, inspected, errors, validated,
          ⟨later, laterErrors⟩, verified, rfl, rfl, noneLater⟩
        dsimp only at noneLater
        subst noneLater
        have meets := (validateInspection_eq_nil_iff (inspectElf_records inspected).sorted).mp
          validated
        exact ⟨inspection, later, ⟨pair, file, isPair, isFile, inspected, meets⟩,
          inductionHypothesis.mp verified, rfl⟩
      · rintro ⟨inspection, later, ⟨pair, file, isPair, isFile, inspected, meets⟩, verified, rfl⟩
        have validated := (@validateInspection_eq_nil_iff py _ _ _ _ _
          (inspectElf_records inspected).sorted).mpr meets
        exact ⟨pair, isPair, file, isFile, inspection, inspected, [], validated, ⟨later, []⟩,
          inductionHypothesis.mpr verified, rfl, rfl, rfl⟩

theorem exists_forall₂ {α β : Type} {relates : α → β → Prop} {items : List α}
    (each : ∀ item ∈ items, ∃ value, relates item value) :
    ∃ values, List.Forall₂ relates items values := by
  induction items with
  | nil => exact ⟨[], .nil⟩
  | cons item rest inductionHypothesis =>
      obtain ⟨⟨value, related⟩, others⟩ := List.forall_mem_cons.mp each
      obtain ⟨values, relatedRest⟩ := inductionHypothesis others
      exact ⟨value :: values, .cons related relatedRest⟩

theorem exists_related {α β : Type} {relates : α → β → Prop} {items : List α} {values : List β}
    (related : List.Forall₂ relates items values) {item : α} (member : item ∈ items) :
    ∃ value ∈ values, relates item value := by
  induction related with
  | nil => exact absurd member List.not_mem_nil
  | @cons first value _ values first_value later inductionHypothesis =>
      rcases List.mem_cons.mp member with rfl | inRest
      · exact ⟨value, List.mem_cons_self, first_value⟩
      · obtain ⟨other, isOther, itemOther⟩ := inductionHypothesis inRest
        exact ⟨other, List.mem_cons_of_mem value isOther, itemOther⟩

theorem isChecked_iff (sameLibraries : ∀ name, name ∈ actual ↔ name ∈ expected)
    (relative : String) :
    relative ∈ sortedIntersection expected.keys actual.keys ↔ relative ∈ actual := by
  rw [sortedIntersection, mem_sortedNames, List.mem_filter, decide_eq_true_iff,
    ← Dict.mem_iff_keys, ← Dict.mem_iff_keys, ← sameLibraries, and_self]

/-- A verification without errors: the directory holds the libraries of the contract, and
the report is of these. -/
theorem verifyNative_noError_iff {inspections : List ElfInspection} :
    verifyNative py tools files policy contract mode nativeDir directory =
        .ok ⟨inspections, []⟩ ↔
      (∀ name, name ∈ sharedObjects directory ↔ name ∈ expectedNativePaths contract mode) ∧
        List.Forall₂ (Verified py tools files policy nativeDir (sharedObjects directory)
          (expectedNativePaths contract mode))
          (sortedIntersection (expectedNativePaths contract mode).keys
            (sharedObjects directory).keys) inspections := by
  simp only [verifyNative, inspecting_bind_eq_ok, pure_inspecting_eq_ok, NativeReport.mk.injEq,
    List.append_eq_nil_iff, errorIf_eq_nil_iff, decide_eq_false_iff_not, ne_eq, not_not,
    sortedDifference_eq_nil_iff, ← inspectLibraries_noError_iff]
  constructor
  · rintro ⟨⟨inspected, errors⟩, verified, rfl, ⟨noneMissing, noneExtra⟩, noErrors⟩
    dsimp only at noErrors
    subst noErrors
    exact ⟨fun name => ⟨noneExtra name, noneMissing name⟩, verified⟩
  · rintro ⟨sameLibraries, verified⟩
    exact ⟨_, verified, rfl, ⟨fun name => (sameLibraries name).mpr,
      fun name => (sameLibraries name).mp⟩, rfl⟩

end Verification

/-- A native directory passes exactly when its shared objects are the libraries of the
contract and the inspection of each one succeeds with what the policy asks. -/
theorem native_artifacts_verified_iff (py : StandardLibrary) (tools : Toolchain) (files : Files)
    (policy : NativePolicy) (contract : Contract) (mode : Mode) (nativeDir : PurePosixPath)
    (directory : NativeDir) :
    (∃ report, verifyNative py tools files policy contract mode nativeDir directory =
        .ok report ∧ report.exitStatus = 0) ↔
      (∀ name, name ∈ sharedObjects directory ↔ name ∈ expectedNativePaths contract mode) ∧
        ∀ relative ∈ sharedObjects directory, ∃ inspection,
          Verified py tools files policy nativeDir (sharedObjects directory)
            (expectedNativePaths contract mode) relative inspection := by
  have noError (report : NativeReport) : report.exitStatus = 0 ↔ report.errors = [] := by
    rw [NativeReport.exitStatus]
    split <;> simp_all
  constructor
  · rintro ⟨⟨inspections, errors⟩, verified, passed⟩
    rw [noError] at passed
    dsimp only at passed
    subst passed
    obtain ⟨sameLibraries, each⟩ := verifyNative_noError_iff.mp verified
    refine ⟨sameLibraries, fun relative member => ?_⟩
    obtain ⟨inspection, -, verifiedOne⟩ :=
      exists_related each ((isChecked_iff sameLibraries relative).mpr member)
    exact ⟨inspection, verifiedOne⟩
  · rintro ⟨sameLibraries, each⟩
    obtain ⟨inspections, related⟩ := exists_forall₂ fun relative isChecked =>
      each relative ((isChecked_iff sameLibraries relative).mp isChecked)
    exact ⟨_, verifyNative_noError_iff.mpr ⟨sameLibraries, related⟩, rfl⟩

/-! ### Libraries that the tools can tell about -/

/-- What a library says of itself. -/
structure ElfFacts where
  elfClass : String
  encoding : String
  fileType : String
  machine : String
  soname : String
  androidApi : Nat
  needed : List String
  symbols : List ListedSymbol
  levelSmall : androidApi < 4294967296
  libraryNames : ∀ name ∈ needed, IsLibraryName name

/-- The document of `llvm-readobj` shows the facts. -/
structure Shows (document : Json) (facts : ElfFacts) : Prop where
  elfClass : valueAt document ["ElfHeader", "Ident", "Class", "Value"] = .ok (.str facts.elfClass)
  encoding : valueAt document ["ElfHeader", "Ident", "DataEncoding", "Value"] =
    .ok (.str facts.encoding)
  fileType : valueAt document ["ElfHeader", "Type"] = .ok (.str facts.fileType)
  machine : valueAt document ["ElfHeader", "Machine", "Value"] = .ok (.str facts.machine)
  soname : valueAt document ["FileSummary", "LoadName"] = .ok (.str facts.soname)
  notes : ∃ (others : List Json) (entry : Json) (rest : List Json) (more : Bytes),
    document.field? "Notes" = some (.arr (others ++ entry :: rest)) ∧
    (∀ other ∈ others, ∃ name, NotesSection other name ∧ name ≠ ".note.android.ident") ∧
    NotesSection entry ".note.android.ident" ∧
    DescribesNote entry (littleEndian facts.androidApi ++ more)

/-- The tools succeed on the path and print the facts. -/
structure Reported (py : StandardLibrary) (tools : Toolchain) (path : String)
    (facts : ElfFacts) : Prop where
  header : ∃ output fileName document, tools.runTool [tools.llvmReadobj,
      "--elf-output-style=JSON", "--file-headers", "--notes", path] = .ok output ∧
    py.json.loadsText output = .ok (.arr [.obj [(fileName, document)]]) ∧ Shows document facts
  needed : ∃ front indent back, ¬ neededMarker <:+: front ∧ (∀ char ∈ indent, char = ' ') ∧
    tools.runTool [tools.llvmReadobj, "--needed-libs", path] =
      .ok (printedNeeded front indent facts.needed back)
  symbols : tools.runTool [tools.llvmNm, "-D", "--defined-only", "--format=posix", path] =
    .ok (printedSymbols facts.symbols)

/-- The facts as the script records them. -/
def ElfFacts.inspection (facts : ElfFacts) (py : StandardLibrary) (file : NativeFile)
    (relative : String) : ElfInspection where
  path := relative
  bytes := file.data.length
  sha256 := py.hashlib.sha256 file.data
  elfClass := .str facts.elfClass
  machine := .str facts.machine
  androidApi := facts.androidApi
  soname := .str facts.soname
  needed := facts.needed.insertionSort (· ≤ ·)
  definedSymbols := sortedNames (facts.symbols.map ListedSymbol.symbol)

section Facts

variable {py : StandardLibrary} {tools : Toolchain} {file : NativeFile} {path relative : String}
  {facts : ElfFacts} {document : Json}

theorem valueAt_cons_eq_ok {value found : Json} {key : String} {rest : List String} :
    valueAt value (key :: rest) = .ok found ↔
      ∃ inner, value.field? key = some inner ∧ valueAt inner rest = .ok found := by
  rw [valueAt, bind_eq_ok]
  simp only [getItem_ok_iff]

theorem parseAndroidApi_shows (shows : Shows document facts) :
    parseAndroidApi document = .ok facts.androidApi := by
  obtain ⟨others, entry, rest, more, listed, foreign, named, described⟩ := shows.notes
  rw [parseAndroidApi, getD_of_field? listed, ok_bind, elements, ok_bind,
    androidApiOf_notes foreign]
  exact androidApiOf_android named facts.levelSmall described rest

theorem soleFile_of_one {library fileName : String} :
    soleFile library (.arr [.obj [(fileName, document)]]) = .ok document :=
  rfl

theorem readobjHeaderAndNotes_eq_ok {output fileName : String}
    (printed : tools.runTool [tools.llvmReadobj, "--elf-output-style=JSON", "--file-headers",
      "--notes", path] = .ok output)
    (loaded : py.json.loadsText output = .ok (.arr [.obj [(fileName, document)]])) :
    tools.readobjHeaderAndNotes py path = .ok document := by
  refine inspecting_bind_eq_ok.mpr ⟨output, printed, fromPy_eq_ok.mpr ?_⟩
  rw [loaded, ok_bind, soleFile_of_one]

theorem fromPy_ok {α : Type} (value : α) : fromPy (Except.ok value : Py α) = .ok value :=
  rfl

theorem inspecting_ok_bind {α β : Type} (value : α) (next : α → Inspecting β) :
    ((Except.ok value : Inspecting α) >>= next) = next value :=
  rfl

/-- Only the four checks are left of the inspection of a library that the tools tell
about. -/
theorem inspectElf_eq (reported : Reported py tools path facts) :
    inspectElf py tools path file relative = do
      fromPy (raiseIf file.symlink .valueError
        ("Native library must not be a symlink: " ++ relative))
      fromPy (raiseIf (file.data.take 4 ≠ ELF_MAGIC) .valueError
        ("Native library is not ELF: " ++ relative))
      fromPy (raiseIf (Json.str facts.encoding ≠ .str "LittleEndian") .valueError
        ("Native library is not little-endian: " ++ relative))
      fromPy (raiseIf (!startsWith facts.fileType "SharedObject") .valueError
        ("Native library is not a shared object: " ++ relative))
      return facts.inspection py file relative := by
  obtain ⟨output, fileName, document, printed, loaded, shows⟩ := reported.header
  obtain ⟨front, indent, back, absent, blank, neededPrinted⟩ := reported.needed
  have headerRead := readobjHeaderAndNotes_eq_ok printed loaded
  obtain ⟨header, hasHeader, encoding⟩ := valueAt_cons_eq_ok.mp shows.encoding
  obtain ⟨summary, hasSummary, soname⟩ := valueAt_cons_eq_ok.mp shows.soname
  have inHeader {keys : List String} {found : Json}
      (located : valueAt document ("ElfHeader" :: keys) = .ok found) :
      valueAt header keys = .ok found := by
    obtain ⟨other, hasOther, there⟩ := valueAt_cons_eq_ok.mp located
    obtain rfl := Option.some.inj (hasHeader.symm.trans hasOther)
    exact there
  have headerOk : getItem document "ElfHeader" = .ok header := getItem_ok_iff.mpr hasHeader
  have summaryOk : getItem document "FileSummary" = .ok summary := getItem_ok_iff.mpr hasSummary
  have itemOk {value found : Json} {key : String} (located : valueAt value [key] = .ok found) :
      getItem value key = .ok found := by
    obtain ⟨inner, hasKey, same⟩ := valueAt_cons_eq_ok.mp located
    obtain rfl := Except.ok.inj same
    exact getItem_ok_iff.mpr hasKey
  unfold inspectElf
  simp only [headerRead, headerOk, summaryOk, encoding, itemOk (inHeader shows.fileType),
    itemOk soname, neededPrinted, reported.symbols, inHeader shows.elfClass,
    inHeader shows.machine, parseAndroidApi_shows shows, valueStartsWith, fromPy_ok,
    inspecting_ok_bind, parseNeeded_printed absent blank facts.libraryNames,
    parseDefinedSymbols_printed]
  rfl

end Facts

/-- The inspection of a library that the tools tell about succeeds exactly for a regular
little-endian shared object, and records what they tell. -/
theorem elf_inspected_iff (py : StandardLibrary) (tools : Toolchain) (path relative : String)
    (file : NativeFile) (facts : ElfFacts) (reported : Reported py tools path facts)
    (inspection : ElfInspection) :
    inspectElf py tools path file relative = .ok inspection ↔
      file.symlink = false ∧ file.data.take 4 = ELF_MAGIC ∧ facts.encoding = "LittleEndian" ∧
        startsWith facts.fileType "SharedObject" = true ∧
        facts.inspection py file relative = inspection := by
  rw [inspectElf_eq reported]
  simp only [inspecting_bind_eq_ok, fromPy_eq_ok, pure_inspecting_eq_ok, exists_unit,
    raiseIf_eq_ok, decide_eq_false_iff_not, ne_eq, not_not, Json.str.injEq, Bool.not_eq_false']

/-! ### What is packaged was verified -/

section Packaged

variable {py : StandardLibrary} {inputs : Inputs} {contract : Complete.Contract} {audit : Contract}
  {sourceLock : Document} {version : String} {output : Output} {directory : NativeDir}
  {native : Dict String Bytes}

/-- The build manifest records the libraries as the packager reads them. -/
theorem manifest_of_packaged (plain : contract.PlainLibraries)
    (nativeRead : readNativeEntries inputs.nativeDir (expectedNativeEntries contract) = .ok native)
    (packaged : packageMain py inputs contract sourceLock version = .ok output) :
    ∃ document recorded, readJson py output.manifest = .ok document ∧
      document.field? "components" = some recorded ∧
      ∀ name, contract.IsNative name →
        recorded.field? name = (native.get? name).map (readRecord py) := by
  unfold packageMain at packaged
  simp only [bind_eq_ok, pure_eq_ok, Except.ok.injEq, nativeRead] at packaged
  obtain ⟨api, apiRead, _, rfl, manifest, described, aar, written, rfl⟩ := packaged
  obtain ⟨nativeNames, shared⟩ := readNativeEntries_ok plain nativeRead
  have names (name : String) : name ∈ (addNotices inputs (api.update native)).set
      BUILD_MANIFEST_ENTRY (jsonBytes (.ofDict manifest)) ↔
        name ∈ api ∨ contract.IsNative name ∨ name ∈ noticeNames := by
    rw [mem_addNotices, Dict.mem_update_iff, nativeNames, or_comm,
      or_comm (a := contract.IsNative name), or_assoc]
  have packed : Packed py inputs contract sourceLock version ⟨aar, jsonBytes (.ofDict manifest)⟩
      api _ manifest := ⟨apiRead, names, shared, described, rfl, written⟩
  obtain ⟨-, read, -, recorded⟩ := packed.manifest_fields
  refine ⟨_, _, read, recorded, fun name isNative => ?_⟩
  have isRecordedName := isRecorded_of_isNative isNative
  obtain ⟨data, found⟩ := Dict.mem_iff_get?.mp ((nativeNames name).mpr isNative)
  have notNotice := notNotice_of_isRecorded isRecordedName
  have notManifest : name ≠ BUILD_MANIFEST_ENTRY := fun same =>
    notNotice (same ▸ List.mem_cons_self)
  have whole : ((addNotices inputs (api.update native)).set BUILD_MANIFEST_ENTRY []).get? name =
      (api.update native).get? name := get?_addNotices notNotice
  rw [Dict.get?_set, if_neg notManifest, Dict.get?_update, found, Option.some_or] at whole
  rw [Json.field?_sortKeys (wellFormed_recordedComponents _), Json.field?_ofDict,
    get?_recordedComponents, if_pos isRecordedName, whole, found]
  rfl

theorem mem_expectedFiles_iff (plain : contract.PlainLibraries) (name : String) :
    name ∈ (expectedNativeEntries contract).items.map Prod.snd ↔
      ∃ pair ∈ nativePairs contract, pair.1 ++ "/" ++ pair.2 = name := by
  constructor
  · intro listed
    obtain ⟨item, isItem, rfl⟩ := List.mem_map.mp listed
    have found := Dict.get?_eq_some_iff.mpr isItem
    obtain ⟨pair, member, same⟩ := List.mem_map.mp (Dict.mem_of_get?_ofPairs found)
    obtain ⟨abiPlain, libraryPlain⟩ := plain pair member
    refine ⟨pair, member, ?_⟩
    rw [← PurePosixPath.asPosix_join abiPlain libraryPlain]
    exact congrArg Prod.snd same
  · rintro ⟨pair, member, rfl⟩
    exact List.mem_map.mpr
      ⟨_, Dict.get?_eq_some_iff.mp (get?_expectedNativeEntries plain member), rfl⟩

theorem copyNativeFiles_ok {actualFiles start : Dict String Bytes}
    {expected : List (String × String)} (present : ∀ item ∈ expected, item.2 ∈ actualFiles) :
    ∃ entries, copyNativeFiles actualFiles expected start = .ok entries := by
  induction expected generalizing start with
  | nil => exact ⟨start, rfl⟩
  | cons item rest inductionHypothesis =>
      obtain ⟨itemPresent, restPresent⟩ := List.forall_mem_cons.mp present
      obtain ⟨data, found⟩ := Dict.mem_iff_get?.mp itemPresent
      obtain ⟨entries, copied⟩ := @inductionHypothesis (start.set item.1 data) restPresent
      exact ⟨entries, bind_eq_ok.mpr ⟨data, entryOf_ok_iff.mpr found, copied⟩⟩

/-- The packager finds the libraries that were verified where it looks for them. -/
theorem readNativeEntries_of_verified (plain : contract.PlainLibraries)
    (sameLibraries : audit.nativeLibraries = contract.nativeLibraries)
    (sameFiles : ∀ relative,
      inputs.nativeDir.get? relative = (directory.get? relative).map NativeFile.data)
    (verified : ∀ name, name ∈ sharedObjects directory ↔
      name ∈ expectedNativePaths audit .complete) :
    ∃ native, readNativeEntries inputs.nativeDir (expectedNativeEntries contract) = .ok native := by
  have isActual (name : String) :
      name ∈ sharedFiles inputs.nativeDir ↔ name ∈ sharedObjects directory := by
    rw [sharedFiles, sharedObjects, Dict.mem_iff_get?, Dict.mem_iff_get?, Dict.get?_filter,
      Dict.get?_filter, sameFiles]
    cases directory.get? name <;> cases endsWith name ".so" <;> simp [Option.filter]
  have listed (name : String) : name ∈ sharedFiles inputs.nativeDir ↔
      name ∈ (expectedNativeEntries contract).items.map Prod.snd := by
    rw [isActual, verified, mem_expectedNativePaths_iff sameLibraries, mem_expectedFiles_iff plain]
  obtain ⟨native, copied⟩ := @copyNativeFiles_ok (sharedFiles inputs.nativeDir) Dict.empty
    (expectedNativeEntries contract).items
    fun item member => (listed item.2).mpr (List.mem_map_of_mem member)
  exact ⟨native, readNativeEntries_eq_ok.mpr ⟨listed, copied⟩⟩

/-- The pair of an expected path names it. -/
theorem pair_of_expected (sameLibraries : audit.nativeLibraries = contract.nativeLibraries)
    {relative : String} {pair : String × String}
    (found : (expectedNativePaths audit .complete).get? relative = some pair) :
    pair ∈ nativePairs contract ∧ pair.1 ++ "/" ++ pair.2 = relative := by
  have listed := Dict.mem_of_get?_ofPairs found
  rw [sameLibraries] at listed
  simp only [reduceCtorEq, false_and, if_false, List.mem_flatMap, List.mem_map,
    Prod.mk.injEq] at listed
  obtain ⟨item, itemMember, abi, abiMember, rfl, rfl⟩ := listed
  exact ⟨List.mem_flatMap.mpr ⟨item, itemMember, List.mem_map_of_mem abiMember⟩, rfl⟩

/-- An inspection without errors, seen from the packaged library. -/
structure VerifiedLibrary (py : StandardLibrary) (files : Files) (policy : NativePolicy)
    (contract : Complete.Contract) (directory : NativeDir) (inspection : ElfInspection)
    (pair : String × String) (data : Bytes) : Prop where
  listed : pair ∈ nativePairs contract
  path : inspection.path = pair.1 ++ "/" ++ pair.2
  found : (directory.get? inspection.path).map NativeFile.data = some data
  bytes : inspection.bytes = data.length
  sha256 : inspection.sha256 = py.hashlib.sha256 data
  meets : ∃ abiPolicy libraryPolicy listed exported,
    MeetsPolicy files policy pair.1 pair.2 inspection abiPolicy libraryPolicy listed exported

theorem verifiedLibrary_of_verified {tools : Toolchain} {files : Files} {policy : NativePolicy}
    {nativeDir : PurePosixPath} {relative : String} {inspection : ElfInspection}
    (sameLibraries : audit.nativeLibraries = contract.nativeLibraries)
    (verified : Verified py tools files policy nativeDir (sharedObjects directory)
      (expectedNativePaths audit .complete) relative inspection) :
    inspection.path = relative ∧ ∃ pair data,
      VerifiedLibrary py files policy contract directory inspection pair data := by
  obtain ⟨pair, file, isPair, isFile, inspected, meets⟩ := verified
  have records := inspectElf_records inspected
  obtain ⟨listed, named⟩ := pair_of_expected sameLibraries isPair
  have found : directory.get? relative = some file := by
    rw [sharedObjects, Dict.get?_filter, Option.filter_eq_some_iff] at isFile
    exact isFile.1
  refine ⟨records.path, pair, file.data, listed, records.path.trans named.symm, ?_, records.bytes,
    records.sha256, meets⟩
  rw [records.path, found]
  rfl

end Packaged

/-- After a verification without errors the packager accepts the native directory, and the
libraries of the AAR are those inspected, with the sizes and digests that the report and
the build manifest both give. -/
theorem packaged_libraries_verified (py : StandardLibrary) (tools : Toolchain) (files : Files)
    (policy : NativePolicy) (audit : Contract) (nativeDir : PurePosixPath) (directory : NativeDir)
    (inspections : List ElfInspection) (inputs : Inputs) (contract : Complete.Contract)
    (classesJar apiManifest : Bytes) (plain : contract.PlainLibraries)
    (sameLibraries : audit.nativeLibraries = contract.nativeLibraries)
    (sameFiles : ∀ relative,
      inputs.nativeDir.get? relative = (directory.get? relative).map NativeFile.data)
    (verified : verifyNative py tools files policy audit .complete nativeDir directory =
      .ok ⟨inspections, []⟩)
    (apiPackaged : packageApi py classesJar apiManifest = .ok inputs.apiAar) :
    (∃ native, readNativeEntries inputs.nativeDir (expectedNativeEntries contract) = .ok native) ∧
      ∀ sourceLock version output, packageMain py inputs contract sourceLock version = .ok output →
        ∃ stored document recorded, py.zipfile.read output.aar = .ok stored ∧
          readJson py output.manifest = .ok document ∧
          document.field? "components" = some recorded ∧
          (∀ name, name ∈ filenames stored ∧ startsWith name "jni/" = true ∧
              endsWith name ".so" = true ↔
            ∃ inspection ∈ inspections, "jni/" ++ inspection.path = name) ∧
          ∀ inspection ∈ inspections, ∃ pair data,
            VerifiedLibrary py files policy contract directory inspection pair data ∧
              readEntry stored ("jni/" ++ inspection.path) = .ok data ∧
              recorded.field? ("jni/" ++ inspection.path) = some (readRecord py data) := by
  obtain ⟨sameNames, each⟩ := verifyNative_noError_iff.mp verified
  refine ⟨readNativeEntries_of_verified plain sameLibraries sameFiles sameNames, ?_⟩
  intro sourceLock version output packaged
  obtain ⟨compiled, normalizedClasses, packed⟩ := packageApi_eq_ok.mp apiPackaged
  obtain ⟨native, entries, complete⟩ := completePacked_of_ok plain packed packaged
  obtain ⟨items, canonical, same, written⟩ := complete.canonical plain
  obtain ⟨document, recorded, read, hasComponents, records⟩ :=
    manifest_of_packaged plain complete.nativeRead packaged
  refine ⟨_, document, recorded, written ▸ py.zipfile.read_write _, read, hasComponents, ?_, ?_⟩
  · intro name
    rw [canonical.filenames_archived]
    have isEntry : name ∈ items.map Prod.fst ↔ name ∈ entries := mem_dict_iff canonical same name
    rw [isEntry, complete.native_iff plain]
    constructor
    · rintro ⟨pair, member, rfl⟩
      have isExpected := (mem_expectedNativePaths_iff sameLibraries _).mpr ⟨pair, member, rfl⟩
      obtain ⟨inspection, isInspection, one⟩ := exists_related each
        ((isChecked_iff sameNames _).mpr ((sameNames _).mpr isExpected))
      refine ⟨inspection, isInspection, ?_⟩
      rw [(verifiedLibrary_of_verified sameLibraries one).1, nativePath_eq]
    · rintro ⟨inspection, isInspection, rfl⟩
      obtain ⟨relative, -, one⟩ := exists_related each.flip isInspection
      obtain ⟨-, pair, data, library⟩ := verifiedLibrary_of_verified sameLibraries one
      exact ⟨pair, library.listed, by rw [library.path, nativePath_eq]⟩
  · intro inspection isInspection
    obtain ⟨relative, -, one⟩ := exists_related each.flip isInspection
    obtain ⟨-, pair, data, library⟩ := verifiedLibrary_of_verified sameLibraries one
    have isNative : contract.IsNative ("jni/" ++ inspection.path) :=
      ⟨pair, library.listed, by rw [library.path, nativePath_eq]⟩
    have held : native.get? ("jni/" ++ inspection.path) = some data := by
      have copied := get?_readNativeEntries plain complete.nativeRead library.listed
      rw [nativePath_eq, ← library.path, sameFiles, library.found] at copied
      exact copied
    refine ⟨pair, data, library, ?_, ?_⟩
    · rw [readEntry_ok_iff, canonical.entryDict_archived, same, complete.libraries _ isNative, held]
    · rw [records _ isNative, held]
      rfl

/-! ### A native directory of one library -/

def runSymbol : ListedSymbol where
  symbol := "LiteRtRun"
  version := "@@VERS_1.0".toList
  rest := "T 2 1".toList
  word := by simp [IsWord, isSpace]
  plain := by simp
  marked := Or.inr rfl
  versionWhole := by simp [isSpace]
  restWhole := by simp [isLineBreak]

def arm64Facts : ElfFacts where
  elfClass := "64-bit"
  encoding := "LittleEndian"
  fileType := "SharedObject"
  machine := "EM_AARCH64"
  soname := "libLiteRt.so"
  androidApi := 23
  needed := ["libm.so", "libc.so"]
  symbols := [runSymbol]
  levelSmall := by decide
  libraryNames := by simp [IsLibraryName, IsWord, isSpace]

/-- A note as `llvm-readobj` prints it. -/
def printedNote (name owner kind : String) (offset size : Nat) (description : Bytes) : Json :=
  .obj [("NoteSection", .obj [("Name", .str name),
    ("Note", .obj [("Data size", .int description.length),
      ("Description data", .obj [
        ("Bytes", .arr (description.map fun byte => .int byte.toNat)), ("Offset", .int 0)]),
      ("Owner", .str owner), ("Type", .str kind)]),
    ("Offset", .int offset), ("Size", .int size)])]

def arm64Document : Json :=
  .obj [("ElfHeader", .obj [
      ("Ident", .obj [("Class", .obj [("RawValue", .int 2), ("Value", .str "64-bit")]),
        ("DataEncoding", .obj [("RawValue", .int 1), ("Value", .str "LittleEndian")])]),
      ("Machine", .obj [("RawValue", .int 183), ("Value", .str "EM_AARCH64")]),
      ("Type", .str "SharedObject")]),
    ("FileSummary", .obj [("Arch", .str "aarch64"), ("Format", .str "elf64-littleaarch64"),
      ("LoadName", .str "libLiteRt.so")]),
    ("Notes", .arr [
      printedNote ".note.gnu.build-id" "GNU" "NT_GNU_BUILD_ID (unique build ID bitstring)" 568 20
        [1, 2, 3, 4],
      printedNote ".note.android.ident" "Android" "NT_VERSION (version)" 588 32
        [23, 0, 0, 0, 114, 50, 55, 0]])]

def arm64Printed : Json :=
  .arr [.obj [("libLiteRt.so", arm64Document)]]

def arm64Tools : Toolchain where
  llvmReadobj := "llvm-readobj"
  llvmNm := "llvm-nm"
  run
    | _ :: "--needed-libs" :: _ => ⟨0, printedNeeded [] [] arm64Facts.needed ['\n'], ""⟩
    | _ :: "-D" :: _ => ⟨0, printedSymbols [runSymbol], ""⟩
    | _ => ⟨0, arm64Printed.dumps ++ "\n", ""⟩

theorem arm64Printed_loads :
    concreteLibrary.json.loadsText (arm64Printed.dumps ++ "\n") = .ok arm64Printed := by
  have wellFormed : arm64Printed.WellFormed := by
    simp [arm64Printed, arm64Document, printedNote, Json.wellFormed_obj, Json.wellFormed_arr]
  have sorted : arm64Printed.sortKeys = arm64Printed := rfl
  rw [concreteLibrary.json.loadsText_dumps _ wellFormed, sorted]

theorem arm64_reported (path : String) :
    Reported concreteLibrary arm64Tools path arm64Facts where
  header := ⟨_, "libLiteRt.so", arm64Document, rfl, arm64Printed_loads, {
    elfClass := rfl
    encoding := rfl
    fileType := rfl
    machine := rfl
    soname := rfl
    notes := ⟨[_], _, [], [114, 50, 55, 0], rfl,
      List.forall_mem_singleton.mpr ⟨".note.gnu.build-id", ⟨_, rfl, rfl⟩, by decide⟩, ⟨_, rfl, rfl⟩,
      _, _, _, rfl, rfl, rfl, rfl⟩ }⟩
  needed := ⟨[], [], ['\n'], by decide, nofun, rfl⟩
  symbols := rfl

def arm64File : NativeFile :=
  ⟨ELF_MAGIC, false⟩

theorem elf_inspected_iff_arm64 : inspectElf concreteLibrary arm64Tools "libLiteRt.so" arm64File
    "arm64-v8a/libLiteRt.so" =
      .ok (arm64Facts.inspection concreteLibrary arm64File "arm64-v8a/libLiteRt.so") :=
  (elf_inspected_iff concreteLibrary arm64Tools "libLiteRt.so" "arm64-v8a/libLiteRt.so" arm64File
    arm64Facts (arm64_reported _) _).mpr ⟨rfl, rfl, rfl, by decide, rfl⟩

def arm64Directory : NativeDir :=
  ⟨[("arm64-v8a/libLiteRt.so", arm64File)], List.nodup_singleton _⟩

def arm64Inputs : Inputs where
  apiAar := (Complete.sampleInputs (Complete.apiItems [] compiledJar)).apiAar
  nativeDir := ⟨[("arm64-v8a/libLiteRt.so", ELF_MAGIC)], List.nodup_singleton _⟩
  consumerRules := []
  license := []
  thirdPartyLicenses := []
  notices := []

def arm64Audit : Contract :=
  ⟨["com/forbidden/"], Complete.sampleContract.nativeLibraries⟩

def arm64Abi : AbiPolicy :=
  ⟨"64-bit", "EM_AARCH64"⟩

def arm64Library : LibraryPolicy :=
  ⟨["libLiteRt.so"], ["libc.so", "libm.so"], ["LiteRtRun"], none, none⟩

def arm64Policy : NativePolicy where
  androidApi := 23
  abis := ⟨[("arm64-v8a", arm64Abi)], List.nodup_singleton _⟩
  libraries := ⟨[("libLiteRt.so", arm64Library)], List.nodup_singleton _⟩
  contractRoot := componentDirectory

def arm64Inspection : ElfInspection :=
  arm64Facts.inspection concreteLibrary arm64File "arm64-v8a/libLiteRt.so"

theorem arm64_verified : Verified concreteLibrary arm64Tools builtFiles arm64Policy
    componentDirectory (sharedObjects arm64Directory) (expectedNativePaths arm64Audit .complete)
    "arm64-v8a/libLiteRt.so" arm64Inspection := by
  have inspected : inspectElf concreteLibrary arm64Tools
      (componentDirectory.child "arm64-v8a/libLiteRt.so").asPosix arm64File
      "arm64-v8a/libLiteRt.so" = .ok arm64Inspection := by
    rw [inspectElf_eq (arm64_reported _)]
    rfl
  refine ⟨("arm64-v8a", "libLiteRt.so"), arm64File, by decide, rfl, inspected, arm64Abi,
    arm64Library, none, none, {
      abiKnown := rfl
      libraryKnown := rfl
      listedRead := rfl
      exportedRead := rfl
      elfClass := rfl
      machine := rfl
      androidApi := rfl
      soname := ⟨"libLiteRt.so", List.mem_singleton_self _, rfl⟩
      needed := by decide
      required := by decide
      jni := by simp }⟩

theorem arm64_verifyNative : verifyNative concreteLibrary arm64Tools builtFiles arm64Policy
    arm64Audit .complete componentDirectory arm64Directory = .ok ⟨[arm64Inspection], []⟩ := by
  have actual : (sharedObjects arm64Directory).keys = ["arm64-v8a/libLiteRt.so"] := by decide
  have expected : (expectedNativePaths arm64Audit .complete).keys = ["arm64-v8a/libLiteRt.so"] := by
    decide
  refine verifyNative_noError_iff.mpr ⟨fun name => ?_, ?_⟩
  · rw [Dict.mem_iff_keys, Dict.mem_iff_keys, actual, expected]
  · rw [actual, expected]
    exact .cons arm64_verified .nil

theorem arm64_sameFiles (relative : String) : arm64Inputs.nativeDir.get? relative =
    (arm64Directory.get? relative).map NativeFile.data := by
  by_cases same : relative = "arm64-v8a/libLiteRt.so"
  · subst same
    rfl
  · rw [Dict.get?, Dict.get?, arm64Inputs, arm64Directory]
    simp [List.lookup_cons, beq_eq_false_iff_ne.mpr same]

theorem arm64_sameLibraries :
    arm64Audit.nativeLibraries = Complete.sampleContract.nativeLibraries := by
  rw [arm64Audit]

theorem arm64_apiPackaged : packageApi concreteLibrary compiledJar [] = .ok arm64Inputs.apiAar := by
  rw [packageApi_compiledJar, arm64Inputs]

def arm64Native : Dict String Bytes :=
  ⟨[("jni/arm64-v8a/libLiteRt.so", ELF_MAGIC)], List.nodup_singleton _⟩

theorem arm64_readNativeEntries : readNativeEntries arm64Inputs.nativeDir
    (expectedNativeEntries Complete.sampleContract) = .ok arm64Native := by
  have nativeDir : arm64Inputs.nativeDir =
      ⟨[("arm64-v8a/libLiteRt.so", ELF_MAGIC)], List.nodup_singleton _⟩ := by rw [arm64Inputs]
  rw [nativeDir]
  decide

theorem arm64_packs : ∃ output, packageMain concreteLibrary arm64Inputs Complete.sampleContract
    Complete.sampleLock "1.0" = .ok output := by
  obtain ⟨compiled, normalizedClasses, packed⟩ := packageApi_eq_ok.mp arm64_apiPackaged
  have read := readApiEntries_apiPacked packed
  generalize apiItemsAre : (canonical_apiItems [] normalizedClasses).dict = api at read
  obtain ⟨manifest, described⟩ : ∃ manifest, buildManifest concreteLibrary "1.0"
      Complete.sampleContract Complete.sampleLock (addNotices arm64Inputs
        (api.update arm64Native)) = .ok manifest := ⟨_, rfl⟩
  have keys (manifestBytes : Bytes) : ((addNotices arm64Inputs (api.update arm64Native)).set
      BUILD_MANIFEST_ENTRY manifestBytes).keys =
        Complete.sampleNames (Complete.apiItems [] []) := by
    have apiKeys : api.keys = ["AndroidManifest.xml", "classes.jar"] := by
      subst apiItemsAre
      rfl
    have nativeKeys : (api.update arm64Native).keys =
        ["AndroidManifest.xml", "classes.jar", "jni/arm64-v8a/libLiteRt.so"] := by
      show (api.set _ _).keys = _
      rw [Dict.keys_set, apiKeys]
      decide
    simp only [addNotices, Dict.keys_set, nativeKeys]
    decide
  obtain ⟨aar, written⟩ := archiveBytes_of_keys (keys (jsonBytes (.ofDict manifest)))
    (by decide) (by decide)
  unfold packageMain
  rw [read, ok_bind, arm64_readNativeEntries, ok_bind]
  dsimp only
  rw [described, ok_bind, written]
  exact ⟨_, rfl⟩

theorem packaged_libraries_verified_arm64 : ∃ output stored,
    packageMain concreteLibrary arm64Inputs Complete.sampleContract Complete.sampleLock "1.0" =
      .ok output ∧
    concreteLibrary.zipfile.read output.aar = .ok stored ∧
    ∀ name, name ∈ filenames stored ∧ startsWith name "jni/" = true ∧
      endsWith name ".so" = true ↔ "jni/arm64-v8a/libLiteRt.so" = name := by
  obtain ⟨output, packaged⟩ := arm64_packs
  obtain ⟨stored, -, -, opened, -, -, names, -⟩ :=
    (packaged_libraries_verified concreteLibrary arm64Tools builtFiles arm64Policy arm64Audit
      componentDirectory arm64Directory [arm64Inspection] arm64Inputs Complete.sampleContract
      compiledJar [] sample_plain arm64_sameLibraries arm64_sameFiles arm64_verifyNative
      arm64_apiPackaged).2 _ _ _ packaged
  refine ⟨output, stored, packaged, opened, fun name => (names name).trans ?_⟩
  have path : "jni/" ++ arm64Inspection.path = "jni/arm64-v8a/libLiteRt.so" := by
    rw [arm64Inspection, ElfFacts.inspection]
    decide
  simp only [List.mem_singleton, exists_eq_left, path]

end BssLiteRt.Audit

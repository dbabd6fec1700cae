import BssLiteRt.Complete.Consistency
import BssLiteRt.Complete.MemberLists

/-!
Owns `package_api_aar.py` and `verify-runtime-contract.py`: the compiled classes become an
API AAR, and the checks of its classes find in the complete AAR what they find in that.
-/

namespace BssLiteRt.Complete

open BssLiteRt.Library BssLiteRt.Python BssLiteRt.Archive

/-! ### The API AAR -/

/-- The loop of `read_classes_jar`. -/
def keepClasses (stored : List ZipEntry) (entries : Dict String Bytes) :
    Py (Dict String Bytes) :=
  match stored with
  | [] => .ok entries
  | entry :: rest =>
      let name := rstripSlash entry.info.filename
      if name = "" ∨ entry.info.isDir then
        keepClasses rest entries
      else if name ∈ entries then
        raise .valueError ("Duplicate classes JAR entry: " ++ name)
      else
        keepClasses rest (entries.set name entry.data)

def readClassesJar (py : StandardLibrary) (classesJar : Bytes) : Py (Dict String Bytes) := do
  let entries ← keepClasses (← py.zipfile.read classesJar) Dict.empty
  raiseIf (entries.keys.filter (endsWith · ".class") = []) .valueError
    "Compiled classes JAR contains no class files."
  return entries

/-- `main` of `package_api_aar.py`. -/
def packageApi (py : StandardLibrary) (classesJar manifest : Bytes) : Py Bytes := do
  let normalizedClasses ← archiveBytes py (← readClassesJar py classesJar)
  archiveBytes py
    ⟨[("AndroidManifest.xml", manifest), ("classes.jar", normalizedClasses)], by simp⟩

/-! ### The runtime contract -/

/-- The fields of the contract that its verifier reads. -/
structure RuntimeContract where
  loaded : LoadedContract
  jvmTarget : Int
  forbiddenClassPrefixes : List String
  nativeLibraries : Dict String (List String)

/-- `javap -classpath classes_jar -public class_name` -/
abbrev Javap := Bytes → String → Completed

def classEntry (className : String) : String :=
  String.ofList (className.toList.map fun char => if char = '.' then '/' else char) ++ ".class"

/-- The loop of `inspect_api` over the classes in order. -/
def inspectApi (javap : Javap) (classesJar : Bytes) (entries : List String) :
    List (String × List String) → List String
  | [] => []
  | (className, members) :: rest =>
      let result := javap classesJar className
      let errors :=
        if classEntry className ∉ entries then
          ["Required class is missing: " ++ className]
        else if result.returncode ≠ 0 then
          ["javap failed for " ++ className ++ ": " ++ strip result.stderr]
        else
          (members.filter fun member => !occursIn member (joinWords result.stdout)).map
            fun member => "Required API member is missing: " ++ className ++ ": " ++ member
      errors ++ inspectApi javap classesJar entries rest

def CLASS_MAGIC : Bytes := [0xca, 0xfe, 0xba, 0xbe]

/-- `struct.unpack(">H", data[6:8])[0]` -/
def classMajor (data : Bytes) : Nat :=
  (data.getD 6 0).toNat * 256 + (data.getD 7 0).toNat

/-- The loop of `inspect_bytecode_target`, which stops at its first error. -/
def inspectBytecodeTarget (stored : List ZipEntry) (jvmTarget : Int) :
    List String → Py (List String)
  | [] => .ok []
  | name :: rest =>
      if !endsWith name ".class" then
        inspectBytecodeTarget stored jvmTarget rest
      else do
        let data ← readEntry stored name
        if data.length < 8 ∨ data.take 4 ≠ CLASS_MAGIC then
          return ["Invalid JVM class file: " ++ name]
        else if (classMajor data : Int) ≠ jvmTarget + 44 then
          return ["Unexpected JVM bytecode target for " ++ name ++ ": class major " ++
            toString (classMajor data) ++ ", expected " ++ toString (jvmTarget + 44)]
        else
          inspectBytecodeTarget stored jvmTarget rest

/-- The loop over the forbidden prefixes, which names one class for each. -/
def forbiddenApi (classEntries : List String) : List String → List String
  | [] => []
  | forbidden :: rest =>
      match sortedNames (classEntries.filter (startsWith · forbidden)) with
      | [] => forbiddenApi classEntries rest
      | first :: _ => ("Forbidden API is packaged: " ++ first) :: forbiddenApi classEntries rest

def inspectCompleteArchive (aarEntries : List String) (contract : RuntimeContract) :
    List String :=
  let expectedNative := contract.nativeLibraries.items.flatMap fun item =>
    item.2.map fun abi => nativePath abi item.1
  let actualNative :=
    aarEntries.filter fun entry => startsWith entry "jni/" && endsWith entry ".so"
  (sortedDifference expectedNative actualNative).map
      (fun entry => "Required native library is missing: " ++ entry) ++
    (sortedDifference actualNative expectedNative).map
      fun entry => "Unexpected native library is packaged: " ++ entry

/-- The required members of a mode, by their classes in order. -/
def requiredMembers (contract : RuntimeContract) (mode : VerifyMode) :
    List (String × List String) :=
  let table := inspectedMembers mode contract.loaded.api contract.loaded.heap
  (sortByKey table.members.items).map fun item => (item.1, table.heap.read item.2)

/-- The checks of the classes. -/
def inspectClasses (py : StandardLibrary) (javap : Javap) (classesJar : Bytes)
    (contract : RuntimeContract) (mode : VerifyMode) : Py (List String) := do
  let stored ← py.zipfile.read classesJar
  let entries := filenames stored
  let apiErrors := inspectApi javap classesJar entries (requiredMembers contract mode)
  if mode ∈ [.api, .complete] then
    let bytecodeErrors ←
      inspectBytecodeTarget stored contract.jvmTarget (entries.insertionSort (· ≤ ·))
    return apiErrors ++ bytecodeErrors ++
      forbiddenApi (entries.filter (endsWith · ".class")) contract.forbiddenClassPrefixes
  else
    return apiErrors

/-- The errors that `main` of `verify-runtime-contract.py` prints. -/
def verifyRuntimeContract (py : StandardLibrary) (javap : Javap) (aar : Bytes)
    (contract : RuntimeContract) (mode : VerifyMode) : Py (List String) := do
  let stored ← py.zipfile.read aar
  let aarEntries := filenames stored
  if "classes.jar" ∉ aarEntries then
    return ["AAR does not contain classes.jar."]
  else
    let classesJar ← readEntry stored "classes.jar"
    let errors ← inspectClasses py javap classesJar contract mode
    return errors ++ if mode = .complete then inspectCompleteArchive aarEntries contract else []

/-! ### What the checks of the classes accept -/

section Classes

variable {py : StandardLibrary} {javap : Javap} {classesJar data : Bytes} {stored : List ZipEntry}
  {contract : RuntimeContract} {mode : VerifyMode} {names : List String}

/-- The bytes start a class file of the version for the target. -/
def IsClassFor (jvmTarget : Int) (data : Bytes) : Prop :=
  8 ≤ data.length ∧ data.take 4 = CLASS_MAGIC ∧ (classMajor data : Int) = jvmTarget + 44

/-- The classes of a JAR keep the contract: every required class is there with its
members, every class file has the version of the target, and none is forbidden. -/
structure MeetsContract (javap : Javap) (classesJar : Bytes) (contract : RuntimeContract)
    (classes : Dict String Bytes) : Prop where
  members : ∀ item ∈ requiredMembers contract .api, classEntry item.1 ∈ classes ∧
    (javap classesJar item.1).returncode = 0 ∧
      ∀ member ∈ item.2, member.toList <:+: (joinWords (javap classesJar item.1).stdout).toList
  compiled : ∀ name data, classes.get? name = some data → endsWith name ".class" = true →
    IsClassFor contract.jvmTarget data
  allowed : ∀ forbidden ∈ contract.forbiddenClassPrefixes, ∀ name ∈ classes,
    endsWith name ".class" = true → startsWith name forbidden = false

theorem inspectApi_eq_nil_iff {required : List (String × List String)} :
    inspectApi javap classesJar names required = [] ↔ ∀ item ∈ required,
      classEntry item.1 ∈ names ∧ (javap classesJar item.1).returncode = 0 ∧
        ∀ member ∈ item.2,
          member.toList <:+: (joinWords (javap classesJar item.1).stdout).toList := by
  induction required with
  | nil => simp [inspectApi]
  | cons item rest inductionHypothesis =>
      rw [inspectApi, List.append_eq_nil_iff, inductionHypothesis, List.forall_mem_cons]
      refine and_congr_left fun _ => ?_
      by_cases present : classEntry item.1 ∈ names
      · by_cases succeeded : (javap classesJar item.1).returncode = 0
        · simp [present, succeeded, occursIn, List.filter_eq_nil_iff]
        · simp [present, succeeded]
      · simp [present]

theorem inspectBytecodeTarget_eq_nil_iff (present : ∀ name ∈ names, name ∈ filenames stored) :
    inspectBytecodeTarget stored contract.jvmTarget names = .ok [] ↔
      ∀ name ∈ names, endsWith name ".class" = true →
        ∀ data, readEntry stored name = .ok data → IsClassFor contract.jvmTarget data := by
  induction names with
  | nil => simp [inspectBytecodeTarget]
  | cons name rest inductionHypothesis =>
      obtain ⟨head, tail⟩ := List.forall_mem_cons.mp present
      rw [inspectBytecodeTarget, List.forall_mem_cons]
      cases isClass : endsWith name ".class" with
      | false => simp [inductionHypothesis tail]
      | true =>
          obtain ⟨data, found⟩ := Dict.mem_iff_get?.mp (mem_entryDict_iff.mpr head)
          have read := readEntry_ok_iff.mpr found
          have same (other : Bytes) : readEntry stored name = .ok other ↔ other = data := by
            rw [read, Except.ok.injEq, eq_comm]
          simp only [Bool.not_true, Bool.false_eq_true, if_false, read, ok_bind, forall_const,
            Except.ok.injEq, forall_eq']
          by_cases short : data.length < 8 ∨ data.take 4 ≠ CLASS_MAGIC
          · rw [if_pos short]
            refine ⟨nofun, fun both => ?_⟩
            obtain ⟨⟨long, magic, -⟩, -⟩ := both
            exact absurd short (not_or.mpr ⟨Nat.not_lt.mpr long, not_not.mpr magic⟩)
          · rw [if_neg short]
            rw [not_or, Nat.not_lt, ne_eq, not_not] at short
            by_cases target : (classMajor data : Int) = contract.jvmTarget + 44
            · rw [if_neg (not_not.mpr target), inductionHypothesis tail]
              exact (and_iff_right ⟨short.1, short.2, target⟩).symm
            · rw [if_pos target]
              exact ⟨nofun, fun both => absurd both.1.2.2 target⟩

theorem forbiddenApi_eq_nil_iff {prefixes : List String} :
    forbiddenApi names prefixes = [] ↔
      ∀ forbidden ∈ prefixes, ∀ name ∈ names, startsWith name forbidden = false := by
  induction prefixes with
  | nil => simp [forbiddenApi]
  | cons forbidden rest inductionHypothesis =>
      rw [forbiddenApi, List.forall_mem_cons, ← inductionHypothesis,
        ← @sortedNames_filter_eq_nil_iff names (startsWith · forbidden)]
      split
      · rename_i none
        rw [none]
        exact (and_iff_right rfl).symm
      · rename_i first others some
        rw [some]
        exact ⟨nofun, fun both => absurd both.1 nofun⟩

theorem inspectClasses_eq_nil_iff (read : py.zipfile.read classesJar = .ok stored) :
    inspectClasses py javap classesJar contract .api = .ok [] ↔
      MeetsContract javap classesJar contract (entryDict stored) := by
  have sorted : ∀ name ∈ (filenames stored).insertionSort (· ≤ ·), name ∈ filenames stored :=
    fun name member => (List.mem_insertionSort _).mp member
  have bytecode_iff := @inspectBytecodeTarget_eq_nil_iff _ contract _ sorted
  have all_iff : inspectClasses py javap classesJar contract .api = .ok [] ↔
      inspectApi javap classesJar (filenames stored) (requiredMembers contract .api) = [] ∧
        inspectBytecodeTarget stored contract.jvmTarget
          ((filenames stored).insertionSort (· ≤ ·)) = .ok [] ∧
        forbiddenApi ((filenames stored).filter (endsWith · ".class"))
          contract.forbiddenClassPrefixes = [] := by
    rw [inspectClasses, read, ok_bind, if_pos (by simp), bind_eq_ok]
    simp only [pure_eq_ok, Except.ok.injEq, List.append_eq_nil_iff]
    constructor
    · rintro ⟨errors, inspected, ⟨apiNone, rfl⟩, forbiddenNone⟩
      exact ⟨apiNone, inspected, forbiddenNone⟩
    · rintro ⟨apiNone, inspected, forbiddenNone⟩
      exact ⟨[], inspected, ⟨apiNone, rfl⟩, forbiddenNone⟩
  rw [all_iff, bytecode_iff, inspectApi_eq_nil_iff, forbiddenApi_eq_nil_iff]
  constructor
  · rintro ⟨members, compiled, allowed⟩
    refine ⟨?_, fun name data found isClass => ?_, ?_⟩
    · simpa only [mem_entryDict_iff] using members
    · have listed := mem_entryDict_iff.mp (Dict.mem_iff_get?.mpr ⟨data, found⟩)
      exact compiled name ((List.mem_insertionSort _).mpr listed) isClass data
        (readEntry_ok_iff.mpr found)
    · intro forbidden isForbidden name member isClass
      exact allowed forbidden isForbidden name
        (List.mem_filter.mpr ⟨mem_entryDict_iff.mp member, isClass⟩)
  · rintro ⟨members, compiled, allowed⟩
    refine ⟨?_, fun name _ isClass data found => ?_, ?_⟩
    · simpa only [mem_entryDict_iff] using members
    · exact compiled name data (readEntry_ok_iff.mp found) isClass
    · intro forbidden isForbidden name member
      obtain ⟨listed, isClass⟩ := List.mem_filter.mp member
      exact allowed forbidden isForbidden name (mem_entryDict_iff.mpr listed) isClass

/-- The checks of the classes are the same in both modes. -/
theorem inspectClasses_complete :
    inspectClasses py javap classesJar contract .complete =
      inspectClasses py javap classesJar contract .api := rfl

end Classes

/-! ### The API AAR and the complete AAR -/

section Packaged

variable {py : StandardLibrary} {classesJar manifest : Bytes} {stored : List ZipEntry}
  {entries : Dict String Bytes}

theorem nulFree_keepClasses {start : Dict String Bytes}
    (startNames : ∀ name ∈ start, '\x00' ∉ name.toList)
    (returned : keepClasses stored start = .ok entries) : ∀ name ∈ entries, '\x00' ∉ name.toList := by
  induction stored generalizing start with
  | nil => exact Except.ok.inj returned ▸ startNames
  | cons entry rest inductionHypothesis =>
      unfold keepClasses at returned
      dsimp only at returned
      split at returned
      · exact inductionHypothesis startNames returned
      split at returned
      · cases returned
      refine inductionHypothesis ?_ returned
      intro name member
      rcases Dict.mem_set_iff.mp member with rfl | earlier
      · exact nulFree_rstripSlash entry.info.nulFree
      · exact startNames name earlier

/-- The entries of the API AAR. -/
def apiItems (manifest normalizedClasses : Bytes) : List (String × Bytes) :=
  [("AndroidManifest.xml", manifest), ("classes.jar", normalizedClasses)]

theorem canonical_apiItems (manifest normalizedClasses : Bytes) :
    CanonicalItems (apiItems manifest normalizedClasses) where
  normal := by
    have table : ∀ name ∈ ["AndroidManifest.xml", "classes.jar"], IsNormalName name := by decide
    exact fun item member => table item.1
      (show item.1 ∈ (apiItems manifest normalizedClasses).map Prod.fst from
        List.mem_map_of_mem member)
  unique := by simp [apiItems]
  sorted := by
    have ordered : ["AndroidManifest.xml", "classes.jar"].Pairwise (· ≤ ·) := by decide
    exact List.pairwise_map.mp (show ((apiItems manifest normalizedClasses).map Prod.fst).Pairwise
      (· ≤ ·) from ordered)

theorem readEntry_apiItems (manifest normalizedClasses : Bytes) :
    readEntry ((apiItems manifest normalizedClasses).map archived) "classes.jar" =
      .ok normalizedClasses := by
  rw [readEntry_ok_iff, (canonical_apiItems manifest normalizedClasses).entryDict_archived,
    Dict.get?_eq_some_iff]
  show ("classes.jar", normalizedClasses) ∈ apiItems manifest normalizedClasses
  simp [apiItems]

/-- The API AAR holds its manifest and the compiled classes, nothing else. -/
structure ApiPacked (py : StandardLibrary) (classesJar manifest : Bytes)
    (compiled : Dict String Bytes) (normalizedClasses apiAar : Bytes) : Prop where
  read : readClassesJar py classesJar = .ok compiled
  normalized : archiveBytes py compiled = .ok normalizedClasses
  written : apiAar = py.zipfile.write ((apiItems manifest normalizedClasses).map archived)

theorem packageApi_eq_ok {apiAar : Bytes} :
    packageApi py classesJar manifest = .ok apiAar ↔ ∃ compiled normalizedClasses,
      ApiPacked py classesJar manifest compiled normalizedClasses apiAar := by
  have written (normalizedClasses : Bytes) := @CanonicalItems.archiveBytes_dict py _
    (canonical_apiItems manifest normalizedClasses)
  simp only [packageApi, bind_eq_ok]
  constructor
  · rintro ⟨compiled, read, normalizedClasses, normalized, returned⟩
    exact ⟨compiled, normalizedClasses, read, normalized,
      (Except.ok.inj ((written normalizedClasses).symm.trans returned)).symm⟩
  · rintro ⟨compiled, normalizedClasses, read, normalized, rfl⟩
    exact ⟨compiled, read, normalizedClasses, normalized, written normalizedClasses⟩

theorem ApiPacked.nulFree {compiled : Dict String Bytes} {normalizedClasses apiAar : Bytes}
    (packed : ApiPacked py classesJar manifest compiled normalizedClasses apiAar) :
    ∀ name ∈ compiled, '\x00' ∉ name.toList := by
  have read := packed.read
  simp only [readClassesJar, bind_eq_ok, exists_unit, pure_eq_ok] at read
  obtain ⟨stored, -, found, kept, -, returned⟩ := read
  obtain rfl := Except.ok.inj returned
  exact nulFree_keepClasses (fun _ absent => absurd absent List.not_mem_nil) kept

/-- A name of the API AAR that `read_api_entries` keeps as it is. -/
def IsPlainApiName (name : String) : Prop :=
  rstripSlash name = name ∧ name ≠ "" ∧ (entryInfo name).filename = name ∧
    (entryInfo name).isDir = false ∧ startsWith name "jni/" = false ∧
      endsWith name ".so" = false ∧ name ∉ REPLACED_API_ENTRIES

instance (name : String) : Decidable (IsPlainApiName name) :=
  inferInstanceAs (Decidable (_ ∧ _))

theorem keepApiEntries_archived {item : String × Bytes} {start : Dict String Bytes}
    (plain : IsPlainApiName item.1) (fresh : item.1 ∉ start) :
    keepApiEntries (archived item :: stored) start =
      keepApiEntries stored (start.set item.1 item.2) := by
  obtain ⟨stripped, nonempty, named, file, notNative, notShared, kept⟩ := plain
  have isName : rstripSlash (archived item).info.filename = item.1 := by
    show rstripSlash (entryInfo item.1).filename = _
    rw [named, stripped]
  have isFile : (archived item).info.isDir = false := file
  rw [keepApiEntries, isName, isFile, notNative, notShared, if_neg (by simp [nonempty]), if_neg (by simp),
    if_neg kept, if_neg fresh]
  rfl

theorem readApiEntries_apiPacked {compiled : Dict String Bytes} {normalizedClasses apiAar : Bytes}
    (packed : ApiPacked py classesJar manifest compiled normalizedClasses apiAar) :
    readApiEntries py apiAar = .ok (canonical_apiItems manifest normalizedClasses).dict := by
  have plain : ∀ name ∈ ["AndroidManifest.xml", "classes.jar"], IsPlainApiName name := by decide
  have kept : keepApiEntries ((apiItems manifest normalizedClasses).map archived) Dict.empty =
      .ok (canonical_apiItems manifest normalizedClasses).dict := by
    show keepApiEntries
      [archived ("AndroidManifest.xml", manifest), archived ("classes.jar", normalizedClasses)] _ = _
    rw [keepApiEntries_archived (plain _ (by simp)) List.not_mem_nil,
      keepApiEntries_archived (plain _ (by simp)) fun member =>
        (Dict.mem_set_iff.mp member).elim (by simp) List.not_mem_nil]
    rfl
  have required : requireApiEntries (canonical_apiItems manifest normalizedClasses).dict
      ["AndroidManifest.xml", "classes.jar"] = .ok () :=
    requireApiEntries_ok_iff.mpr fun _ member => member
  rw [readApiEntries, packed.written, py.zipfile.read_write, ok_bind, kept, ok_bind, required]
  rfl

/-- The entries of the complete AAR. -/
structure CompletePacked (py : StandardLibrary) (inputs : Inputs) (contract : Contract)
    (output : Output) (manifest normalizedClasses : Bytes) (native entries : Dict String Bytes) :
    Prop where
  nativeRead : readNativeEntries inputs.nativeDir (expectedNativeEntries contract) = .ok native
  written : archiveBytes py entries = .ok output.aar
  names : ∀ name, name ∈ entries ↔
    name ∈ ["AndroidManifest.xml", "classes.jar"] ∨ contract.IsNative name ∨ name ∈ noticeNames
  classes : entries.get? "classes.jar" = some normalizedClasses
  libraries : ∀ name, contract.IsNative name → entries.get? name = native.get? name

theorem get?_addNotices {inputs : Inputs} {manifestBytes : Bytes} {name : String}
    (notNotice : name ∉ noticeNames) :
    ((addNotices inputs entries).set BUILD_MANIFEST_ENTRY manifestBytes).get? name =
      entries.get? name := by
  simp only [noticeNames, List.mem_cons, List.not_mem_nil, or_false, not_or] at notNotice
  simp [addNotices, Dict.get?_set, notNotice]

theorem isRecorded_of_isNative {contract : Contract} {name : String}
    (native : contract.IsNative name) : isRecorded name = true := by
  obtain ⟨pair, -, rfl⟩ := native
  simp [isRecorded, nativePath_native]

theorem notNotice_of_isRecorded {name : String} (recorded : isRecorded name = true) :
    name ∉ noticeNames := by
  intro notice
  rw [(noticeNames_apart name notice).2.2.2] at recorded
  exact Bool.false_ne_true recorded

theorem completePacked_of_ok {inputs : Inputs} {contract : Contract} {sourceLock : Document}
    {version : String} {output : Output} {compiled : Dict String Bytes} {normalizedClasses : Bytes}
    (plain : contract.PlainLibraries)
    (packed : ApiPacked py classesJar manifest compiled normalizedClasses inputs.apiAar)
    (packaged : packageMain py inputs contract sourceLock version = .ok output) :
    ∃ native entries,
      CompletePacked py inputs contract output manifest normalizedClasses native entries := by
  unfold packageMain at packaged
  simp only [bind_eq_ok, pure_eq_ok, Except.ok.injEq] at packaged
  obtain ⟨api, apiRead, native, nativeRead, buildManifest, -, aar, written, rfl⟩ := packaged
  rw [readApiEntries_apiPacked packed, Except.ok.injEq] at apiRead
  obtain rfl := apiRead
  obtain ⟨nativeNames, -⟩ := readNativeEntries_ok plain nativeRead
  refine ⟨native, _, nativeRead, written, fun name => ?_, ?_, fun name isNative => ?_⟩
  · have updated : name ∈ (canonical_apiItems manifest normalizedClasses).dict.update native ↔
        contract.IsNative name ∨ name ∈ ["AndroidManifest.xml", "classes.jar"] := by
      rw [Dict.mem_update_iff, nativeNames]
      exact Iff.rfl
    rw [mem_addNotices, updated, or_comm, or_comm (a := contract.IsNative name), or_assoc]
  · have notNative : native.get? "classes.jar" = none := by
      rw [Dict.get?_eq_none_iff, nativeNames]
      rintro ⟨pair, -, same⟩
      have jni := nativePath_native pair.1 pair.2
      rw [same] at jni
      exact absurd jni (by decide)
    rw [get?_addNotices (by decide), Dict.get?_update, notNative, Option.none_or]
    apply Dict.get?_eq_some_iff.mpr
    show ("classes.jar", normalizedClasses) ∈ apiItems manifest normalizedClasses
    simp [apiItems]
  · rw [get?_addNotices (notNotice_of_isRecorded (isRecorded_of_isNative isNative)),
      Dict.get?_update]
    obtain ⟨data, found⟩ := Dict.mem_iff_get?.mp ((nativeNames name).mpr isNative)
    rw [found, Option.some_or]

/-- The archive of a complete AAR holds its entries under their own names. -/
theorem CompletePacked.canonical {inputs : Inputs} {contract : Contract} {output : Output}
    {normalizedClasses : Bytes} {native : Dict String Bytes} (plain : contract.PlainLibraries)
    (complete : CompletePacked py inputs contract output manifest normalizedClasses native entries) :
    ∃ items, ∃ canonical : CanonicalItems items,
      (∀ name, canonical.dict.get? name = entries.get? name) ∧
        output.aar = py.zipfile.write (items.map archived) := by
  refine readBack_of_normal (fun name member => ?_) complete.written
  rcases (complete.names name).mp member with api | ⟨pair, pairMember, rfl⟩ | notice
  · have table : ∀ name ∈ ["AndroidManifest.xml", "classes.jar"], IsNormalised name := by decide
    exact table name api
  · obtain ⟨abiPlain, libraryPlain⟩ := plain pair pairMember
    exact ⟨normalizeName_nativePath abiPlain libraryPlain, nulFree_nativePath abiPlain libraryPlain⟩
  · exact ⟨(noticeNames_apart name notice).1, (noticeNames_apart name notice).2.1⟩

theorem CompletePacked.native_iff {inputs : Inputs} {contract : Contract} {output : Output}
    {normalizedClasses : Bytes} {native : Dict String Bytes} (plain : contract.PlainLibraries)
    (complete : CompletePacked py inputs contract output manifest normalizedClasses native entries)
    (name : String) :
    (name ∈ entries ∧ startsWith name "jni/" = true ∧ endsWith name ".so" = true) ↔
      contract.IsNative name := by
  rw [complete.names]
  constructor
  · rintro ⟨api | isNative | notice, front, back⟩
    · have table : ∀ name ∈ ["AndroidManifest.xml", "classes.jar"],
          startsWith name "jni/" = false := by decide
      rw [table name api] at front
      exact absurd front Bool.false_ne_true
    · exact isNative
    · have recorded : isRecorded name = true := by simp [isRecorded, front]
      exact absurd notice (notNotice_of_isRecorded recorded)
  · intro isNative
    refine ⟨.inr (.inl isNative), ?_, (readNativeEntries_ok plain complete.nativeRead).2 _ isNative⟩
    obtain ⟨pair, -, rfl⟩ := isNative
    exact nativePath_native _ _

end Packaged

/-! ### The contract of the complete AAR -/

section Contract

variable {py : StandardLibrary} {javap : Javap} {inputs : Inputs} {contract : Contract}
  {runtime : RuntimeContract} {output : Output} {manifest normalizedClasses : Bytes}
  {native entries compiled : Dict String Bytes} {classesJar : Bytes}

theorem inspectCompleteArchive_eq_nil_iff {names : List String}
    (sameLibraries : runtime.nativeLibraries = contract.nativeLibraries) :
    inspectCompleteArchive names runtime = [] ↔ ∀ name,
      (name ∈ names ∧ startsWith name "jni/" = true ∧ endsWith name ".so" = true) ↔
        contract.IsNative name := by
  have expected (name : String) : (name ∈ runtime.nativeLibraries.items.flatMap fun item =>
      item.2.map fun abi => nativePath abi item.1) ↔ contract.IsNative name := by
    simp only [sameLibraries, Contract.IsNative, nativePairs, List.mem_flatMap, List.mem_map]
    constructor
    · rintro ⟨item, member, abi, isAbi, rfl⟩
      exact ⟨_, ⟨item, member, abi, isAbi, rfl⟩, rfl⟩
    · rintro ⟨pair, ⟨item, member, abi, isAbi, rfl⟩, rfl⟩
      exact ⟨item, member, abi, isAbi, rfl⟩
  simp only [inspectCompleteArchive, List.append_eq_nil_iff, List.map_eq_nil_iff,
    sortedDifference_eq_nil_iff, expected, List.mem_filter, Bool.and_eq_true]
  constructor
  · rintro ⟨present, allowed⟩ name
    exact ⟨allowed name, present name⟩
  · intro same
    exact ⟨fun name => (same name).mpr, fun name => (same name).mp⟩

/-- The API AAR is inspected through its classes alone. -/
theorem verifyRuntimeContract_apiPacked {apiAar : Bytes}
    (packed : ApiPacked py classesJar manifest compiled normalizedClasses apiAar) :
    verifyRuntimeContract py javap apiAar runtime .api =
      inspectClasses py javap normalizedClasses runtime .api := by
  have canonical := canonical_apiItems manifest normalizedClasses
  have listed : "classes.jar" ∈ filenames ((apiItems manifest normalizedClasses).map archived) := by
    rw [canonical.filenames_archived]
    simp [apiItems]
  rw [verifyRuntimeContract, packed.written, py.zipfile.read_write, ok_bind,
    if_neg (not_not.mpr listed), readEntry_apiItems, ok_bind]
  cases inspectClasses py javap normalizedClasses runtime .api with
  | error error => rfl
  | ok errors => exact congrArg Except.ok (List.append_nil errors)

theorem verifyRuntimeContract_complete (plain : contract.PlainLibraries)
    (sameLibraries : runtime.nativeLibraries = contract.nativeLibraries)
    (complete : CompletePacked py inputs contract output manifest normalizedClasses native entries) :
    verifyRuntimeContract py javap output.aar runtime .complete =
      inspectClasses py javap normalizedClasses runtime .api := by
  obtain ⟨items, canonical, same, written⟩ := complete.canonical plain
  have names (name : String) : name ∈ filenames (items.map archived) ↔ name ∈ entries := by
    rw [← mem_entryDict_iff, canonical.entryDict_archived, Dict.mem_iff_get?, same,
      ← Dict.mem_iff_get?]
  have listed : "classes.jar" ∈ filenames (items.map archived) :=
    (names _).mpr (Dict.mem_iff_get?.mpr ⟨_, complete.classes⟩)
  have read : readEntry (items.map archived) "classes.jar" = .ok normalizedClasses := by
    rw [readEntry_ok_iff, canonical.entryDict_archived, same, complete.classes]
  have exact_matrix : inspectCompleteArchive (filenames (items.map archived)) runtime = [] := by
    rw [inspectCompleteArchive_eq_nil_iff sameLibraries]
    intro name
    rw [names]
    exact complete.native_iff plain name
  rw [verifyRuntimeContract, written, py.zipfile.read_write, ok_bind,
    if_neg (not_not.mpr listed), read, ok_bind, inspectClasses_complete, exact_matrix, if_pos rfl]
  cases inspectClasses py javap normalizedClasses runtime .api with
  | error error => rfl
  | ok errors => exact congrArg Except.ok (List.append_nil errors)

/-- The complete AAR packaged from compiled classes is found to keep the runtime contract
exactly when its API AAR is, which is when those classes do under their normalised names. -/
theorem complete_aar_meets_contract_iff (py : StandardLibrary) (javap : Javap) (inputs : Inputs)
    (contract : Contract) (runtime : RuntimeContract) (sourceLock : Document) (version : String)
    (output : Output) (classesJar manifest : Bytes) (plain : contract.PlainLibraries)
    (sameLibraries : runtime.nativeLibraries = contract.nativeLibraries)
    (apiPackaged : packageApi py classesJar manifest = .ok inputs.apiAar)
    (packaged : packageMain py inputs contract sourceLock version = .ok output) :
    verifyRuntimeContract py javap output.aar runtime .complete =
        verifyRuntimeContract py javap inputs.apiAar runtime .api ∧
      ∃ (compiled classes : Dict String Bytes) (normalizedClasses : Bytes),
        readClassesJar py classesJar = .ok compiled ∧
          archiveBytes py compiled = .ok normalizedClasses ∧
          classes.items.Perm (compiled.items.map safeItem) ∧
          (verifyRuntimeContract py javap output.aar runtime .complete = .ok [] ↔
            MeetsContract javap normalizedClasses runtime classes) := by
  obtain ⟨compiled, normalizedClasses, packed⟩ := packageApi_eq_ok.mp apiPackaged
  obtain ⟨native, entries, complete⟩ := completePacked_of_ok plain packed packaged
  rw [verifyRuntimeContract_complete plain sameLibraries complete,
    verifyRuntimeContract_apiPacked packed]
  obtain ⟨items, canonical, stored, written⟩ :=
    canonical_of_archiveBytes packed.nulFree packed.normalized
  refine ⟨rfl, compiled, canonical.dict, normalizedClasses, packed.read, packed.normalized, stored, ?_⟩
  rw [← canonical.entryDict_archived]
  exact inspectClasses_eq_nil_iff (written ▸ py.zipfile.read_write _)

end Contract

/-! ### One class -/

def apiClass : Bytes :=
  CLASS_MAGIC ++ [0, 0, 0, 61]

def compiledApi : Dict String Bytes :=
  ⟨[("org/Api.class", apiClass)], List.nodup_singleton _⟩

def compiledJar : Bytes :=
  concreteLibrary.zipfile.write (compiledApi.items.map archived)

def oneMember : RuntimeContract where
  loaded := {
    api := ⟨⟨[("org.Api", 0)], List.nodup_singleton _⟩, Dict.empty⟩
    heap := ⟨[["void run();"]]⟩
    requiredAllocated := by
      intro className address found
      have listed := Dict.get?_eq_some_iff.mp found
      obtain ⟨-, rfl⟩ := Prod.mk.inj (List.mem_singleton.mp listed)
      exact Nat.zero_lt_one
    extensionsAllocated := nofun }
  jvmTarget := 17
  forbiddenClassPrefixes := ["com/forbidden/"]
  nativeLibraries := sampleContract.nativeLibraries

def oneMemberJavap : Javap :=
  fun _ _ => ⟨0, "public class org.Api \x7b\n  public void run();\n\x7d\n", ""⟩

theorem canonical_compiledApi : CanonicalItems compiledApi.items where
  normal := by decide
  unique := compiledApi.unique
  sorted := List.pairwise_singleton _ _

theorem read_compiledJar : readClassesJar concreteLibrary compiledJar = .ok compiledApi := by
  have kept : keepClasses (compiledApi.items.map archived) Dict.empty = .ok compiledApi := by
    decide
  rw [readClassesJar, compiledJar, concreteLibrary.zipfile.read_write, ok_bind, kept, ok_bind]
  rfl

theorem archiveBytes_compiledApi : archiveBytes concreteLibrary compiledApi = .ok compiledJar :=
  canonical_compiledApi.archiveBytes_dict

theorem sampleInputs_apiAar (items : List (String × Bytes)) :
    (sampleInputs items).apiAar = concreteLibrary.zipfile.write (items.map archived) := rfl

theorem packageApi_compiledJar : packageApi concreteLibrary compiledJar [] =
    .ok (sampleInputs (apiItems [] compiledJar)).apiAar := by
  have packed : ApiPacked concreteLibrary compiledJar [] compiledApi compiledJar
      (sampleInputs (apiItems [] compiledJar)).apiAar :=
    ⟨read_compiledJar, archiveBytes_compiledApi, sampleInputs_apiAar _⟩
  exact packageApi_eq_ok.mpr ⟨compiledApi, compiledJar, packed⟩

theorem compiledApi_packs : ∃ output, packageMain concreteLibrary
    (sampleInputs (apiItems [] compiledJar)) sampleContract sampleLock "1.0" = .ok output := by
  obtain ⟨compiled, normalizedClasses, packed⟩ := packageApi_eq_ok.mp packageApi_compiledJar
  obtain rfl := Except.ok.inj (read_compiledJar.symm.trans packed.read)
  obtain rfl := Except.ok.inj (archiveBytes_compiledApi.symm.trans packed.normalized)
  exact sample_packs (readApiEntries_apiPacked packed) (fun _ => rfl) (by decide) (by decide)

theorem compiledApi_meets : MeetsContract oneMemberJavap compiledJar oneMember compiledApi where
  members := by decide
  compiled := by
    intro name data found _
    obtain ⟨-, rfl⟩ := Prod.mk.inj (List.mem_singleton.mp (Dict.get?_eq_some_iff.mp found))
    exact ⟨by decide, by decide, by decide⟩
  allowed := by decide

theorem complete_aar_meets_contract_iff_sample : ∃ output,
    packageMain concreteLibrary (sampleInputs (apiItems [] compiledJar)) sampleContract sampleLock
        "1.0" = .ok output ∧
      verifyRuntimeContract concreteLibrary oneMemberJavap output.aar oneMember .complete =
        .ok [] := by
  obtain ⟨output, packaged⟩ := compiledApi_packs
  obtain ⟨-, compiled, classes, normalizedClasses, read, normalized, stored, meets_iff⟩ :=
    complete_aar_meets_contract_iff concreteLibrary oneMemberJavap _ sampleContract oneMember
      sampleLock "1.0" output compiledJar [] sample_plain rfl packageApi_compiledJar packaged
  obtain rfl := Except.ok.inj (read_compiledJar.symm.trans read)
  obtain rfl := Except.ok.inj (archiveBytes_compiledApi.symm.trans normalized)
  obtain rfl : classes = compiledApi := Dict.ext_items (List.perm_singleton.mp stored)
  exact ⟨output, packaged, meets_iff.mpr compiledApi_meets⟩

end BssLiteRt.Complete

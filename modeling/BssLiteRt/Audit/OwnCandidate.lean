import BssLiteRt.Audit.Sources
import BssLiteRt.Complete.RuntimeContract

/-!
Owns the audit of the candidate that `package_api_aar.py` and `package_complete_aar.py`
make from a component directory: it comes from the components, and the audit finds an
error in it exactly when a class or a library is one it forbids.
-/

namespace BssLiteRt.Audit

open BssLiteRt.Library BssLiteRt.Python BssLiteRt.Archive BssLiteRt.Complete

/-! ### The native libraries -/

section Native

variable {contract : Complete.Contract} {native : Dict String Bytes} {name : String}

theorem nativePath_eq (abi library : String) :
    nativePath abi library = "jni/" ++ (abi ++ "/" ++ library) := by
  rw [nativePath, String.append_assoc, String.append_assoc, String.append_assoc]

theorem nativePath_eq_iff {abi library relative : String} :
    nativePath abi library = "jni/" ++ relative ↔ abi ++ "/" ++ library = relative := by
  rw [nativePath_eq]
  constructor
  · intro same
    apply String.toList_inj.mp
    simpa using congrArg String.toList same
  · rintro rfl
    rfl

section Copies

variable {actualFiles start entries : Dict String Bytes} {expected : List (String × String)}

theorem get?_copyNativeFiles_of_notMem (absent : name ∉ expected.map Prod.fst)
    (returned : copyNativeFiles actualFiles expected start = .ok entries) :
    entries.get? name = start.get? name := by
  induction expected generalizing start with
  | nil => rw [← Except.ok.inj returned]
  | cons item rest inductionHypothesis =>
      rw [List.map_cons, List.mem_cons, not_or] at absent
      obtain ⟨data, -, copied⟩ := bind_eq_ok.mp returned
      rw [inductionHypothesis absent.2 copied, Dict.get?_set, if_neg absent.1]

/-- Every expected entry has the data of its file. -/
theorem get?_copyNativeFiles (unique : (expected.map Prod.fst).Nodup)
    (returned : copyNativeFiles actualFiles expected start = .ok entries)
    {item : String × String} (member : item ∈ expected) :
    entries.get? item.1 = actualFiles.get? item.2 := by
  induction expected generalizing start with
  | nil => cases member
  | cons first rest inductionHypothesis =>
      rw [List.map_cons, List.nodup_cons] at unique
      obtain ⟨data, read, copied⟩ := bind_eq_ok.mp returned
      rcases List.mem_cons.mp member with rfl | later
      · rw [get?_copyNativeFiles_of_notMem unique.1 copied, Dict.get?_set_self,
          entryOf_ok_iff.mp read]
      · exact inductionHypothesis unique.2 copied later

end Copies

/-- The entry of a library is read from the path that names it. -/
theorem get?_expectedNativeEntries (plain : contract.PlainLibraries) {pair : String × String}
    (member : pair ∈ nativePairs contract) :
    (expectedNativeEntries contract).get? (nativePath pair.1 pair.2) =
      some (pair.1 ++ "/" ++ pair.2) := by
  have expected : nativePath pair.1 pair.2 ∈ expectedNativeEntries contract := by
    rw [expectedNativeEntries, Dict.mem_ofPairs_iff, List.map_map]
    exact List.mem_map_of_mem member
  obtain ⟨relative, found⟩ := Dict.mem_iff_get?.mp expected
  obtain ⟨other, otherMember, same⟩ := List.mem_map.mp (Dict.mem_of_get?_ofPairs found)
  obtain ⟨samePath, rfl⟩ := Prod.mk.inj same
  obtain ⟨abiPlain, libraryPlain⟩ := plain other otherMember
  rw [found, PurePosixPath.asPosix_join abiPlain libraryPlain, Option.some.injEq,
    ← nativePath_eq_iff, samePath, nativePath_eq]

/-- A library of the complete AAR is the file at its path. -/
theorem get?_readNativeEntries {nativeDir : Dict String Bytes} (plain : contract.PlainLibraries)
    (returned : readNativeEntries nativeDir (expectedNativeEntries contract) = .ok native)
    {pair : String × String} (member : pair ∈ nativePairs contract) :
    native.get? (nativePath pair.1 pair.2) = nativeDir.get? (pair.1 ++ "/" ++ pair.2) := by
  obtain ⟨agree, copied⟩ := readNativeEntries_eq_ok.mp returned
  have listed := Dict.get?_eq_some_iff.mp (get?_expectedNativeEntries plain member)
  have shared : endsWith (pair.1 ++ "/" ++ pair.2) ".so" = true :=
    endsWith_of_mem_sharedFiles ((agree _).mpr (List.mem_map_of_mem listed))
  rw [get?_copyNativeFiles (expectedNativeEntries contract).unique copied listed, sharedFiles,
    Dict.get?_filter, shared]
  cases nativeDir.get? (pair.1 ++ "/" ++ pair.2) <;> rfl

end Native

/-! ### The candidate -/

/-- The files that the packager reads are those of the component directory. -/
structure BuiltFrom (files : Files) (componentDir : PurePosixPath) (contract : Complete.Contract)
    (inputs : Inputs) : Prop where
  api : files (componentDir.child "api/litert-bss-api.aar") = some inputs.apiAar
  native : ∀ pair ∈ nativePairs contract,
    files (nativeFile componentDir (pair.1 ++ "/" ++ pair.2)) =
      inputs.nativeDir.get? (pair.1 ++ "/" ++ pair.2)

section Candidate

variable {py : StandardLibrary} {files : Files} {componentDir : PurePosixPath} {inputs : Inputs}
  {contract : Complete.Contract} {audit : Contract} {output : Output}
  {manifest normalizedClasses classesJar : Bytes} {native entries compiled : Dict String Bytes}
  {items : List (String × Bytes)} {names : List String}

theorem componentPath_nativePath {pair : String × String}
    (plain : PurePosixPath.IsPlainComponent pair.1) :
    componentPath componentDir (nativePath pair.1 pair.2) =
      nativeFile componentDir (pair.1 ++ "/" ++ pair.2) := by
  rw [nativePath_eq, componentPath_append]
  have relative := plain.relative ('/' :: pair.2.toList)
  simpa using relative

theorem name_parse_below {front abi library : String}
    (frontPlain : PurePosixPath.IsPlainComponent front)
    (abiPlain : PurePosixPath.IsPlainComponent abi)
    (libraryPlain : PurePosixPath.IsPlainComponent library) :
    (PurePosixPath.parse (front ++ "/" ++ abi ++ "/" ++ library)).name = library := by
  obtain ⟨frontKept, -, frontWhole, -⟩ := frontPlain
  obtain ⟨abiKept, -, abiWhole, -⟩ := abiPlain
  obtain ⟨libraryKept, -, libraryWhole, -⟩ := libraryPlain
  have shape : (front ++ "/" ++ abi ++ "/" ++ library).toList =
      List.intercalate ['/'] [front.toList, abi.toList, library.toList] := by
    simp
  rw [PurePosixPath.parse_components (by simp) _ shape, PurePosixPath.name]
  · exact String.ofList_toList
  · simp only [List.forall_mem_cons]
    exact ⟨⟨frontKept, frontWhole⟩, ⟨abiKept, abiWhole⟩, ⟨libraryKept, libraryWhole⟩,
      fun _ absent => absurd absent List.not_mem_nil⟩

theorem name_parse_nativePath {pair : String × String}
    (abiPlain : PurePosixPath.IsPlainComponent pair.1)
    (libraryPlain : PurePosixPath.IsPlainComponent pair.2) :
    (PurePosixPath.parse (nativePath pair.1 pair.2)).name = pair.2 :=
  @name_parse_below "jni" _ _ (by decide) abiPlain libraryPlain

theorem mem_expectedNativePaths_iff
    (sameLibraries : audit.nativeLibraries = contract.nativeLibraries) (name : String) :
    name ∈ expectedNativePaths audit .complete ↔
      ∃ pair ∈ nativePairs contract, pair.1 ++ "/" ++ pair.2 = name := by
  rw [expectedNativePaths, sameLibraries, Dict.mem_ofPairs_iff]
  simp only [reduceCtorEq, false_and, if_false, List.map_flatMap, List.map_map, List.mem_flatMap,
    List.mem_map, nativePairs]
  constructor
  · rintro ⟨item, itemMember, abi, abiMember, rfl⟩
    exact ⟨(abi, item.1), ⟨item, itemMember, abi, abiMember, rfl⟩, rfl⟩
  · rintro ⟨_, ⟨item, itemMember, abi, abiMember, rfl⟩, rfl⟩
    exact ⟨item, itemMember, abi, abiMember, rfl⟩

theorem mem_expectedNative_iff (sameLibraries : audit.nativeLibraries = contract.nativeLibraries)
    (name : String) : name ∈ expectedNative audit .complete ↔ contract.IsNative name := by
  rw [expectedNative, if_pos rfl, List.mem_map]
  constructor
  · rintro ⟨relative, listed, rfl⟩
    obtain ⟨pair, member, rfl⟩ := (mem_expectedNativePaths_iff sameLibraries relative).mp listed
    exact ⟨pair, member, nativePath_eq pair.1 pair.2⟩
  · rintro ⟨pair, member, rfl⟩
    have listed := (mem_expectedNativePaths_iff sameLibraries _).mpr ⟨pair, member, rfl⟩
    exact ⟨_, listed, (nativePath_eq pair.1 pair.2).symm⟩

theorem forbiddenClasses_eq_nil_iff {prefixes : List String} :
    forbiddenClasses names prefixes = [] ↔
      ∀ forbidden ∈ prefixes, ∀ name ∈ names, startsWith name forbidden = false := by
  induction prefixes with
  | nil => simp [forbiddenClasses]
  | cons forbidden rest inductionHypothesis =>
      rw [forbiddenClasses, List.forall_mem_cons, ← inductionHypothesis,
        ← @sortedNames_filter_eq_nil_iff names (startsWith · forbidden)]
      split
      · rename_i none
        rw [none]
        exact (and_iff_right rfl).symm
      · rename_i first others some
        rw [some]
        exact ⟨nofun, fun both => absurd both.1 nofun⟩

/-- A library of the candidate is the file of the component directory. -/
theorem library_eq_component (plain : contract.PlainLibraries)
    (built : BuiltFrom files componentDir contract inputs)
    (complete : CompletePacked py inputs contract output manifest normalizedClasses native entries)
    {pair : String × String} (member : pair ∈ nativePairs contract) :
    files (nativeFile componentDir (pair.1 ++ "/" ++ pair.2)) =
      entries.get? (nativePath pair.1 pair.2) := by
  rw [built.native pair member, complete.libraries _ ⟨pair, member, rfl⟩,
    get?_readNativeEntries plain complete.nativeRead member]

theorem comesFromComponents_of_built (plain : contract.PlainLibraries)
    (built : BuiltFrom files componentDir contract inputs)
    (packed : ApiPacked py classesJar manifest compiled normalizedClasses inputs.apiAar)
    (complete : CompletePacked py inputs contract output manifest normalizedClasses native entries)
    (canonical : CanonicalItems items)
    (same : ∀ name, canonical.dict.get? name = entries.get? name) :
    ComesFromComponents py files componentDir (items.map archived) where
  native := by
    intro entry member isFile relative named
    obtain ⟨item, itemMember, rfl⟩ := List.mem_map.mp member
    have isName : item.1 = "jni/" ++ relative :=
      (entryInfo_filename (canonical.normal item itemMember).2.2).symm.trans named
    have held : entries.get? item.1 = some item.2 := by
      rw [← same]
      exact Dict.get?_eq_some_iff.mpr itemMember
    have front : startsWith item.1 "jni/" = true := by
      rw [isName]
      simp [startsWith]
    rcases (complete.names item.1).mp (Dict.mem_iff_get?.mpr ⟨_, held⟩) with api | isNative | notice
    · have table : ∀ name ∈ ["AndroidManifest.xml", "classes.jar"],
          startsWith name "jni/" = false := by decide
      rw [table item.1 api] at front
      exact absurd front Bool.false_ne_true
    · obtain ⟨pair, pairMember, samePath⟩ := isNative
      rw [← nativePath_eq_iff.mp (samePath.trans isName), library_eq_component plain built complete pairMember, samePath, held]
      rfl
    · have recorded : isRecorded item.1 = true := by simp [isRecorded, front]
      exact absurd notice (notNotice_of_isRecorded recorded)
  classes := by
    refine ⟨_, _, normalizedClasses, built.api, packed.written ▸ py.zipfile.read_write _,
      readEntry_apiItems _ _, ?_⟩
    rw [readEntry_ok_iff, canonical.entryDict_archived, same, complete.classes]

theorem mem_dict_iff (canonical : CanonicalItems items)
    (same : ∀ name, canonical.dict.get? name = entries.get? name) (name : String) :
    name ∈ canonical.dict ↔ name ∈ entries := by
  rw [Dict.mem_iff_get?, same, ← Dict.mem_iff_get?]

/-- No library of the contract is the diagnostic one. -/
def NoDiagnostic (contract : Complete.Contract) : Prop :=
  ∀ pair ∈ nativePairs contract, pair.2 ≠ "libOCLQ.so"

/-- The names of the packagers are in their places. -/
theorem isMisplaced_packed (plain : contract.PlainLibraries)
    (complete : CompletePacked py inputs contract output manifest normalizedClasses native entries)
    {name : String} (member : name ∈ entries) : isMisplaced name = false := by
  rcases (complete.names name).mp member with api | isNative | notice
  · have table : ∀ name ∈ ["AndroidManifest.xml", "classes.jar"], isMisplaced name = false := by
      decide
    exact table name api
  · obtain ⟨-, front, back⟩ := (complete.native_iff plain name).mpr isNative
    have notAar : endsWith name ".aar" = false := by
      rw [← Bool.not_eq_true, endsWith, List.isSuffixOf_iff_suffix]
      rw [endsWith, List.isSuffixOf_iff_suffix] at back
      intro aar
      have lasts := (List.suffix_or_suffix_of_suffix aar back)
      revert lasts
      decide
    rw [isMisplaced, notAar, front, Bool.not_true, Bool.and_false, Bool.or_false]
  · have table : ∀ name ∈ noticeNames, isMisplaced name = false := by decide
    exact table name notice

theorem name_diagnostic_iff (plain : contract.PlainLibraries)
    (complete : CompletePacked py inputs contract output manifest normalizedClasses native entries) :
    (∀ name ∈ entries, (PurePosixPath.parse name).name ≠ "libOCLQ.so") ↔ NoDiagnostic contract := by
  constructor
  · intro none pair member
    obtain ⟨abiPlain, libraryPlain⟩ := plain pair member
    rw [← name_parse_nativePath abiPlain libraryPlain]
    exact none _ ((complete.names _).mpr (.inr (.inl ⟨pair, member, rfl⟩)))
  · intro none name member
    rcases (complete.names name).mp member with api | ⟨pair, pairMember, rfl⟩ | notice
    · have table : ∀ name ∈ ["AndroidManifest.xml", "classes.jar"],
          (PurePosixPath.parse name).name ≠ "libOCLQ.so" := by decide
      exact table name api
    · obtain ⟨abiPlain, libraryPlain⟩ := plain pair pairMember
      rw [name_parse_nativePath abiPlain libraryPlain]
      exact none pair pairMember
    · have table : ∀ name ∈ noticeNames, (PurePosixPath.parse name).name ≠ "libOCLQ.so" := by
        decide
      exact table name notice

/-- The audit finds nothing but forbidden classes and the diagnostic library. -/
theorem audited_iff (plain : contract.PlainLibraries)
    (sameLibraries : audit.nativeLibraries = contract.nativeLibraries)
    (built : BuiltFrom files componentDir contract inputs)
    (complete : CompletePacked py inputs contract output manifest normalizedClasses native entries)
    (canonical : CanonicalItems items)
    (same : ∀ name, canonical.dict.get? name = entries.get? name)
    {classes : List ZipEntry} (read : py.zipfile.read normalizedClasses = .ok classes) :
    Audited py files componentDir audit .complete (items.map archived) canonical.dict ↔
      (∀ forbidden ∈ audit.forbiddenClassPrefixes, ∀ name ∈ filenames classes,
        startsWith name forbidden = false) ∧ NoDiagnostic contract := by
  have keys (name : String) : name ∈ canonical.dict.keys ↔ name ∈ entries :=
    mem_dict_iff canonical same name
  have inspected : auditApiClasses py canonical.dict audit = .ok [] ↔
      ∀ forbidden ∈ audit.forbiddenClassPrefixes, ∀ name ∈ filenames classes,
        startsWith name forbidden = false := by
    rw [auditApiClasses, same, complete.classes]
    dsimp only
    rw [read, ok_bind, pure_eq_ok, Except.ok.injEq, forbiddenClasses_eq_nil_iff]
  constructor
  · intro audited
    refine ⟨inspected.mp audited.classes, (name_diagnostic_iff plain complete).mp fun name member => ?_⟩
    exact audited.noDiagnostic name ((keys name).mpr member)
  · rintro ⟨allowed, none⟩
    have isNative_iff (name : String) :
        name ∈ canonical.dict.keys.filter isNative ↔ contract.IsNative name := by
      rw [List.mem_filter, keys, isNative, Bool.and_eq_true]
      exact complete.native_iff plain name
    constructor
    case unique =>
        rw [canonical.files_archived, canonical.filenames_archived]
        exact canonical.unique
    case read =>
        rw [canonical.files_archived]
        exact readEntries_archived canonical
    case classes => exact inspected.mpr allowed
    case placed => exact fun name member => isMisplaced_packed plain complete ((keys name).mp member)
    case noDiagnostic =>
        exact fun name member =>
          (name_diagnostic_iff plain complete).mpr none name ((keys name).mp member)
    case matrix =>
        intro name
        rw [isNative_iff, mem_expectedNative_iff sameLibraries]
    case bytes =>
        intro name expected actual
        obtain ⟨data, held⟩ := Dict.mem_iff_get?.mp (List.mem_filter.mp actual).1
        obtain ⟨pair, pairMember, rfl⟩ := (isNative_iff name).mp actual
        refine ⟨data, ?_, held⟩
        rw [componentPath_nativePath (plain pair pairMember).1,
          library_eq_component plain built complete pairMember, ← same, held]

/-- An audit of the packaged candidate reports an error exactly for a forbidden class or
the diagnostic library. -/
theorem auditCandidate_packaged_iff (aarName : String) (plain : contract.PlainLibraries)
    (sameLibraries : audit.nativeLibraries = contract.nativeLibraries)
    (built : BuiltFrom files componentDir contract inputs)
    (packed : ApiPacked py classesJar manifest compiled normalizedClasses inputs.apiAar)
    {sourceLock : Document} {version : String}
    (packaged : packageMain py inputs contract sourceLock version = .ok output) :
    (∃ report, auditCandidate py files aarName output.aar componentDir audit .complete =
        .ok (report, [])) ↔
      (∀ forbidden ∈ audit.forbiddenClassPrefixes, ∀ name ∈ compiled,
        startsWith (normalizeName name) forbidden = false) ∧ NoDiagnostic contract := by
  obtain ⟨native, entries, complete⟩ := completePacked_of_ok plain packed packaged
  obtain ⟨items, canonical, same, written⟩ := complete.canonical plain
  have opened : py.zipfile.read output.aar = .ok (items.map archived) :=
    written ▸ py.zipfile.read_write _
  obtain ⟨classItems, classCanonical, stored, classWritten⟩ :=
    canonical_of_archiveBytes packed.nulFree packed.normalized
  have classRead : py.zipfile.read normalizedClasses = .ok (classItems.map archived) :=
    classWritten ▸ py.zipfile.read_write _
  have names (name : String) : name ∈ filenames (classItems.map archived) ↔
      ∃ original ∈ compiled, normalizeName original = name := by
    rw [classCanonical.filenames_archived]
    refine (stored.map Prod.fst).mem_iff.trans ?_
    rw [List.map_map, List.mem_map]
    constructor
    · rintro ⟨item, member, rfl⟩
      exact ⟨item.1, List.mem_map_of_mem member, rfl⟩
    · rintro ⟨original, member, rfl⟩
      obtain ⟨item, itemMember, rfl⟩ := List.mem_map.mp member
      exact ⟨item, itemMember, rfl⟩
  rw [auditCandidate_noError_iff]
  have allowed_iff : (∀ forbidden ∈ audit.forbiddenClassPrefixes,
      ∀ name ∈ filenames (classItems.map archived), startsWith name forbidden = false) ↔
        ∀ forbidden ∈ audit.forbiddenClassPrefixes, ∀ name ∈ compiled,
          startsWith (normalizeName name) forbidden = false := by
    simp only [names, forall_exists_index, and_imp, forall_apply_eq_imp_iff₂]
  rw [← allowed_iff, ← audited_iff plain sameLibraries built complete canonical same classRead]
  constructor
  · rintro ⟨otherStored, otherEntries, otherOpened, audited⟩
    obtain rfl := Except.ok.inj (opened.symm.trans otherOpened)
    have read := audited.read
    rw [canonical.files_archived, readEntries_archived canonical, Except.ok.injEq] at read
    exact read ▸ audited
  · exact fun audited => ⟨_, _, opened, audited⟩

end Candidate

/-- The candidate packaged from the components comes from them, and its audit reports an
error exactly for a forbidden class or a diagnostic library. -/
theorem own_candidate_audited_iff (py : StandardLibrary) (files : Files) (aarName : String)
    (componentDir : PurePosixPath) (audit : Contract) (inputs : Inputs)
    (contract : Complete.Contract) (sourceLock : Document) (version : String) (output : Output)
    (classesJar manifest : Bytes) (plain : contract.PlainLibraries)
    (sameLibraries : audit.nativeLibraries = contract.nativeLibraries)
    (built : BuiltFrom files componentDir contract inputs)
    (apiPackaged : packageApi py classesJar manifest = .ok inputs.apiAar)
    (packaged : packageMain py inputs contract sourceLock version = .ok output) :
    (∃ stored, py.zipfile.read output.aar = .ok stored ∧
      ComesFromComponents py files componentDir stored) ∧
    ∃ compiled, readClassesJar py classesJar = .ok compiled ∧
      ((∃ report, auditCandidate py files aarName output.aar componentDir audit .complete =
          .ok (report, [])) ↔
        (∀ forbidden ∈ audit.forbiddenClassPrefixes, ∀ name ∈ compiled,
          startsWith (normalizeName name) forbidden = false) ∧ NoDiagnostic contract) := by
  obtain ⟨compiled, normalizedClasses, packed⟩ := packageApi_eq_ok.mp apiPackaged
  obtain ⟨native, entries, complete⟩ := completePacked_of_ok plain packed packaged
  obtain ⟨items, canonical, same, written⟩ := complete.canonical plain
  have opened : py.zipfile.read output.aar = .ok (items.map archived) :=
    written ▸ py.zipfile.read_write _
  exact ⟨⟨_, opened, comesFromComponents_of_built plain built packed complete canonical same⟩,
    compiled, packed.read, auditCandidate_packaged_iff aarName plain sameLibraries built packed
      packaged⟩

/-! ### A candidate of one library -/

def builtFiles : Files := fun path =>
  if path = nativeFile componentDirectory "arm64-v8a/libLiteRt.so" then some [3]
  else if path = componentDirectory.child "api/litert-bss-api.aar" then
    some (sampleInputs (Complete.apiItems [] compiledJar)).apiAar
  else none

theorem builtFrom_builtFiles : BuiltFrom builtFiles componentDirectory Complete.sampleContract
    (sampleInputs (Complete.apiItems [] compiledJar)) where
  api := by
    rw [builtFiles, if_neg (by decide), if_pos rfl]
  native := by
    refine List.forall_mem_singleton.mpr ?_
    rw [builtFiles, if_pos (by decide)]
    rfl

theorem own_candidate_audited_iff_sample : ∃ output report,
    packageMain concreteLibrary (sampleInputs (Complete.apiItems [] compiledJar))
        Complete.sampleContract Complete.sampleLock "1.0" = .ok output ∧
      auditCandidate concreteLibrary builtFiles "candidate.aar" output.aar componentDirectory
        ⟨["com/forbidden/"], Complete.sampleContract.nativeLibraries⟩ .complete =
          .ok (report, []) := by
  obtain ⟨output, packaged⟩ := compiledApi_packs
  obtain ⟨-, compiled, read, audited_iff⟩ := own_candidate_audited_iff concreteLibrary builtFiles
    "candidate.aar" componentDirectory ⟨["com/forbidden/"], Complete.sampleContract.nativeLibraries⟩
    _ Complete.sampleContract Complete.sampleLock "1.0" output compiledJar [] sample_plain rfl
    builtFrom_builtFiles packageApi_compiledJar packaged
  obtain rfl := Except.ok.inj (read_compiledJar.symm.trans read)
  obtain ⟨report, audited⟩ := audited_iff.mpr ⟨by decide, by unfold NoDiagnostic; decide⟩
  exact ⟨output, report, packaged, audited⟩

end BssLiteRt.Audit

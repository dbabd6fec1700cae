import BssLiteRt.Complete.Components

/-!
Owns what the packager of the complete AAR has written when it returns: where the
entries come from, and when the components it records are those of the AAR.
-/

namespace BssLiteRt.Complete

open BssLiteRt.Library BssLiteRt.Python BssLiteRt.Archive

/-! ### The API entries -/

section Api

variable {py : StandardLibrary} {stored : List ZipEntry} {entries : Dict String Bytes}
  {name : String}

/-- A name that `read_api_entries` lets through. -/
def IsApiName (name : String) : Prop :=
  startsWith name "jni/" = false ∧ endsWith name ".so" = false ∧ '\x00' ∉ name.toList

theorem nulFree_rstripSlash {text : String} (nulFree : '\x00' ∉ text.toList) :
    '\x00' ∉ (rstripSlash text).toList := by
  rw [rstripSlash, String.toList_ofList]
  exact fun member => nulFree ((List.rdropWhile_prefix _ _).subset member)

theorem isApiName_of_keepApiEntries {start : Dict String Bytes}
    (startNames : ∀ name ∈ start, IsApiName name)
    (returned : keepApiEntries stored start = .ok entries) : ∀ name ∈ entries, IsApiName name := by
  induction stored generalizing start with
  | nil => exact Except.ok.inj returned ▸ startNames
  | cons entry rest inductionHypothesis =>
      unfold keepApiEntries at returned
      dsimp only at returned
      split at returned
      · exact inductionHypothesis startNames returned
      split at returned
      · cases returned
      rename_i notNative
      split at returned
      · exact inductionHypothesis startNames returned
      split at returned
      · cases returned
      refine inductionHypothesis ?_ returned
      intro name member
      rw [not_or, Bool.not_eq_true, Bool.not_eq_true] at notNative
      rcases Dict.mem_set_iff.mp member with rfl | earlier
      · exact ⟨notNative.1, notNative.2, nulFree_rstripSlash entry.info.nulFree⟩
      · exact startNames name earlier

theorem requireApiEntries_ok_iff {required : List String} :
    requireApiEntries entries required = .ok () ↔ ∀ name ∈ required, name ∈ entries := by
  induction required with
  | nil => simp [requireApiEntries]
  | cons first rest inductionHypothesis =>
      simp only [requireApiEntries, bind_eq_ok, raiseIf_eq_ok, exists_unit, inductionHypothesis,
        decide_eq_false_iff_not, not_not, List.forall_mem_cons]

theorem readApiEntries_ok (returned : readApiEntries py apiAar = .ok entries) :
    (∀ name ∈ entries, IsApiName name) ∧ "classes.jar" ∈ entries := by
  unfold readApiEntries at returned
  simp only [bind_eq_ok, exists_unit, requireApiEntries_ok_iff] at returned
  obtain ⟨stored, -, kept, keeps, required, returned⟩ := returned
  obtain rfl := Except.ok.inj returned
  exact ⟨isApiName_of_keepApiEntries (fun _ absent => absurd absent List.not_mem_nil) keeps,
    required _ (by simp)⟩

end Api

/-! ### The native entries -/

section Native

variable {contract : Contract} {entries : Dict String Bytes}

/-- The names of the native matrix. -/
def Contract.IsNative (contract : Contract) (name : String) : Prop :=
  ∃ pair ∈ nativePairs contract, nativePath pair.1 pair.2 = name

/-- The ABIs and libraries of a contract are plain. -/
def Contract.PlainLibraries (contract : Contract) : Prop :=
  ∀ pair ∈ nativePairs contract,
    PurePosixPath.IsPlainComponent pair.1 ∧ PurePosixPath.IsPlainComponent pair.2

theorem mem_of_copyNativeFiles {actualFiles start : Dict String Bytes}
    {expected : List (String × String)}
    (returned : copyNativeFiles actualFiles expected start = .ok entries) (name : String) :
    name ∈ entries ↔ name ∈ expected.map Prod.fst ∨ name ∈ start := by
  induction expected generalizing start with
  | nil => simp [← Except.ok.inj returned]
  | cons item rest inductionHypothesis =>
      obtain ⟨data, -, copied⟩ := bind_eq_ok.mp returned
      rw [inductionHypothesis copied, Dict.mem_set_iff, List.map_cons, List.mem_cons]
      tauto

theorem normalizeName_nativePath {abi library : String}
    (abiPlain : PurePosixPath.IsPlainComponent abi)
    (libraryPlain : PurePosixPath.IsPlainComponent library) :
    normalizeName (nativePath abi library) = nativePath abi library := by
  obtain ⟨abiKept, -, abiWhole, -⟩ := abiPlain
  obtain ⟨libraryKept, -, libraryWhole, -⟩ := libraryPlain
  have shape : (nativePath abi library).toList =
      List.intercalate ['/'] [['j', 'n', 'i'], abi.toList, library.toList] := by
    simp [nativePath]
  have folder : PurePosixPath.keeps ['j', 'n', 'i'] = true ∧ '/' ∉ ['j', 'n', 'i'] := by
    decide
  refine PurePosixPath.asPosix_parse_components (by simp) ?_ shape
  simp only [List.forall_mem_cons]
  exact ⟨folder, ⟨abiKept, abiWhole⟩, ⟨libraryKept, libraryWhole⟩,
    fun _ absent => absurd absent List.not_mem_nil⟩

theorem nativePath_native (abi library : String) : startsWith (nativePath abi library) "jni/" = true := by
  simp [startsWith, nativePath]

theorem nulFree_nativePath {abi library : String} (abiPlain : PurePosixPath.IsPlainComponent abi)
    (libraryPlain : PurePosixPath.IsPlainComponent library) :
    '\x00' ∉ (nativePath abi library).toList := by
  simp [nativePath, abiPlain.2.2.2, libraryPlain.2.2.2]

/-- What the packager takes for native libraries. -/
def sharedFiles (nativeDir : Dict String Bytes) : Dict String Bytes :=
  nativeDir.filter fun relative _ => endsWith relative ".so"

theorem endsWith_of_mem_sharedFiles {nativeDir : Dict String Bytes} {relative : String}
    (member : relative ∈ sharedFiles nativeDir) : endsWith relative ".so" = true := by
  obtain ⟨item, itemMember, rfl⟩ := List.mem_map.mp member
  exact (List.mem_filter.mp itemMember).2

theorem readNativeEntries_eq_ok {nativeDir : Dict String Bytes} {expected : Dict String String} :
    readNativeEntries nativeDir expected = .ok entries ↔
      (∀ relative, relative ∈ sharedFiles nativeDir ↔
        relative ∈ expected.items.map Prod.snd) ∧
      copyNativeFiles (sharedFiles nativeDir) expected.items Dict.empty = .ok entries := by
  unfold readNativeEntries
  simp only [bind_eq_ok, raiseIf_eq_ok, exists_unit, decide_eq_false_iff_not, ne_eq, not_not,
    sortedDifference_eq_nil_iff]
  constructor
  · rintro ⟨complete, nothingElse, copied⟩
    exact ⟨fun relative => ⟨nothingElse relative, complete relative⟩, copied⟩
  · rintro ⟨agree, copied⟩
    exact ⟨fun relative => (agree relative).mpr, fun relative => (agree relative).mp, copied⟩

/-- The native entries are the matrix of the contract, all of them shared objects. -/
theorem readNativeEntries_ok {nativeDir : Dict String Bytes} (plain : contract.PlainLibraries)
    (returned : readNativeEntries nativeDir (expectedNativeEntries contract) = .ok entries) :
    (∀ name, name ∈ entries ↔ contract.IsNative name) ∧
      ∀ name, contract.IsNative name → endsWith name ".so" = true := by
  obtain ⟨agree, copied⟩ := readNativeEntries_eq_ok.mp returned
  have expected (name : String) :
      name ∈ expectedNativeEntries contract ↔ contract.IsNative name := by
    rw [expectedNativeEntries, Dict.mem_ofPairs_iff, List.map_map, List.mem_map]
    rfl
  refine ⟨fun name => ?_, fun name native => ?_⟩
  · rw [mem_of_copyNativeFiles copied, ← expected]
    exact or_iff_left List.not_mem_nil
  · obtain ⟨relative, found⟩ := Dict.mem_iff_get?.mp ((expected name).mpr native)
    have shared : endsWith relative ".so" = true :=
      endsWith_of_mem_sharedFiles ((agree relative).mpr
        (List.mem_map.mpr ⟨_, Dict.get?_eq_some_iff.mp found, rfl⟩))
    obtain ⟨pair, pairMember, same⟩ := List.mem_map.mp (Dict.mem_of_get?_ofPairs found)
    obtain ⟨abiPlain, libraryPlain⟩ := plain pair pairMember
    obtain ⟨rfl, rfl⟩ := Prod.mk.inj same
    rw [PurePosixPath.asPosix_join abiPlain libraryPlain] at shared
    rw [endsWith, List.isSuffixOf_iff_suffix] at shared ⊢
    apply shared.trans
    exact ⟨"jni/".toList, by simp [nativePath]⟩

end Native

/-! ### The packaged AAR -/

/-- The names the packager itself gives to entries. -/
def noticeNames : List String :=
  [BUILD_MANIFEST_ENTRY, "META-INF/THIRD_PARTY_NOTICES.md", "META-INF/THIRD_PARTY_LICENSES.txt",
    "META-INF/LICENSE-LiteRT.txt", "consumer-rules.pro"]

theorem noticeNames_apart : ∀ name ∈ noticeNames, normalizeName name = name ∧
    '\x00' ∉ name.toList ∧ isComponent name = false ∧ isRecorded name = false := by
  decide

theorem mem_addNotices {inputs : Inputs} {entries : Dict String Bytes} {manifestBytes : Bytes}
    {name : String} :
    name ∈ (addNotices inputs entries).set BUILD_MANIFEST_ENTRY manifestBytes ↔
      name ∈ noticeNames ∨ name ∈ entries := by
  simp only [addNotices, noticeNames, Dict.mem_set_iff, List.mem_cons, List.not_mem_nil, or_false,
    or_assoc]

/-- What the packager has written. -/
structure Packed (py : StandardLibrary) (inputs : Inputs) (contract : Contract)
    (sourceLock : Document) (version : String) (output : Output) (api entries : Dict String Bytes)
    (manifest : Dict String Json) : Prop where
  apiRead : readApiEntries py inputs.apiAar = .ok api
  names : ∀ name, name ∈ entries.set BUILD_MANIFEST_ENTRY output.manifest ↔
    name ∈ api ∨ contract.IsNative name ∨ name ∈ noticeNames
  shared : ∀ name, contract.IsNative name → endsWith name ".so" = true
  described : buildManifest py version contract sourceLock entries = .ok manifest
  manifestBytes : output.manifest = jsonBytes (.ofDict manifest)
  written : archiveBytes py (entries.set BUILD_MANIFEST_ENTRY output.manifest) = .ok output.aar

theorem packed_of_ok {py : StandardLibrary} {inputs : Inputs} {contract : Contract}
    {sourceLock : Document} {version : String} {output : Output} (plain : contract.PlainLibraries)
    (returned : packageMain py inputs contract sourceLock version = .ok output) :
    ∃ api entries manifest,
      Packed py inputs contract sourceLock version output api entries manifest := by
  unfold packageMain at returned
  simp only [bind_eq_ok, pure_eq_ok, Except.ok.injEq] at returned
  obtain ⟨api, apiRead, native, nativeRead, manifest, described, aar, written, rfl⟩ := returned
  obtain ⟨nativeNames, shared⟩ := readNativeEntries_ok plain nativeRead
  refine ⟨api, _, manifest, apiRead, fun name => ?_, shared, described, rfl, written⟩
  have updated : name ∈ api.update native ↔ name ∈ native ∨ name ∈ api := by
    rw [Dict.mem_iff_get?, Dict.get?_update, Dict.mem_iff_get?, Dict.mem_iff_get?]
    cases native.get? name <;> simp
  rw [mem_addNotices, updated, nativeNames, or_comm, or_comm (a := contract.IsNative name), or_assoc]

section Packed

variable {py : StandardLibrary} {inputs : Inputs} {contract : Contract} {sourceLock : Document}
  {version : String} {output : Output} {api entries : Dict String Bytes}
  {manifest : Dict String Json}

/-- An entry of the API AAR becomes a native library of the AAR. -/
def HidesLibrary (api : Dict String Bytes) : Prop :=
  ∃ name ∈ api, startsWith (normalizeName name) "jni/" = true ∧
    endsWith (normalizeName name) ".so" = true

theorem isRecorded_of_isComponent {name : String} (component : isComponent name = true) :
    isRecorded name = true := by
  rw [isComponent, decide_eq_true_iff] at component
  rw [isRecorded, decide_eq_true_iff]
  exact component.imp_right And.left

/-- The entries as the archive holds them, with their names before normalisation. -/
theorem Packed.canonical
    (packed : Packed py inputs contract sourceLock version output api entries manifest)
    (plain : contract.PlainLibraries) :
    ∃ items, ∃ canonical : CanonicalItems items,
      output.aar = py.zipfile.write (items.map archived) ∧
      (∀ name data, canonical.dict.get? name = some data ↔ ∃ original,
        (entries.set BUILD_MANIFEST_ENTRY output.manifest).get? original = some data ∧
          normalizeName original = name) ∧
      ∀ first ∈ entries.set BUILD_MANIFEST_ENTRY output.manifest,
        ∀ second ∈ entries.set BUILD_MANIFEST_ENTRY output.manifest,
          normalizeName first = normalizeName second → first = second := by
  have nulFree : ∀ name ∈ entries.set BUILD_MANIFEST_ENTRY output.manifest,
      '\x00' ∉ name.toList := by
    intro name member
    rcases (packed.names name).mp member with inApi | ⟨pair, pairMember, rfl⟩ | notice
    · exact ((readApiEntries_ok packed.apiRead).1 name inApi).2.2
    · exact nulFree_nativePath (plain pair pairMember).1 (plain pair pairMember).2
    · exact (noticeNames_apart name notice).2.1
  obtain ⟨-, unique, -⟩ := archiveBytes_ok_iff.mp packed.written
  obtain ⟨items, canonical, stored, written⟩ := canonical_of_archiveBytes nulFree packed.written
  refine ⟨items, canonical, written, fun name data => ?_, nodup_safeItem_iff.mp unique⟩
  rw [Dict.get?_eq_some_iff, stored.mem_iff, List.mem_map]
  constructor
  · rintro ⟨⟨original, value⟩, member, same⟩
    obtain ⟨rfl, rfl⟩ := Prod.mk.inj same
    exact ⟨original, Dict.get?_eq_some_iff.mpr member, rfl⟩
  · rintro ⟨original, found, rfl⟩
    exact ⟨(original, data), Dict.get?_eq_some_iff.mp found, rfl⟩

/-- A recorded entry that is not an API entry is `classes.jar` or native. -/
theorem Packed.recorded
    (packed : Packed py inputs contract sourceLock version output api entries manifest)
    (plain : contract.PlainLibraries) {name : String}
    (member : name ∈ entries.set BUILD_MANIFEST_ENTRY output.manifest)
    (isRecordedName : isRecorded name = true) :
    normalizeName name = name ∧ isComponent name = true := by
  rcases (packed.names name).mp member with inApi | native | notice
  · obtain ⟨notNative, -, -⟩ := (readApiEntries_ok packed.apiRead).1 name inApi
    rw [isRecorded, decide_eq_true_iff, notNative] at isRecordedName
    obtain rfl := isRecordedName.resolve_right Bool.false_ne_true
    decide
  · have shared := packed.shared name native
    obtain ⟨pair, pairMember, rfl⟩ := native
    obtain ⟨abiPlain, libraryPlain⟩ := plain pair pairMember
    refine ⟨normalizeName_nativePath abiPlain libraryPlain, ?_⟩
    rw [isComponent, decide_eq_true_iff]
    exact Or.inr ⟨nativePath_native _ _, shared⟩
  · rw [(noticeNames_apart name notice).2.2.2] at isRecordedName
    exact absurd isRecordedName Bool.false_ne_true

end Packed

end BssLiteRt.Complete

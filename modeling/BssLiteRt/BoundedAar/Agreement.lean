import BssLiteRt.Archive.RoundTrip
import BssLiteRt.BoundedAar.Manifest

/-!
Owns the agreement of the packager and the verifier of the bounded-GPU AAR: the
verifier accepts every AAR and manifest that the packager writes.
-/

namespace BssLiteRt.BoundedAar

open BssLiteRt.Library BssLiteRt.Python BssLiteRt.Archive

/-! ### What the verifier accepts -/

section Accepted

variable {contract : Contract} {contractBytes : Bytes} {entries : Dict String Bytes}

theorem verifyNoAccelerator_ok_iff {abis : List String} :
    verifyNoAccelerator entries abis = .ok () ↔
      ∀ abi ∈ abis, nativePath abi "libLiteRtClGlAccelerator.so" ∉ entries := by
  induction abis with
  | nil => simp [verifyNoAccelerator]
  | cons abi rest inductionHypothesis =>
      simp only [verifyNoAccelerator, bind_eq_ok, raiseIf_eq_ok, exists_unit,
        decide_eq_false_iff_not, inductionHypothesis, List.forall_mem_cons]

theorem verifyEntries_ok_iff :
    verifyEntries contract contractBytes entries = .ok () ↔
      entries.get? CONTRACT_ENTRY = some contractBytes ∧
        (∀ name, name ∈ nativeNames entries ↔ name ∈ expectedNativeEntries contract) ∧
        (∀ abi ∈ unboundedAbis, nativePath abi "libLiteRtClGlAccelerator.so" ∉ entries) ∧
        ∀ name ∈ entries, endsWith name "libOCLQ.so" = false := by
  unfold verifyEntries
  simp only [bind_eq_ok, raiseIf_eq_ok, exists_unit, verifyNoAccelerator_ok_iff,
    Bool.not_eq_false', sameNames_iff, decide_eq_false_iff_not, ne_eq, not_not, List.any_eq_false,
    Bool.not_eq_true]
  rfl

theorem verifyMarkers_ok_iff {py : StandardLibrary} {shim : Bytes} {markers : List Bytes} :
    verifyMarkers py shim markers = .ok () ↔
      ∀ marker ∈ markers, containsBytes marker shim = true := by
  induction markers with
  | nil => simp [verifyMarkers]
  | cons marker rest inductionHypothesis =>
      simp only [verifyMarkers, bind_eq_ok, raiseIf_eq_ok, exists_unit, Bool.not_eq_false',
        inductionHypothesis, List.forall_mem_cons]

end Accepted

/-! ### The native matrix -/

/-- The contract lists a library for an ABI. -/
def Contract.Lists (contract : Contract) (abi library : String) : Prop :=
  ∃ libraries, contract.nativeMatrix.get? abi = some libraries ∧ library ∈ libraries

section Listed

variable {contract : Contract} {abi library : String}

theorem mem_expectedNativeEntries (listed : contract.Lists abi library) :
    nativePath abi library ∈ expectedNativeEntries contract := by
  obtain ⟨libraries, found, member⟩ := listed
  rw [expectedNativeEntries, List.mem_flatMap]
  exact ⟨(abi, libraries), Dict.get?_eq_some_iff.mp found, List.mem_map_of_mem member⟩

/-- A path of an ABI and a library without slashes is the path of no other pair. -/
theorem lists_of_mem (abiWhole : '/' ∉ abi.toList) (libraryWhole : '/' ∉ library.toList)
    (member : nativePath abi library ∈ expectedNativeEntries contract) :
    contract.Lists abi library := by
  rw [expectedNativeEntries, List.mem_flatMap] at member
  obtain ⟨⟨otherAbi, libraries⟩, listed, member⟩ := member
  obtain ⟨otherLibrary, otherListed, same⟩ := List.mem_map.mp member
  have chars : otherAbi.toList ++ '/' :: otherLibrary.toList = abi.toList ++ '/' :: library.toList := by
    have texts := congrArg String.toList same
    simpa [nativePath] using texts
  have apart : otherAbi = abi ∧ otherLibrary = library := by
    rcases List.append_eq_append_iff.mp chars with ⟨middle, left, right⟩ | ⟨middle, left, right⟩
    · cases middle with
      | nil =>
          rw [List.append_nil] at left
          exact ⟨String.toList_injective left.symm,
            String.toList_injective (List.cons.inj right).2⟩
      | cons first rest =>
          rw [List.cons_append, List.cons.injEq] at right
          exact absurd (left ▸ List.mem_append_right _ (right.1 ▸ List.mem_cons_self)) abiWhole
    · cases middle with
      | nil =>
          rw [List.append_nil] at left
          exact ⟨String.toList_injective left,
            String.toList_injective (List.cons.inj right).2.symm⟩
      | cons first rest =>
          rw [List.cons_append, List.cons.injEq] at right
          exact absurd (right.2 ▸ List.mem_append_right _ List.mem_cons_self) libraryWhole
  obtain ⟨rfl, rfl⟩ := apart
  exact ⟨libraries, Dict.get?_eq_some_iff.mpr listed, otherListed⟩

end Listed

/-- The classes of LiteRT that the verifier looks for. -/
def liteRtClasses : List String :=
  ["com/google/ai/edge/litert/CompiledModel.class", "com/google/ai/edge/litert/Environment.class",
    "org/tensorflow/lite/Interpreter.class"]

/-- What the packager does not check and the verifier relies on. -/
structure Preconditions (py : StandardLibrary) (contract : Contract) (inputs : Inputs) : Prop where
  normal : ∀ name, inputs.HasName py name → normalizeName name = name
  noDiagnosticShim : ∀ name, inputs.HasName py name → endsWith name "libOCLQ.so" = false
  arm64Listed : ∀ library ∈ ["libLiteRtClGlAccelerator.so", "libBssOcl.so", "liblitert_jni.so"],
    contract.Lists "arm64-v8a" library
  othersUnlisted : ∀ abi ∈ unboundedAbis, ¬ contract.Lists abi "libLiteRtClGlAccelerator.so"
  liteRtMerged : ∀ classes, mergedClasses py inputs = .ok classes →
    ∀ name ∈ liteRtClasses, name ∈ classes
  acceleratorMarked : verifyAccelerator inputs.arm64Accelerator = .ok ()
  shimMarked : verifyShim py contract inputs.arm64Shim = .ok ()
  jniMarked : verifyCustomJni inputs.arm64Jni = .ok ()

section Package

variable {py : StandardLibrary} {contract : Contract} {contractBytes : Bytes} {inputs : Inputs}
  {entries : Dict String Bytes}

theorem packagerNames_normal : ∀ name ∈ packagerNames, IsNormalName name := by
  decide +kernel

theorem packagerNames_notDiagnostic :
    ∀ name ∈ packagerNames, endsWith name "libOCLQ.so" = false := by
  decide

theorem unboundedAbis_native : ∀ abi ∈ unboundedAbis, '/' ∉ abi.toList ∧
    startsWith (nativePath abi "libLiteRtClGlAccelerator.so") "jni/" = true := by
  decide

theorem requiredClasses_normal : ∀ name ∈ requiredClasses, normalizeName name = name ∧
    (name ∈ expectedClasses ∨ name ∈ liteRtClasses) := by
  decide +kernel

theorem expectedClasses_nulFree : ∀ name ∈ expectedClasses, '\x00' ∉ name.toList := by
  decide

theorem HasName.nulFree {name : String} (hasName : inputs.HasName py name) :
    '\x00' ∉ name.toList := by
  obtain ⟨opened, reads, member⟩ := hasName
  cases reads with
  | inl read => exact readArchiveBytes_nulFree read name member
  | inr read => exact readArchiveBytes_nulFree read name member

theorem Assembled.normalised (assembled : Assembled py contract contractBytes inputs entries)
    (preconditions : Preconditions py contract inputs) : ∀ name ∈ entries, IsNormalised name := by
  intro name member
  cases assembled.names name member with
  | inl packaged => exact (packagerNames_normal name packaged).2
  | inr hasName => exact ⟨preconditions.normal name hasName, HasName.nulFree hasName⟩

/-- A library that the contract lists is in the AAR. -/
theorem Assembled.found (assembled : Assembled py contract contractBytes inputs entries)
    {abi library : String} (listed : contract.Lists abi library) :
    ∃ data, entries.get? (nativePath abi library) = some data := by
  have native := (assembled.native _).mpr (mem_expectedNativeEntries listed)
  exact Dict.mem_iff_get?.mp (List.mem_filter.mp native).1

theorem Assembled.acceptedEntries (assembled : Assembled py contract contractBytes inputs entries)
    (preconditions : Preconditions py contract inputs) {readBack : Dict String Bytes}
    (same : ∀ name, readBack.get? name = entries.get? name) :
    verifyEntries contract contractBytes readBack = .ok () := by
  have members (name : String) : name ∈ readBack ↔ name ∈ entries := by
    rw [Dict.mem_iff_get?, Dict.mem_iff_get?, same]
  have native (name : String) : name ∈ nativeNames readBack ↔ name ∈ nativeNames entries := by
    rw [nativeNames, nativeNames, List.mem_filter, List.mem_filter]
    exact and_congr_left fun _ => members name
  rw [verifyEntries_ok_iff]
  refine ⟨?_, fun name => (native name).trans (assembled.native name), ?_, ?_⟩
  · rw [same, assembled.contractEntry]
  · intro abi unbounded member
    obtain ⟨abiWhole, startsNative⟩ := unboundedAbis_native abi unbounded
    have isNative : nativePath abi "libLiteRtClGlAccelerator.so" ∈ nativeNames entries :=
      List.mem_filter.mpr ⟨(members _).mp member, startsNative⟩
    apply preconditions.othersUnlisted abi unbounded
    exact lists_of_mem abiWhole (by decide) ((assembled.native _).mp isNative)
  · intro name member
    cases assembled.names name ((members name).mp member) with
    | inl packaged => exact packagerNames_notDiagnostic name packaged
    | inr hasName => exact preconditions.noDiagnosticShim name hasName

theorem Assembled.acceptedClasses (assembled : Assembled py contract contractBytes inputs entries)
    (preconditions : Preconditions py contract inputs) {readBack : Dict String Bytes} {jar : Bytes}
    (same : ∀ name, readBack.get? name = entries.get? name)
    (found : entries.get? "classes.jar" = some jar) : verifyClasses py readBack = .ok () := by
  obtain ⟨merged, opened, compiled, mergedNulFree, archivedJar⟩ := assembled.classes jar found
  have compiledIff := sameNames_iff.mp compiled
  have inJar (name : String) : name ∈ merged.update inputs.capabilityClasses ↔
      name ∈ inputs.capabilityClasses ∨ name ∈ merged := by
    rw [Dict.mem_iff_get?, Dict.get?_update, Dict.mem_iff_get?, Dict.mem_iff_get?]
    cases inputs.capabilityClasses.get? name <;> simp
  have nulFree : ∀ name ∈ merged.update inputs.capabilityClasses, '\x00' ∉ name.toList := by
    intro name member
    cases (inJar name).mp member with
    | inl inCompiled => exact expectedClasses_nulFree name ((compiledIff name).mp inCompiled)
    | inr inMerged => exact mergedNulFree name inMerged
  obtain ⟨items, canonical, stored, rfl⟩ := canonical_of_archiveBytes nulFree archivedJar
  have complete : ∀ name ∈ requiredClasses, name ∈ canonical.dict.keys := by
    intro name required
    obtain ⟨normal, source⟩ := requiredClasses_normal name required
    have member : name ∈ merged.update inputs.capabilityClasses := by
      rw [inJar]
      cases source with
      | inl expected => exact Or.inl ((compiledIff name).mpr expected)
      | inr liteRt => exact Or.inr (preconditions.liteRtMerged merged opened name liteRt)
    obtain ⟨item, itemMember, rfl⟩ := List.mem_map.mp member
    have safe : item ∈ canonical.dict.items := by
      rw [stored.mem_iff, ← safeItem_of_normal normal]
      exact List.mem_map_of_mem itemMember
    exact List.mem_map_of_mem safe
  have opens : entryOf readBack "classes.jar" = .ok _ := entryOf_ok_iff.mpr ((same _).trans found)
  rw [verifyClasses, opens, ok_bind, canonical.archiveEntries_write, ok_bind]
  simp only [canonical.verifyNormalized_archived, ok_bind,
    sortedDifference_eq_nil_iff.mpr complete]
  rfl

/-- The verifier accepts an assembled AAR with every manifest that describes it. -/
theorem verifyMain_of_described {aar jar : Bytes} {manifest : Dict String Json}
    (preconditions : Preconditions py contract inputs)
    (assembles : assembleEntries py contract contractBytes inputs = .ok entries)
    (archivedAar : archiveBytes py entries = .ok aar)
    (jarFound : entries.get? "classes.jar" = some jar)
    (described : Described py contract contractBytes aar inputs entries manifest) :
    verifyMain py contract contractBytes ⟨aar, jsonBytes (.ofDict manifest)⟩ = .ok () := by
  have assembled := assembled_of_ok assembles
  obtain ⟨items, canonical, same, rfl⟩ :=
    readBack_of_normal (assembled.normalised preconditions) archivedAar
  -- The libraries that the verifier looks into are the supplied ones.
  have accelerator : entryOf canonical.dict ARM64_ACCELERATOR = .ok inputs.arm64Accelerator := by
    obtain ⟨data, found⟩ := assembled.found
      (preconditions.arm64Listed "libLiteRtClGlAccelerator.so" (by simp))
    rw [entryOf_ok_iff, same, ← assembled.accelerator data found]
    exact found
  have shim : entryOf canonical.dict ARM64_SHIM = .ok inputs.arm64Shim := by
    obtain ⟨data, found⟩ := assembled.found (preconditions.arm64Listed "libBssOcl.so" (by simp))
    rw [entryOf_ok_iff, same, ← assembled.shim data found]
    exact found
  have jni : entryOf canonical.dict ARM64_JNI = .ok inputs.arm64Jni := by
    obtain ⟨data, found⟩ := assembled.found (preconditions.arm64Listed "liblitert_jni.so" (by simp))
    rw [entryOf_ok_iff, same, ← assembled.jni data found]
    exact found
  simp only [verifyMain, bind_eq_ok, exists_unit]
  exact ⟨_, readJson_jsonBytes py described.wellFormed, _, canonical.archiveEntries_write,
    canonical.verifyNormalized_archived "AAR",
    assembled.acceptedEntries preconditions same,
    assembled.acceptedClasses preconditions same jarFound,
    _, accelerator, preconditions.acceleratorMarked,
    _, shim, preconditions.shimMarked,
    _, jni, preconditions.jniMarked, described.accepted same assembled.native⟩

/-- The verifier accepts the AAR and the manifest that the packager writes. -/
theorem packaged_aar_verifies (py : StandardLibrary) (contract : Contract) (contractBytes : Bytes)
    (inputs : Inputs) (output : Output) (preconditions : Preconditions py contract inputs)
    (packaged : packageMain py contract contractBytes inputs = .ok output) :
    verifyMain py contract contractBytes output = .ok () := by
  unfold packageMain at packaged
  simp only [bind_eq_ok, pure_eq_ok, Except.ok.injEq] at packaged
  obtain ⟨entries, assembles, aar, archivedAar, manifest, describes, rfl⟩ := packaged
  have classesFound : ∃ jar, entries.get? "classes.jar" = some jar := by
    unfold buildManifest at describes
    simp only [bind_eq_ok, entryOf_ok_iff] at describes
    obtain ⟨_, -, _, -, _, -, _, -, _, -, jar, found, -⟩ := describes
    exact ⟨jar, found⟩
  obtain ⟨jar, jarFound⟩ := classesFound
  exact verifyMain_of_described preconditions assembles archivedAar jarFound
    (described_of_ok describes)

end Package

/-! ### An AAR -/

section Sample

open BssLiteRt.Python (concreteLibrary)

def interpreterClass : Dict String Bytes :=
  ⟨[("org/tensorflow/lite/Interpreter.class", [1])], by decide⟩

def apiClasses : Dict String Bytes :=
  ⟨[("com/google/ai/edge/litert/CompiledModel.class", [2]),
    ("com/google/ai/edge/litert/Environment.class", [3])], by decide⟩

def compiledClasses : Dict String Bytes :=
  ⟨[(CAPABILITY_CLASS_PREFIX ++ "$Capability.class", [4]),
    (CAPABILITY_CLASS_PREFIX ++ ".class", [5])], by decide⟩

/-- The classes of the official AARs, in the order of an archive. -/
def officialClasses : Dict String Bytes :=
  ⟨apiClasses.items ++ interpreterClass.items, by decide⟩

def allClasses : Dict String Bytes :=
  ⟨apiClasses.items ++ compiledClasses.items ++ interpreterClass.items, by decide⟩

def x86Libraries : Dict String Bytes :=
  ⟨[("jni/x86/libLiteRt.so", [6]), ("jni/x86/liblitert_jni.so", [7])], by decide⟩

theorem sampleNames_normal : ∀ name ∈ allClasses.keys ++ x86Libraries.keys, IsNormalName name := by
  decide +kernel

theorem sample_canonical : ∀ entries ∈ [interpreterClass, apiClasses, officialClasses, allClasses,
    x86Libraries], CanonicalItems entries.items := by
  have known : ∀ entries ∈ [interpreterClass, apiClasses, officialClasses, allClasses,
      x86Libraries], (∀ item ∈ entries.items, item.1 ∈ allClasses.keys ++ x86Libraries.keys) ∧
        entries.items.Pairwise fun left right => left.1 ≤ right.1 := by
    decide +kernel
  intro entries member
  obtain ⟨named, sorted⟩ := known entries member
  exact ⟨fun item itemMember => sampleNames_normal item.1 (named item itemMember),
    entries.unique, sorted⟩

/-- Bytes that every reader finds the entries in. -/
def Holds (data : Bytes) (entries : Dict String Bytes) : Prop :=
  ∀ label, readArchiveBytes concreteLibrary data label = .ok entries

theorem holds_exists {entries : Dict String Bytes} (canonical : CanonicalItems entries.items) :
    ∃ data, Holds data entries :=
  ⟨_, canonical.readArchiveBytes_write⟩

theorem holds_archive {entries stored : Dict String Bytes} (canonical : CanonicalItems stored.items)
    (same : entries.items.Perm stored.items) :
    ∃ data, archiveBytes concreteLibrary entries = .ok data ∧ Holds data stored :=
  ⟨_, archiveBytes_of_perm same canonical.archiveBytes_dict, canonical.readArchiveBytes_write⟩

/-- The entries of an AAR that holds nothing but its classes. -/
def jarOnly (jar : Bytes) : Dict String Bytes :=
  ⟨[("classes.jar", jar)], List.nodup_singleton _⟩

section JarOnly

variable (jar changed : Bytes)

theorem entryOf_jarOnly : entryOf (jarOnly jar) "classes.jar" = .ok jar := rfl

theorem set_jarOnly : (jarOnly jar).set "classes.jar" changed = jarOnly changed := rfl

theorem mergeEntries_jarOnly : mergeEntries (jarOnly jar).items (jarOnly changed) =
    .ok (jarOnly changed) := rfl

theorem jarOnly_canonical : CanonicalItems (jarOnly jar).items where
  normal := by
    have normal : IsNormalName "classes.jar" := by decide
    rw [jarOnly, List.forall_mem_singleton]
    exact normal
  unique := (jarOnly jar).unique
  sorted := List.pairwise_singleton _ _

end JarOnly

def sampleContract : Contract where
  coordinate := ⟨.str "group:artifact:1", trivial⟩
  baseLiteRtVersion := ⟨.str "2.2.0", trivial⟩
  capability := ⟨.obj [("artifactVersion", .str "1"), ("profileId", .str "fp32")], by
    rw [Json.wellFormed_obj]
    simp⟩
  nativeMatrix := ⟨[("arm64-v8a", ["liblitert_jni.so", "libLiteRtClGlAccelerator.so",
    "libBssOcl.so"]), ("x86", ["libLiteRt.so", "liblitert_jni.so"])], by decide⟩
  removedOfficialComponents := []

def sampleContractBytes : Bytes := jsonBytes sampleContract.document

def sampleJni : Bytes :=
  encodeUtf8 "Failed to set Booming SS bounded GPU kernelBatchSize."

def sampleAccelerator : Bytes :=
  encodeUtf8 "libBssOcl.so"

def sampleShim : Bytes :=
  encodeUtf8 "1 fp32 nativeGetCapabilitySchemaVersion nativeGetEventWaitCount"

theorem sample_accelerator : verifyAccelerator sampleAccelerator = .ok () :=
  raiseIf_eq_ok.mpr (by decide +kernel)

theorem sample_jni : verifyCustomJni sampleJni = .ok () :=
  raiseIf_eq_ok.mpr (by decide)

theorem sample_shim : verifyShim concreteLibrary sampleContract sampleShim = .ok () := by
  have marked : ∀ marker ∈ ["1", "fp32", "nativeGetCapabilitySchemaVersion",
      "nativeGetEventWaitCount"], containsBytes (encodeUtf8 marker) sampleShim = true := by
    decide +kernel
  have accepted := (@verifyMarkers_ok_iff concreteLibrary _ _).mpr (List.forall_mem_map.mpr marked)
  simp only [verifyShim, bind_eq_ok]
  exact ⟨.str "1", getItem_ok_iff.mpr rfl, _, rfl, .str "fp32", getItem_ok_iff.mpr rfl, _, rfl,
    accepted⟩

def sampleInputs (implementationAar apiAar x86Supplement : Bytes) : Inputs where
  implementationAar := implementationAar
  implementationPath := "implementation.aar"
  apiAar := apiAar
  apiPath := "api.aar"
  arm64Jni := sampleJni
  arm64Accelerator := sampleAccelerator
  arm64Shim := sampleShim
  x86Supplement := x86Supplement
  x86Path := "x86.aar"
  capabilityClasses := compiledClasses
  sourceRoot := fun _ => some []
  repositoryHead := .ok "0123456789\n"
  litertSourceCommit := "abcdef"
  acceleratorPatchResult := "2:bb"
  outputName := "runtime.aar"

theorem sample_updates : (interpreterClass.update apiClasses).items.Perm officialClasses.items ∧
    (officialClasses.update compiledClasses).items.Perm allClasses.items := by
  decide

theorem sample_merged {implementationJar apiJar officialJar : Bytes}
    (implementation : Holds implementationJar interpreterClass) (api : Holds apiJar apiClasses)
    (archives : archiveBytes concreteLibrary (interpreterClass.update apiClasses) =
      .ok officialJar) :
    mergeOfficialAars concreteLibrary (jarOnly implementationJar) (jarOnly apiJar) =
      .ok (jarOnly officialJar) := by
  have fresh : sortedIntersection interpreterClass.keys apiClasses.keys = [] := by
    decide
  have erased : apiClasses.erase "META-INF/MANIFEST.MF" = apiClasses := by
    decide
  rw [mergeOfficialAars, entryOf_jarOnly, ok_bind, implementation, ok_bind, entryOf_jarOnly, ok_bind,
    api, ok_bind]
  simp only [erased, fresh, ne_eq, not_true, decide_false, raiseIf_false]
  rw [ok_bind, archives, ok_bind, set_jarOnly, mergeEntries_jarOnly]

theorem sample_classed {officialJar jar : Bytes} (official : Holds officialJar officialClasses)
    (archives : archiveBytes concreteLibrary (officialClasses.update compiledClasses) = .ok jar) :
    addCapabilityClasses concreteLibrary compiledClasses (jarOnly officialJar) =
      .ok (jarOnly jar) := by
  have fresh : sortedIntersection officialClasses.keys compiledClasses.keys = [] := by
    decide
  have expected : sameNames compiledClasses.keys expectedClasses = true := by
    decide
  rw [addCapabilityClasses, entryOf_jarOnly, ok_bind, official, ok_bind, expected]
  simp only [Bool.not_true, fresh, ne_eq, not_true, decide_false, raiseIf_false]
  rw [ok_bind, ok_bind, archives, ok_bind, set_jarOnly]
  rfl

section Assembled

variable {implementationAar apiAar x86Supplement : Bytes}

theorem sample_libraries (supplement : Holds x86Supplement x86Libraries)
    (entries : Dict String Bytes) :
    ∃ complete, addNativeLibraries concreteLibrary
        (sampleInputs implementationAar apiAar x86Supplement) entries = .ok complete ∧
      ∀ name, name ∈ complete ↔ name ∈ [ARM64_JNI, ARM64_ACCELERATOR, ARM64_SHIM] ++ expectedX86 ∨
        name ∈ entries := by
  have pair : sameNames (nativeNames x86Libraries) expectedX86 = true := by
    decide
  have copied (entries : Dict String Bytes) : copyEntries expectedX86 x86Libraries entries =
      .ok ((entries.set "jni/x86/libLiteRt.so" [6]).set "jni/x86/liblitert_jni.so" [7]) := rfl
  rw [addNativeLibraries]
  show ∃ complete, (readArchiveBytes _ x86Supplement _ >>= _) = _ ∧ _
  rw [supplement, ok_bind, pair]
  simp only [Bool.not_true, raiseIf_false]
  rw [ok_bind, copied]
  refine ⟨_, rfl, fun name => ?_⟩
  have names : [ARM64_JNI, ARM64_ACCELERATOR, ARM64_SHIM] ++ expectedX86 =
      ["jni/arm64-v8a/liblitert_jni.so", "jni/arm64-v8a/libLiteRtClGlAccelerator.so",
        "jni/arm64-v8a/libBssOcl.so", "jni/x86/libLiteRt.so", "jni/x86/liblitert_jni.so"] := by
    decide
  simp only [names, Dict.mem_set_iff, List.mem_cons, List.not_mem_nil, or_false]
  tauto

theorem sample_assembled (contractBytes : Bytes) {implementationJar apiJar : Bytes}
    (implementationRead : Holds implementationAar (jarOnly implementationJar))
    (apiRead : Holds apiAar (jarOnly apiJar)) (implementation : Holds implementationJar interpreterClass)
    (api : Holds apiJar apiClasses) (supplement : Holds x86Supplement x86Libraries) :
    ∃ entries, assembleEntries concreteLibrary sampleContract contractBytes
        (sampleInputs implementationAar apiAar x86Supplement) = .ok entries ∧
      ∀ name, name ∈ entries ↔ name ∈ packagerNames := by
  obtain ⟨officialJar, officialArchive, official⟩ :=
    holds_archive (sample_canonical officialClasses (by simp)) sample_updates.1
  obtain ⟨jar, archive, -⟩ :=
    holds_archive (sample_canonical allClasses (by simp)) sample_updates.2
  have merged := sample_merged implementation api officialArchive
  have classed := sample_classed official archive
  obtain ⟨complete, libraries, names⟩ := @sample_libraries implementationAar apiAar _ supplement
    (jarOnly jar)
  have kept : removeComponents sampleContract.removedOfficialComponents complete = complete := rfl
  have member (name : String) :
      name ∈ complete.set CONTRACT_ENTRY contractBytes ↔ name ∈ packagerNames := by
    have inJar : name ∈ jarOnly jar ↔ name = "classes.jar" := List.mem_singleton
    rw [Dict.mem_set_iff, names, inJar, packagerNames, List.mem_cons, List.mem_append,
      List.mem_append, List.mem_append, List.mem_singleton]
  have native : sameNames (nativeNames (complete.set CONTRACT_ENTRY contractBytes))
      (expectedNativeEntries sampleContract) = true := by
    have expected : sameNames (packagerNames.filter fun name => startsWith name "jni/")
        (expectedNativeEntries sampleContract) = true := by
      decide
    rw [sameNames_iff] at expected ⊢
    intro name
    rw [← expected, nativeNames, List.mem_filter, List.mem_filter]
    exact and_congr_left fun _ => member name
  refine ⟨complete.set CONTRACT_ENTRY contractBytes, ?_, member⟩
  rw [assembleEntries]
  show (readArchiveBytes _ implementationAar _ >>= _) = _
  rw [implementationRead, ok_bind]
  show (readArchiveBytes _ apiAar _ >>= _) = _
  rw [apiRead, ok_bind, merged, ok_bind]
  show (addCapabilityClasses concreteLibrary compiledClasses _ >>= _) = _
  rw [classed, ok_bind, libraries, ok_bind]
  simp only [kept, native, Bool.not_true, raiseIf_false]
  rfl

theorem sample_sources {relatives : List String} {start : Dict String Json} :
    ∃ result, sourceHashes concreteLibrary (fun _ => some []) relatives start = .ok result ∧
      ∀ relative, relative ∈ relatives ∨ relative ∈ start → relative ∈ result := by
  induction relatives generalizing start with
  | nil => exact ⟨start, rfl, fun relative known => known.resolve_left List.not_mem_nil⟩
  | cons first rest inductionHypothesis =>
      obtain ⟨result, returned, known⟩ :=
        @inductionHypothesis (start.set first (.str (concreteLibrary.hashlib.sha256 [])))
      refine ⟨result, returned, fun relative member => known relative ?_⟩
      rw [Dict.mem_set_iff]
      rw [List.mem_cons] at member
      tauto

theorem sample_manifest {entries : Dict String Bytes} (complete : "classes.jar" ∈ entries)
    (contractBytes aar : Bytes) :
    ∃ manifest, buildManifest concreteLibrary sampleContract contractBytes
      (sampleInputs implementationAar apiAar x86Supplement) entries aar = .ok manifest := by
  obtain ⟨jar, found⟩ := Dict.mem_iff_get?.mp complete
  obtain ⟨sources, hashed, known⟩ := @sample_sources SOURCE_FILES Dict.empty
  have listed : GPU_OPTION_PATCH ∈ SOURCE_FILES := by simp [SOURCE_FILES]
  obtain ⟨patch, patchHash⟩ := Dict.mem_iff_get?.mp (known _ (Or.inl listed))
  have fields : parsePatchResult concreteLibrary "2:bb" 2 "accelerator patch" = .ok ["2", "bb"] :=
    rfl
  have offset : concreteLibrary.int "2" = .ok 2 := rfl
  simp only [buildManifest, bind_eq_ok]
  exact ⟨_, ["2", "bb"], fields, sources, hashed, _, rfl, patch, getItem_ok_iff.mpr patchHash,
    2, offset, jar, entryOf_ok_iff.mpr found, rfl⟩

theorem sample_packaged (contractBytes : Bytes) {implementationJar apiJar : Bytes}
    (implementationRead : Holds implementationAar (jarOnly implementationJar))
    (apiRead : Holds apiAar (jarOnly apiJar)) (implementation : Holds implementationJar interpreterClass)
    (api : Holds apiJar apiClasses) (supplement : Holds x86Supplement x86Libraries) :
    ∃ output, packageMain concreteLibrary sampleContract contractBytes
      (sampleInputs implementationAar apiAar x86Supplement) = .ok output := by
  obtain ⟨entries, assembled, names⟩ :=
    sample_assembled contractBytes implementationRead apiRead implementation api supplement
  have normal : ∀ name ∈ entries, IsNormalName name := fun name member =>
    packagerNames_normal name ((names name).mp member)
  obtain ⟨aar, archive⟩ := archiveBytes_of_normal concreteLibrary normal
  have complete : "classes.jar" ∈ entries := (names _).mpr (by simp [packagerNames])
  obtain ⟨manifest, described⟩ := @sample_manifest implementationAar apiAar x86Supplement _
    complete contractBytes aar
  simp only [packageMain, bind_eq_ok]
  exact ⟨_, entries, assembled, aar, archive, manifest, described, rfl⟩

theorem sample_preconditions {implementationJar apiJar : Bytes}
    (implementationRead : Holds implementationAar (jarOnly implementationJar))
    (apiRead : Holds apiAar (jarOnly apiJar)) (implementation : Holds implementationJar interpreterClass)
    (api : Holds apiJar apiClasses) :
    Preconditions concreteLibrary sampleContract
      (sampleInputs implementationAar apiAar x86Supplement) := by
  have onlyJar {name : String} (hasName : (sampleInputs implementationAar apiAar x86Supplement).HasName
      concreteLibrary name) : name = "classes.jar" := by
    obtain ⟨opened, reads, member⟩ := hasName
    have jars : ∃ jar, opened = jarOnly jar := by
      cases reads with
      | inl read => exact ⟨_, Except.ok.inj (read.symm.trans (implementationRead _))⟩
      | inr read => exact ⟨_, Except.ok.inj (read.symm.trans (apiRead _))⟩
    obtain ⟨jar, rfl⟩ := jars
    exact List.mem_singleton.mp member
  refine ⟨?normal, ?noDiagnosticShim, ?arm64Listed, ?othersUnlisted, ?liteRtMerged, ?acceleratorMarked,
    ?shimMarked, ?jniMarked⟩
  case normal =>
    intro name hasName
    rw [onlyJar hasName]
    decide
  case noDiagnosticShim =>
    intro name hasName
    rw [onlyJar hasName]
    decide
  case arm64Listed =>
    intro library member
    refine ⟨_, rfl, ?_⟩
    revert library
    decide
  case othersUnlisted =>
    rintro abi unbounded ⟨libraries, found, member⟩
    have listed : ∀ abi ∈ unboundedAbis, ∀ libraries ∈ sampleContract.nativeMatrix.get? abi,
        "libLiteRtClGlAccelerator.so" ∉ libraries := by
      decide
    exact listed abi unbounded libraries found member
  case liteRtMerged =>
    intro classes opened
    obtain ⟨officialJar, officialArchive, official⟩ :=
      holds_archive (sample_canonical officialClasses (by simp)) sample_updates.1
    have merged : mergedClasses concreteLibrary
        (sampleInputs implementationAar apiAar x86Supplement) = .ok officialClasses := by
      rw [mergedClasses]
      show (readArchiveBytes _ implementationAar _ >>= _) = _
      rw [implementationRead, ok_bind]
      show (readArchiveBytes _ apiAar _ >>= _) = _
      rw [apiRead, ok_bind, sample_merged implementation api officialArchive, ok_bind,
        entryOf_jarOnly, ok_bind, official]
    obtain rfl := Except.ok.inj (opened.symm.trans merged)
    decide
  case acceleratorMarked => exact sample_accelerator
  case shimMarked => exact sample_shim
  case jniMarked => exact sample_jni

/-- An AAR of two classes and two ABIs. -/
theorem packaged_aar_verifies_two_abis :
    ∃ inputs output, packageMain concreteLibrary sampleContract sampleContractBytes inputs =
        .ok output ∧
      verifyMain concreteLibrary sampleContract sampleContractBytes output = .ok () := by
  obtain ⟨implementationJar, implementation⟩ :=
    holds_exists (sample_canonical interpreterClass (by simp))
  obtain ⟨apiJar, api⟩ := holds_exists (sample_canonical apiClasses (by simp))
  obtain ⟨x86Supplement, supplement⟩ := holds_exists (sample_canonical x86Libraries (by simp))
  obtain ⟨implementationAar, implementationRead⟩ := holds_exists (jarOnly_canonical implementationJar)
  obtain ⟨apiAar, apiRead⟩ := holds_exists (jarOnly_canonical apiJar)
  obtain ⟨output, packaged⟩ :=
    sample_packaged sampleContractBytes implementationRead apiRead implementation api supplement
  have preconditions := @sample_preconditions _ _ x86Supplement _ _ implementationRead apiRead
    implementation api
  exact ⟨_, output, packaged,
    packaged_aar_verifies concreteLibrary sampleContract sampleContractBytes _ output preconditions
      packaged⟩

end Assembled

end Sample
end BssLiteRt.BoundedAar

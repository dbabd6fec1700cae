import BssLiteRt.BoundedAar.Agreement

/-!
Owns the truth of an accepted bounded-GPU build manifest: which of the fields
that packaging derives from the AAR or the contract the verifier compares, and
which it leaves to the manifest.
-/

namespace BssLiteRt.BoundedAar

open BssLiteRt.Library BssLiteRt.Python BssLiteRt.Archive

/-! ### True fields -/

def SizeTrue (record : Json) (data : Bytes) : Prop :=
  HasField record "byteSize" (.int data.length)

def HashTrue (py : StandardLibrary) (record : Json) (data : Bytes) : Prop :=
  HasField record "sha256" (.str (py.hashlib.sha256 data))

/-- The fields of a manifest that packaging derives from the AAR or the contract. -/
structure TrueManifest (py : StandardLibrary) (contract : Contract) (contractBytes aar : Bytes)
    (entries : Dict String Bytes) (manifest : Json) : Prop where
  coordinate : HasField manifest "coordinate" contract.coordinate
  baseLiteRtVersion : HasField manifest "baseLiteRtVersion" contract.baseLiteRtVersion
  contractSha256 : HasField manifest "contractSha256" (.str (py.hashlib.sha256 contractBytes))
  capability : HasField manifest "capability" contract.capability
  components : ∃ components, manifest.field? "nativeComponents" = some components ∧
    (∀ name, (components.field? name).isSome ↔ name ∈ nativeNames entries) ∧
    ∀ name ∈ nativeNames entries, ∀ data ∈ entries.get? name,
      ∀ record ∈ components.field? name, SizeTrue record data ∧ HashTrue py record data
  classesJar : ∃ record data, manifest.field? "classesJar" = some record ∧
    entries.get? "classes.jar" = some data ∧ SizeTrue record data ∧ HashTrue py record data
  outputSha256 : ∃ build jni, manifest.field? "sourceBuild" = some build ∧
    entries.get? ARM64_JNI = some jni ∧
    HasField build "outputSha256" (.str (py.hashlib.sha256 jni))
  aar : ∃ record, manifest.field? "aar" = some record ∧ SizeTrue record aar ∧
    HashTrue py record aar

/-- The same for the fields that the verifier does not read. -/
structure UnreadTrue (py : StandardLibrary) (contract : Contract) (aar : Bytes)
    (entries : Dict String Bytes) (manifest : Json) : Prop where
  baseLiteRtVersion : HasField manifest "baseLiteRtVersion" contract.baseLiteRtVersion
  noFurtherComponent : ∀ components ∈ manifest.field? "nativeComponents",
    ∀ name, (components.field? name).isSome → name ∈ nativeNames entries
  componentSizes : ∀ components ∈ manifest.field? "nativeComponents",
    ∀ name ∈ nativeNames entries, ∀ data ∈ entries.get? name,
      ∀ record ∈ components.field? name, SizeTrue record data
  classesJar : ∃ record data, manifest.field? "classesJar" = some record ∧
    entries.get? "classes.jar" = some data ∧ SizeTrue record data ∧ HashTrue py record data
  aarSize : ∀ record ∈ manifest.field? "aar", SizeTrue record aar

/-! ### What the verifier has checked -/

section Checked

variable {py : StandardLibrary} {contract : Contract} {contractBytes : Bytes}
  {entries : Dict String Bytes} {manifest : Json}

/-- What the verifier has checked of one native component. -/
def ComponentChecked (py : StandardLibrary) (entries : Dict String Bytes) (manifest : Json)
    (name : String) : Prop :=
  ∃ components record data, manifest.field? "nativeComponents" = some components ∧
    components.field? name = some record ∧ entries.get? name = some data ∧
    HashTrue py record data

theorem componentChecked_of_ok {names : List String}
    (verified : verifyComponents py manifest entries names = .ok ()) :
    ∀ name ∈ names, ComponentChecked py entries manifest name := by
  induction names with
  | nil => exact fun _ absent => absurd absent List.not_mem_nil
  | cons name rest inductionHypothesis =>
      unfold verifyComponents at verified
      obtain ⟨components, listed, verified⟩ := bind_eq_ok.mp verified
      obtain ⟨component, found, verified⟩ := bind_eq_ok.mp verified
      split at verified
      · cases verified
      · rename_i notNull
        simp only [bind_eq_ok, exists_unit, entryOf_ok_iff, requireItem_ok_iff] at verified
        obtain ⟨data, inEntries, hashed, later⟩ := verified
        refine List.forall_mem_cons.mpr ⟨?_, inductionHypothesis later⟩
        exact ⟨components, component, data, getItem_ok_iff.mp listed, field?_of_getD found notNull,
          inEntries, hashed⟩

/-- What the verifier has checked of a manifest. -/
structure ManifestChecked (py : StandardLibrary) (contract : Contract) (contractBytes aar : Bytes)
    (entries : Dict String Bytes) (manifest : Json) : Prop where
  coordinate : HasField manifest "coordinate" contract.coordinate
  contractSha256 : HasField manifest "contractSha256" (.str (py.hashlib.sha256 contractBytes))
  capability : HasField manifest "capability" contract.capability
  components : ∀ name ∈ nativeNames entries, ComponentChecked py entries manifest name
  someComponent : ∃ name, name ∈ nativeNames entries
  outputSha256 : ∃ build jni, manifest.field? "sourceBuild" = some build ∧
    entries.get? ARM64_JNI = some jni ∧
    HasField build "outputSha256" (.str (py.hashlib.sha256 jni))
  aar : ∃ record, manifest.field? "aar" = some record ∧ HashTrue py record aar

theorem manifestChecked_of_ok {output : Output}
    (verified : verifyMain py contract contractBytes output = .ok ()) :
    ∃ manifest entries infos, readJson py output.manifest = .ok manifest ∧
      archiveEntries py output.aar = .ok (entries, infos) ∧
      ManifestChecked py contract contractBytes output.aar entries manifest := by
  simp only [verifyMain, bind_eq_ok, exists_unit] at verified
  obtain ⟨manifest, loaded, ⟨entries, infos⟩, opened, -, accepted, -, accelerator, acceleratorFound,
    -, shim, -, -, jni, jniFound, -, recorded⟩ := verified
  obtain ⟨-, native, -⟩ := verifyEntries_ok_iff.mp accepted
  simp only [verifyManifest, bind_eq_ok, exists_unit, requireItem_ok_iff, getItem_ok_iff]
    at recorded
  obtain ⟨coordinate, contractHash, aarRecord, aarFound, aarHash, capability, build, buildFound,
    outputHash, components⟩ := recorded
  refine ⟨manifest, entries, infos, loaded, opened, coordinate, contractHash, capability, ?_, ?_,
    ⟨build, jni, buildFound, entryOf_ok_iff.mp jniFound, outputHash⟩, aarRecord, aarFound, aarHash⟩
  · intro name isNative
    exact componentChecked_of_ok components name ((native name).mp isNative)
  · refine ⟨ARM64_ACCELERATOR, List.mem_filter.mpr ⟨?_, by decide⟩⟩
    exact Dict.mem_iff_get?.mpr ⟨accelerator, entryOf_ok_iff.mp acceleratorFound⟩

/-- A checked manifest is true exactly when its unread fields are. -/
theorem ManifestChecked.true_iff {aar : Bytes}
    (checked : ManifestChecked py contract contractBytes aar entries manifest) :
    TrueManifest py contract contractBytes aar entries manifest ↔
      UnreadTrue py contract aar entries manifest := by
  constructor
  · intro isTrue
    obtain ⟨components, listed, names, records⟩ := isTrue.components
    obtain ⟨aarRecord, aarFound, aarSize, -⟩ := isTrue.aar
    refine ⟨isTrue.baseLiteRtVersion, ?_, ?_, isTrue.classesJar, ?_⟩
    · intro found sameField name
      obtain rfl := Option.some.inj (listed.symm.trans sameField)
      exact (names name).mp
    · intro found sameField name isNative data inEntries record recorded
      obtain rfl := Option.some.inj (listed.symm.trans sameField)
      exact (records name isNative data inEntries record recorded).1
    · intro record found
      obtain rfl := Option.some.inj (aarFound.symm.trans found)
      exact aarSize
  · intro unread
    obtain ⟨some, someNative⟩ := checked.someComponent
    obtain ⟨components, -, -, listed, -⟩ := checked.components some someNative
    obtain ⟨aarRecord, aarFound, aarHash⟩ := checked.aar
    refine ⟨checked.coordinate, unread.baseLiteRtVersion, checked.contractSha256,
      checked.capability, ⟨components, listed, fun name => ⟨?_, ?_⟩, ?_⟩, unread.classesJar,
      checked.outputSha256, aarRecord, aarFound, unread.aarSize aarRecord aarFound, aarHash⟩
    · exact unread.noFurtherComponent components listed name
    · intro isNative
      obtain ⟨found, record, -, sameField, recorded, -⟩ := checked.components name isNative
      obtain rfl := Option.some.inj (listed.symm.trans sameField)
      exact Option.isSome_iff_exists.mpr ⟨record, recorded⟩
    · intro name isNative data inEntries record recorded
      refine ⟨unread.componentSizes components listed name isNative data inEntries record recorded,
        ?_⟩
      obtain ⟨found, checkedRecord, checkedData, sameField, sameRecord, sameData, hash⟩ :=
        checked.components name isNative
      obtain rfl := Option.some.inj (listed.symm.trans sameField)
      obtain rfl := Option.some.inj (sameRecord.symm.trans recorded)
      obtain rfl := Option.some.inj (sameData.symm.trans inEntries)
      exact hash

end Checked

/-- When the manifest of an accepted AAR is the true one. -/
theorem accepted_manifest_true_iff (py : StandardLibrary) (contract : Contract)
    (contractBytes : Bytes) (output : Output)
    (verified : verifyMain py contract contractBytes output = .ok ()) :
    ∃ manifest entries infos, readJson py output.manifest = .ok manifest ∧
      archiveEntries py output.aar = .ok (entries, infos) ∧
      (TrueManifest py contract contractBytes output.aar entries manifest ↔
        UnreadTrue py contract output.aar entries manifest) := by
  obtain ⟨manifest, entries, infos, loaded, opened, checked⟩ := manifestChecked_of_ok verified
  exact ⟨manifest, entries, infos, loaded, opened, checked.true_iff⟩

/-! ### A manifest of another base version -/

theorem Described.set_base {py : StandardLibrary} {contract : Contract} {contractBytes aar : Bytes}
    {inputs : Inputs} {entries : Dict String Bytes} {manifest : Dict String Json}
    (described : Described py contract contractBytes aar inputs entries manifest)
    (version : Document) :
    Described py contract contractBytes aar inputs entries
      (manifest.set "baseLiteRtVersion" version) := by
  have kept {key : String} (other : key ≠ "baseLiteRtVersion") :
      (manifest.set "baseLiteRtVersion" version).get? key = manifest.get? key := by
    rw [Dict.get?_set, if_neg other]
  obtain ⟨wellFormed, coordinate, contractHash, aarHash, capability, outputHash, components⟩ :=
    described
  exact ⟨wellFormed.set version.property, (kept (by decide)).trans coordinate,
    (kept (by decide)).trans contractHash, by rwa [kept (by decide)],
    (kept (by decide)).trans capability, by rwa [kept (by decide)],
    (kept (by decide)).trans components⟩

/-- An accepted AAR of two ABIs whose manifest names another LiteRT version. -/
theorem sample_stale_base :
    ∃ (output : Output) (manifest : Json),
      verifyMain concreteLibrary sampleContract sampleContractBytes output = .ok () ∧
        readJson concreteLibrary output.manifest = .ok manifest ∧
        manifest.field? "baseLiteRtVersion" = some (.str "2.1.5") := by
  obtain ⟨implementationJar, implementation⟩ :=
    holds_exists (sample_canonical interpreterClass (by simp))
  obtain ⟨apiJar, api⟩ := holds_exists (sample_canonical apiClasses (by simp))
  obtain ⟨x86Supplement, supplement⟩ := holds_exists (sample_canonical x86Libraries (by simp))
  obtain ⟨implementationAar, implementationRead⟩ := holds_exists (jarOnly_canonical implementationJar)
  obtain ⟨apiAar, apiRead⟩ := holds_exists (jarOnly_canonical apiJar)
  obtain ⟨entries, assembles, names⟩ :=
    sample_assembled sampleContractBytes implementationRead apiRead implementation api supplement
  obtain ⟨aar, archive⟩ := archiveBytes_of_normal concreteLibrary fun name member =>
    packagerNames_normal name ((names name).mp member)
  have complete : "classes.jar" ∈ entries := (names _).mpr (by simp [packagerNames])
  obtain ⟨jar, jarFound⟩ := Dict.mem_iff_get?.mp complete
  obtain ⟨manifest, describes⟩ := @sample_manifest implementationAar apiAar x86Supplement _
    complete sampleContractBytes aar
  have stale := (described_of_ok describes).set_base ⟨.str "2.1.5", trivial⟩
  have preconditions := @sample_preconditions _ _ x86Supplement _ _ implementationRead apiRead
    implementation api
  exact ⟨_, _, verifyMain_of_described preconditions assembles archive jarFound stale,
    readJson_jsonBytes concreteLibrary stale.wellFormed,
    field?_loaded stale.wellFormed (Dict.get?_set_self _ _ _)⟩

theorem stale_base_accepted :
    ∃ (output : Output) (manifest : Json),
      verifyMain concreteLibrary sampleContract sampleContractBytes output = .ok () ∧
        readJson concreteLibrary output.manifest = .ok manifest ∧
        ∀ aar entries,
          ¬ TrueManifest concreteLibrary sampleContract sampleContractBytes aar entries manifest := by
  obtain ⟨output, manifest, verified, loaded, stale⟩ := sample_stale_base
  refine ⟨output, manifest, verified, loaded, ?_⟩
  intro aar entries isTrue
  obtain ⟨found, listed, same⟩ := isTrue.baseLiteRtVersion
  rw [← Option.some.inj (stale.symm.trans listed)] at same
  exact absurd (Json.str.inj (Json.str_pyEq_iff.mp same)) (by decide)

theorem accepted_manifest_true_iff_stale :
    ∃ (output : Output) (manifest : Json) (entries : Dict String Bytes) (infos : List ZipEntry),
      readJson concreteLibrary output.manifest = .ok manifest ∧
        archiveEntries concreteLibrary output.aar = .ok (entries, infos) ∧
        (TrueManifest concreteLibrary sampleContract sampleContractBytes output.aar entries manifest ↔
          UnreadTrue concreteLibrary sampleContract output.aar entries manifest) := by
  obtain ⟨output, -, verified, -⟩ := sample_stale_base
  exact ⟨output, accepted_manifest_true_iff concreteLibrary sampleContract sampleContractBytes output
    verified⟩

end BssLiteRt.BoundedAar

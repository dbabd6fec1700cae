import BssLiteRt.Complete.Assembly
import BssLiteRt.Complete.Publication

/-!
Owns the agreement of the publication pipeline with itself: when the components that
the packager records are those of its AAR, and when what is derived from the AAR is
accepted again.
-/

namespace BssLiteRt.Complete

open BssLiteRt.Library BssLiteRt.Python BssLiteRt.Archive

/-! ### Recorded components -/

section Recorded

variable {py : StandardLibrary} {inputs : Inputs} {contract : Contract} {sourceLock : Document}
  {version : String} {output : Output} {api entries : Dict String Bytes}
  {manifest : Dict String Json}

theorem get?_set_manifest {name : String} (component : isComponent name = true) :
    (entries.set BUILD_MANIFEST_ENTRY output.manifest).get? name = entries.get? name := by
  rw [Dict.get?_set, if_neg]
  rintro rfl
  exact absurd component (by decide)

/-- Without a hidden library, a component has its own name before normalisation. -/
theorem Packed.original_eq
    (packed : Packed py inputs contract sourceLock version output api entries manifest)
    (plain : contract.PlainLibraries) (noneHidden : ¬ HidesLibrary api)
    (injective : ∀ first ∈ entries.set BUILD_MANIFEST_ENTRY output.manifest,
      ∀ second ∈ entries.set BUILD_MANIFEST_ENTRY output.manifest,
        normalizeName first = normalizeName second → first = second)
    {original : String} (member : original ∈ entries.set BUILD_MANIFEST_ENTRY output.manifest)
    (component : isComponent (normalizeName original) = true) :
    normalizeName original = original := by
  rcases (packed.names original).mp member with inApi | ⟨pair, pairMember, rfl⟩ | notice
  · have kinds := component
    rw [isComponent, decide_eq_true_iff] at kinds
    rcases kinds with classes | library
    · have classesMember : "classes.jar" ∈ entries.set BUILD_MANIFEST_ENTRY output.manifest :=
        (packed.names _).mpr (.inl (readApiEntries_ok packed.apiRead).2)
      have normal : normalizeName "classes.jar" = "classes.jar" := by decide
      have same := injective original member _ classesMember (classes.trans normal.symm)
      rw [same, normal]
    · exact absurd ⟨original, inApi, library⟩ noneHidden
  · exact normalizeName_nativePath (plain pair pairMember).1 (plain pair pairMember).2
  · exact (noticeNames_apart original notice).1

/-- A hidden library is not among the entries under its own name. -/
theorem Packed.hidden_absent
    (packed : Packed py inputs contract sourceLock version output api entries manifest)
    (plain : contract.PlainLibraries)
    (injective : ∀ first ∈ entries.set BUILD_MANIFEST_ENTRY output.manifest,
      ∀ second ∈ entries.set BUILD_MANIFEST_ENTRY output.manifest,
        normalizeName first = normalizeName second → first = second)
    {name : String} (inApi : name ∈ api)
    (underJni : startsWith (normalizeName name) "jni/" = true)
    (component : isComponent (normalizeName name) = true) :
    entries.get? (normalizeName name) = none := by
  cases recorded : entries.get? (normalizeName name) with
  | none => rfl
  | some other =>
      -- The recorded entry and the hidden one are the same, but only one begins with jni/.
      have member : normalizeName name ∈ entries.set BUILD_MANIFEST_ENTRY output.manifest :=
        Dict.mem_iff_get?.mpr ⟨other, (get?_set_manifest component).trans recorded⟩
      obtain ⟨normal, -⟩ := packed.recorded plain member (isRecorded_of_isComponent component)
      have sameName := injective name ((packed.names name).mpr (.inl inApi)) _ member normal.symm
      have notNative := ((readApiEntries_ok packed.apiRead).1 name inApi).1
      rw [← sameName, notNative] at underJni
      exact absurd underJni Bool.false_ne_true

/-- Without a hidden library, a component of the AAR is the entry of its name. -/
theorem Packed.component_lookup
    (packed : Packed py inputs contract sourceLock version output api entries manifest)
    (plain : contract.PlainLibraries) (noneHidden : ¬ HidesLibrary api)
    (injective : ∀ first ∈ entries.set BUILD_MANIFEST_ENTRY output.manifest,
      ∀ second ∈ entries.set BUILD_MANIFEST_ENTRY output.manifest,
        normalizeName first = normalizeName second → first = second)
    {name : String} (component : isComponent name = true) (data : Bytes) :
    (∃ original, (entries.set BUILD_MANIFEST_ENTRY output.manifest).get? original = some data ∧
        normalizeName original = name) ↔
      entries.get? name = some data := by
  rw [← @get?_set_manifest output entries name component]
  constructor
  · rintro ⟨original, held, rfl⟩
    have member := Dict.mem_iff_get?.mpr ⟨data, held⟩
    rwa [packed.original_eq plain noneHidden injective member component]
  · intro held
    have member := Dict.mem_iff_get?.mpr ⟨data, held⟩
    exact ⟨name, held, (packed.recorded plain member (isRecorded_of_isComponent component)).1⟩

/-- Every entry with a recorded name is a component. -/
theorem Packed.recordedComponents_of_not_component
    (packed : Packed py inputs contract sourceLock version output api entries manifest)
    (plain : contract.PlainLibraries) {name : String} (notComponent : isComponent name = false) :
    (recordedComponents py entries).get? name = none := by
  rw [get?_recordedComponents]
  cases recordedName : isRecorded name with
  | false => rfl
  | true =>
      cases held : entries.get? name with
      | none => rfl
      | some data =>
          have member : name ∈ entries.set BUILD_MANIFEST_ENTRY output.manifest :=
            Dict.mem_set_iff.mpr (.inr (Dict.mem_iff_get?.mpr ⟨data, held⟩))
          rw [(packed.recorded plain member recordedName).2] at notComponent
          contradiction

/-- The components that the packager records are those of its AAR exactly when no API
entry hides a library. -/
theorem Packed.components_iff
    (packed : Packed py inputs contract sourceLock version output api entries manifest)
    (plain : contract.PlainLibraries) :
    ∃ components : Dict String Json,
      (∀ message, readComponents py message output.aar = .ok components) ∧
        "classes.jar" ∈ components ∧
        ((Json.ofDict (recordedComponents py entries)).pyEq (.ofDict components) = true ↔
          ¬ HidesLibrary api) := by
  obtain ⟨items, canonical, written, lookups, injective⟩ := packed.canonical plain
  obtain ⟨components, listed, found⟩ := @readComponents_write py _ canonical
  have stored (name : String) (inApi : name ∈ api) :
      ∃ data, canonical.dict.get? (normalizeName name) = some data := by
    obtain ⟨data, held⟩ := Dict.mem_iff_get?.mp ((packed.names name).mpr (.inl inApi))
    exact ⟨data, (lookups _ _).mpr ⟨name, held, rfl⟩⟩
  refine ⟨components, by rwa [written], ?_, ?_⟩
  · obtain ⟨data, held⟩ := stored "classes.jar" (readApiEntries_ok packed.apiRead).2
    rw [show normalizeName "classes.jar" = "classes.jar" by decide] at held
    rw [Dict.mem_iff_get?, found, if_pos (by decide), held]
    exact ⟨_, rfl⟩
  · rw [Json.pyEq_ofDict_iff]
    constructor
    · rintro same ⟨name, inApi, underJni, shared⟩
      have component : isComponent (normalizeName name) = true := by
        rw [isComponent, decide_eq_true_iff]
        exact .inr ⟨underJni, shared⟩
      obtain ⟨data, held⟩ := stored name inApi
      have atName := same (normalizeName name)
      rw [get?_recordedComponents, found, if_pos component, held,
        if_pos (isRecorded_of_isComponent component),
        packed.hidden_absent plain injective inApi underJni component] at atName
      contradiction
    · intro noneHidden name
      cases component : isComponent name with
      | true =>
          have same : canonical.dict.get? name = entries.get? name := by
            apply Option.ext
            intro data
            rw [lookups]
            exact packed.component_lookup plain noneHidden injective component data
          rw [get?_recordedComponents, found, if_pos (isRecorded_of_isComponent component),
            if_pos component, same]
      | false =>
          rw [packed.recordedComponents_of_not_component plain component, found, component]
          rfl

/-- Without a hidden library, the AAR has exactly the native matrix of the contract. -/
theorem Packed.verifyNativeMatrix_ok
    (packed : Packed py inputs contract sourceLock version output api entries manifest)
    (plain : contract.PlainLibraries) (noneHidden : ¬ HidesLibrary api) :
    verifyNativeMatrix py output.aar contract false = .ok () := by
  obtain ⟨items, canonical, written, lookups, injective⟩ := packed.canonical plain
  have matrix : sameNames
      ((filenames (items.map archived)).filter fun name =>
        startsWith name "jni/" && endsWith name ".so")
      ((nativePairs contract).map fun pair => nativePath pair.1 pair.2) = true := by
    rw [sameNames_iff]
    intro name
    rw [List.mem_filter, Bool.and_eq_true, canonical.filenames_archived]
    constructor
    · rintro ⟨listed, underJni, shared⟩
      have inDict : name ∈ canonical.dict := listed
      obtain ⟨data, held⟩ := Dict.mem_iff_get?.mp inDict
      obtain ⟨original, heldBefore, rfl⟩ := (lookups _ _).mp held
      have component : isComponent (normalizeName original) = true := by
        rw [isComponent, decide_eq_true_iff]
        exact .inr ⟨underJni, shared⟩
      have member : original ∈ entries.set BUILD_MANIFEST_ENTRY output.manifest :=
        Dict.mem_iff_get?.mpr ⟨data, heldBefore⟩
      have same := packed.original_eq plain noneHidden injective member component
      rw [same] at component underJni ⊢
      rcases (packed.names original).mp member with inApi | native | notice
      · rw [((readApiEntries_ok packed.apiRead).1 original inApi).1] at underJni
        exact absurd underJni Bool.false_ne_true
      · exact List.mem_map.mpr native
      · rw [(noticeNames_apart original notice).2.2.1] at component
        exact absurd component Bool.false_ne_true
    · intro listed
      obtain ⟨pair, pairMember, rfl⟩ := List.mem_map.mp listed
      have native : contract.IsNative (nativePath pair.1 pair.2) := ⟨pair, pairMember, rfl⟩
      obtain ⟨data, held⟩ := Dict.mem_iff_get?.mp ((packed.names _).mpr (.inr (.inl native)))
      have normal := normalizeName_nativePath (plain pair pairMember).1 (plain pair pairMember).2
      refine ⟨?_, nativePath_native _ _, packed.shared _ native⟩
      exact Dict.mem_iff_get?.mpr ⟨data, (lookups _ _).mpr ⟨_, held, normal⟩⟩
  rw [verifyNativeMatrix, written, py.zipfile.read_write, ok_bind, if_neg Bool.false_ne_true, matrix]
  rfl

end Recorded

/-! ### Consistency -/

/-- A lock, or a manifest that carries it, names the commit of LiteRT. -/
def NamesCommit (lock : Json) : Prop :=
  ∃ liteRt commit, lock.field? "liteRt" = some liteRt ∧ liteRt.field? "commit" = some commit

/-- The documents are derived from an AAR and accepted again. -/
structure Consistent (py : StandardLibrary) (contract : Contract) (sourceLock : Document)
    (version : String) (source : Json) (aar : Bytes) (apiOnly : Bool) : Prop where
  moduleMetadata : verifyModule py
    (jsonBytes (gradleModuleMetadata py contract.group contract.name version aar)) contract.group
    contract.name version aar = .ok ()
  nativeMatrix : verifyNativeMatrix py aar contract apiOnly = .ok ()
  documents : ∃ manifest loaded sbom,
    publicationBuildManifest py source contract version aar apiOnly = .ok manifest ∧
    verifyBuildManifest py (jsonBytes (.ofDict manifest)) aar contract contract.group contract.name
      version sourceLock apiOnly = .ok loaded ∧
    cyclonedxSbom py contract.group contract.name version aar (.ofDict manifest) = .ok sbom ∧
    verifySbom py (jsonBytes sbom) aar loaded = .ok ()

/-- The packaged AAR has the components that its manifest records, and what is derived
from it is accepted. -/
def CompleteConsistent (py : StandardLibrary) (contract : Contract) (sourceLock : Document)
    (version : String) (source : Json) (aar : Bytes) : Prop :=
  (∃ recorded components, source.field? "components" = some recorded ∧
      archiveComponents py aar = .ok components ∧ recorded.pyEq (.ofDict components) = true) ∧
    Consistent py contract sourceLock version source aar false

section Consistent

variable {py : StandardLibrary} {contract : Contract} {sourceLock : Document} {version : String}
  {source : Json} {aar : Bytes} {apiOnly : Bool} {components : Dict String Json}

theorem records_of_readComponents {message : String}
    (returned : readComponents py message aar = .ok components) :
    ∀ name record, components.get? name = some record → ∃ data, record = componentRecord py data := by
  unfold readComponents at returned
  simp only [bind_eq_ok, raiseIf_eq_ok, exists_unit] at returned
  obtain ⟨stored, -, -, recorded⟩ := returned
  exact records_of_recordComponents recorded fun _ _ absent =>
    absurd absent (Option.some_ne_none _).symm

theorem wellFormed_components {message : String}
    (returned : readComponents py message aar = .ok components) :
    (Json.ofDict components).WellFormed := by
  rw [Json.wellFormed_ofDict_iff_get?]
  intro name record found
  obtain ⟨data, rfl⟩ := records_of_readComponents returned name record found
  simp [componentRecord, Json.wellFormed_obj]

/-- What carries the lock names a commit when the lock does. -/
theorem CarriesLock.namesCommit_iff (carries : CarriesLock source sourceLock) :
    NamesCommit source ↔ NamesCommit sourceLock.val := by
  obtain ⟨locked, hasLocked, liteRt, hasLiteRt, same⟩ := carries "liteRt" (by simp)
  have commits := Json.field?_of_pyEq_wellFormed (sourceLock.property.field? hasLocked) same "commit"
  constructor
  · rintro ⟨found, commit, stored, named⟩
    obtain rfl := Option.some.inj (hasLiteRt.symm.trans stored)
    rw [named, Option.map_some, eq_comm, Option.map_eq_some_iff] at commits
    obtain ⟨lockedCommit, lockedNamed, -⟩ := commits
    exact ⟨locked, lockedCommit, hasLocked, lockedNamed⟩
  · rintro ⟨found, commit, stored, named⟩
    obtain rfl := Option.some.inj (hasLocked.symm.trans stored)
    rw [named, Option.map_some, Option.map_eq_some_iff] at commits
    obtain ⟨sourceCommit, sourceNamed, -⟩ := commits
    exact ⟨liteRt, sourceCommit, hasLiteRt, sourceNamed⟩

/-- A bill of materials that is derived names the commit of its manifest. -/
theorem namesCommit_of_sbom {manifest : Dict String Json} {sbom : Json}
    (described : publicationBuildManifest py source contract version aar apiOnly = .ok manifest)
    (derived : cyclonedxSbom py contract.group contract.name version aar (.ofDict manifest) =
      .ok sbom) : NamesCommit source := by
  obtain ⟨_, -, -, published⟩ := published_of_ok described
  obtain ⟨liteRt, hasLiteRt, stored⟩ := published.liteRt
  unfold cyclonedxSbom at derived
  simp only [bind_eq_ok, getItem_ok_iff, Json.field?_ofDict] at derived
  obtain ⟨-, -, -, -, found, inManifest, commit, hasCommit, -⟩ := derived
  obtain rfl := Option.some.inj (stored.symm.trans inManifest)
  exact ⟨liteRt, commit, hasLiteRt, hasCommit⟩

/-- A bill of materials can be derived from a build manifest that names the commit. -/
theorem cyclonedxSbom_completes {manifest : Dict String Json}
    (described : publicationBuildManifest py source contract version aar apiOnly = .ok manifest)
    (commit : NamesCommit source) :
    ∃ sbom, cyclonedxSbom py contract.group contract.name version aar (.ofDict manifest) =
      .ok sbom := by
  obtain ⟨components, listed, -, published⟩ := published_of_ok described
  obtain ⟨liteRt, hash, hasLiteRt, hasCommit⟩ := commit
  obtain ⟨liteRt', hasLiteRt', stored⟩ := published.liteRt
  obtain rfl := Option.some.inj (hasLiteRt.symm.trans hasLiteRt')
  have records := records_of_readComponents (listed "")
  obtain ⟨entries, sorted⟩ := @exists_entries py (sortByKey components.items) fun item member =>
    records item.1 item.2 (Dict.get?_eq_some_iff.mpr (mem_sortByKey.mp member))
  have hasComponents : getItem (.ofDict manifest) "components" = .ok (.ofDict components) :=
    getItem_ok_iff.mpr (by rw [Json.field?_ofDict, published.recorded])
  have hasSource : getItem (.ofDict manifest) "liteRt" = .ok liteRt :=
    getItem_ok_iff.mpr (by rw [Json.field?_ofDict, stored])
  unfold cyclonedxSbom
  rw [hasComponents, ok_bind, Json.ofDict, itemsOf, ok_bind, hasSource, ok_bind,
    getItem_ok_iff.mpr hasCommit, ok_bind, sorted, sbomComponents_entries]
  exact ⟨_, rfl⟩

/-- With accepted components and a source that carries the lock, only the coordinate
and the commit of the lock decide. -/
theorem consistent_iff (namePlain : PurePosixPath.IsPlainComponent contract.name)
    (versionPlain : PurePosixPath.IsPlainComponent version) (sourceWellFormed : source.WellFormed)
    (carries : CarriesLock source sourceLock)
    (listed : ∀ message, readComponents py message aar = .ok components)
    (complete : "classes.jar" ∈ components)
    (accepted : checkComponents source components apiOnly = .ok ())
    (matrix : verifyNativeMatrix py aar contract apiOnly = .ok ()) :
    Consistent py contract sourceLock version source aar apiOnly ↔
      MarkerFree contract.group contract.name version ∧ NamesCommit sourceLock.val := by
  constructor
  · intro consistent
    obtain ⟨manifest, loaded, sbom, described, -, derived, -⟩ := consistent.documents
    exact ⟨(verifyModule_generated_iff namePlain versionPlain).mp consistent.moduleMetadata,
      carries.namesCommit_iff.mp (namesCommit_of_sbom described derived)⟩
  · rintro ⟨free, commit⟩
    refine ⟨(verifyModule_generated_iff namePlain versionPlain).mpr free, matrix, ?_⟩
    obtain ⟨-, -, liteRt, hasLiteRt, -⟩ := carries "liteRt" (by simp)
    obtain ⟨-, -, patchSeries, hasPatches, -⟩ := carries "patchSeries" (by simp)
    let manifest : Dict String Json := {
      items := [("schemaVersion", .int 1),
        ("artifact", artifactJson contract contract.group contract.name version),
        ("liteRt", liteRt), ("patchSeries", patchSeries), ("components", .ofDict components),
        ("publicationFixture", .str (fixtureName apiOnly))]
      unique := by simp }
    have made : publicationBuildManifest py source contract version aar apiOnly = .ok manifest :=
      publicationBuildManifest_ok_iff.mpr ⟨components, liteRt, patchSeries, listed, complete,
        accepted, hasLiteRt, hasPatches, rfl⟩
    obtain ⟨found, relisted, -, published⟩ := published_of_ok made
    obtain rfl := Except.ok.inj ((listed "").symm.trans (relisted ""))
    have wellFormed := published.wellFormed sourceWellFormed (wellFormed_components (listed ""))
    obtain ⟨sbom, derived⟩ :=
      cyclonedxSbom_completes made (carries.namesCommit_iff.mpr commit)
    exact ⟨manifest, _, sbom, made,
      verifyBuildManifest_published published wellFormed listed carries, derived,
      verifySbom_derived published wellFormed (records_of_readComponents (listed "")) derived⟩

theorem wellFormed_recordedComponents (entries : Dict String Bytes) :
    (Json.ofDict (recordedComponents py entries)).WellFormed := by
  rw [Json.wellFormed_ofDict_iff_get?]
  intro name record found
  rw [get?_recordedComponents] at found
  split at found
  · obtain ⟨data, -, rfl⟩ := Option.map_eq_some_iff.mp found
    simp [componentRecord, Json.wellFormed_obj]
  · cases found

/-- The manifest of the packager carries the lock and records the components. -/
theorem Packed.manifest_fields {inputs : Inputs} {output : Output} {api entries : Dict String Bytes}
    {manifest : Dict String Json}
    (packed : Packed py inputs contract sourceLock version output api entries manifest) :
    (Json.ofDict manifest).WellFormed ∧
      readJson py output.manifest = .ok (Json.ofDict manifest).sortKeys ∧
      CarriesLock (Json.ofDict manifest).sortKeys sourceLock ∧
      (Json.ofDict manifest).sortKeys.field? "components" =
        some (Json.ofDict (recordedComponents py entries)).sortKeys := by
  have described := packed.described
  unfold buildManifest at described
  simp only [bind_eq_ok, getItem_ok_iff] at described
  obtain ⟨liteRt, hasLiteRt, patchSeries, hasPatches, result⟩ := described
  have manifestBytes := packed.manifestBytes
  obtain rfl := Except.ok.inj result
  have lockWellFormed := sourceLock.property
  have wellFormed : (Json.ofDict ⟨[("schemaVersion", .int 1),
      ("artifact", artifactJson contract contract.group contract.name version),
      ("liteRt", liteRt), ("patchSeries", patchSeries),
      ("components", .ofDict (recordedComponents py entries))], by simp⟩).WellFormed := by
    rw [Json.wellFormed_ofDict]
    simp only [List.forall_mem_cons]
    exact ⟨trivial, wellFormed_artifactJson _ _ _ _, lockWellFormed.field? hasLiteRt,
      lockWellFormed.field? hasPatches, wellFormed_recordedComponents _,
      fun _ absent => absurd absent List.not_mem_nil⟩
  refine ⟨wellFormed, ?_, ?_, field?_loaded wellFormed rfl⟩
  · rw [manifestBytes, readJson_jsonBytes py wellFormed]
  · refine List.forall_mem_cons.mpr ⟨⟨liteRt, hasLiteRt, ?_⟩,
      List.forall_mem_singleton.mpr ⟨patchSeries, hasPatches, ?_⟩⟩
    · exact ⟨_, field?_loaded wellFormed rfl, Json.pyEq_sortKeys _⟩
    · exact ⟨_, field?_loaded wellFormed rfl, Json.pyEq_sortKeys _⟩

/-- Everything that a build manifest records is a component. -/
theorem sourceComponents_recorded {entries : Dict String Bytes}
    (recorded : source.field? "components" =
      some (Json.ofDict (recordedComponents py entries)).sortKeys) :
    sourceComponents source = .ok (Json.ofDict (recordedComponents py entries)).sortKeys := by
  have allRecorded : ∀ item ∈ (sortByKey (recordedComponents py entries).items).map
      fun field => (field.1, field.2.sortKeys), isRecorded item.1 = true := by
    intro item member
    obtain ⟨field, fieldMember, rfl⟩ := List.mem_map.mp member
    have found := Dict.get?_eq_some_iff.mpr (mem_sortByKey.mp fieldMember)
    rw [get?_recordedComponents] at found
    split at found
    · assumption
    · cases found
  rw [sourceComponents, getD_of_field? recorded, ok_bind, Json.ofDict, Json.sortKeys_obj, itemsOf,
    ok_bind, List.filter_eq_self.mpr allRecorded]
  rfl

/-- Recorded components pass the comparison with those of the AAR when they are equal. -/
theorem checkComponents_complete {entries : Dict String Bytes}
    (recorded : source.field? "components" =
      some (Json.ofDict (recordedComponents py entries)).sortKeys)
    (same : (Json.ofDict (recordedComponents py entries)).pyEq (.ofDict components) = true) :
    checkComponents source components false = .ok () := by
  have kept := sourceComponents_recorded recorded
  have equal : (Json.ofDict (recordedComponents py entries)).sortKeys.pyEq (.ofDict components) =
      true := by
    rw [Json.pyEq_iff] at same ⊢
    rw [Json.normal_sortKeys, same]
  rw [checkComponents, if_neg Bool.false_ne_true, kept, ok_bind, equal]
  rfl

theorem archiveComponents_ok (listed : ∀ message, readComponents py message aar = .ok components)
    (complete : "classes.jar" ∈ components) : archiveComponents py aar = .ok components := by
  rw [archiveComponents, listed, ok_bind, decide_eq_false (not_not.mpr complete)]
  rfl

theorem Packed.consistent_iff {inputs : Inputs} {output : Output} {api entries : Dict String Bytes}
    {manifest : Dict String Json}
    (packed : Packed py inputs contract sourceLock version output api entries manifest)
    (plain : contract.PlainLibraries) (namePlain : PurePosixPath.IsPlainComponent contract.name)
    (versionPlain : PurePosixPath.IsPlainComponent version) :
    CompleteConsistent py contract sourceLock version (Json.ofDict manifest).sortKeys output.aar ↔
      ¬ HidesLibrary api ∧ MarkerFree contract.group contract.name version ∧
        NamesCommit sourceLock.val := by
  obtain ⟨wellFormed, -, carries, recorded⟩ := packed.manifest_fields
  obtain ⟨components, listed, complete, same_iff⟩ := packed.components_iff plain
  have decided (noneHidden : ¬ HidesLibrary api) :=
    Complete.consistent_iff namePlain versionPlain wellFormed.sortKeys carries listed complete
      (checkComponents_complete recorded (same_iff.mpr noneHidden))
      (packed.verifyNativeMatrix_ok plain noneHidden)
  constructor
  · rintro ⟨⟨found, archived, stored, read, same⟩, consistent⟩
    obtain rfl := Option.some.inj (recorded.symm.trans stored)
    obtain rfl := Except.ok.inj ((archiveComponents_ok listed complete).symm.trans read)
    rw [Json.pyEq_iff, Json.normal_sortKeys, ← Json.pyEq_iff] at same
    have noneHidden := same_iff.mp same
    exact ⟨noneHidden, (decided noneHidden).mp consistent⟩
  · rintro ⟨noneHidden, later⟩
    refine ⟨⟨_, components, recorded, archiveComponents_ok listed complete, ?_⟩,
      (decided noneHidden).mpr later⟩
    rw [Json.pyEq_iff, Json.normal_sortKeys, ← Json.pyEq_iff]
    exact same_iff.mpr noneHidden

/-- An AAR with unique entries, `classes.jar` among them, and no native library. -/
structure ApiOnlyAar (py : StandardLibrary) (aar : Bytes) (stored : List ZipEntry) : Prop where
  read : py.zipfile.read aar = .ok stored
  unique : (filenames stored).Nodup
  complete : "classes.jar" ∈ filenames stored
  pure : ∀ name ∈ filenames stored, ¬ (startsWith name "jni/" = true ∧ endsWith name ".so" = true)

theorem ApiOnlyAar.consistent_iff {stored : List ZipEntry} (apiAar : ApiOnlyAar py aar stored)
    (namePlain : PurePosixPath.IsPlainComponent contract.name)
    (versionPlain : PurePosixPath.IsPlainComponent version) (sourceWellFormed : source.WellFormed)
    (carries : CarriesLock source sourceLock) :
    Consistent py contract sourceLock version source aar true ↔
      MarkerFree contract.group contract.name version ∧ NamesCommit sourceLock.val := by
  have fileNames : ∀ name ∈ filenames (stored.filter fun entry => !entry.info.isDir),
      name ∈ filenames stored := by
    intro name member
    obtain ⟨entry, kept, rfl⟩ := List.mem_map.mp member
    exact List.mem_map_of_mem (List.mem_of_mem_filter kept)
  have fileUnique : (filenames (stored.filter fun entry => !entry.info.isDir)).Nodup :=
    apiAar.unique.sublist (List.filter_sublist.map _)
  obtain ⟨components, listed, found⟩ := readComponents_ok apiAar.read fileUnique
  have complete : "classes.jar" ∈ components := by
    obtain ⟨entry, member, named⟩ := List.mem_map.mp apiAar.complete
    have isFile : (!entry.info.isDir) = true := by
      rw [ZipInfo.isDir, named]
      decide
    have listedFile : "classes.jar" ∈ filenames (stored.filter fun entry => !entry.info.isDir) :=
      List.mem_map.mpr ⟨entry, List.mem_filter.mpr ⟨member, isFile⟩, named⟩
    obtain ⟨data, held⟩ := Dict.mem_iff_get?.mp (mem_entryDict_iff.mpr apiAar.complete)
    rw [Dict.mem_iff_get?, found, if_pos ⟨listedFile, by decide⟩, recordOf, held]
    exact ⟨_, rfl⟩
  have accepted : checkComponents source components true = .ok () := by
    have noneNative : (components.keys.any fun name => startsWith name "jni/") = false := by
      rw [List.any_eq_false]
      intro name member underJni
      obtain ⟨record, recorded⟩ := Dict.mem_iff_get?.mp member
      rw [found] at recorded
      split at recorded
      · rename_i kept
        have kinds := kept.2
        rw [isComponent, decide_eq_true_iff] at kinds
        rcases kinds with rfl | library
        · exact absurd underJni (by decide)
        · exact apiAar.pure name (fileNames name kept.1) library
      · cases recorded
    rw [checkComponents, if_pos rfl, noneNative]
    rfl
  have matrix : verifyNativeMatrix py aar contract true = .ok () := by
    have none : (filenames stored).filter (fun name =>
        startsWith name "jni/" && endsWith name ".so") = [] := by
      rw [List.filter_eq_nil_iff]
      intro name member both
      exact apiAar.pure name member ((Bool.and_eq_true _ _).mp both)
    rw [verifyNativeMatrix, apiAar.read, ok_bind, if_pos rfl, none]
    rfl
  exact Complete.consistent_iff namePlain versionPlain sourceWellFormed carries listed complete
    accepted matrix

end Consistent

/-! ### Concrete packages -/

def sampleContract : Contract where
  group := "org.example"
  name := "runtime"
  minSdk := ⟨.int 23, trivial⟩
  jvmTarget := ⟨.str "17", trivial⟩
  nativeLibraries := ⟨[("libLiteRt.so", ["arm64-v8a"])], List.nodup_singleton _⟩

def sampleLock : Document where
  val := .obj [("liteRt", .obj [("commit", .str "0f")]), ("patchSeries", .arr [])]
  property := by simp [Json.wellFormed_obj, Json.wellFormed_arr]

def sampleNativeDir : Dict String Bytes :=
  ⟨[("arm64-v8a/libLiteRt.so", [3])], List.nodup_singleton _⟩

def sampleNative : Dict String Bytes :=
  ⟨[("jni/arm64-v8a/libLiteRt.so", [3])], List.nodup_singleton _⟩

theorem sample_readNativeEntries :
    readNativeEntries sampleNativeDir (expectedNativeEntries sampleContract) = .ok sampleNative := by
  decide

def sampleInputs (apiItems : List (String × Bytes)) : Inputs where
  apiAar := concreteLibrary.zipfile.write (apiItems.map archived)
  nativeDir := sampleNativeDir
  consumerRules := []
  license := []
  thirdPartyLicenses := []
  notices := []

def pureItems : List (String × Bytes) :=
  [("AndroidManifest.xml", []), ("classes.jar", [1])]

/-- An entry whose name ends in a dot component. -/
def hidingItems : List (String × Bytes) :=
  pureItems ++ [("./jni/arm64-v8a/extra.so/.", [2])]

theorem sample_readApiEntries {apiItems : List (String × Bytes)} {api : Dict String Bytes}
    (kept : keepApiEntries (apiItems.map archived) Dict.empty = .ok api)
    (required : ∀ name ∈ ["AndroidManifest.xml", "classes.jar"], name ∈ api) :
    readApiEntries concreteLibrary (sampleInputs apiItems).apiAar = .ok api := by
  rw [readApiEntries, sampleInputs, concreteLibrary.zipfile.read_write, ok_bind, kept, ok_bind,
    requireApiEntries_ok_iff.mpr required]
  rfl

theorem archiveBytes_of_keys {entries : Dict String Bytes} {names : List String}
    (keys : entries.keys = names) (accepted : ∀ name ∈ names, rejectsName name = false)
    (unique : (names.map normalizeName).Nodup) :
    ∃ data, archiveBytes concreteLibrary entries = .ok data := by
  subst keys
  refine ⟨_, archiveBytes_ok_iff.mpr ⟨fun item member => accepted _ (List.mem_map_of_mem member),
    ?_, rfl⟩⟩
  rw [List.map_map]
  rwa [Dict.keys, List.map_map] at unique

def sampleNames (apiItems : List (String × Bytes)) : List String :=
  apiItems.map Prod.fst ++ ["jni/arm64-v8a/libLiteRt.so", "consumer-rules.pro",
    "META-INF/LICENSE-LiteRT.txt", "META-INF/THIRD_PARTY_LICENSES.txt",
    "META-INF/THIRD_PARTY_NOTICES.md", BUILD_MANIFEST_ENTRY]

theorem sample_packs {apiItems : List (String × Bytes)} {api : Dict String Bytes}
    (read : readApiEntries concreteLibrary (sampleInputs apiItems).apiAar = .ok api)
    (keys : ∀ manifestBytes, ((addNotices (sampleInputs apiItems) (api.update sampleNative)).set
      BUILD_MANIFEST_ENTRY manifestBytes).keys = sampleNames apiItems)
    (accepted : ∀ name ∈ sampleNames apiItems, rejectsName name = false)
    (unique : ((sampleNames apiItems).map normalizeName).Nodup) :
    ∃ output, packageMain concreteLibrary (sampleInputs apiItems) sampleContract sampleLock "1.0" =
      .ok output := by
  obtain ⟨manifest, described⟩ : ∃ manifest, buildManifest concreteLibrary "1.0" sampleContract
      sampleLock (addNotices (sampleInputs apiItems) (api.update sampleNative)) = .ok manifest :=
    ⟨_, rfl⟩
  obtain ⟨aar, written⟩ := archiveBytes_of_keys (keys (jsonBytes (.ofDict manifest))) accepted unique
  unfold packageMain
  rw [read, ok_bind, show (sampleInputs apiItems).nativeDir = sampleNativeDir from rfl,
    sample_readNativeEntries, ok_bind]
  dsimp only
  rw [described, ok_bind, written]
  exact ⟨_, rfl⟩

def pureApi : Dict String Bytes :=
  ⟨pureItems, by decide⟩

def hidingApi : Dict String Bytes :=
  ⟨hidingItems, by decide⟩

theorem sample_plain : sampleContract.PlainLibraries := by
  unfold Contract.PlainLibraries
  decide

theorem pure_read : readApiEntries concreteLibrary (sampleInputs pureItems).apiAar = .ok pureApi :=
  sample_readApiEntries (by decide) (by decide)

theorem pure_packs : ∃ output, packageMain concreteLibrary (sampleInputs pureItems) sampleContract
    sampleLock "1.0" = .ok output :=
  sample_packs pure_read (fun _ => rfl) (by decide) (by decide)

theorem hiding_read :
    readApiEntries concreteLibrary (sampleInputs hidingItems).apiAar = .ok hidingApi :=
  sample_readApiEntries (by decide) (by decide)

theorem hiding_packs : ∃ output, packageMain concreteLibrary (sampleInputs hidingItems)
    sampleContract sampleLock "1.0" = .ok output :=
  sample_packs hiding_read (fun _ => rfl) (by decide) (by decide)

theorem sample_carries : CarriesLock sampleLock.val sampleLock := by
  refine List.forall_mem_cons.mpr ⟨⟨_, rfl, _, rfl, Json.pyEq_refl _⟩,
    List.forall_mem_singleton.mpr ⟨_, rfl, _, rfl, Json.pyEq_refl _⟩⟩

theorem sample_commit : NamesCommit sampleLock.val :=
  ⟨_, _, rfl, rfl⟩

/-- The API entry hides a library that no manifest records. -/
theorem hiding_hides : HidesLibrary hidingApi :=
  ⟨"./jni/arm64-v8a/extra.so/.", by decide, by decide, by decide⟩

theorem pure_hides_nothing : ¬ HidesLibrary pureApi := by
  rintro ⟨name, member, hidden⟩
  have names : ∀ name ∈ pureApi.keys, ¬ (startsWith (normalizeName name) "jni/" = true ∧
      endsWith (normalizeName name) ".so" = true) := by
    decide
  exact names name member hidden

theorem sample_apiOnly {apiItems : List (String × Bytes)}
    (unique : (filenames (apiItems.map archived)).Nodup)
    (complete : "classes.jar" ∈ filenames (apiItems.map archived))
    (pure : ∀ name ∈ filenames (apiItems.map archived),
      ¬ (startsWith name "jni/" = true ∧ endsWith name ".so" = true)) :
    ApiOnlyAar concreteLibrary (sampleInputs apiItems).apiAar (apiItems.map archived) where
  read := by rw [sampleInputs]; exact concreteLibrary.zipfile.read_write _
  unique := unique
  complete := complete
  pure := pure

theorem pure_apiOnly : ApiOnlyAar concreteLibrary (sampleInputs pureItems).apiAar
    (pureItems.map archived) :=
  sample_apiOnly (by decide) (by decide) (by decide)

theorem sample_namePlain : PurePosixPath.IsPlainComponent sampleContract.name := by
  decide

theorem sample_versionPlain : PurePosixPath.IsPlainComponent "1.0" := by
  decide

/-- When the publication pipeline agrees with itself: when the coordinate forms no
marker and the lock names a commit, and in complete mode no API entry hides a library. -/
theorem publication_self_consistent_iff (py : StandardLibrary) (contract : Contract)
    (sourceLock : Document) (version : String) (plain : contract.PlainLibraries)
    (namePlain : PurePosixPath.IsPlainComponent contract.name)
    (versionPlain : PurePosixPath.IsPlainComponent version) :
    (∀ inputs output, packageMain py inputs contract sourceLock version = .ok output →
      ∃ api source, readApiEntries py inputs.apiAar = .ok api ∧
        readJson py output.manifest = .ok source ∧
        (CompleteConsistent py contract sourceLock version source output.aar ↔
          ¬ HidesLibrary api ∧ MarkerFree contract.group contract.name version ∧
            NamesCommit sourceLock.val)) ∧
      ∀ aar stored (source : Document), ApiOnlyAar py aar stored →
        CarriesLock source.val sourceLock →
        (Consistent py contract sourceLock version source.val aar true ↔
          MarkerFree contract.group contract.name version ∧ NamesCommit sourceLock.val) := by
  constructor
  · intro inputs output returned
    obtain ⟨api, entries, manifest, packed⟩ := packed_of_ok plain returned
    exact ⟨api, _, packed.apiRead, packed.manifest_fields.2.1,
      packed.consistent_iff plain namePlain versionPlain⟩
  · intro aar stored source apiAar carries
    exact apiAar.consistent_iff namePlain versionPlain source.property carries

/-- A pure API AAR gives a consistent publication, in both modes. -/
theorem publication_self_consistent_iff_pure :
    (∃ output source, packageMain concreteLibrary (sampleInputs pureItems) sampleContract sampleLock
        "1.0" = .ok output ∧
        CompleteConsistent concreteLibrary sampleContract sampleLock "1.0" source output.aar) ∧
      Consistent concreteLibrary sampleContract sampleLock "1.0" sampleLock.val
        (sampleInputs pureItems).apiAar true := by
  obtain ⟨complete, apiOnly⟩ := publication_self_consistent_iff concreteLibrary sampleContract
    sampleLock "1.0" sample_plain sample_namePlain sample_versionPlain
  have free : MarkerFree sampleContract.group sampleContract.name "1.0" := by decide
  constructor
  · obtain ⟨output, packs⟩ := pure_packs
    obtain ⟨api, source, read, -, consistent⟩ := complete _ output packs
    obtain rfl := Except.ok.inj (pure_read.symm.trans read)
    exact ⟨output, source, packs, consistent.mpr ⟨pure_hides_nothing, free, sample_commit⟩⟩
  · exact (apiOnly _ _ sampleLock pure_apiOnly sample_carries).mpr ⟨free, sample_commit⟩

/-- The packager accepts an API AAR whose publication is not consistent. -/
theorem hidden_library_inconsistent :
    MarkerFree sampleContract.group sampleContract.name "1.0" ∧ NamesCommit sampleLock.val ∧
      ∃ output source, packageMain concreteLibrary (sampleInputs hidingItems) sampleContract
          sampleLock "1.0" = .ok output ∧
        readJson concreteLibrary output.manifest = .ok source ∧
        ¬ CompleteConsistent concreteLibrary sampleContract sampleLock "1.0" source output.aar := by
  refine ⟨by decide, sample_commit, ?_⟩
  obtain ⟨output, packs⟩ := hiding_packs
  obtain ⟨api, entries, manifest, packed⟩ := packed_of_ok sample_plain packs
  obtain rfl := Except.ok.inj (hiding_read.symm.trans packed.apiRead)
  refine ⟨output, _, packs, packed.manifest_fields.2.1, fun consistent => ?_⟩
  exact ((packed.consistent_iff sample_plain sample_namePlain sample_versionPlain).mp consistent).1
    hiding_hides

end BssLiteRt.Complete

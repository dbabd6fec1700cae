import BssLiteRt.BoundedAar.Assembly

/-!
Owns the build manifest of the bounded-GPU AAR: what the packager records, and
that the verifier accepts the record it reads back.
-/

namespace BssLiteRt.BoundedAar

open BssLiteRt.Library BssLiteRt.Python BssLiteRt.Archive

/-! ### What the checks accept -/

section Accepted

variable {py : StandardLibrary} {entries : Dict String Bytes}

theorem requireItem_ok_iff {value expected : Json} {key message : String} :
    requireItem value key expected message = .ok () ↔
      ∃ found, value.field? key = some found ∧ found.pyEq expected = true := by
  unfold requireItem
  simp only [bind_eq_ok, getItem_ok_iff, raiseIf_eq_ok, Bool.not_eq_false']

/-- The manifest records the hash of an entry. -/
def RecordsEntry (py : StandardLibrary) (components : Json) (entries : Dict String Bytes)
    (name : String) : Prop :=
  ∃ component data, components.field? name = some component ∧ entries.get? name = some data ∧
    component.field? "sha256" = some (.str (py.hashlib.sha256 data))

theorem verifyComponents_ok {manifest components : Json} {names : List String}
    (listed : manifest.field? "nativeComponents" = some components)
    (recorded : ∀ name ∈ names, RecordsEntry py components entries name) :
    verifyComponents py manifest entries names = .ok () := by
  induction names with
  | nil => rfl
  | cons name rest inductionHypothesis =>
      obtain ⟨head, tail⟩ := List.forall_mem_cons.mp recorded
      obtain ⟨component, data, found, inEntries, hash⟩ := head
      have listedComponent : getD components name .null = .ok component := by
        cases components with
        | obj fields => rw [getD, found]; rfl
        | null | bool | int | str | arr => cases found
      have notNull : component ≠ .null := by
        rintro rfl
        cases hash
      have hashed : ∀ message, requireItem component "sha256" (.str (py.hashlib.sha256 data))
          message = .ok () := fun message =>
        requireItem_ok_iff.mpr ⟨_, hash, Json.pyEq_refl _⟩
      rw [verifyComponents, getItem_ok_iff.mpr listed, ok_bind, listedComponent, ok_bind,
        if_neg notNull, entryOf_ok_iff.mpr inEntries]
      show (requireItem _ _ _ _ >>= _) = _
      rw [hashed]
      exact inductionHypothesis tail

end Accepted

/-! ### The manifest -/

section Manifest

variable {py : StandardLibrary} {contract : Contract} {contractBytes aar : Bytes}
  {inputs : Inputs} {entries : Dict String Bytes} {manifest : Dict String Json}

theorem wellFormed_sourceHashes {sourceRoot : String → Option Bytes} {relatives : List String}
    {start result : Dict String Json} (wellFormed : (Json.ofDict start).WellFormed)
    (returned : sourceHashes py sourceRoot relatives start = .ok result) :
    (Json.ofDict result).WellFormed := by
  induction relatives generalizing start with
  | nil => exact Except.ok.inj returned ▸ wellFormed
  | cons relative rest inductionHypothesis =>
      unfold sourceHashes at returned
      split at returned
      · cases returned
      · exact inductionHypothesis (wellFormed.set (Json.wellFormed_str _)) returned

theorem wellFormed_componentRecord (data : Bytes) : (componentRecord py data).WellFormed := by
  rw [componentRecord, Json.wellFormed_obj]
  simp

theorem wellFormed_nativeComponents : (Json.ofDict (nativeComponents py entries)).WellFormed := by
  rw [Json.wellFormed_ofDict_iff_get?]
  intro name record found
  rw [nativeComponents, Dict.get?_mapValues, Option.map_eq_some_iff] at found
  obtain ⟨data, -, rfl⟩ := found
  exact wellFormed_componentRecord data

theorem get?_nativeComponents {name : String} {data : Bytes} (found : entries.get? name = some data)
    (native : startsWith name "jni/" = true) :
    (nativeComponents py entries).get? name = some (componentRecord py data) := by
  have kept : (entries.filter fun name _ => startsWith name "jni/").get? name = some data := by
    rw [Dict.get?_filter, found, Option.filter, if_pos native]
  rw [nativeComponents, Dict.get?_mapValues, get?_ofPairs_sortByKey, kept]
  rfl

/-- The fields of the manifest that the verifier reads. -/
structure Described (py : StandardLibrary) (contract : Contract) (contractBytes aar : Bytes)
    (inputs : Inputs) (entries : Dict String Bytes) (manifest : Dict String Json) : Prop where
  wellFormed : (Json.ofDict manifest).WellFormed
  coordinate : manifest.get? "coordinate" = some contract.coordinate
  contractSha256 : manifest.get? "contractSha256" = some (.str (py.hashlib.sha256 contractBytes))
  aarSha256 : ∃ record, manifest.get? "aar" = some record ∧
    record.field? "sha256" = some (.str (py.hashlib.sha256 aar))
  capability : manifest.get? "capability" = some contract.capability
  outputSha256 : ∃ build, manifest.get? "sourceBuild" = some build ∧
    build.field? "outputSha256" = some (.str (py.hashlib.sha256 inputs.arm64Jni))
  components : manifest.get? "nativeComponents" = some (.ofDict (nativeComponents py entries))

theorem described_of_ok
    (returned : buildManifest py contract contractBytes inputs entries aar = .ok manifest) :
    Described py contract contractBytes aar inputs entries manifest := by
  unfold buildManifest at returned
  simp only [bind_eq_ok, getItem_ok_iff, pure_eq_ok, Except.ok.injEq] at returned
  obtain ⟨patch, -, sources, hashed, commit, -, patchSha256, patchHash, offset, -, classesJar, -,
    rfl⟩ := returned
  have sourcesWellFormed : (Json.ofDict sources).WellFormed :=
    wellFormed_sourceHashes
      (Json.wellFormed_ofDict.mpr fun _ absent => absurd absent List.not_mem_nil) hashed
  have patchWellFormed : patchSha256.WellFormed := sourcesWellFormed.field? patchHash
  refine ⟨?wellFormed, rfl, rfl, ⟨_, rfl, rfl⟩, rfl, ⟨_, rfl, rfl⟩, rfl⟩
  case wellFormed =>
    have artifacts : (inputArtifacts py inputs).WellFormed := by
      rw [inputArtifacts, Json.wellFormed_obj]
      simp
    have build : (sourceBuild py inputs patchSha256).WellFormed := by
      rw [sourceBuild, Json.wellFormed_obj]
      simp [patchWellFormed]
    have changes : (transformations offset (patch.getD 1 "")).WellFormed := by
      rw [transformations, Json.wellFormed_obj]
      simp [Json.wellFormed_obj]
    have file : (Json.obj [("fileName", .str inputs.outputName), ("byteSize", .int aar.length),
        ("sha256", .str (py.hashlib.sha256 aar))]).WellFormed := by
      rw [Json.wellFormed_obj]
      simp
    rw [Json.wellFormed_ofDict]
    simp only [List.forall_mem_cons]
    exact ⟨trivial, contract.coordinate.property, contract.baseLiteRtVersion.property, trivial,
      trivial, artifacts, build, changes, contract.capability.property,
      wellFormed_nativeComponents, wellFormed_componentRecord classesJar, sourcesWellFormed, file,
      fun _ absent => absurd absent List.not_mem_nil⟩

/-- The manifest is read back as it was written. -/
theorem Described.accepted (described : Described py contract contractBytes aar inputs entries manifest)
    {readBack : Dict String Bytes} (same : ∀ name, readBack.get? name = entries.get? name)
    (native : ∀ name, name ∈ nativeNames entries ↔ name ∈ expectedNativeEntries contract) :
    verifyManifest py contract contractBytes aar (Json.ofDict manifest).sortKeys readBack
      inputs.arm64Jni = .ok () := by
  have wellFormed := described.wellFormed
  obtain ⟨record, recordFound, recordHash⟩ := described.aarSha256
  obtain ⟨build, buildFound, buildHash⟩ := described.outputSha256
  have recordWellFormed : record.WellFormed :=
    @Json.WellFormed.field? (Json.ofDict manifest) record "aar" wellFormed recordFound
  have buildWellFormed : build.WellFormed :=
    @Json.WellFormed.field? (Json.ofDict manifest) build "sourceBuild" wellFormed buildFound
  have componentsHold : verifyComponents py (Json.ofDict manifest).sortKeys readBack
      (expectedNativeEntries contract) = .ok () := by
    apply verifyComponents_ok (field?_loaded wellFormed described.components)
    intro name expected
    obtain ⟨inEntries, isNative⟩ := List.mem_filter.mp ((native name).mpr expected)
    obtain ⟨data, found⟩ := Dict.mem_iff_get?.mp inEntries
    refine ⟨(componentRecord py data).sortKeys, data, ?_, ?_, ?_⟩
    · exact field?_loaded wellFormed_nativeComponents (get?_nativeComponents found isNative)
    · rw [same, found]
    · exact @field?_sorted _ (.str (py.hashlib.sha256 data)) _ (wellFormed_componentRecord data) rfl
  simp only [verifyManifest, bind_eq_ok, exists_unit, requireItem_ok_iff, getItem_ok_iff]
  refine ⟨⟨_, field?_loaded wellFormed described.coordinate, Json.pyEq_sortKeys _⟩,
    ⟨_, field?_loaded wellFormed described.contractSha256, Json.pyEq_refl _⟩,
    record.sortKeys, field?_loaded wellFormed recordFound,
    ⟨_, field?_sorted recordWellFormed recordHash, Json.pyEq_refl _⟩,
    ⟨_, field?_loaded wellFormed described.capability, Json.pyEq_sortKeys _⟩,
    build.sortKeys, field?_loaded wellFormed buildFound,
    ⟨_, field?_sorted buildWellFormed buildHash, Json.pyEq_refl _⟩, componentsHold⟩

end Manifest

end BssLiteRt.BoundedAar

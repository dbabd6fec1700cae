import BssLiteRt.BoundedAar.Verify

/-!
Owns what the packager has put into the entries when it returns them: where their
names come from, and what the contract, the libraries and `classes.jar` are.
-/

namespace BssLiteRt.BoundedAar

open BssLiteRt.Library BssLiteRt.Python BssLiteRt.Archive

section Steps

variable {py : StandardLibrary} {entries result : Dict String Bytes}

/-! ### Merging -/

theorem mergeEntries_get?_classes {api : List (String × Bytes)}
    (returned : mergeEntries api entries = .ok result) :
    result.get? "classes.jar" = entries.get? "classes.jar" := by
  induction api generalizing entries with
  | nil => rw [Except.ok.inj returned]
  | cons item rest inductionHypothesis =>
      unfold mergeEntries at returned
      split at returned
      · exact inductionHypothesis returned
      · rename_i notClasses
        have kept : (entries.set item.1 item.2).get? "classes.jar" = entries.get? "classes.jar" := by
          rw [Dict.get?_set, if_neg (Ne.symm notClasses)]
        split at returned
        · split at returned
          · cases returned
          · exact (inductionHypothesis returned).trans kept
        · split at returned
          · exact (inductionHypothesis returned).trans kept
          · split at returned
            · cases returned
            · exact inductionHypothesis returned

theorem mem_of_mergeEntries {api : List (String × Bytes)} {name : String}
    (returned : mergeEntries api entries = .ok result) (member : name ∈ result) :
    name ∈ entries ∨ name ∈ api.map Prod.fst := by
  induction api generalizing entries with
  | nil =>
      rw [← Except.ok.inj returned] at member
      exact Or.inl member
  | cons item rest inductionHypothesis =>
      rw [List.map_cons, List.mem_cons]
      have added (known : name ∈ entries.set item.1 item.2 ∨ name ∈ rest.map Prod.fst) :
          name ∈ entries ∨ name = item.1 ∨ name ∈ rest.map Prod.fst := by
        rw [Dict.mem_set_iff] at known
        tauto
      have skipped (known : name ∈ entries ∨ name ∈ rest.map Prod.fst) :
          name ∈ entries ∨ name = item.1 ∨ name ∈ rest.map Prod.fst :=
        known.imp_right Or.inr
      unfold mergeEntries at returned
      split at returned
      · exact skipped (inductionHypothesis returned)
      · split at returned
        · split at returned
          · cases returned
          · exact added (inductionHypothesis returned)
        · split at returned
          · exact added (inductionHypothesis returned)
          · split at returned
            · cases returned
            · exact skipped (inductionHypothesis returned)

theorem mem_of_mergeOfficialAars {implementation api : Dict String Bytes} {name : String}
    (returned : mergeOfficialAars py implementation api = .ok result) (member : name ∈ result) :
    name = "classes.jar" ∨ name ∈ implementation ∨ name ∈ api := by
  unfold mergeOfficialAars at returned
  simp only [bind_eq_ok] at returned
  obtain ⟨_, _, _, _, _, _, _, _, _, _, _, _, merged⟩ := returned
  have known := mem_of_mergeEntries merged member
  rw [Dict.mem_set_iff] at known
  exact or_assoc.mp known

/-! ### Classes -/

theorem addCapabilityClasses_ok_iff {compiledClasses : Dict String Bytes} :
    addCapabilityClasses py compiledClasses entries = .ok result ↔
      ∃ jar classesEntries classes, entries.get? "classes.jar" = some jar ∧
        readArchiveBytes py jar "classes.jar" = .ok classesEntries ∧
        sameNames compiledClasses.keys expectedClasses = true ∧
        (∀ name ∈ classesEntries, name ∉ compiledClasses) ∧
        archiveBytes py (classesEntries.update compiledClasses) = .ok classes ∧
        entries.set "classes.jar" classes = result := by
  unfold addCapabilityClasses
  simp only [bind_eq_ok, entryOf_ok_iff, raiseIf_eq_ok, exists_unit, Bool.not_eq_false',
    decide_eq_false_iff_not, ne_eq, not_not, sortedIntersection_eq_nil_iff, pure_eq_ok,
    Except.ok.injEq]
  constructor
  · rintro ⟨jar, found, classesEntries, opened, compiled, fresh, classes, archived, same⟩
    exact ⟨jar, classesEntries, classes, found, opened, compiled, fresh, archived, same⟩
  · rintro ⟨jar, classesEntries, classes, found, opened, compiled, fresh, archived, same⟩
    exact ⟨jar, found, classesEntries, opened, compiled, fresh, classes, archived, same⟩

/-! ### Libraries -/

theorem get?_of_copyEntries {names : List String} {source : Dict String Bytes} {name : String}
    (returned : copyEntries names source entries = .ok result) (apart : name ∉ names) :
    result.get? name = entries.get? name := by
  induction names generalizing entries with
  | nil => rw [Except.ok.inj returned]
  | cons first rest inductionHypothesis =>
      rw [List.mem_cons, not_or] at apart
      obtain ⟨data, -, copied⟩ := bind_eq_ok.mp returned
      rw [inductionHypothesis copied apart.2, Dict.get?_set, if_neg apart.1]

theorem addNativeLibraries_ok {inputs : Inputs}
    (returned : addNativeLibraries py inputs entries = .ok result) :
    result.get? ARM64_JNI = some inputs.arm64Jni ∧
      result.get? ARM64_ACCELERATOR = some inputs.arm64Accelerator ∧
      result.get? ARM64_SHIM = some inputs.arm64Shim ∧
      ∀ name, name ∉ expectedX86 → name ≠ ARM64_JNI → name ≠ ARM64_ACCELERATOR →
        name ≠ ARM64_SHIM → result.get? name = entries.get? name := by
  unfold addNativeLibraries at returned
  simp only [bind_eq_ok] at returned
  obtain ⟨_, _, _, _, copied⟩ := returned
  have jni : ARM64_JNI = "jni/arm64-v8a/liblitert_jni.so" := by decide
  have accelerator : ARM64_ACCELERATOR = "jni/arm64-v8a/libLiteRtClGlAccelerator.so" := by decide
  have shim : ARM64_SHIM = "jni/arm64-v8a/libBssOcl.so" := by decide
  refine ⟨?_, ?_, ?_, fun name notX86 notJni notAccelerator notShim => ?_⟩
  · rw [get?_of_copyEntries copied (by decide), jni]
    simp [Dict.get?_set]
  · rw [get?_of_copyEntries copied (by decide), accelerator]
    simp [Dict.get?_set]
  · rw [get?_of_copyEntries copied (by decide), shim]
    simp
  · rw [jni] at notJni
    rw [accelerator] at notAccelerator
    rw [shim] at notShim
    rw [get?_of_copyEntries copied notX86, Dict.get?_set, if_neg notShim, Dict.get?_set,
      if_neg notAccelerator, Dict.get?_set, if_neg notJni]

theorem get?_removeComponents {removed : List String} {name : String} {data : Bytes}
    (found : (removeComponents removed entries).get? name = some data) :
    entries.get? name = some data := by
  induction removed generalizing entries with
  | nil => exact found
  | cons first rest inductionHypothesis =>
      have kept := inductionHypothesis found
      rw [Dict.get?_erase] at kept
      split at kept
      · cases kept
      · exact kept

end Steps

/-! ### The entries -/

/-- A name of an entry of the official AARs. -/
def Inputs.HasName (py : StandardLibrary) (inputs : Inputs) (name : String) : Prop :=
  ∃ entries, (readArchiveBytes py inputs.implementationAar inputs.implementationPath = .ok entries ∨
    readArchiveBytes py inputs.apiAar inputs.apiPath = .ok entries) ∧ name ∈ entries

/-- The classes of the jar that the merged official AARs hold. -/
def mergedClasses (py : StandardLibrary) (inputs : Inputs) : Py (Dict String Bytes) := do
  let implementationEntries ←
    readArchiveBytes py inputs.implementationAar inputs.implementationPath
  let apiEntries ← readArchiveBytes py inputs.apiAar inputs.apiPath
  let entries ← mergeOfficialAars py implementationEntries apiEntries
  readArchiveBytes py (← entryOf entries "classes.jar") "classes.jar"

/-- The names the packager itself gives to entries. -/
def packagerNames : List String :=
  CONTRACT_ENTRY :: ([ARM64_JNI, ARM64_ACCELERATOR, ARM64_SHIM] ++ expectedX86 ++ ["classes.jar"])

/-- The entries that the packager assembles. -/
structure Assembled (py : StandardLibrary) (contract : Contract) (contractBytes : Bytes)
    (inputs : Inputs) (entries : Dict String Bytes) : Prop where
  names : ∀ name ∈ entries, name ∈ packagerNames ∨ inputs.HasName py name
  contractEntry : entries.get? CONTRACT_ENTRY = some contractBytes
  native : ∀ name, name ∈ nativeNames entries ↔ name ∈ expectedNativeEntries contract
  jni : ∀ data, entries.get? ARM64_JNI = some data → data = inputs.arm64Jni
  accelerator : ∀ data, entries.get? ARM64_ACCELERATOR = some data → data = inputs.arm64Accelerator
  shim : ∀ data, entries.get? ARM64_SHIM = some data → data = inputs.arm64Shim
  classes : ∀ jar, entries.get? "classes.jar" = some jar →
    ∃ merged, mergedClasses py inputs = .ok merged ∧
      sameNames inputs.capabilityClasses.keys expectedClasses = true ∧
      (∀ name ∈ merged, '\x00' ∉ name.toList) ∧
      archiveBytes py (merged.update inputs.capabilityClasses) = .ok jar

theorem assembled_of_ok {py : StandardLibrary} {contract : Contract} {contractBytes : Bytes}
    {inputs : Inputs} {entries : Dict String Bytes}
    (returned : assembleEntries py contract contractBytes inputs = .ok entries) :
    Assembled py contract contractBytes inputs entries := by
  unfold assembleEntries at returned
  simp only [bind_eq_ok, raiseIf_eq_ok, exists_unit, Bool.not_eq_false', sameNames_iff, pure_eq_ok,
    Except.ok.injEq] at returned
  obtain ⟨implementation, implementationRead, api, apiRead, official, merged, classed, withClasses,
    complete, withLibraries, native, rfl⟩ := returned
  obtain ⟨jar, classesEntries, classes, jarFound, opened, compiled, -, archived, rfl⟩ :=
    addCapabilityClasses_ok_iff.mp withClasses
  obtain ⟨jni, accelerator, shim, others⟩ := addNativeLibraries_ok withLibraries
  -- What is removed leaves the other entries as they were.
  have kept {name : String} {data : Bytes} (apart : name ≠ CONTRACT_ENTRY)
      (found : ((removeComponents contract.removedOfficialComponents complete).set CONTRACT_ENTRY
        contractBytes).get? name = some data) : complete.get? name = some data := by
    rw [Dict.get?_set, if_neg apart] at found
    exact get?_removeComponents found
  refine ⟨?names, Dict.get?_set_self _ _ _, native, ?jni, ?accelerator, ?shim, ?classes⟩
  case names =>
    intro name member
    by_cases packaged : name ∈ packagerNames
    · exact Or.inl packaged
    · obtain ⟨data, found⟩ := Dict.mem_iff_get?.mp member
      simp only [packagerNames, List.mem_cons, List.mem_append, List.not_mem_nil, or_false,
        not_or] at packaged
      obtain ⟨notContract, ⟨⟨notJni, notAccelerator, notShim⟩, notX86⟩, notClasses⟩ := packaged
      have known := kept notContract found
      rw [others name notX86 notJni notAccelerator notShim,
        Dict.get?_set, if_neg notClasses] at known
      have fromOfficial := Dict.mem_iff_get?.mpr ⟨data, known⟩
      rcases mem_of_mergeOfficialAars merged fromOfficial with isClasses | inFirst | inSecond
      · exact absurd isClasses notClasses
      · exact Or.inr ⟨implementation, Or.inl implementationRead, inFirst⟩
      · exact Or.inr ⟨api, Or.inr apiRead, inSecond⟩
  case jni =>
    intro data found
    exact Option.some.inj ((kept (by decide) found).symm.trans jni)
  case accelerator =>
    intro data found
    exact Option.some.inj ((kept (by decide) found).symm.trans accelerator)
  case shim =>
    intro data found
    exact Option.some.inj ((kept (by decide) found).symm.trans shim)
  case classes =>
    intro found isClasses
    have known := kept (by decide) isClasses
    rw [others "classes.jar" (by decide) (by decide) (by decide) (by decide),
      Dict.get?_set_self] at known
    obtain rfl := Option.some.inj known
    refine ⟨classesEntries, ?_, compiled, readArchiveBytes_nulFree opened, archived⟩
    simp only [mergedClasses, bind_eq_ok, entryOf_ok_iff]
    exact ⟨implementation, implementationRead, api, apiRead, official, merged, jar, jarFound, opened⟩

end BssLiteRt.BoundedAar

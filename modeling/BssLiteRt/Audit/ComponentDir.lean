import BssLiteRt.Audit.Sources

/-!
Owns the record of a component directory: `write_component_manifest.py`, and
`audit_component_dir` of `audit_release_inputs.py`, which compares the directory with
the record.
-/

namespace BssLiteRt.Audit

open BssLiteRt.Library BssLiteRt.Python BssLiteRt.Complete

/-! ### The directory -/

/-- What a path below the directory is: a file, with the path that `resolve` leads to
and its bytes, or anything else. -/
inductive Node where
  | file (resolved : PurePosixPath) (data : Bytes)
  | other
deriving DecidableEq

/-- The paths that `component_dir.rglob("*")` meets, relative to the directory. -/
abbrev ComponentDir := Dict String Node

/-- `sorted(component_dir.rglob("*"))` -/
def sortedPaths (componentDir : ComponentDir) : ComponentDir where
  items := componentDir.items.insertionSort fun left right =>
    (PurePosixPath.parse left.1).parts ≤ (PurePosixPath.parse right.1).parts
  unique := ((List.perm_insertionSort _ _).map Prod.fst).nodup_iff.mpr componentDir.unique

/-- The contents of a file of the directory. -/
def dataAt (componentDir : ComponentDir) (relative : String) : Option Bytes :=
  match componentDir.get? relative with
  | some (.file _ data) => some data
  | _ => none

/-- No file of the directory is the output. -/
def Outside (output : PurePosixPath) (componentDir : ComponentDir) : Prop :=
  ∀ relative resolved data, componentDir.get? relative = some (.file resolved data) →
    resolved ≠ output

def Mode.text : Mode → String
  | .availableComponents => "available-components"
  | .complete => "complete"

/-! ### The writer -/

/-- The record of a file, unless it is the output. -/
def recordedFile (py : StandardLibrary) (output : PurePosixPath) : Node → Option Json
  | .file resolved data => if resolved = output then none else some (componentRecord py data)
  | .other => none

def manifestJson (artifactVersion : String) (mode : Mode) (liteRt patchSeries : Json)
    (files : Dict String Json) : Json :=
  .obj [("schemaVersion", .int 1), ("artifactVersion", .str artifactVersion),
    ("mode", .str mode.text), ("liteRt", liteRt), ("patchSeries", patchSeries),
    ("components", .ofDict files)]

/-- `main` of `write_component_manifest.py`: the bytes of the manifest. -/
def writeComponentManifest (py : StandardLibrary) (componentDir : ComponentDir)
    (sourceLock : Json) (artifactVersion : String) (mode : Mode) (output : PurePosixPath) :
    Py Bytes := do
  let files := (sortedPaths componentDir).filterMap fun _ => recordedFile py output
  let liteRt ← getItem sourceLock "liteRt"
  let patchSeries ← getItem sourceLock "patchSeries"
  return jsonBytes (manifestJson artifactVersion mode liteRt patchSeries files)

/-! ### The audit -/

def expectedComponentPaths (contract : Contract) (mode : Mode) : List String :=
  ["api/litert-bss-api.aar", "LICENSE-LiteRT.txt", "THIRD_PARTY_LICENSES.txt",
    "THIRD_PARTY_NOTICES.md"] ++
    (expectedNativePaths contract mode).keys.map ("native/" ++ ·)

def fileData : Node → Option Bytes
  | .file _ data => some data
  | .other => none

/-- The loop over the files that looks at their bytes and names. -/
def auditFiles : List (String × Bytes) → List String
  | [] => []
  | (name, data) :: rest =>
      errorIf (endsWith name ".so" && data.take 4 ≠ [0x7f, 0x45, 0x4c, 0x46])
          ("Component native library is not ELF: " ++ name) ++
        errorIf ((PurePosixPath.parse name).name = "libOCLQ.so")
          "Diagnostic libOCLQ.so entered the component directory." ++
        auditFiles rest

def HASH_ERROR : String := "Component manifest hashes do not match component files."

def MODE_ERROR : String := "Component manifest mode does not match the audit mode."

def SOURCE_ERROR : String := "Component manifest LiteRT source does not match the lock."

def PATCH_ERROR : String := "Component manifest patch series does not match the lock."

/-- The records of the files, in the order of their names. -/
def auditedRecords (py : StandardLibrary) (actual : Dict String Bytes) : Dict String Json :=
  (Dict.ofPairs (sortByKey actual.items)).mapValues fun _ data => componentRecord py data

def auditComponentDir (py : StandardLibrary) (componentDir : ComponentDir)
    (componentManifest : Json) (contract : Contract) (sourceLock : Json) (mode : Mode) :
    Py (Json × List String) := do
  let actual := componentDir.filterMap fun _ => fileData
  let expected := expectedComponentPaths contract mode
  let records := auditedRecords py actual
  let components ← getD componentManifest "components" .null
  let recordedMode ← getD componentManifest "mode" .null
  let liteRt ← getD componentManifest "liteRt" .null
  let lockLiteRt ← getD sourceLock "liteRt" .null
  let patchSeries ← getD componentManifest "patchSeries" .null
  let lockPatchSeries ← getD sourceLock "patchSeries" .null
  let errors :=
    errorIf (!sameNames actual.keys expected)
      ("Component file drift; missing=" ++ showNames py (sortedDifference expected actual.keys) ++
        ", extra=" ++ showNames py (sortedDifference actual.keys expected)) ++
    errorIf (!components.pyEq (.ofDict records)) HASH_ERROR ++
    errorIf (!recordedMode.pyEq (.str mode.text)) MODE_ERROR ++
    errorIf (!liteRt.pyEq lockLiteRt) SOURCE_ERROR ++
    errorIf (!patchSeries.pyEq lockPatchSeries) PATCH_ERROR ++
    auditFiles actual.items
  return (.obj [("files", .ofDict records)], errors)

/-! ### The records -/

section Records

variable {py : StandardLibrary} {componentDir recorded later : ComponentDir} {output : PurePosixPath}

theorem dataAt_eq (relative : String) :
    dataAt componentDir relative = (componentDir.get? relative).bind fileData := by
  rw [dataAt]
  cases componentDir.get? relative with
  | none => rfl
  | some node => cases node <;> rfl

/-- A directory without links holds no output that lies elsewhere. -/
theorem outside_of_plain {root : PurePosixPath}
    (plain : ∀ relative resolved data, componentDir.get? relative = some (.file resolved data) →
      ∃ below, resolved = ⟨root.root, root.tail ++ below⟩)
    (elsewhere : ∀ below, output ≠ ⟨root.root, root.tail ++ below⟩) :
    Outside output componentDir := by
  intro relative resolved data found same
  obtain ⟨below, shape⟩ := plain relative resolved data found
  exact elsewhere below (same ▸ shape)

theorem get?_sortedPaths (relative : String) :
    (sortedPaths componentDir).get? relative = componentDir.get? relative :=
  Dict.get?_of_perm (List.perm_insertionSort _ _) relative

/-- The writer records every file when the output is none of them. -/
theorem get?_writerRecords (outside : Outside output componentDir) (relative : String) :
    ((sortedPaths componentDir).filterMap fun _ => recordedFile py output).get? relative =
      (dataAt componentDir relative).map (componentRecord py) := by
  rw [Dict.get?_filterMap, get?_sortedPaths, dataAt_eq]
  cases found : componentDir.get? relative with
  | none => rfl
  | some node =>
      cases node with
      | other => rfl
      | file resolved data =>
          exact if_neg (outside relative resolved data found)

/-- The auditor records every file. -/
theorem get?_auditRecords (relative : String) :
    (auditedRecords py (componentDir.filterMap fun _ => fileData)).get? relative =
      (dataAt componentDir relative).map (componentRecord py) := by
  rw [auditedRecords, Dict.get?_mapValues, get?_ofPairs_sortByKey, Dict.get?_filterMap, dataAt_eq]

theorem normal_componentRecord (data : Bytes) :
    (componentRecord py data).normal = componentRecord py data := by
  rw [componentRecord, Json.normal_obj, sortByKey_eq_self (by simp)]
  rfl

/-- Equal records are records of the same files. -/
theorem records_agree_iff
    (collisionFree : CollisionFree py.hashlib.sha256 (dataAt recorded) (dataAt later))
    (relative : String) :
    ((dataAt recorded relative).map (componentRecord py)).map Json.normal =
        ((dataAt later relative).map (componentRecord py)).map Json.normal ↔
      dataAt later relative = dataAt recorded relative := by
  have injective {data other : Bytes} (first : dataAt recorded relative = some data)
      (second : dataAt later relative = some other) :
      (componentRecord py data).normal = (componentRecord py other).normal ↔ other = data := by
    constructor
    · intro same
      rw [normal_componentRecord, normal_componentRecord, componentRecord, componentRecord] at same
      have hashes : py.hashlib.sha256 data = py.hashlib.sha256 other := by
        simp at same
        exact same.2
      exact (collisionFree relative data other first second hashes).symm
    · rintro rfl
      rfl
  cases first : dataAt recorded relative with
  | none => cases second : dataAt later relative <;> simp
  | some data =>
      cases second : dataAt later relative with
      | none => simp
      | some other => simpa using injective first second

end Records

/-! ### The manifest read back -/

section Manifest

variable {py : StandardLibrary} {artifactVersion : String} {mode : Mode} {liteRt patchSeries : Json}
  {files : Dict String Json}

theorem wellFormed_manifestJson (liteRtWellFormed : liteRt.WellFormed)
    (patchSeriesWellFormed : patchSeries.WellFormed) (filesWellFormed : (Json.ofDict files).WellFormed) :
    (manifestJson artifactVersion mode liteRt patchSeries files).WellFormed := by
  rw [manifestJson, Json.wellFormed_obj]
  refine ⟨by simp, ?_⟩
  simp only [List.forall_mem_cons]
  exact ⟨trivial, trivial, trivial, liteRtWellFormed, patchSeriesWellFormed, filesWellFormed,
    fun _ absent => absurd absent List.not_mem_nil⟩

/-- What the audit looks up in the manifest. -/
theorem field?_manifestJson :
    (manifestJson artifactVersion mode liteRt patchSeries files).field? "components" =
        some (.ofDict files) ∧
      (manifestJson artifactVersion mode liteRt patchSeries files).field? "mode" =
        some (.str mode.text) ∧
      (manifestJson artifactVersion mode liteRt patchSeries files).field? "liteRt" = some liteRt ∧
      (manifestJson artifactVersion mode liteRt patchSeries files).field? "patchSeries" =
        some patchSeries :=
  ⟨rfl, rfl, rfl, rfl⟩

theorem wellFormed_componentRecord (data : Bytes) : (componentRecord py data).WellFormed := by
  rw [componentRecord, Json.wellFormed_obj]
  simp

/-- A manifest that the writer returns holds the fields of the lock. -/
theorem writeComponentManifest_eq_ok {recorded : ComponentDir} {sourceLock : Json}
    {output : PurePosixPath} {manifest : Bytes}
    (written : writeComponentManifest py recorded sourceLock artifactVersion mode output =
      .ok manifest) :
    ∃ liteRt patchSeries, sourceLock.field? "liteRt" = some liteRt ∧
      sourceLock.field? "patchSeries" = some patchSeries ∧
      manifest = jsonBytes (manifestJson artifactVersion mode liteRt patchSeries
        ((sortedPaths recorded).filterMap fun _ => recordedFile py output)) := by
  simp only [writeComponentManifest, bind_eq_ok, getItem_ok_iff, pure_eq_ok] at written
  obtain ⟨liteRt, liteRtFound, patchSeries, patchSeriesFound, returned⟩ := written
  exact ⟨liteRt, patchSeries, liteRtFound, patchSeriesFound, (Except.ok.inj returned).symm⟩

theorem wellFormed_recordedFiles {recorded : ComponentDir} {output : PurePosixPath} :
    (Json.ofDict ((sortedPaths recorded).filterMap fun _ => recordedFile py output)).WellFormed := by
  rw [Json.wellFormed_ofDict_iff_get?]
  intro relative value found
  rw [Dict.get?_filterMap, Option.bind_eq_some_iff] at found
  obtain ⟨node, -, isRecord⟩ := found
  cases node with
  | other => cases isRecord
  | file resolved data =>
      rw [recordedFile] at isRecord
      split at isRecord
      · cases isRecord
      · exact Option.some.inj isRecord ▸ wellFormed_componentRecord data

end Manifest

/-! ### The errors -/

/-- The errors about the manifest, the mode, the source and the patch series. -/
def recordErrors : List String :=
  [HASH_ERROR, MODE_ERROR, SOURCE_ERROR, PATCH_ERROR]

/-- An error that is about none of them. -/
theorem notMem_recordErrors {error : String}
    (other : startsWith error "Component manifest " = false) : error ∉ recordErrors := by
  intro member
  have starts : ∀ error ∈ recordErrors, startsWith error "Component manifest " = true :=
    List.all_iff_forall_prop.mp (by decide)
  exact absurd (starts error member) (by rw [other]; decide)

theorem mem_errorIf {wrong : Bool} {error reported : String} :
    reported ∈ errorIf wrong error ↔ wrong = true ∧ reported = error := by
  cases wrong <;> simp [errorIf]

theorem auditFiles_notMem (files : List (String × Bytes)) :
    ∀ error ∈ auditFiles files, error ∉ recordErrors := by
  induction files with
  | nil => exact fun _ absent => absurd absent List.not_mem_nil
  | cons file rest inductionHypothesis =>
      obtain ⟨name, data⟩ := file
      intro error member
      rw [auditFiles, List.mem_append, List.mem_append] at member
      rcases member with (notElf | diagnostic) | later
      · obtain ⟨-, rfl⟩ := mem_errorIf.mp notElf
        apply notMem_recordErrors
        rw [startsWith, String.toList_append]
        rfl
      · obtain ⟨-, rfl⟩ := mem_errorIf.mp diagnostic
        exact notMem_recordErrors (by decide)
      · exact inductionHypothesis error later

/-- The drift of the paths is reported in words of its own. -/
theorem driftError_notMem (missing extra : String) :
    "Component file drift; missing=" ++ missing ++ ", extra=" ++ extra ∉ recordErrors := by
  apply notMem_recordErrors
  rw [startsWith, String.toList_append, String.toList_append, String.toList_append]
  rfl

/-- What an audit finds in a manifest, and what the lock has for it. -/
structure AuditedFields where
  components : Json
  mode : Json
  liteRt : Json
  patchSeries : Json
  lockLiteRt : Json
  lockPatchSeries : Json

/-- Where the fields stand. -/
structure AuditedFields.Of (fields : AuditedFields) (componentManifest sourceLock : Json) :
    Prop where
  components : componentManifest.field? "components" = some fields.components
  mode : componentManifest.field? "mode" = some fields.mode
  liteRt : componentManifest.field? "liteRt" = some fields.liteRt
  patchSeries : componentManifest.field? "patchSeries" = some fields.patchSeries
  lockLiteRt : sourceLock.field? "liteRt" = some fields.lockLiteRt
  lockPatchSeries : sourceLock.field? "patchSeries" = some fields.lockPatchSeries

/-- The fields are those of the directory and of the lock. -/
structure AuditedFields.Agree (fields : AuditedFields) (py : StandardLibrary)
    (componentDir : ComponentDir) (mode : Mode) : Prop where
  components : fields.components.pyEq
    (.ofDict (auditedRecords py (componentDir.filterMap fun _ => fileData))) = true
  mode : fields.mode.pyEq (.str mode.text) = true
  liteRt : fields.liteRt.pyEq fields.lockLiteRt = true
  patchSeries : fields.patchSeries.pyEq fields.lockPatchSeries = true

section Audit

variable {py : StandardLibrary} {componentDir recorded later : ComponentDir}
  {componentManifest sourceLock : Json} {contract : Contract} {mode : Mode}
  {fields : AuditedFields}

/-- An audit of a manifest that has the fields of a record finds an error about it
when a field differs. -/
theorem auditComponentDir_of_fields (stand : fields.Of componentManifest sourceLock) :
    ∃ report errors,
      auditComponentDir py componentDir componentManifest contract sourceLock mode =
        .ok (report, errors) ∧
      ((∀ error ∈ errors, error ∉ recordErrors) ↔ fields.Agree py componentDir mode) := by
  unfold auditComponentDir
  rw [getD_of_field? stand.components, getD_of_field? stand.mode, getD_of_field? stand.liteRt,
    getD_of_field? stand.lockLiteRt, getD_of_field? stand.patchSeries,
    getD_of_field? stand.lockPatchSeries]
  refine ⟨_, _, rfl, ?_⟩
  have reported {wrong : Bool} {error : String} (isRecord : error ∈ recordErrors) :
      (∀ found ∈ errorIf wrong error, found ∉ recordErrors) ↔ wrong = false := by
    cases wrong <;> simp [errorIf, isRecord]
  have hidden {wrong : Bool} {error : String} (notRecord : error ∉ recordErrors) :
      (∀ found ∈ errorIf wrong error, found ∉ recordErrors) ↔ True := by
    cases wrong <;> simp [errorIf, notRecord]
  simp only [List.forall_mem_append]
  rw [hidden (driftError_notMem _ _), true_and, and_iff_left (auditFiles_notMem _),
    @reported _ HASH_ERROR (by simp [recordErrors]),
    @reported _ MODE_ERROR (by simp [recordErrors]),
    @reported _ SOURCE_ERROR (by simp [recordErrors]),
    @reported _ PATCH_ERROR (by simp [recordErrors])]
  simp only [Bool.not_eq_false']
  constructor
  · rintro ⟨⟨⟨components, sameMode⟩, liteRt⟩, patchSeries⟩
    exact ⟨components, sameMode, liteRt, patchSeries⟩
  · rintro ⟨components, sameMode, liteRt, patchSeries⟩
    exact ⟨⟨⟨components, sameMode⟩, liteRt⟩, patchSeries⟩

/-- The fields of a written record agree with a directory exactly when it holds the same
files with the same bytes. -/
theorem fields_of_written {sourceLock : Document} {artifactVersion : String}
    {output : PurePosixPath} {manifest : Bytes}
    (collisionFree : CollisionFree py.hashlib.sha256 (dataAt recorded) (dataAt later))
    (outside : Outside output recorded)
    (written : writeComponentManifest py recorded sourceLock.val artifactVersion mode output =
      .ok manifest) :
    ∃ (componentManifest : Json) (fields : AuditedFields),
      readJson py manifest = .ok componentManifest ∧ fields.Of componentManifest sourceLock.val ∧
        (fields.Agree py later mode ↔
          ∀ relative, dataAt later relative = dataAt recorded relative) := by
  obtain ⟨liteRt, patchSeries, liteRtFound, patchSeriesFound, bytes⟩ :=
    writeComponentManifest_eq_ok written
  have wellFormed := @wellFormed_manifestJson artifactVersion mode _ _ _
    (sourceLock.property.field? liteRtFound) (sourceLock.property.field? patchSeriesFound)
    (@wellFormed_recordedFiles py recorded output)
  obtain ⟨componentsField, modeField, liteRtField, patchSeriesField⟩ :=
    @field?_manifestJson artifactVersion mode liteRt patchSeries
      ((sortedPaths recorded).filterMap fun _ => recordedFile py output)
  refine ⟨_, ⟨_, _, _, _, liteRt, patchSeries⟩, bytes ▸ readJson_jsonBytes py wellFormed,
    ⟨field?_sorted wellFormed componentsField, field?_sorted wellFormed modeField,
      field?_sorted wellFormed liteRtField, field?_sorted wellFormed patchSeriesField,
      liteRtFound, patchSeriesFound⟩, ?_⟩
  have sorted (left right : Json) : left.sortKeys.pyEq right = left.pyEq right := by
    rw [Json.pyEq, Json.normal_sortKeys, Json.pyEq]
  have sameFiles : (Json.ofDict ((sortedPaths recorded).filterMap fun _ =>
      recordedFile py output)).sortKeys.pyEq
        (.ofDict (auditedRecords py (later.filterMap fun _ => fileData))) = true ↔
      ∀ relative, dataAt later relative = dataAt recorded relative := by
    rw [sorted, Json.pyEq_ofDict_iff]
    refine forall_congr' fun relative => ?_
    rw [get?_writerRecords outside, get?_auditRecords, records_agree_iff collisionFree]
  constructor
  · exact fun agree => sameFiles.mp agree.components
  · intro same
    refine ⟨sameFiles.mpr same, ?_, ?_, ?_⟩
    · rw [sorted, Json.pyEq_refl]
    · rw [sorted, Json.pyEq_refl]
    · rw [sorted, Json.pyEq_refl]

end Audit

/-- After the record is written, an audit reports no error about it exactly when the
directory holds the same files with the same bytes. -/
theorem component_drift_caught (py : StandardLibrary) (recorded later : ComponentDir)
    (sourceLock : Document) (artifactVersion : String) (mode : Mode) (contract : Contract)
    (output : PurePosixPath) (manifest : Bytes)
    (collisionFree : CollisionFree py.hashlib.sha256 (dataAt recorded) (dataAt later))
    (outside : Outside output recorded)
    (written : writeComponentManifest py recorded sourceLock.val artifactVersion mode output =
      .ok manifest) :
    ∃ componentManifest report errors, readJson py manifest = .ok componentManifest ∧
      auditComponentDir py later componentManifest contract sourceLock.val mode =
        .ok (report, errors) ∧
      ((∀ error ∈ errors, error ∉ recordErrors) ↔
        ∀ relative, dataAt later relative = dataAt recorded relative) ∧
      ((∃ relative, dataAt later relative ≠ dataAt recorded relative) → errors ≠ []) := by
  obtain ⟨componentManifest, fields, read, stand, agree_iff⟩ :=
    fields_of_written collisionFree outside written
  obtain ⟨report, errors, audited, noError⟩ :=
    @auditComponentDir_of_fields py later _ _ contract mode fields stand
  have caught := noError.trans agree_iff
  refine ⟨componentManifest, report, errors, read, audited, caught, ?_⟩
  rintro ⟨relative, differs⟩ none
  subst none
  exact differs (caught.mp (fun _ absent => absurd absent List.not_mem_nil) relative)

def sampleComponents (data : Bytes) : ComponentDir :=
  ⟨[("LICENSE-LiteRT.txt", .file (.parse "/components/LICENSE-LiteRT.txt") data)],
    List.nodup_singleton _⟩

def sampleLock : Document :=
  ⟨.obj [("liteRt", .str "2.1.5"), ("patchSeries", .arr [])], by
    rw [Json.wellFormed_obj]
    simp [Json.wellFormed_arr]⟩

theorem dataAt_sampleComponents (data : Bytes) (relative : String) :
    dataAt (sampleComponents data) relative =
      if relative = "LICENSE-LiteRT.txt" then some data else none := by
  by_cases named : relative = "LICENSE-LiteRT.txt"
  · simp [dataAt, sampleComponents, Dict.get?, named]
  · simp [dataAt, sampleComponents, Dict.get?, List.lookup_cons, beq_false_of_ne named, named]

theorem component_drift_caught_sample :
    ∃ manifest, writeComponentManifest concreteLibrary (sampleComponents [1]) sampleLock.val "1.0"
        .complete (.parse "/out/manifest.json") = .ok manifest ∧
      ∃ componentManifest report errors, readJson concreteLibrary manifest = .ok componentManifest ∧
        auditComponentDir concreteLibrary (sampleComponents [2]) componentManifest
            ⟨[], Dict.empty⟩ sampleLock.val .complete = .ok (report, errors) ∧
        ¬ ∀ error ∈ errors, error ∉ recordErrors := by
  have hashes : concreteLibrary.hashlib.sha256 [1] ≠ concreteLibrary.hashlib.sha256 [2] := by
    decide
  have collisionFree : CollisionFree concreteLibrary.hashlib.sha256
      (dataAt (sampleComponents [1])) (dataAt (sampleComponents [2])) := by
    intro relative data other inFirst inSecond same
    rw [dataAt_sampleComponents] at inFirst inSecond
    split at inFirst
    · rename_i named
      rw [if_pos named] at inSecond
      rw [← Option.some.inj inFirst, ← Option.some.inj inSecond] at same
      exact absurd same hashes
    · cases inFirst
  have outside : Outside (.parse "/out/manifest.json") (sampleComponents [1]) := by
    apply @outside_of_plain _ _ (.parse "/components")
    · intro relative resolved data found
      obtain ⟨-, same⟩ := Prod.ext_iff.mp (List.mem_singleton.mp (Dict.get?_eq_some_iff.mp found))
      cases same
      exact ⟨["LICENSE-LiteRT.txt".toList], by decide⟩
    · intro below same
      have elsewhere : (PurePosixPath.parse "/out/manifest.json").tail.head? ≠
          some "components".toList := by decide
      exact elsewhere (congrArg (fun path => path.tail.head?) same)
  refine ⟨_, rfl, ?_⟩
  obtain ⟨componentManifest, report, errors, read, audited, caught, -⟩ :=
    component_drift_caught concreteLibrary (sampleComponents [1]) (sampleComponents [2]) sampleLock
      "1.0" .complete ⟨[], Dict.empty⟩ (.parse "/out/manifest.json") _ collisionFree outside rfl
  refine ⟨componentManifest, report, errors, read, audited, fun noError => ?_⟩
  have same := caught.mp noError "LICENSE-LiteRT.txt"
  rw [dataAt_sampleComponents, dataAt_sampleComponents] at same
  exact absurd same (by decide)

end BssLiteRt.Audit

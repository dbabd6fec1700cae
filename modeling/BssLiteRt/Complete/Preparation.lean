import BssLiteRt.Complete.ApiDocs
import BssLiteRt.Complete.Prepare
import BssLiteRt.Downloadable.Files

/-!
Owns `main` of `prepare_maven_publication.py`: the files it puts into its output
directory, and the manifest of that directory, which is its regular files by their
names, none of them a link of another.
-/

namespace BssLiteRt.Complete

open BssLiteRt.Library BssLiteRt.Python BssLiteRt.Archive
open BssLiteRt.Downloadable (place temporaryName temporaryName_ne get?_place)

/-! ### The source allowlist -/

/-- A line that is neither blank nor a comment. -/
def isAllowlistLine (line : List Char) : Bool :=
  strip (String.ofList line) ≠ "" ∧ (line.dropWhile isSpace).head? ≠ some '#'

def allowlistEntries (text : String) : List String :=
  ((splitLines text.toList).filter isAllowlistLine).map fun line => strip (String.ofList line)

def readSourceAllowlist (sourceFiles : Bytes) : Py (List String) := do
  let entries := allowlistEntries (← readTextUtf8 sourceFiles)
  raiseIf (entries = [] ∨ entries.length ≠ entries.dedup.length) .valueError
    "API source allowlist must be non-empty and unique."
  return entries

/-! ### The publication -/

/-- What the script reads. `apiSource` finds the file at a path under the source root. -/
structure PublicationInputs where
  aar : Bytes
  apiSource : String → Option Bytes
  sourceFiles : Bytes
  buildManifest : Bytes
  license : Bytes
  thirdPartyLicenses : Bytes
  notices : Bytes

/-- `{relative: (root / relative).read_bytes() for relative in allowlist}` -/
def readSources (apiSource : String → Option Bytes) (allowlist : List String)
    (entries : Dict String Bytes) : Py (Dict String Bytes) :=
  match allowlist with
  | [] => .ok entries
  | relative :: rest =>
      match apiSource relative with
      | none => raise .fileNotFoundError ("[Errno 2] No such file or directory: " ++ relative)
      | some data => readSources apiSource rest (entries.set relative data)

def sourceLicenseName : String := "META-INF/LICENSE-LiteRT.txt"

def javadocEntries (document : Bytes) : Dict String Bytes where
  items := [("element-list", encodeUtf8 "com.google.ai.edge.litert\n"), ("index.html", document)]
  unique := by simp

/-- `{path.name: {"bytes": ..., "sha256": ...} for path in sorted(output.iterdir())}` -/
def fileRecords (py : StandardLibrary) (files : Dict String Bytes) : Json :=
  .obj ((sortByKey files.items).map fun item => (item.1, componentRecord py item.2))

def inputsManifest (py : StandardLibrary) (group name version : String)
    (files : Dict String Bytes) : Json :=
  .obj [("schemaVersion", .int 1),
    ("coordinate", .str (group ++ ":" ++ name ++ ":" ++ version)),
    ("files", fileRecords py files)]

def inputsManifestName : String := "publication-inputs.json"

/-- The files of a publication beside its AAR. -/
structure Documents where
  sourcesJar : Bytes
  javadocJar : Bytes
  buildManifest : Bytes
  sbom : Bytes
  moduleMetadata : Bytes

/-- The documents that follow from a manifest and a bill of materials. -/
def publicationDocuments (py : StandardLibrary) (contract : Contract) (version : String)
    (aar : Bytes) (manifest : Dict String Json) (sbom : Json) (sourcesJar javadocJar : Bytes) :
    Documents where
  sourcesJar := sourcesJar
  javadocJar := javadocJar
  buildManifest := jsonBytes (.ofDict manifest)
  sbom := jsonBytes sbom
  moduleMetadata := jsonBytes
    (gradleModuleMetadata py contract.group contract.name version aar)

/-- The files that `main` writes, in its order; archives go through a temporary file. -/
def storePublication (front : String) (inputs : PublicationInputs) (documents : Documents)
    (output : Dict String Bytes) : Dict String Bytes :=
  let output := output.set (front ++ ".aar") inputs.aar
  let output := place output (front ++ "-sources.jar") documents.sourcesJar
  let output := place output (front ++ "-javadoc.jar") documents.javadocJar
  let output := output.set (front ++ "-build-manifest.json") documents.buildManifest
  let output := output.set (front ++ "-third-party-licenses.txt") inputs.thirdPartyLicenses
  let output := output.set (front ++ "-notices.txt") inputs.notices
  let output := output.set (front ++ "-cyclonedx.json") documents.sbom
  output.set (front ++ ".module") documents.moduleMetadata

/-- `main`, on an output directory that may hold files. -/
def prepareMain (py : StandardLibrary) (inputs : PublicationInputs) (contract : Contract)
    (loaded : LoadedContract) (version : String) (allowApiOnly : Bool)
    (output : Dict String Bytes) : Py (Dict String Bytes) := do
  let source ← readJson py inputs.buildManifest
  let group := contract.group
  let name := contract.name
  let manifest ← publicationBuildManifest py source contract version inputs.aar allowApiOnly
  let sources ← readSources inputs.apiSource (← readSourceAllowlist inputs.sourceFiles) Dict.empty
  let sourcesJar ← archiveBytes py (sources.set sourceLicenseName inputs.license)
  let javadocJar ← archiveBytes py (javadocEntries loaded.document)
  let sbom ← cyclonedxSbom py group name version inputs.aar (.ofDict manifest)
  let documents :=
    publicationDocuments py contract version inputs.aar manifest sbom sourcesJar javadocJar
  let output := storePublication (name ++ "-" ++ version) inputs documents output
  return output.set inputsManifestName
    (jsonBytes (inputsManifest py group name version output))

/-! ### The prepared files -/

/-- What the names of the files end in that a publication takes from the directory. -/
def preparedEndings : List String :=
  [".aar", "-sources.jar", "-javadoc.jar", ".module", "-cyclonedx.json", "-build-manifest.json",
    "-third-party-licenses.txt", "-notices.txt"]

section Names

variable {front : String}

theorem append_front_eq_iff {left right : String} : front ++ left = front ++ right ↔ left = right := by
  rw [← String.toList_inj, String.toList_append, String.toList_append, List.append_cancel_left_eq,
    String.toList_inj]

/-- No file of the publication has the name of a temporary one. -/
theorem prepared_ne_temporaryName {ending : String} (prepared : ending ∈ preparedEndings)
    (name : String) : front ++ ending ≠ temporaryName name := by
  have notTmp : ∀ ending ∈ preparedEndings, ending.toList.getLast?.any (· ≠ 'p') = true := by
    decide
  obtain ⟨last, isLast, apart⟩ := (Option.any_eq_true _ _).mp (notTmp ending prepared)
  intro same
  have texts := congrArg (fun text => text.toList.getLast?) same
  simp only [temporaryName, String.toList_append, List.getLast?_append, isLast] at texts
  obtain rfl : last = 'p' := Option.some.inj texts
  exact absurd apart (by decide)

theorem prepared_ne_inputsManifestName {ending : String} (prepared : ending ∈ preparedEndings) :
    front ++ ending ≠ inputsManifestName := by
  have apart : ∀ ending ∈ preparedEndings, ¬ ending.toList <:+ inputsManifestName.toList := by
    decide
  intro same
  apply apart ending prepared
  rw [← same, String.toList_append]
  exact List.suffix_append _ _

end Names

section Stored

variable {front : String} {inputs : PublicationInputs} {documents : Documents}
  {output : Dict String Bytes}

/-- The contents of the files of a publication. -/
def preparedItems (inputs : PublicationInputs) (documents : Documents) : List (String × Bytes) :=
  [(".aar", inputs.aar), ("-sources.jar", documents.sourcesJar),
    ("-javadoc.jar", documents.javadocJar), (".module", documents.moduleMetadata),
    ("-cyclonedx.json", documents.sbom), ("-build-manifest.json", documents.buildManifest),
    ("-third-party-licenses.txt", inputs.thirdPartyLicenses), ("-notices.txt", inputs.notices)]

/-- Every file of the publication is stored under its own name. -/
theorem get?_storePublication {item : String × Bytes}
    (member : item ∈ preparedItems inputs documents) :
    (storePublication front inputs documents output).get? (front ++ item.1) = some item.2 := by
  have prepared : item.1 ∈ preparedEndings := List.mem_map_of_mem member
  have temporary := @prepared_ne_temporaryName front item.1 prepared
  simp only [storePublication, Dict.get?_set, get?_place, append_front_eq_iff, if_neg (temporary _)]
  simp only [preparedItems, List.mem_cons, List.not_mem_nil, or_false] at member
  rcases member with rfl | rfl | rfl | rfl | rfl | rfl | rfl | rfl <;> simp

theorem temporaryName_ne_inputsManifestName (name : String) :
    inputsManifestName ≠ temporaryName name := by
  intro same
  have texts := congrArg (fun text => text.toList.head?) same
  simp [inputsManifestName, temporaryName] at texts

/-- The publication leaves an old manifest of the directory where it was. -/
theorem get?_inputsManifestName :
    (storePublication front inputs documents output).get? inputsManifestName =
      output.get? inputsManifestName := by
  have apart {ending : String} (prepared : ending ∈ preparedEndings) :
      inputsManifestName ≠ front ++ ending :=
    (prepared_ne_inputsManifestName prepared).symm
  simp only [storePublication, Dict.get?_set, get?_place,
    if_neg (temporaryName_ne_inputsManifestName _)]
  rw [if_neg (apart (by decide)), if_neg (apart (by decide)), if_neg (apart (by decide)),
    if_neg (apart (by decide)), if_neg (apart (by decide)), if_neg (apart (by decide)),
    if_neg (apart (by decide)), if_neg (apart (by decide))]

end Stored

/-- What the documents of a publication are made of. -/
structure PreparedFrom (py : StandardLibrary) (inputs : PublicationInputs) (contract : Contract)
    (loaded : LoadedContract) (version : String) (apiOnly : Bool) (source sbom : Json)
    (manifest : Dict String Json) (allowlist : List String) (sources : Dict String Bytes)
    (sourcesJar javadocJar : Bytes) : Prop where
  readSource : readJson py inputs.buildManifest = .ok source
  described : publicationBuildManifest py source contract version inputs.aar apiOnly = .ok manifest
  allowed : readSourceAllowlist inputs.sourceFiles = .ok allowlist
  found : readSources inputs.apiSource allowlist Dict.empty = .ok sources
  sourcesWritten : archiveBytes py (sources.set sourceLicenseName inputs.license) = .ok sourcesJar
  javadocWritten : archiveBytes py (javadocEntries loaded.document) = .ok javadocJar
  materials : cyclonedxSbom py contract.group contract.name version inputs.aar (.ofDict manifest) =
    .ok sbom

theorem prepareMain_eq_ok {py : StandardLibrary} {inputs : PublicationInputs}
    {contract : Contract} {loaded : LoadedContract} {version : String} {apiOnly : Bool}
    {before output : Dict String Bytes}
    (returned : prepareMain py inputs contract loaded version apiOnly before = .ok output) :
    ∃ source sbom manifest allowlist sources sourcesJar javadocJar stored,
      PreparedFrom py inputs contract loaded version apiOnly source sbom manifest allowlist sources
        sourcesJar javadocJar ∧
      stored = storePublication (contract.name ++ "-" ++ version) inputs
        (publicationDocuments py contract version inputs.aar manifest sbom sourcesJar javadocJar)
        before ∧
      output = stored.set inputsManifestName
        (jsonBytes (inputsManifest py contract.group contract.name version stored)) := by
  simp only [prepareMain, bind_eq_ok, pure_eq_ok, Except.ok.injEq] at returned
  obtain ⟨source, readSource, manifest, described, allowlist, allowed, sources, found, sourcesJar,
    sourcesWritten, javadocJar, javadocWritten, sbom, materials, written⟩ := returned
  exact ⟨source, sbom, manifest, allowlist, sources, sourcesJar, javadocJar, _,
    ⟨readSource, described, allowed, found, sourcesWritten, javadocWritten, materials⟩, rfl,
    written.symm⟩

/-! ### The manifest of the directory -/

section InputsManifest

variable {py : StandardLibrary} {group name version : String} {files : Dict String Bytes}

/-- A record of a file, as it is read back. -/
def readRecord (py : StandardLibrary) (data : Bytes) : Json :=
  (componentRecord py data).sortKeys

theorem wellFormed_fileRecords : (fileRecords py files).WellFormed := by
  rw [fileRecords, Json.wellFormed_obj]
  constructor
  · rw [List.map_map]
    exact (keys_sortByKey files.items).symm ▸ (List.perm_insertionSort _ _).nodup_iff.mpr files.unique
  · intro field member
    obtain ⟨item, -, rfl⟩ := List.mem_map.mp member
    simp [componentRecord, Json.wellFormed_obj]

theorem field?_fileRecords (file : String) :
    (fileRecords py files).field? file = (files.get? file).map (componentRecord py) := by
  rw [fileRecords, Json.field?, Dict.lookup_map_values fun _ => componentRecord py,
    lookup_sortByKey files.unique]
  rfl

theorem wellFormed_inputsManifest : (inputsManifest py group name version files).WellFormed := by
  rw [inputsManifest, Json.wellFormed_obj]
  refine ⟨by simp, ?_⟩
  simp only [List.forall_mem_cons]
  exact ⟨trivial, trivial, wellFormed_fileRecords, fun _ absent => absurd absent List.not_mem_nil⟩

/-- The manifest of the directory describes every other file of it as it is; itself it
describes only where an older one lay, and as that one was. -/
theorem publication_inputs_described (inputs : PublicationInputs) (contract : Contract)
    (loaded : LoadedContract) (apiOnly : Bool) (before output : Dict String Bytes)
    (returned : prepareMain py inputs contract loaded version apiOnly before = .ok output) :
    ∃ data document described, output.get? inputsManifestName = some data ∧
      readJson py data = .ok document ∧ document.field? "files" = some described ∧
      (∀ file, file ≠ inputsManifestName →
        described.field? file = (output.get? file).map (readRecord py)) ∧
      described.field? inputsManifestName =
        (before.get? inputsManifestName).map (readRecord py) := by
  obtain ⟨source, sbom, manifest, allowlist, sources, sourcesJar, javadocJar, stored, -, isStored,
    rfl⟩ := prepareMain_eq_ok returned
  have written := @wellFormed_inputsManifest py contract.group contract.name version stored
  have listed := @field?_sorted "files" (fileRecords py stored) _ written rfl
  refine ⟨_, _, _, Dict.get?_set_self _ _ _, readJson_jsonBytes py written, listed, ?_, ?_⟩
  · intro file other
    rw [Json.field?_sortKeys wellFormed_fileRecords, field?_fileRecords, Option.map_map,
      Dict.get?_set, if_neg other]
    rfl
  · rw [Json.field?_sortKeys wellFormed_fileRecords, field?_fileRecords, Option.map_map, isStored,
      get?_inputsManifestName]
    rfl

end InputsManifest

end BssLiteRt.Complete

import BssLiteRt.Complete.Components
import BssLiteRt.Library.JsonMarkers

/-!
Owns the acceptance of the documents that `prepare_maven_publication.py` derives
from an AAR: which of them `verify_maven_staging.py` always takes, and when it takes
the module metadata.
-/

namespace BssLiteRt.Complete

open BssLiteRt.Library BssLiteRt.Python BssLiteRt.Archive

/-! ### Markers -/

/-- The texts of the module metadata that the coordinate decides. -/
def coordinateTexts (group artifact version : String) : List String :=
  [group, artifact, version, artifact ++ "-" ++ version ++ ".aar"]

/-- No forbidden marker occurs in these texts as JSON writes them. -/
def MarkerFree (group artifact version : String) : Prop :=
  ∀ marker ∈ forbiddenMarkers, ∀ text ∈ coordinateTexts group artifact version,
    ¬ marker.toList <:+: Json.escaped text

instance (group artifact version : String) : Decidable (MarkerFree group artifact version) :=
  inferInstanceAs (Decidable (∀ _ ∈ _, ∀ _ ∈ _, _))

theorem isMarker_of_forbidden : ∀ marker ∈ forbiddenMarkers, Json.IsMarker marker.toList := by
  refine List.forall_mem_cons.mpr ⟨?_, List.forall_mem_cons.mpr ⟨?_,
    List.forall_mem_singleton.mpr ?_⟩⟩
  · exact ⟨List.all_iff_forall_prop.mp (by decide), by decide, 'o', by decide, by decide, by decide⟩
  · exact ⟨List.all_iff_forall_prop.mp (by decide), by decide, 'o', by decide, by decide, by decide⟩
  · exact ⟨List.all_iff_forall_prop.mp (by decide), by decide, 'i', by decide, by decide, by decide⟩

/-- No marker occurs in a hash. -/
theorem not_infix_digest {length : Nat} {digest : String} (hex : IsHexDigest length digest) :
    ∀ marker ∈ forbiddenMarkers, ¬ marker.toList <:+: Json.escaped digest := by
  have kept : ∀ char ∈ ("0123456789abcdef" : String).toList, Json.escape char = [char] :=
    List.all_iff_forall_prop.mp (by decide)
  have written : Json.escaped digest = digest.toList := by
    unfold Json.escaped
    exact (List.flatMap_congr fun char inside => kept char (hex.2 char inside)).trans
      (List.flatMap_singleton' _)
  have letter : ∀ marker ∈ forbiddenMarkers, ∃ char ∈ marker.toList,
      char ∉ ("0123456789abcdef" : String).toList :=
    List.forall_mem_cons.mpr ⟨⟨'o', by decide, by decide⟩,
      List.forall_mem_cons.mpr ⟨⟨'o', by decide, by decide⟩,
        List.forall_mem_singleton.mpr ⟨'i', by decide, by decide⟩⟩⟩
  intro marker member occurs
  rw [written] at occurs
  obtain ⟨char, inside, notHex⟩ := letter marker member
  exact notHex (hex.2 char (occurs.subset inside))

/-! ### The Gradle module metadata -/

section Module

variable {py : StandardLibrary} {group artifact version fileName : String} {aar : Bytes}

theorem wellFormed_gradleModuleMetadata :
    (gradleModuleMetadata py group artifact version aar).WellFormed := by
  simp [gradleModuleMetadata, moduleVariant, fileEntry, Json.wellFormed_obj, Json.wellFormed_arr]

/-- A variant with a name that lists the AAR and no other file. -/
def ListsOnly (py : StandardLibrary) (name : String) (aar : Bytes) (variant : Json) : Prop :=
  (∃ variantName, variant.field? "name" = some variantName) ∧
    ∃ file, variant.field? "files" = some (.arr [file]) ∧
      file.pyEq (fileEntry py name aar) = true

theorem onlyFile_some {files file : Json} (only : onlyFile files = .ok (some file)) :
    files = .arr [file] ∨ ∃ text, file = .str text := by
  unfold onlyFile at only
  split at only
  · cases only
    exact .inl rfl
  · cases only
  · split at only <;> cases only
  · have isText := Except.ok.inj only
    split at isText
    · exact .inr ⟨_, (Option.some.inj isText).symm⟩
    · cases isText
  · cases only
  · cases only
  · cases only

theorem namesFile_fileEntry {file : Json} {name : String}
    (same : file.pyEq (fileEntry py name aar) = true) : namesFile (some file) name = .ok true := by
  obtain ⟨found, stored, equal⟩ := @hasField_of_pyEq file (.str name) _ "name" (by simp) same rfl
  rw [namesFile, getD_of_field? stored, ok_bind, equal]
  rfl

theorem verifyVariants_ok_iff {name : String} {variants : List Json} :
    verifyVariants py name aar variants = .ok () ↔
      ∀ variant ∈ variants, ListsOnly py name aar variant := by
  induction variants with
  | nil => simp [verifyVariants]
  | cons variant rest inductionHypothesis =>
      rw [List.forall_mem_cons, ← inductionHypothesis]
      rw [verifyVariants]
      simp only [bind_eq_ok, raiseIf_eq_ok, exists_unit, Bool.not_eq_false', getItem_ok_iff]
      constructor
      · rintro ⟨files, listed, file, only, named, isNamed, variantName, hasName, rfl, same, rest⟩
        refine ⟨⟨⟨variantName, hasName⟩, ?_⟩, rest⟩
        cases file with
        | none => cases isNamed
        | some file =>
            rcases onlyFile_some only with rfl | ⟨text, rfl⟩
            · exact ⟨file, field?_of_getD listed (by simp), same⟩
            · cases isNamed
      · rintro ⟨⟨⟨variantName, hasName⟩, file, listed, same⟩, rest⟩
        exact ⟨_, getD_of_field? listed, some file, rfl, true, namesFile_fileEntry same, variantName,
          hasName, rfl, same, rest⟩

theorem aarName_plain (artifactPlain : PurePosixPath.IsPlainComponent artifact)
    (versionPlain : PurePosixPath.IsPlainComponent version) :
    aarName artifact version = artifact ++ "-" ++ version ++ ".aar" := by
  obtain ⟨-, -, artifactWhole, -⟩ := artifactPlain
  obtain ⟨-, -, versionWhole, -⟩ := versionPlain
  have shape : (artifact ++ "-" ++ version ++ ".aar").toList = List.intercalate ['/']
      [(artifact ++ "-" ++ version ++ ".aar").toList] := by simp
  have plain : PurePosixPath.keeps (artifact ++ "-" ++ version ++ ".aar").toList = true ∧
      '/' ∉ (artifact ++ "-" ++ version ++ ".aar").toList := by
    refine ⟨?_, by simp [artifactWhole, versionWhole]⟩
    rw [PurePosixPath.keeps, decide_eq_true_iff]
    constructor <;> intro same <;> have length := congrArg List.length same
    · simp at length
    · simp at length
      omega
  rw [aarName, PurePosixPath.parse_components (by simp) (List.forall_mem_singleton.mpr plain) shape]
  exact String.ofList_toList

/-- A variant of the module metadata, as it is read back. -/
theorem listsOnly_moduleVariant (name usage : String) :
    ListsOnly py fileName aar (moduleVariant name usage (fileEntry py fileName aar)).sortKeys := by
  have wellFormed : (moduleVariant name usage (fileEntry py fileName aar)).WellFormed := by
    simp [moduleVariant, fileEntry, Json.wellFormed_obj, Json.wellFormed_arr]
  have files : (moduleVariant name usage (fileEntry py fileName aar)).field? "files" =
      some (.arr [fileEntry py fileName aar]) := rfl
  have listed := field?_sorted wellFormed files
  rw [Json.sortKeys_arr] at listed
  exact ⟨⟨_, @field?_sorted "name" (.str name) _ wellFormed rfl⟩, _, listed, Json.pyEq_sortKeys _⟩

theorem variantNames_pair {first second : Json} {firstName secondName : String}
    (firstNamed : first.field? "name" = some (.str firstName))
    (secondNamed : second.field? "name" = some (.str secondName)) :
    variantNames [first, second] = .ok [.str firstName, .str secondName] := by
  simp only [variantNames, getItem_ok_iff.mpr firstNamed, getItem_ok_iff.mpr secondNamed, ok_bind]
  rfl

theorem name_moduleVariant (name usage : String) :
    (moduleVariant name usage (fileEntry py fileName aar)).sortKeys.field? "name" =
      some (.str name) := by
  have wellFormed : (moduleVariant name usage (fileEntry py fileName aar)).WellFormed := by
    simp [moduleVariant, fileEntry, Json.wellFormed_obj, Json.wellFormed_arr]
  exact @field?_sorted "name" (.str name) _ wellFormed rfl

/-- The keys of the module metadata, and its texts that do not depend on the inputs. -/
def fixedTexts : List String :=
  ["formatVersion", "1.1", "component", "group", "module", "version", "attributes",
    "org.gradle.status", "release", "createdBy", "gradle", "8.9", "variants", "name",
    "releaseApiElements", "releaseRuntimeElements", "org.gradle.category", "library",
    "org.gradle.dependency.bundling", "external", "org.gradle.libraryelements", "aar",
    "org.gradle.usage", "java-api", "java-runtime", "files", "url", "size", "md5", "sha1",
    "sha256", "sha512"]

theorem texts_fileEntry (name : String) : (fileEntry py name aar).texts =
    ["name", name, "url", name, "size", "md5", py.hashlib.md5 aar, "sha1", py.hashlib.sha1 aar,
      "sha256", py.hashlib.sha256 aar, "sha512", py.hashlib.sha512 aar] :=
  rfl

theorem texts_moduleVariant (name usage : String) (file : Json) :
    (moduleVariant name usage file).texts =
      ["name", name, "attributes", "org.gradle.category", "library",
        "org.gradle.dependency.bundling", "external", "org.gradle.libraryelements", "aar",
        "org.gradle.status", "release", "org.gradle.usage", usage, "files"] ++ file.texts := by
  simp [moduleVariant]
  rfl

theorem texts_gradleModuleMetadata :
    let file := fileEntry py (aarName artifact version) aar
    (gradleModuleMetadata py group artifact version aar).texts =
      ["formatVersion", "1.1", "component", "group", group, "module", artifact, "version", version,
        "attributes", "org.gradle.status", "release", "createdBy", "gradle", "version", "8.9",
        "variants"] ++ ((moduleVariant "releaseApiElements" "java-api" file).texts ++
          (moduleVariant "releaseRuntimeElements" "java-runtime" file).texts) := by
  simp [gradleModuleMetadata]
  rfl

theorem coordinateTexts_subset
    (plainName : aarName artifact version = artifact ++ "-" ++ version ++ ".aar") :
    ∀ text ∈ coordinateTexts group artifact version,
      text ∈ (gradleModuleMetadata py group artifact version aar).texts := by
  rw [coordinateTexts, ← plainName, texts_gradleModuleMetadata, texts_moduleVariant,
    texts_fileEntry]
  simp

/-- The hashes of an AAR. -/
def digests (py : StandardLibrary) (aar : Bytes) : List String :=
  [py.hashlib.md5 aar, py.hashlib.sha1 aar, py.hashlib.sha256 aar, py.hashlib.sha512 aar]

theorem isHexDigest_digests : ∀ digest ∈ digests py aar, ∃ length, IsHexDigest length digest := by
  simp only [digests, List.forall_mem_cons]
  exact ⟨⟨_, py.hashlib.md5_hex _⟩, ⟨_, py.hashlib.sha1_hex _⟩, ⟨_, py.hashlib.sha256_hex _⟩,
    ⟨_, py.hashlib.sha512_hex _⟩, fun _ absent => absurd absent List.not_mem_nil⟩

/-- A text of the module metadata is fixed, of the coordinate, or a hash. -/
theorem mem_texts_module {text : String}
    (plainName : aarName artifact version = artifact ++ "-" ++ version ++ ".aar")
    (member : text ∈ (gradleModuleMetadata py group artifact version aar).texts) :
    text ∈ fixedTexts ∨ text ∈ coordinateTexts group artifact version ∨
      text ∈ digests py aar := by
  rw [texts_gradleModuleMetadata, texts_moduleVariant, texts_moduleVariant, texts_fileEntry,
    plainName] at member
  rw [← List.mem_append, ← List.mem_append]
  revert text
  show (_ : List String) ⊆ _
  simp only [List.append_subset, List.cons_subset, List.nil_subset]
  simp [fixedTexts, coordinateTexts, digests]

/-- A forbidden marker in the text of the metadata is one in the coordinate's texts. -/
theorem markerFree_iff (plainName : aarName artifact version = artifact ++ "-" ++ version ++ ".aar") :
    (∀ marker ∈ forbiddenMarkers, ¬ marker.toList <:+:
      ((gradleModuleMetadata py group artifact version aar).dumps ++ "\n").toList) ↔
      MarkerFree group artifact version := by
  have fixed : ∀ marker ∈ forbiddenMarkers, ∀ text ∈ fixedTexts,
      ¬ marker.toList <:+: Json.escaped text := by
    decide
  refine forall₂_congr fun marker member => ?_
  have isMarker := isMarker_of_forbidden marker member
  rw [String.toList_append, show ("\n" : String).toList = ['\n'] from rfl,
    infix_append_separator_iff (isMarker.apart '\n' (by decide)), List.infix_nil,
    or_iff_left isMarker.ne_nil, isMarker.infix_dumps_iff, not_exists]
  simp only [not_and]
  constructor
  · intro free text inCoordinate
    exact free text (coordinateTexts_subset plainName text inCoordinate)
  · intro free text inModule
    rcases mem_texts_module plainName inModule with inFixed | inCoordinate | isDigest
    · exact fixed marker member text inFixed
    · exact free text inCoordinate
    · obtain ⟨length, hex⟩ := isHexDigest_digests text isDigest
      exact not_infix_digest hex marker member

theorem verifyModule_generated_iff (artifactPlain : PurePosixPath.IsPlainComponent artifact)
    (versionPlain : PurePosixPath.IsPlainComponent version) :
    verifyModule py (jsonBytes (gradleModuleMetadata py group artifact version aar)) group artifact
        version aar = .ok () ↔ MarkerFree group artifact version := by
  have plainName := aarName_plain artifactPlain versionPlain
  have wellFormed := @wellFormed_gradleModuleMetadata py group artifact version aar
  let file := fileEntry py (aarName artifact version) aar
  let component := Json.obj [("group", .str group), ("module", .str artifact),
    ("version", .str version), ("attributes", .obj [("org.gradle.status", .str "release")])]
  have componentListed :
      (gradleModuleMetadata py group artifact version aar).field? "component" = some component := rfl
  have componentField {key : String} {value : Json} (listed : component.field? key = some value) :=
    field?_sorted (wellFormed.field? componentListed) listed
  have variantsListed : (gradleModuleMetadata py group artifact version aar).field? "variants" =
      some (.arr [moduleVariant "releaseApiElements" "java-api" file,
        moduleVariant "releaseRuntimeElements" "java-runtime" file]) := rfl
  have variants := field?_sorted wellFormed variantsListed
  rw [Json.sortKeys_arr] at variants
  rw [List.map_cons, List.map_cons, List.map_nil] at variants
  have formatVersion : (gradleModuleMetadata py group artifact version aar).sortKeys.field?
      "formatVersion" = some (.str "1.1") :=
    @field?_sorted "formatVersion" (.str "1.1") _ wellFormed rfl
  have groupField : component.sortKeys.field? "group" = some (.str group) :=
    @componentField "group" (.str group) rfl
  have moduleField : component.sortKeys.field? "module" = some (.str artifact) :=
    @componentField "module" (.str artifact) rfl
  have versionField : component.sortKeys.field? "version" = some (.str version) :=
    @componentField "version" (.str version) rfl
  have listsOnly : verifyVariants py (artifact ++ "-" ++ version ++ ".aar") aar
      [(moduleVariant "releaseApiElements" "java-api" file).sortKeys,
        (moduleVariant "releaseRuntimeElements" "java-runtime" file).sortKeys] = .ok () := by
    rw [verifyVariants_ok_iff, ← plainName]
    exact List.forall_mem_cons.mpr ⟨listsOnly_moduleVariant _ _,
      List.forall_mem_singleton.mpr (listsOnly_moduleVariant _ _)⟩
  have both : hasBothVariants [.str "releaseApiElements", .str "releaseRuntimeElements"] = true := by
    decide
  rw [← @markerFree_iff py group artifact version aar plainName]
  unfold verifyModule
  rw [readJson_jsonBytes py wellFormed, ok_bind, getD_of_field? formatVersion, ok_bind,
    getItem_ok_iff.mpr (field?_sorted wellFormed componentListed), ok_bind,
    getItem_ok_iff.mpr groupField, ok_bind, getItem_ok_iff.mpr moduleField, ok_bind,
    getItem_ok_iff.mpr versionField, ok_bind]
  simp only [Json.pyEq_refl, Bool.not_true, raiseIf_false, ok_bind]
  rw [getD_of_field? variants, ok_bind, elements, ok_bind,
    variantNames_pair (name_moduleVariant _ _) (name_moduleVariant _ _), ok_bind, both, listsOnly,
    readTextUtf8_jsonBytes, Bool.not_true, raiseIf_false, ok_bind, ok_bind, ok_bind, rejectMarkers,
    rejectOccurrences_ok_iff]

end Module

/-! ### The build manifest -/

section Manifest

variable {py : StandardLibrary} {source : Json} {contract : Contract} {version : String}
  {aar : Bytes} {apiOnly : Bool} {manifest : Dict String Json}

/-- The message for duplicate entries matters only when there are some. -/
theorem readComponents_message {first second : String} {components : Dict String Json}
    (returned : readComponents py first aar = .ok components) :
    readComponents py second aar = .ok components := by
  unfold readComponents at returned ⊢
  simp only [bind_eq_ok, raiseIf_eq_ok] at returned ⊢
  exact returned

/-- What a publication manifest says of the AAR and its source. -/
structure Published (source : Json) (contract : Contract) (version : String) (apiOnly : Bool)
    (components manifest : Dict String Json) : Prop where
  schemaVersion : manifest.get? "schemaVersion" = some (.int 1)
  artifact : manifest.get? "artifact" =
    some (artifactJson contract contract.group contract.name version)
  fixture : manifest.get? "publicationFixture" = some (.str (fixtureName apiOnly))
  recorded : manifest.get? "components" = some (.ofDict components)
  liteRt : ∃ liteRt, source.field? "liteRt" = some liteRt ∧ manifest.get? "liteRt" = some liteRt
  patchSeries : ∃ patchSeries, source.field? "patchSeries" = some patchSeries ∧
    manifest.get? "patchSeries" = some patchSeries
  wellFormed : source.WellFormed → (Json.ofDict components).WellFormed →
    (Json.ofDict manifest).WellFormed

theorem wellFormed_artifactJson (contract : Contract) (group name version : String) :
    (artifactJson contract group name version).WellFormed := by
  have minSdk := contract.minSdk.property
  have jvmTarget := contract.jvmTarget.property
  simp [artifactJson, Json.wellFormed_obj, minSdk, jvmTarget]

/-- When the publication manifest is made, and what it says. -/
theorem publicationBuildManifest_ok_iff :
    publicationBuildManifest py source contract version aar apiOnly = .ok manifest ↔
      ∃ components liteRt patchSeries,
        (∀ message, readComponents py message aar = .ok components) ∧
        "classes.jar" ∈ components ∧ checkComponents source components apiOnly = .ok () ∧
        source.field? "liteRt" = some liteRt ∧ source.field? "patchSeries" = some patchSeries ∧
        manifest.items = [("schemaVersion", .int 1),
          ("artifact", artifactJson contract contract.group contract.name version),
          ("liteRt", liteRt), ("patchSeries", patchSeries), ("components", .ofDict components),
          ("publicationFixture", .str (fixtureName apiOnly))] := by
  unfold publicationBuildManifest archiveComponents
  simp only [bind_eq_ok, raiseIf_eq_ok, exists_unit, pure_eq_ok, getItem_ok_iff,
    decide_eq_false_iff_not, not_not]
  constructor
  · rintro ⟨components, ⟨read, listed, complete, sameComponents⟩, accepted, liteRt, hasLiteRt,
      patchSeries, hasPatches, result⟩
    obtain rfl := Except.ok.inj sameComponents
    exact ⟨read, liteRt, patchSeries, fun message => readComponents_message listed, complete,
      accepted, hasLiteRt, hasPatches, congrArg Dict.items (Except.ok.inj result).symm⟩
  · rintro ⟨components, liteRt, patchSeries, listed, complete, accepted, hasLiteRt, hasPatches,
      items⟩
    exact ⟨components, ⟨components, listed _, complete, rfl⟩, accepted, liteRt, hasLiteRt,
      patchSeries, hasPatches, congrArg Except.ok (Dict.ext_items items.symm)⟩

theorem published_of_ok
    (returned : publicationBuildManifest py source contract version aar apiOnly = .ok manifest) :
    ∃ components, (∀ message, readComponents py message aar = .ok components) ∧
      checkComponents source components apiOnly = .ok () ∧
      Published source contract version apiOnly components manifest := by
  obtain ⟨components, liteRt, patchSeries, listed, -, accepted, hasLiteRt, hasPatches, items⟩ :=
    publicationBuildManifest_ok_iff.mp returned
  have lookup {key : String} {value : Json} (found : manifest.items.lookup key = some value) :
      manifest.get? key = some value := found
  rw [items] at lookup
  refine ⟨components, listed, accepted, lookup rfl, lookup rfl, lookup rfl, lookup rfl,
    ⟨liteRt, hasLiteRt, lookup rfl⟩, ⟨patchSeries, hasPatches, lookup rfl⟩, ?_⟩
  intro sourceWellFormed componentsWellFormed
  rw [Json.wellFormed_ofDict, items]
  simp only [List.forall_mem_cons]
  exact ⟨trivial, wellFormed_artifactJson _ _ _ _, sourceWellFormed.field? hasLiteRt,
    sourceWellFormed.field? hasPatches, componentsWellFormed, trivial,
    fun _ absent => absurd absent List.not_mem_nil⟩

/-- The source has the fields of the lock that are published. -/
def CarriesLock (source : Json) (lock : Document) : Prop :=
  ∀ key ∈ ["liteRt", "patchSeries"], ∃ locked, lock.val.field? key = some locked ∧
    HasField source key locked

theorem requireField_loaded {dict : Dict String Json} {key message : String}
    {value expected : Json} (wellFormed : (Json.ofDict dict).WellFormed)
    (found : dict.get? key = some value) (same : value.pyEq expected = true) :
    requireField (Json.ofDict dict).sortKeys key expected message = .ok () := by
  have equal : value.sortKeys.pyEq expected = true := by
    rw [Json.pyEq_iff] at same ⊢
    rw [Json.normal_sortKeys, same]
  rw [requireField, getD_of_field? (field?_loaded wellFormed found), ok_bind, equal]
  rfl

/-- A publication manifest is accepted for its own AAR. -/
theorem verifyBuildManifest_published {lock : Document} {components : Dict String Json}
    (published : Published source contract version apiOnly components manifest)
    (wellFormed : (Json.ofDict manifest).WellFormed)
    (listed : ∀ message, readComponents py message aar = .ok components)
    (carries : CarriesLock source lock) :
    verifyBuildManifest py (jsonBytes (.ofDict manifest)) aar contract contract.group contract.name
      version lock apiOnly = .ok (Json.ofDict manifest).sortKeys := by
  obtain ⟨liteRt, sourceLiteRt, hasLiteRt⟩ := published.liteRt
  obtain ⟨patchSeries, sourcePatches, hasPatches⟩ := published.patchSeries
  obtain ⟨lockLiteRt, lockedLiteRt, found, stored, sameLiteRt⟩ := carries "liteRt" (by simp)
  obtain rfl := Option.some.inj (sourceLiteRt.symm.trans stored)
  obtain ⟨lockPatches, lockedPatches, found, stored, samePatches⟩ := carries "patchSeries" (by simp)
  obtain rfl := Option.some.inj (sourcePatches.symm.trans stored)
  unfold verifyBuildManifest
  rw [readJson_jsonBytes py wellFormed, ok_bind,
    requireField_loaded wellFormed published.schemaVersion (Json.pyEq_refl _), ok_bind,
    requireField_loaded wellFormed published.artifact (Json.pyEq_refl _), ok_bind,
    requireField_loaded wellFormed published.fixture (Json.pyEq_refl _), ok_bind,
    getD_of_field? lockedLiteRt, ok_bind, requireField_loaded wellFormed hasLiteRt sameLiteRt, ok_bind,
    getD_of_field? lockedPatches, ok_bind,
    requireField_loaded wellFormed hasPatches samePatches, ok_bind, listed, ok_bind,
    requireField_loaded wellFormed published.recorded (Json.pyEq_refl _)]
  rfl

end Manifest

/-! ### The bill of materials -/

section Sbom

variable {py : StandardLibrary} {group artifact version : String} {aar : Bytes}

/-- The components of an archive are records of its entries. -/
theorem records_of_recordComponents {stored : List ZipEntry} {names : List String}
    {start components : Dict String Json}
    (returned : recordComponents py stored names start = .ok components)
    (startRecords : ∀ name record, start.get? name = some record →
      ∃ data, record = componentRecord py data) :
    ∀ name record, components.get? name = some record → ∃ data, record = componentRecord py data := by
  induction names generalizing start with
  | nil => exact Except.ok.inj returned ▸ startRecords
  | cons first rest inductionHypothesis =>
      rw [recordComponents] at returned
      split at returned
      · exact inductionHypothesis returned startRecords
      · obtain ⟨data, -, returned⟩ := bind_eq_ok.mp returned
        refine inductionHypothesis returned fun name record found => ?_
        rw [Dict.get?_set] at found
        split at found
        · exact ⟨data, (Option.some.inj found).symm⟩
        · exact startRecords name record found

/-- Items whose values are records come from entries. -/
theorem exists_entries {items : List (String × Json)}
    (records : ∀ item ∈ items, ∃ data, item.2 = componentRecord py data) :
    ∃ entries : List (String × Bytes),
      items = entries.map fun entry => (entry.1, componentRecord py entry.2) := by
  induction items with
  | nil => exact ⟨[], rfl⟩
  | cons item rest inductionHypothesis =>
      obtain ⟨⟨data, record⟩, tail⟩ := List.forall_mem_cons.mp records
      obtain ⟨entries, rfl⟩ := inductionHypothesis tail
      exact ⟨(item.1, data) :: entries, congrArg (· :: _) (Prod.ext rfl record)⟩

/-- The element of a bill of materials for an entry. -/
def sbomFile (py : StandardLibrary) (entry : String × Bytes) : Json :=
  .obj [("type", .str "file"),
    ("bom-ref", .str ("urn:bss-litert:component:" ++ entry.1)),
    ("name", .str entry.1),
    ("hashes", .arr [.obj [("alg", .str "SHA-256"),
      ("content", .str (py.hashlib.sha256 entry.2))]]),
    ("properties", .arr [.obj [("name", .str "bss.litert.component.bytes"),
      ("value", .str (py.str (.int entry.2.length)))]])]

theorem sbomComponents_entries (entries : List (String × Bytes)) :
    sbomComponents py (entries.map fun entry => (entry.1, componentRecord py entry.2)) =
      .ok (entries.map (sbomFile py)) := by
  induction entries with
  | nil => rfl
  | cons entry rest inductionHypothesis =>
      rw [List.map_cons, sbomComponents, inductionHypothesis]
      rfl

theorem wellFormed_sbomFile (entry : String × Bytes) : (sbomFile py entry).WellFormed := by
  simp [sbomFile, Json.wellFormed_obj, Json.wellFormed_arr]

/-- One SHA-256 among the hashes of an entry that was written and read back. -/
theorem sha256Of_sorted {entry : Json} {digest : String} (wellFormed : entry.WellFormed)
    (listed : entry.field? "hashes" =
      some (.arr [.obj [("alg", .str "SHA-256"), ("content", .str digest)]])) :
    sha256Of entry.sortKeys = .ok (.str digest) := by
  let item := Json.obj [("alg", .str "SHA-256"), ("content", .str digest)]
  have itemWellFormed : item.WellFormed := by simp [item, Json.wellFormed_obj]
  have hashes := field?_sorted wellFormed listed
  rw [Json.sortKeys_arr, List.map_cons, List.map_nil] at hashes
  have alg : item.sortKeys.field? "alg" = some (.str "SHA-256") :=
    @field?_sorted "alg" (.str "SHA-256") _ itemWellFormed rfl
  have content : item.sortKeys.field? "content" = some (.str digest) :=
    @field?_sorted "content" (.str digest) _ itemWellFormed rfl
  rw [sha256Of, getD_of_field? hashes, ok_bind, elements, ok_bind, hashDict,
    getD_of_field? content, ok_bind, getD_of_field? alg, ok_bind]
  rfl

/-- The pairs that a bill of materials and a manifest make of the entries. -/
def hashPairs (py : StandardLibrary) (entries : List (String × Bytes)) : List (Json × Json) :=
  entries.map fun entry => (.str entry.1, .str (py.hashlib.sha256 entry.2))

theorem componentHashes_entries (entries : List (String × Bytes)) (found : Dict Json Json) :
    componentHashes (entries.map fun entry => (sbomFile py entry).sortKeys) found =
      .ok ((hashPairs py entries).foldl (fun dict pair => dict.set pair.1 pair.2) found) := by
  induction entries generalizing found with
  | nil => rfl
  | cons entry rest inductionHypothesis =>
      have named : (sbomFile py entry).sortKeys.field? "name" = some (.str entry.1) :=
        @field?_sorted "name" (.str entry.1) _ (wellFormed_sbomFile entry) rfl
      rw [List.map_cons, componentHashes, sha256Of_sorted (wellFormed_sbomFile entry) rfl, ok_bind,
        getD_of_field? named, ok_bind]
      exact inductionHypothesis _

theorem expectedHashes_entries (entries : List (String × Bytes)) (found : Dict Json Json) :
    expectedHashes (entries.map fun entry => (entry.1, (componentRecord py entry.2).sortKeys)) found =
      .ok ((hashPairs py entries).foldl (fun dict pair => dict.set pair.1 pair.2) found) := by
  induction entries generalizing found with
  | nil => rfl
  | cons entry rest inductionHypothesis =>
      have wellFormed : (componentRecord py entry.2).WellFormed := by
        simp [componentRecord, Json.wellFormed_obj]
      have hashed : (componentRecord py entry.2).sortKeys.field? "sha256" =
          some (.str (py.hashlib.sha256 entry.2)) :=
        @field?_sorted "sha256" (.str (py.hashlib.sha256 entry.2)) _ wellFormed rfl
      rw [List.map_cons, expectedHashes, getItem_ok_iff.mpr hashed, ok_bind]
      exact inductionHypothesis _

theorem sameHashes_refl (hashes : Dict Json Json) : sameHashes hashes hashes = true := by
  rw [sameHashes, decide_eq_true_iff]
  refine ⟨rfl, fun item member => ?_⟩
  rw [Dict.get?_eq_some_iff.mpr member, Option.map_some, Json.pyEq_refl]

/-- The document that `cyclonedxSbom` returns. -/
theorem cyclonedxSbom_ok {manifest : Dict String Json} {components : Dict String Json}
    {entries : List (String × Bytes)} {sbom : Json}
    (recorded : manifest.get? "components" = some (.ofDict components))
    (sorted : sortByKey components.items =
      entries.map fun entry => (entry.1, componentRecord py entry.2))
    (manifestWellFormed : (Json.ofDict manifest).WellFormed)
    (derived : cyclonedxSbom py group artifact version aar (.ofDict manifest) = .ok sbom) :
    sbom.WellFormed ∧ sbom.field? "bomFormat" = some (.str "CycloneDX") ∧
      sbom.field? "specVersion" = some (.str "1.6") ∧
      sbom.field? "components" = some (.arr (entries.map (sbomFile py))) ∧
      ∃ metadata component, sbom.field? "metadata" = some metadata ∧
        metadata.field? "component" = some component ∧
        component.field? "hashes" = some (.arr [.obj [("alg", .str "SHA-256"),
          ("content", .str (py.hashlib.sha256 aar))]]) := by
  unfold cyclonedxSbom at derived
  simp only [bind_eq_ok, getItem_ok_iff] at derived
  obtain ⟨found, hasComponents, items, isDict, liteRt, hasLiteRt, commit, hasCommit, files, listed,
    result⟩ := derived
  obtain rfl := Option.some.inj (recorded.symm.trans hasComponents)
  obtain rfl := Except.ok.inj isDict
  rw [sorted, sbomComponents_entries] at listed
  obtain rfl := Except.ok.inj listed
  obtain rfl := Except.ok.inj result
  refine ⟨?_, rfl, rfl, rfl, _, _, rfl, rfl, rfl⟩
  have commitWellFormed : commit.WellFormed :=
    (manifestWellFormed.field? hasLiteRt).field? hasCommit
  simp [Json.wellFormed_obj, Json.wellFormed_arr, commitWellFormed]
  rintro _ name data - rfl
  exact wellFormed_sbomFile _

/-- The texts that an accepted bill of materials carries, and the hash of its AAR. -/
structure SbomHeader (py : StandardLibrary) (aar : Bytes) (sbom : Json) : Prop where
  wellFormed : sbom.WellFormed
  bomFormat : sbom.field? "bomFormat" = some (.str "CycloneDX")
  specVersion : sbom.field? "specVersion" = some (.str "1.6")
  hashes : ∃ metadata component, sbom.field? "metadata" = some metadata ∧
    metadata.field? "component" = some component ∧
    component.field? "hashes" = some (.arr [.obj [("alg", .str "SHA-256"),
      ("content", .str (py.hashlib.sha256 aar))]])

/-- When a bill of materials is accepted after it was written and read back. -/
theorem verifySbom_written {sbom manifest : Json} {entries : List Json}
    {fields : List (String × Json)} {actual expected : Dict Json Json}
    (header : SbomHeader py aar sbom) (listed : sbom.field? "components" = some (.arr entries))
    (collapsed : componentHashes (entries.map Json.sortKeys) Dict.empty = .ok actual)
    (recorded : manifest.field? "components" = some (.obj fields))
    (expanded : expectedHashes fields Dict.empty = .ok expected)
    (same : sameHashes actual expected = true) :
    verifySbom py (jsonBytes sbom) aar manifest = .ok () := by
  obtain ⟨metadata, component, hasMetadata, hasComponent, hashes⟩ := header.hashes
  have metadataWellFormed := header.wellFormed.field? hasMetadata
  have elementsListed := field?_sorted header.wellFormed listed
  rw [Json.sortKeys_arr] at elementsListed
  unfold verifySbom
  rw [readJson_jsonBytes py header.wellFormed, ok_bind,
    getD_of_field? (field?_sorted header.wellFormed header.bomFormat), ok_bind,
    getD_of_field? (field?_sorted header.wellFormed header.specVersion), ok_bind,
    getD_of_field? (field?_sorted header.wellFormed hasMetadata), ok_bind,
    getD_of_field? (field?_sorted metadataWellFormed hasComponent), ok_bind,
    sha256Of_sorted (metadataWellFormed.field? hasComponent) hashes, ok_bind,
    getD_of_field? elementsListed, ok_bind, elements, ok_bind, collapsed, ok_bind,
    getItem_ok_iff.mpr recorded, ok_bind, itemsOf, ok_bind, expanded, ok_bind, same]
  simp only [Json.pyEq_sortKeys, Json.pyEq_refl, Bool.not_true, Bool.or_self, raiseIf_false, ok_bind]

/-- A bill of materials is accepted for its own AAR and manifest. -/
theorem verifySbom_derived {source : Json} {contract : Contract} {apiOnly : Bool}
    {manifest components : Dict String Json} {sbom : Json}
    (published : Published source contract version apiOnly components manifest)
    (wellFormed : (Json.ofDict manifest).WellFormed)
    (records : ∀ name record, components.get? name = some record →
      ∃ data, record = componentRecord py data)
    (derived : cyclonedxSbom py group artifact version aar (.ofDict manifest) = .ok sbom) :
    verifySbom py (jsonBytes sbom) aar (Json.ofDict manifest).sortKeys = .ok () := by
  obtain ⟨entries, sorted⟩ := @exists_entries py (sortByKey components.items) fun item member =>
    records item.1 item.2 (Dict.get?_eq_some_iff.mpr (mem_sortByKey.mp member))
  obtain ⟨sbomWellFormed, bomFormat, specVersion, files, hashes⟩ :=
    cyclonedxSbom_ok published.recorded sorted wellFormed derived
  have recorded := field?_loaded wellFormed published.recorded
  have sortedComponents : (Json.ofDict components).sortKeys =
      .obj (entries.map fun entry => (entry.1, (componentRecord py entry.2).sortKeys)) := by
    rw [Json.ofDict, Json.sortKeys_obj, sorted, List.map_map]
    rfl
  rw [sortedComponents] at recorded
  have actual := @componentHashes_entries py entries Dict.empty
  rw [← Function.comp_def Json.sortKeys, ← List.map_map] at actual
  exact verifySbom_written ⟨sbomWellFormed, bomFormat, specVersion, hashes⟩ files actual recorded
    (expectedHashes_entries entries Dict.empty) (sameHashes_refl _)

end Sbom

end BssLiteRt.Complete

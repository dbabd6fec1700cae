import BssLiteRt.Archive.FixedNames
import BssLiteRt.Complete.Consistency
import BssLiteRt.Complete.StagingMain

/-!
Owns a publication on its way from the packaged AAR to the checked repository: prepared,
published by Gradle, given sidecars, and verified.
-/

namespace BssLiteRt.Complete

open BssLiteRt.Library BssLiteRt.Python BssLiteRt.Archive
open BssLiteRt.Complete.MavenChecksums

/-! ### What the checks demand -/

section Checks

variable {py : StandardLibrary} {directory : Dict String Bytes}

/-- A POM that is accepted for a coordinate. -/
structure AcceptedPom (parse : Bytes → Py Element) (pom : Bytes)
    (group artifact version : String) : Prop where
  described : ∃ root, parse pom = .ok root ∧ root.textOf "groupId" = some group ∧
    root.textOf "artifactId" = some artifact ∧ root.textOf "version" = some version ∧
    root.textOf "packaging" = some "aar" ∧
    (∀ name ∈ requiredMetadata, root.find name ≠ none) ∧
    ∀ dependencies, root.find "dependencies" = some dependencies → dependencies.children = []
  markerFree : ∃ text, readTextUtf8 pom = .ok text ∧
    ∀ marker ∈ forbiddenMarkers, ¬ marker.toList <:+: text.toList

theorem verifyPom_ok_iff {parse : Bytes → Py Element} {pom : Bytes}
    {group artifact version : String} :
    verifyPom py parse pom group artifact version = .ok () ↔
      AcceptedPom parse pom group artifact version := by
  simp only [verifyPom, bind_eq_ok, exists_unit, raiseIf_eq_ok, rejectPomMarkers,
    rejectOccurrences_ok_iff,
    decide_eq_false_iff_not, not_not, List.cons.injEq, and_true, List.filter_eq_nil_iff,
    Option.any_eq_false, Bool.not_eq_false', List.isEmpty_iff, Option.isNone_iff_eq_none]
  constructor
  · rintro ⟨root, parsed, ⟨groupId, artifactId, hasVersion⟩, packaging, metadata, plain, text, read,
      free⟩
    exact ⟨⟨root, parsed, groupId, artifactId, hasVersion, packaging, metadata, plain⟩, text, read,
      free⟩
  · rintro ⟨⟨root, parsed, groupId, artifactId, hasVersion, packaging, metadata, plain⟩, text, read,
      free⟩
    exact ⟨root, parsed, ⟨groupId, artifactId, hasVersion⟩, packaging, metadata, plain, text, read,
      free⟩

/-- Every file has a signature that `gpg` accepts. -/
def SignedBy (gpg : Bytes → Bytes → Option String) (directory : Dict String Bytes)
    (names : List String) : Prop :=
  ∀ name ∈ names, ∃ signature data, directory.get? (signatureName name) = some signature ∧
    directory.get? name = some data ∧ gpg signature data = none

theorem verifySignatures_ok_iff {gpg : Bytes → Bytes → Option String} {names : List String} :
    verifySignatures gpg directory names = .ok () ↔ SignedBy gpg directory names := by
  induction names with
  | nil => simp [verifySignatures, SignedBy]
  | cons name rest hypothesis =>
      rw [SignedBy, List.forall_mem_cons, ← SignedBy, ← hypothesis]
      simp only [verifySignatures, bind_eq_ok, exists_unit, raiseIf_eq_ok, readFile_eq_ok,
        decide_eq_false_iff_not, not_not, Dict.mem_iff_get?]
      constructor
      · rintro ⟨-, signature, isSignature, data, isData, checked⟩
        split at checked
        · exact ⟨⟨signature, data, isSignature, isData, by assumption⟩, checked⟩
        · exact absurd checked raise_ne_ok
      · rintro ⟨⟨signature, data, isSignature, isData, accepted⟩, later⟩
        exact ⟨⟨signature, isSignature⟩, signature, isSignature, data, isData, by
          rw [accepted]; exact later⟩

theorem checkSignatures_ok_iff {options : StagingOptions} {names : List String} :
    checkSignatures options directory names = .ok () ↔
      (options.requireSignatures = true → SignedBy options.gpg directory names) := by
  rw [checkSignatures]
  split
  · rename_i required
    rw [verifySignatures_ok_iff]
    exact ⟨fun signed _ => signed, fun signed => signed required⟩
  · rename_i notRequired
    exact ⟨fun _ required => absurd required notRequired, fun _ => rfl⟩

theorem requireZipEntries_ok_iff {name : String} {archive : Bytes} {required : List String} :
    requireZipEntries py name archive required = .ok () ↔
      ∃ stored, py.zipfile.read archive = .ok stored ∧
        ∀ name, name ∈ (filenames stored).filter (fun name => !endsWith name "/") ↔
          name ∈ required := by
  simp only [requireZipEntries, bind_eq_ok, exists_unit, raiseIf_eq_ok, decide_eq_false_iff_not,
    not_not, Bool.not_eq_false', sortedDifference_eq_nil_iff, sameNames_iff]
  refine exists_congr fun stored => and_congr_right fun _ => ?_
  exact ⟨And.right, fun same => ⟨fun name => (same name).mpr, same⟩⟩

/-- A text that is long enough and holds the marker. -/
def AttachedText (data : Bytes) (marker : String) : Prop :=
  ∃ text, readTextUtf8 data = .ok text ∧ 100 ≤ text.toList.length ∧
    marker.toList <:+: text.toList

theorem verifyAttachment_ok_iff {name marker : String} {data : Bytes}
    (found : directory.get? name = some data) :
    verifyAttachment directory name marker = .ok () ↔ AttachedText data marker := by
  simp only [verifyAttachment, readFile_eq_ok.mpr found, ok_bind, bind_eq_ok, raiseIf_eq_ok,
    decide_eq_false_iff_not, not_or, Nat.not_lt, AttachedText, occursIn, Bool.not_eq_true',
    decide_eq_false_iff_not, not_not]

end Checks

/-! ### The published files -/

/-- Gradle copies the prepared files into the version directory, beside the POM. -/
structure Publishes (front : String) (output directory : Dict String Bytes) (pom : Bytes) :
    Prop where
  copied : ∀ ending ∈ preparedEndings,
    directory.get? (front ++ ending) = output.get? (front ++ ending)
  pom : directory.get? (front ++ ".pom") = some pom

/-- The files of a publication are in the version directory. -/
structure Staged (front : String) (inputs : PublicationInputs) (documents : Documents)
    (pom : Bytes) (directory : Dict String Bytes) : Prop where
  prepared : ∀ item ∈ preparedItems inputs documents,
    directory.get? (front ++ item.1) = some item.2
  pom : directory.get? (front ++ ".pom") = some pom

section Staged

variable {py : StandardLibrary} {front : String} {inputs : PublicationInputs}
  {documents : Documents} {pom : Bytes} {output directory repository : Dict String Bytes}

/-- The last character tells a file of the publication from a sidecar. -/
theorem isSidecar_expected {ending : String} (expected : ending ∈ expectedEndings) :
    isSidecar (front ++ ending) = false := by
  have lasts : ∀ ending ∈ expectedEndings, ∀ suffix ∈ sidecarSuffixes,
      ending.toList ≠ [] ∧ suffix.toList ≠ [] ∧
        suffix.toList.getLast? ≠ ending.toList.getLast? := by
    decide
  rw [← Bool.not_eq_true, isSidecar, List.any_eq_true]
  rintro ⟨suffix, isSuffix, ends⟩
  obtain ⟨ended, nonempty, other⟩ := lasts ending expected suffix isSuffix
  rw [endsWith, List.isSuffixOf_iff_suffix] at ends
  obtain ⟨before, shape⟩ := ends
  apply other
  rw [← List.getLast?_append_of_ne_nil before nonempty, shape, String.toList_append,
    List.getLast?_append_of_ne_nil _ ended]

theorem Staged.present (staged : Staged front inputs documents pom directory) {ending : String}
    (expected : ending ∈ expectedEndings) : front ++ ending ∈ directory := by
  have cases : ∀ ending ∈ expectedEndings, ending = ".pom" ∨ ending ∈ preparedEndings := by decide
  rcases cases ending expected with rfl | prepared
  · exact Dict.mem_iff_get?.mpr ⟨_, staged.pom⟩
  · obtain ⟨item, member, rfl⟩ := List.mem_map.mp
      (show ending ∈ (preparedItems inputs documents).map Prod.fst from prepared)
    exact Dict.mem_iff_get?.mpr ⟨_, staged.prepared item member⟩

theorem mem_expectedPayloads {artifact version name : String} :
    name ∈ expectedPayloads artifact version ↔
      ∃ ending ∈ expectedEndings, artifact ++ "-" ++ version ++ ending = name := by
  rw [expectedPayloads, List.mem_insertionSort, List.mem_map]

theorem Publishes.staged (publishes : Publishes front output directory pom)
    (stored : ∀ item ∈ preparedItems inputs documents, output.get? (front ++ item.1) = some item.2) :
    Staged front inputs documents pom directory where
  prepared := fun item member =>
    (publishes.copied item.1 (List.mem_map_of_mem member)).trans (stored item member)
  pom := publishes.pom

/-- The sidecars do not touch the files of the publication. -/
theorem Staged.written (staged : Staged front inputs documents pom directory)
    (written : SidecarsWritten py (payloads directory) directory repository) :
    Staged front inputs documents pom repository where
  prepared := by
    intro item member
    have expected : item.1 ∈ expectedEndings := by
      have within : ∀ ending ∈ preparedEndings, ending ∈ expectedEndings := by decide
      exact within item.1 (List.mem_map_of_mem member)
    rw [written.payload (isSidecar_expected expected)]
    exact staged.prepared item member
  pom := by
    rw [written.payload (isSidecar_expected (by decide))]
    exact staged.pom

theorem Staged.checksums {artifact version : String}
    (staged : Staged (artifact ++ "-" ++ version) inputs documents pom directory)
    (written : SidecarsWritten py (payloads directory) directory repository) :
    verifyChecksums py repository (expectedPayloads artifact version) = .ok () := by
  apply written.verified
  intro name member
  obtain ⟨ending, expected, rfl⟩ := mem_expectedPayloads.mp member
  exact ⟨staged.present expected, isSidecar_expected expected⟩

/-- What the script finds in a version directory that holds the publication. -/
theorem verifyStagingMain_iff {options : StagingOptions} {contract : Contract}
    {sourceFiles : Bytes} {sourceLock : Document}
    (staged : Staged (options.artifact ++ "-" ++ options.version) inputs documents pom directory)
    (checksums : verifyChecksums py directory
      (expectedPayloads options.artifact options.version) = .ok ()) :
    verifyStagingMain py options contract sourceFiles sourceLock directory = .ok () ↔
      (options.requireSignatures = true →
        SignedBy options.gpg directory (expectedPayloads options.artifact options.version)) ∧
      AcceptedPom options.parse pom options.group options.artifact options.version ∧
      verifyModule py documents.moduleMetadata options.group options.artifact options.version
        inputs.aar = .ok () ∧
      verifyNativeMatrix py inputs.aar contract options.apiOnly = .ok () ∧
      (∃ manifest, verifyBuildManifest py documents.buildManifest inputs.aar contract options.group
          options.artifact options.version sourceLock options.apiOnly = .ok manifest ∧
        verifySbom py documents.sbom inputs.aar manifest = .ok ()) ∧
      (∃ text stored, readTextUtf8 sourceFiles = .ok text ∧
        py.zipfile.read documents.sourcesJar = .ok stored ∧
        ∀ name, name ∈ (filenames stored).filter (fun name => !endsWith name "/") ↔
          name ∈ allowlistEntries text ++ [sourceLicenseName]) ∧
      (∃ stored, py.zipfile.read documents.javadocJar = .ok stored ∧
        ∀ name, name ∈ (filenames stored).filter (fun name => !endsWith name "/") ↔
          name ∈ ["element-list", "index.html"]) ∧
      AttachedText inputs.thirdPartyLicenses "License" ∧ AttachedText inputs.notices "LiteRT" := by
  have prepared := staged.prepared
  simp only [preparedItems, List.forall_mem_cons] at prepared
  obtain ⟨aar, sourcesJar, javadocJar, moduleFile, sbom, manifest, licenses, notices, -⟩ := prepared
  have noneMissing : (expectedPayloads options.artifact options.version).filter
      (· ∉ directory) = [] := by
    rw [List.filter_eq_nil_iff]
    intro name member
    obtain ⟨ending, expected, rfl⟩ := mem_expectedPayloads.mp member
    simpa using staged.present expected
  unfold verifyStagingMain
  simp only [noneMissing, ne_eq, not_true_eq_false, decide_false, raiseIf_false, ok_bind, checksums,
    readFile_eq_ok.mpr staged.pom, readFile_eq_ok.mpr aar, readFile_eq_ok.mpr sourcesJar,
    readFile_eq_ok.mpr javadocJar, readFile_eq_ok.mpr moduleFile, readFile_eq_ok.mpr sbom,
    readFile_eq_ok.mpr manifest, bind_eq_ok, exists_unit, checkSignatures_ok_iff,
    verifyPom_ok_iff, requireZipEntries_ok_iff, verifyAttachment_ok_iff licenses,
    verifyAttachment_ok_iff notices]
  refine and_congr_right fun _ => and_congr_right fun _ => and_congr_right fun _ =>
    and_congr_right fun _ => ?_
  constructor
  · rintro ⟨loaded, accepted, text, read, ⟨stored, opened, same⟩, javadoc, matching, attached⟩
    exact ⟨⟨loaded, accepted, matching⟩, ⟨text, stored, read, opened, same⟩, javadoc, attached⟩
  · rintro ⟨⟨loaded, accepted, matching⟩, ⟨text, stored, read, opened, same⟩, javadoc, attached⟩
    exact ⟨loaded, accepted, text, read, ⟨stored, opened, same⟩, javadoc, matching, attached⟩

end Staged

/-! ### A prepared publication -/

section Prepared

variable {py : StandardLibrary} {inputs : PublicationInputs} {contract : Contract}
  {loaded : LoadedContract} {version : String} {apiOnly : Bool} {source sbom : Json}
  {manifest : Dict String Json} {allowlist : List String} {sources : Dict String Bytes}
  {sourcesJar javadocJar : Bytes}

theorem mem_readSources {apiSource : String → Option Bytes} {start : Dict String Bytes}
    (returned : readSources apiSource allowlist start = .ok sources) (name : String) :
    name ∈ sources ↔ name ∈ allowlist ∨ name ∈ start := by
  induction allowlist generalizing start with
  | nil =>
      cases returned
      simp
  | cons relative rest hypothesis =>
      rw [readSources] at returned
      split at returned
      · exact absurd returned raise_ne_ok
      · rw [hypothesis returned, Dict.mem_set_iff, List.mem_cons, or_left_comm, or_assoc]

/-- The names of the sources are those that the checks ask for. -/
theorem PreparedFrom.sources_stored_iff
    (prepared : PreparedFrom py inputs contract loaded version apiOnly source sbom manifest
      allowlist sources sourcesJar javadocJar) :
    (∃ text stored, readTextUtf8 inputs.sourceFiles = .ok text ∧
      py.zipfile.read sourcesJar = .ok stored ∧
      ∀ name, name ∈ (filenames stored).filter (fun name => !endsWith name "/") ↔
        name ∈ allowlistEntries text ++ [sourceLicenseName]) ↔
      ∀ name ∈ allowlist, IsNormalised name := by
  obtain ⟨text, read, allowed⟩ := bind_eq_ok.mp prepared.allowed
  simp only [bind_eq_ok, exists_unit, raiseIf_eq_ok, pure_eq_ok, Except.ok.injEq] at allowed
  obtain ⟨-, rfl⟩ := allowed
  obtain ⟨stored, opened, -⟩ := filenames_archiveBytes prepared.sourcesWritten
  have names (name : String) : name ∈ sources.set sourceLicenseName inputs.license ↔
      name ∈ allowlistEntries text ++ [sourceLicenseName] := by
    rw [Dict.mem_set_iff, mem_readSources prepared.found, List.mem_append, List.mem_singleton,
      or_comm]
    simp [Dict.mem_iff_get?]
  have stores := stores_names_iff prepared.sourcesWritten opened
  simp only [names] at stores
  constructor
  · rintro ⟨text', stored', read', opened', same⟩ name member
    obtain rfl := Except.ok.inj (read.symm.trans read')
    obtain rfl := Except.ok.inj (opened.symm.trans opened')
    exact stores.mp same name (List.mem_append_left _ member)
  · intro normal
    refine ⟨text, stored, read, opened, stores.mpr fun name member => ?_⟩
    rcases List.mem_append.mp member with listed | license
    · exact normal name listed
    · rw [List.mem_singleton.mp license]
      decide

theorem PreparedFrom.javadoc_stored
    (prepared : PreparedFrom py inputs contract loaded version apiOnly source sbom manifest
      allowlist sources sourcesJar javadocJar) :
    ∃ stored, py.zipfile.read javadocJar = .ok stored ∧
      ∀ name, name ∈ (filenames stored).filter (fun name => !endsWith name "/") ↔
        name ∈ ["element-list", "index.html"] := by
  obtain ⟨stored, opened, -⟩ := filenames_archiveBytes prepared.javadocWritten
  have normal : ∀ name ∈ ["element-list", "index.html"], IsNormalised name := by decide
  exact ⟨stored, opened, (stores_names_iff prepared.javadocWritten opened).mpr normal⟩

/-- The checks on the documents are the consistency of the publication. -/
theorem PreparedFrom.consistent_iff {sourceLock : Document}
    (prepared : PreparedFrom py inputs contract loaded version apiOnly source sbom manifest
      allowlist sources sourcesJar javadocJar) :
    (verifyModule py (jsonBytes (gradleModuleMetadata py contract.group contract.name version
        inputs.aar)) contract.group contract.name version inputs.aar = .ok () ∧
      verifyNativeMatrix py inputs.aar contract apiOnly = .ok () ∧
      ∃ read, verifyBuildManifest py (jsonBytes (.ofDict manifest)) inputs.aar contract
          contract.group contract.name version sourceLock apiOnly = .ok read ∧
        verifySbom py (jsonBytes sbom) inputs.aar read = .ok ()) ↔
      Consistent py contract sourceLock version source inputs.aar apiOnly := by
  constructor
  · rintro ⟨moduleMetadata, nativeMatrix, read, accepted, matching⟩
    exact ⟨moduleMetadata, nativeMatrix, manifest, read, sbom, prepared.described, accepted,
      prepared.materials, matching⟩
  · rintro ⟨moduleMetadata, nativeMatrix, other, read, materials, described, accepted, derived,
      matching⟩
    obtain rfl := Except.ok.inj (prepared.described.symm.trans described)
    obtain rfl := Except.ok.inj (prepared.materials.symm.trans derived)
    exact ⟨moduleMetadata, nativeMatrix, read, accepted, matching⟩

/-- A prepared publication is verified under the conditions that its documents do not
settle. -/
theorem PreparedFrom.verified_iff {sourceLock : Document} {options : StagingOptions}
    {front : String} {stored before directory repository : Dict String Bytes} {pom : Bytes}
    (prepared : PreparedFrom py inputs contract loaded version apiOnly source sbom manifest
      allowlist sources sourcesJar javadocJar)
    (isFront : front = contract.name ++ "-" ++ version)
    (isStored : stored = storePublication front inputs
      (publicationDocuments py contract version inputs.aar manifest sbom sourcesJar javadocJar)
      before)
    (asked : options.group = contract.group ∧ options.artifact = contract.name ∧
      options.version = version ∧ options.apiOnly = apiOnly)
    (published : ∀ ending ∈ preparedEndings,
      directory.get? (front ++ ending) = stored.get? (front ++ ending))
    (hasPom : directory.get? (front ++ ".pom") = some pom)
    (written : writeMavenChecksums py directory = .ok repository) :
    verifyStagingMain py options contract inputs.sourceFiles sourceLock repository = .ok () ↔
      (options.requireSignatures = true → SignedBy options.gpg repository
        (expectedPayloads options.artifact options.version)) ∧
      AcceptedPom options.parse pom options.group options.artifact options.version ∧
      Consistent py contract sourceLock version source inputs.aar apiOnly ∧
      (∀ name ∈ allowlist, IsNormalised name) ∧
      AttachedText inputs.thirdPartyLicenses "License" ∧ AttachedText inputs.notices "LiteRT" := by
  obtain ⟨written', isWritten, sidecars⟩ := @writeMavenChecksums_run py directory
  obtain rfl := Except.ok.inj (isWritten.symm.trans written)
  obtain ⟨isGroup, isArtifact, isVersion, isApiOnly⟩ := asked
  rw [← isArtifact, ← isVersion] at isFront
  subst isFront
  have staged : Staged (options.artifact ++ "-" ++ options.version) inputs (publicationDocuments py
      contract version inputs.aar manifest sbom sourcesJar javadocJar) pom directory := by
    refine ⟨fun item member => ?_, hasPom⟩
    rw [published item.1 (List.mem_map_of_mem member), isStored]
    exact get?_storePublication member
  have found := @verifyStagingMain_iff py inputs _ pom _ options contract inputs.sourceFiles
    sourceLock (staged.written sidecars) (staged.checksums sidecars)
  simp only [publicationDocuments, isGroup, isArtifact, isVersion, isApiOnly] at found ⊢
  rw [found, prepared.sources_stored_iff, ← prepared.consistent_iff]
  refine and_congr_right fun _ => and_congr_right fun _ => ?_
  constructor
  · rintro ⟨moduleMetadata, nativeMatrix, documents, normal, -, attached⟩
    exact ⟨⟨moduleMetadata, nativeMatrix, documents⟩, normal, attached⟩
  · rintro ⟨⟨moduleMetadata, nativeMatrix, documents⟩, normal, attached⟩
    exact ⟨moduleMetadata, nativeMatrix, documents, normal, prepared.javadoc_stored, attached⟩

end Prepared

/-! ### Publications -/

/-- What every publication has to bring along: signatures where they are required, a POM
for the coordinate, source names that an archive stores as they are, and attached texts. -/
structure Publishable (options : StagingOptions) (publication : PublicationInputs) (pom : Bytes)
    (repository : Dict String Bytes) : Prop where
  signed : options.requireSignatures = true →
    SignedBy options.gpg repository (expectedPayloads options.artifact options.version)
  pom : AcceptedPom options.parse pom options.group options.artifact options.version
  markerFree : MarkerFree options.group options.artifact options.version
  sources : ∃ text, readTextUtf8 publication.sourceFiles = .ok text ∧
    ∀ name ∈ allowlistEntries text, IsNormalised name
  licenses : AttachedText publication.thirdPartyLicenses "License"
  notices : AttachedText publication.notices "LiteRT"

/-- The script is asked about the coordinate of the contract. -/
def StagingOptions.AsksFor (options : StagingOptions) (contract : Contract) (version : String)
    (apiOnly : Bool) : Prop :=
  options.group = contract.group ∧ options.artifact = contract.name ∧
    options.version = version ∧ options.apiOnly = apiOnly

section Publications

variable {py : StandardLibrary} {publication : PublicationInputs} {contract : Contract}
  {loaded : LoadedContract} {version : String} {apiOnly : Bool} {source sbom : Json}
  {manifest : Dict String Json} {allowlist : List String} {sources : Dict String Bytes}
  {sourcesJar javadocJar : Bytes}

theorem PreparedFrom.publishable_iff {options : StagingOptions} {pom : Bytes}
    {repository : Dict String Bytes}
    (prepared : PreparedFrom py publication contract loaded version apiOnly source sbom manifest
      allowlist sources sourcesJar javadocJar) :
    Publishable options publication pom repository ↔
      (options.requireSignatures = true → SignedBy options.gpg repository
        (expectedPayloads options.artifact options.version)) ∧
      AcceptedPom options.parse pom options.group options.artifact options.version ∧
      MarkerFree options.group options.artifact options.version ∧
      (∀ name ∈ allowlist, IsNormalised name) ∧
      AttachedText publication.thirdPartyLicenses "License" ∧
      AttachedText publication.notices "LiteRT" := by
  obtain ⟨text, read, allowed⟩ := bind_eq_ok.mp prepared.allowed
  simp only [bind_eq_ok, exists_unit, raiseIf_eq_ok, pure_eq_ok, Except.ok.injEq] at allowed
  obtain ⟨-, rfl⟩ := allowed
  constructor
  · rintro ⟨signed, pom, markerFree, ⟨text', read', normal⟩, licenses, notices⟩
    obtain rfl := Except.ok.inj (read.symm.trans read')
    exact ⟨signed, pom, markerFree, normal, licenses, notices⟩
  · rintro ⟨signed, pom, markerFree, normal, licenses, notices⟩
    exact ⟨signed, pom, markerFree, ⟨text, read, normal⟩, licenses, notices⟩

/-- A build manifest that was accepted for the packaged AAR records all of its libraries. -/
theorem Packed.noneHidden {inputs : Inputs} {output : Output} {api entries : Dict String Bytes}
    {sourceLock : Document} {packed : Dict String Json}
    (isPacked : Packed py inputs contract sourceLock version output api entries packed)
    (plain : contract.PlainLibraries)
    (described : publicationBuildManifest py (Json.ofDict packed).sortKeys contract version
      output.aar false = .ok manifest) : ¬ HidesLibrary api := by
  obtain ⟨-, -, -, recorded⟩ := isPacked.manifest_fields
  obtain ⟨components, listed, -, same_iff⟩ := isPacked.components_iff plain
  obtain ⟨components', -, -, relisted, -, accepted, -⟩ := publicationBuildManifest_ok_iff.mp described
  obtain rfl := Except.ok.inj ((listed "").symm.trans (relisted ""))
  rw [checkComponents, if_neg Bool.false_ne_true, sourceComponents_recorded recorded, ok_bind,
    raiseIf_eq_ok, Bool.not_eq_false', Json.pyEq_iff, Json.normal_sortKeys, ← Json.pyEq_iff]
    at accepted
  exact same_iff.mp accepted

theorem Packed.consistent_iff_markerFree {inputs : Inputs} {output : Output}
    {api entries : Dict String Bytes} {sourceLock : Document} {packed : Dict String Json}
    (isPacked : Packed py inputs contract sourceLock version output api entries packed)
    (plain : contract.PlainLibraries) (namePlain : PurePosixPath.IsPlainComponent contract.name)
    (versionPlain : PurePosixPath.IsPlainComponent version) (noneHidden : ¬ HidesLibrary api)
    (commit : NamesCommit sourceLock.val) :
    Consistent py contract sourceLock version (Json.ofDict packed).sortKeys output.aar false ↔
      MarkerFree contract.group contract.name version := by
  obtain ⟨-, -, -, recorded⟩ := isPacked.manifest_fields
  obtain ⟨components, listed, complete, same_iff⟩ := isPacked.components_iff plain
  have same := same_iff.mpr noneHidden
  rw [Json.pyEq_iff, ← Json.normal_sortKeys, ← Json.pyEq_iff] at same
  have consistent := isPacked.consistent_iff plain namePlain versionPlain
  constructor
  · intro documents
    exact (consistent.mp
      ⟨⟨_, components, recorded, archiveComponents_ok listed complete, same⟩, documents⟩).2.1
  · intro markerFree
    exact (consistent.mpr ⟨noneHidden, markerFree, commit⟩).2

/-- Where the documents are consistent for a name without markers, a publication is
verified when it is publishable. -/
theorem PreparedFrom.verified_iff_publishable {sourceLock : Document} {options : StagingOptions}
    {stored before output directory repository : Dict String Bytes} {pom : Bytes}
    (prepared : PreparedFrom py publication contract loaded version apiOnly source sbom manifest
      allowlist sources sourcesJar javadocJar)
    (isStored : stored = storePublication (contract.name ++ "-" ++ version) publication
      (publicationDocuments py contract version publication.aar manifest sbom sourcesJar javadocJar)
      before)
    (isOutput : output = stored.set inputsManifestName
      (jsonBytes (inputsManifest py contract.group contract.name version stored)))
    (asked : options.AsksFor contract version apiOnly)
    (published : Publishes (contract.name ++ "-" ++ version) output directory pom)
    (written : writeMavenChecksums py directory = .ok repository)
    (consistent : Consistent py contract sourceLock version source publication.aar apiOnly ↔
      MarkerFree contract.group contract.name version) :
    verifyStagingMain py options contract publication.sourceFiles sourceLock repository = .ok () ↔
      Publishable options publication pom repository := by
  have copied : ∀ ending ∈ preparedEndings,
      directory.get? (contract.name ++ "-" ++ version ++ ending) =
        stored.get? (contract.name ++ "-" ++ version ++ ending) := by
    intro ending member
    rw [published.copied ending member, isOutput, Dict.get?_set,
      if_neg (prepared_ne_inputsManifestName member)]
  rw [prepared.verified_iff rfl isStored asked copied published.pom written,
    prepared.publishable_iff, consistent, asked.1, asked.2.1, asked.2.2.1]

/-- The preparation completes once its documents can be read. -/
theorem prepareMain_completes
    (readSource : readJson py publication.buildManifest = .ok source)
    (described : publicationBuildManifest py source contract version publication.aar apiOnly =
      .ok manifest)
    (commit : NamesCommit source)
    (allowed : readSourceAllowlist publication.sourceFiles = .ok allowlist)
    (found : readSources publication.apiSource allowlist Dict.empty = .ok sources)
    (normal : ∀ name ∈ allowlist, IsNormalName name) (before : Dict String Bytes) :
    ∃ output, prepareMain py publication contract loaded version apiOnly before = .ok output := by
  obtain ⟨sbom, derived⟩ := cyclonedxSbom_completes described commit
  have sourceNames : ∀ name ∈ sources.set sourceLicenseName publication.license,
      IsNormalName name := by
    intro name member
    rcases Dict.mem_set_iff.mp member with rfl | inSources
    · decide
    · exact normal name (((mem_readSources found name).mp inSources).resolve_right
        (by simp [Dict.mem_iff_get?]))
  have docNames : ∀ name ∈ javadocEntries loaded.document, IsNormalName name := by
    have names : ∀ name ∈ ["element-list", "index.html"], IsNormalName name := by decide
    exact names
  obtain ⟨sourcesJar, sourcesWritten⟩ := archiveBytes_of_normal py sourceNames
  obtain ⟨javadocJar, javadocWritten⟩ := archiveBytes_of_normal py docNames
  unfold prepareMain
  rw [readSource, ok_bind]
  dsimp only
  rw [described, ok_bind, allowed, ok_bind, found, ok_bind, sourcesWritten, ok_bind,
    javadocWritten, ok_bind, derived]
  exact ⟨_, rfl⟩

end Publications

/-- The AAR of a package, prepared with its own build manifest, published by Gradle and
given sidecars, is verified exactly when the publication brings along what the package
does not determine. -/
theorem complete_publication_verifies_iff (py : StandardLibrary) (inputs : Inputs)
    (contract : Contract) (loaded : LoadedContract) (sourceLock : Document) (version : String)
    (package : Output) (publication : PublicationInputs) (options : StagingOptions) (pom : Bytes)
    (before output directory repository : Dict String Bytes)
    (plain : contract.PlainLibraries) (namePlain : PurePosixPath.IsPlainComponent contract.name)
    (versionPlain : PurePosixPath.IsPlainComponent version)
    (packaged : packageMain py inputs contract sourceLock version = .ok package)
    (sameAar : publication.aar = package.aar)
    (sameManifest : publication.buildManifest = package.manifest)
    (prepared : prepareMain py publication contract loaded version false before = .ok output)
    (asked : options.AsksFor contract version false)
    (published : Publishes (contract.name ++ "-" ++ version) output directory pom)
    (written : writeMavenChecksums py directory = .ok repository) :
    verifyStagingMain py options contract publication.sourceFiles sourceLock repository = .ok () ↔
      Publishable options publication pom repository := by
  obtain ⟨api, entries, packed, isPacked⟩ := packed_of_ok plain packaged
  obtain ⟨source, sbom, manifest, allowlist, sources, sourcesJar, javadocJar, stored, derived,
    isStored, isOutput⟩ := prepareMain_eq_ok prepared
  obtain ⟨-, read, carries, -⟩ := isPacked.manifest_fields
  have readSource := derived.readSource
  rw [sameManifest, read] at readSource
  obtain rfl := Except.ok.inj readSource
  have noneHidden := isPacked.noneHidden plain (sameAar ▸ derived.described)
  have commit := carries.namesCommit_iff.mp (namesCommit_of_sbom derived.described derived.materials)
  refine derived.verified_iff_publishable isStored isOutput asked published written ?_
  rw [sameAar]
  exact isPacked.consistent_iff_markerFree plain namePlain versionPlain noneHidden commit

/-- So is an AAR without native libraries, prepared as a fixture. -/
theorem api_only_publication_verifies_iff (py : StandardLibrary) (contract : Contract)
    (loaded : LoadedContract) (sourceLock : Document) (version : String)
    (publication : PublicationInputs) (options : StagingOptions) (pom : Bytes) (source : Json)
    (stored : List ZipEntry) (before output directory repository : Dict String Bytes)
    (namePlain : PurePosixPath.IsPlainComponent contract.name)
    (versionPlain : PurePosixPath.IsPlainComponent version)
    (apiAar : ApiOnlyAar py publication.aar stored)
    (read : readJson py publication.buildManifest = .ok source) (wellFormed : source.WellFormed)
    (carries : CarriesLock source sourceLock)
    (prepared : prepareMain py publication contract loaded version true before = .ok output)
    (asked : options.AsksFor contract version true)
    (published : Publishes (contract.name ++ "-" ++ version) output directory pom)
    (written : writeMavenChecksums py directory = .ok repository) :
    verifyStagingMain py options contract publication.sourceFiles sourceLock repository = .ok () ↔
      Publishable options publication pom repository := by
  obtain ⟨source', sbom, manifest, allowlist, sources, sourcesJar, javadocJar, _, derived,
    isStored, isOutput⟩ := prepareMain_eq_ok prepared
  obtain rfl := Except.ok.inj (read.symm.trans derived.readSource)
  have commit := carries.namesCommit_iff.mp (namesCommit_of_sbom derived.described derived.materials)
  refine derived.verified_iff_publishable isStored isOutput asked published written ?_
  rw [apiAar.consistent_iff namePlain versionPlain wellFormed carries]
  exact and_iff_left commit

/-! ### A publication -/

def samplePom : Element :=
  let tag (name : String) := "{http://maven.apache.org/POM/4.0.0}" ++ name
  let leaf (name text : String) := Element.mk (tag name) (some text) []
  .mk (tag "project") none [leaf "groupId" "org.example", leaf "artifactId" "runtime",
    leaf "version" "1.0", leaf "packaging" "aar", leaf "name" "", leaf "description" "",
    leaf "url" "", leaf "licenses" "", leaf "developers" "", leaf "scm" ""]

def sampleOptions (apiOnly : Bool) : StagingOptions where
  group := "org.example"
  artifact := "runtime"
  version := "1.0"
  apiOnly := apiOnly
  parse := fun _ => .ok samplePom
  requireSignatures := false
  gpg := fun _ _ => none

def sampleText : String :=
  String.ofList ("LiteRT License".toList ++ List.replicate 100 ' ')

def samplePublication (aar buildManifest : Bytes) : PublicationInputs where
  aar := aar
  apiSource := fun _ => some []
  sourceFiles := encodeUtf8 "org/Api.kt\n"
  buildManifest := buildManifest
  license := []
  thirdPartyLicenses := encodeUtf8 sampleText
  notices := encodeUtf8 sampleText

def sampleLoaded : LoadedContract where
  api := ⟨Dict.empty, Dict.empty⟩
  heap := ⟨[]⟩
  requiredAllocated := by simp
  extensionsAllocated := by simp

section Sample

variable {aar buildManifest : Bytes}

theorem sample_allowlist : readSourceAllowlist (encodeUtf8 "org/Api.kt\n") = .ok ["org/Api.kt"] := by
  rw [readSourceAllowlist, readTextUtf8_encodeUtf8 (by decide), ok_bind]
  decide

theorem sample_attached {marker : String} (held : marker.toList <:+: sampleText.toList) :
    AttachedText (encodeUtf8 sampleText) marker :=
  ⟨sampleText, readTextUtf8_encodeUtf8 (by decide), by decide, held⟩

theorem sample_publishable (apiOnly : Bool) (repository : Dict String Bytes) :
    Publishable (sampleOptions apiOnly) (samplePublication aar buildManifest) [] repository where
  signed := nofun
  pom := {
    described := ⟨samplePom, rfl, rfl, rfl, rfl, rfl, by decide, by decide⟩
    markerFree := ⟨"", @readTextUtf8_encodeUtf8 "" (by decide), by decide⟩ }
  markerFree := by
    show MarkerFree "org.example" "runtime" "1.0"
    decide
  sources := ⟨"org/Api.kt\n", readTextUtf8_encodeUtf8 (by decide), by decide⟩
  licenses := sample_attached (by decide)
  notices := sample_attached (by decide)

/-- The sample is prepared, published and given sidecars. -/
theorem sample_stages {source : Json} {manifest : Dict String Json} {apiOnly : Bool}
    (readSource : readJson concreteLibrary buildManifest = .ok source)
    (described : publicationBuildManifest concreteLibrary source sampleContract "1.0" aar apiOnly =
      .ok manifest)
    (commit : NamesCommit source) :
    ∃ output directory repository,
      prepareMain concreteLibrary (samplePublication aar buildManifest) sampleContract sampleLoaded
        "1.0" apiOnly Dict.empty = .ok output ∧
      Publishes (sampleContract.name ++ "-" ++ "1.0") output directory [] ∧
      writeMavenChecksums concreteLibrary directory = .ok repository := by
  obtain ⟨output, prepared⟩ := @prepareMain_completes concreteLibrary
    (samplePublication aar buildManifest) sampleContract sampleLoaded "1.0" apiOnly source manifest
    ["org/Api.kt"] _ readSource described commit sample_allowlist rfl (by decide) Dict.empty
  obtain ⟨repository, written, -⟩ := @writeMavenChecksums_run concreteLibrary
    (output.set (sampleContract.name ++ "-" ++ "1.0" ++ ".pom") [])
  refine ⟨output, _, repository, prepared, ⟨fun ending member => ?_, Dict.get?_set_self _ _ _⟩,
    written⟩
  have apart : ∀ ending ∈ preparedEndings, ending ≠ ".pom" := by decide
  rw [Dict.get?_set, if_neg (append_front_eq_iff.not.mpr (apart ending member))]

end Sample

theorem complete_publication_verifies_iff_sample :
    ∃ package output directory repository,
      packageMain concreteLibrary (sampleInputs pureItems) sampleContract sampleLock "1.0" =
        .ok package ∧
      prepareMain concreteLibrary (samplePublication package.aar package.manifest) sampleContract
        sampleLoaded "1.0" false Dict.empty = .ok output ∧
      Publishes (sampleContract.name ++ "-" ++ "1.0") output directory [] ∧
      writeMavenChecksums concreteLibrary directory = .ok repository ∧
      verifyStagingMain concreteLibrary (sampleOptions false) sampleContract
        (encodeUtf8 "org/Api.kt\n") sampleLock repository = .ok () := by
  obtain ⟨package, packaged⟩ := pure_packs
  obtain ⟨api, entries, packed, isPacked⟩ := packed_of_ok sample_plain packaged
  obtain rfl := Except.ok.inj (pure_read.symm.trans isPacked.apiRead)
  obtain ⟨-, read, carries, -⟩ := isPacked.manifest_fields
  have free : MarkerFree sampleContract.group sampleContract.name "1.0" := by decide
  obtain ⟨manifest, -, -, described, -⟩ := ((isPacked.consistent_iff_markerFree sample_plain
    sample_namePlain sample_versionPlain pure_hides_nothing sample_commit).mpr free).documents
  obtain ⟨output, directory, repository, prepared, published, written⟩ :=
    sample_stages read described (carries.namesCommit_iff.mpr sample_commit)
  refine ⟨package, output, directory, repository, packaged, prepared, published, written, ?_⟩
  exact (complete_publication_verifies_iff concreteLibrary _ sampleContract sampleLoaded sampleLock
    "1.0" package (samplePublication package.aar package.manifest) (sampleOptions false) [] _ _ _ _
    sample_plain sample_namePlain sample_versionPlain packaged rfl rfl prepared
    ⟨rfl, rfl, rfl, rfl⟩ published written).mpr (sample_publishable false repository)

theorem sample_lock : readJson concreteLibrary (jsonBytes sampleLock.val) = .ok sampleLock.val := by
  rw [readJson_jsonBytes concreteLibrary sampleLock.property]
  rfl

theorem sample_fixture_stages :
    ∃ output directory repository,
      prepareMain concreteLibrary (samplePublication (sampleInputs pureItems).apiAar
        (jsonBytes sampleLock.val)) sampleContract sampleLoaded "1.0" true Dict.empty =
          .ok output ∧
      Publishes (sampleContract.name ++ "-" ++ "1.0") output directory [] ∧
      writeMavenChecksums concreteLibrary directory = .ok repository := by
  have free : MarkerFree sampleContract.group sampleContract.name "1.0" := by decide
  obtain ⟨manifest, -, -, described, -⟩ := ((pure_apiOnly.consistent_iff sample_namePlain
    sample_versionPlain sampleLock.property sample_carries).mpr ⟨free, sample_commit⟩).documents
  exact sample_stages sample_lock described sample_commit

theorem api_only_publication_verifies_iff_sample :
    ∃ output directory repository,
      prepareMain concreteLibrary (samplePublication (sampleInputs pureItems).apiAar
        (jsonBytes sampleLock.val)) sampleContract sampleLoaded "1.0" true Dict.empty =
          .ok output ∧
      Publishes (sampleContract.name ++ "-" ++ "1.0") output directory [] ∧
      writeMavenChecksums concreteLibrary directory = .ok repository ∧
      verifyStagingMain concreteLibrary (sampleOptions true) sampleContract
        (encodeUtf8 "org/Api.kt\n") sampleLock repository = .ok () := by
  obtain ⟨output, directory, repository, prepared, published, written⟩ := sample_fixture_stages
  refine ⟨output, directory, repository, prepared, published, written, ?_⟩
  have apiOnly := pure_apiOnly
  have readLock := sample_lock
  generalize (sampleInputs pureItems).apiAar = aar at apiOnly prepared
  generalize jsonBytes sampleLock.val = lockText at readLock prepared
  exact (api_only_publication_verifies_iff concreteLibrary sampleContract sampleLoaded sampleLock
    "1.0" (samplePublication aar lockText) (sampleOptions true) [] _ _ _ _ _ _ sample_namePlain
    sample_versionPlain apiOnly readLock sampleLock.property sample_carries prepared
    ⟨rfl, rfl, rfl, rfl⟩ published written).mpr (sample_publishable true repository)

theorem publication_inputs_described_sample :
    ∃ output data document described,
      prepareMain concreteLibrary (samplePublication (sampleInputs pureItems).apiAar
        (jsonBytes sampleLock.val)) sampleContract sampleLoaded "1.0" true Dict.empty =
          .ok output ∧
      output.get? inputsManifestName = some data ∧
      readJson concreteLibrary data = .ok document ∧ document.field? "files" = some described ∧
      described.field? inputsManifestName = none := by
  obtain ⟨output, -, -, prepared, -, -⟩ := sample_fixture_stages
  obtain ⟨data, document, described, isData, isDocument, files, -, itself⟩ :=
    publication_inputs_described _ _ _ _ _ _ prepared
  refine ⟨output, data, document, described, prepared, isData, isDocument, files, ?_⟩
  rw [itself, Dict.get?_empty, Option.map_none]

end BssLiteRt.Complete

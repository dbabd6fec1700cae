import BssLiteRt.Complete.Package

/-!
Owns the documents that `prepare_maven_publication.py` derives from an AAR: the
publication build manifest, the CycloneDX bill of materials and the Gradle module
metadata.
-/

namespace BssLiteRt.Complete

open BssLiteRt.Library BssLiteRt.Python BssLiteRt.Archive

/-! ### Components -/

/-- The entries that the publication scripts take for components. -/
def isComponent (name : String) : Bool :=
  name = "classes.jar" ∨ startsWith name "jni/" ∧ endsWith name ".so"

/-- The loop over the sorted names, shared by `archive_components` and
`archive_component_records`. -/
def recordComponents (py : StandardLibrary) (stored : List ZipEntry) (names : List String)
    (components : Dict String Json) : Py (Dict String Json) :=
  match names with
  | [] => .ok components
  | name :: rest =>
      if !isComponent name then
        recordComponents py stored rest components
      else do
        let data ← readEntry stored name
        recordComponents py stored rest (components.set name (componentRecord py data))

/-- What `archive_components` and `archive_component_records` share; they have
different messages for duplicate entries. -/
def readComponents (py : StandardLibrary) (duplicateMessage : String) (aar : Bytes) :
    Py (Dict String Json) := do
  let stored ← py.zipfile.read aar
  let names := filenames (stored.filter fun entry => !entry.info.isDir)
  raiseIf (names.length ≠ names.dedup.length) .valueError duplicateMessage
  recordComponents py stored (names.insertionSort (· ≤ ·)) Dict.empty

def archiveComponents (py : StandardLibrary) (aar : Bytes) : Py (Dict String Json) := do
  let components ← readComponents py "AAR contains duplicate entries." aar
  raiseIf ("classes.jar" ∉ components) .valueError "AAR does not contain classes.jar."
  return components

/-! ### The build manifest -/

/-- `source.get("components", {})` without the items that are no components. -/
def sourceComponents (source : Json) : Py Json := do
  let recorded ← itemsOf (← getD source "components" (.obj []))
  return .obj (recorded.filter fun item => isRecorded item.1)

/-- The two ways in which the components of the AAR may be refused. -/
def checkComponents (source : Json) (components : Dict String Json) (allowApiOnly : Bool) :
    Py Unit :=
  if allowApiOnly then
    raiseIf (components.keys.any fun name => startsWith name "jni/") .valueError
      "API-only publication fixture contains JNI libraries."
  else do
    let recorded ← sourceComponents source
    raiseIf (!recorded.pyEq (.ofDict components)) .valueError
      "Build manifest components do not match the publication AAR."

/-- The name of a publication of AARs with or without native libraries. -/
def fixtureName (apiOnly : Bool) : String :=
  if apiOnly then "api-only" else "complete"

def publicationBuildManifest (py : StandardLibrary) (source : Json) (contract : Contract)
    (version : String) (aar : Bytes) (allowApiOnly : Bool) : Py (Dict String Json) := do
  let components ← archiveComponents py aar
  checkComponents source components allowApiOnly
  let liteRt ← getItem source "liteRt"
  let patchSeries ← getItem source "patchSeries"
  return {
    items := [("schemaVersion", .int 1),
      ("artifact", artifactJson contract contract.group contract.name version),
      ("liteRt", liteRt),
      ("patchSeries", patchSeries),
      ("components", .ofDict components),
      ("publicationFixture", .str (fixtureName allowApiOnly))]
    unique := by simp }

/-! ### The Gradle module metadata -/

/-- The file name of the published AAR, in its directory. -/
def aarName (artifact version : String) : String :=
  (PurePosixPath.parse (artifact ++ "-" ++ version ++ ".aar")).name

/-- `{"name": name, "url": name, "size": ..., **hashes}` -/
def fileEntry (py : StandardLibrary) (name : String) (aar : Bytes) : Json :=
  .obj [("name", .str name), ("url", .str name), ("size", .int aar.length),
    ("md5", .str (py.hashlib.md5 aar)), ("sha1", .str (py.hashlib.sha1 aar)),
    ("sha256", .str (py.hashlib.sha256 aar)), ("sha512", .str (py.hashlib.sha512 aar))]

def moduleVariant (name usage : String) (file : Json) : Json :=
  .obj [("name", .str name),
    ("attributes", .obj [("org.gradle.category", .str "library"),
      ("org.gradle.dependency.bundling", .str "external"),
      ("org.gradle.libraryelements", .str "aar"),
      ("org.gradle.status", .str "release"),
      ("org.gradle.usage", .str usage)]),
    ("files", .arr [file])]

def gradleModuleMetadata (py : StandardLibrary) (group artifact version : String) (aar : Bytes) :
    Json :=
  let file := fileEntry py (aarName artifact version) aar
  .obj [("formatVersion", .str "1.1"),
    ("component", .obj [("group", .str group), ("module", .str artifact),
      ("version", .str version),
      ("attributes", .obj [("org.gradle.status", .str "release")])]),
    ("createdBy", .obj [("gradle", .obj [("version", .str "8.9")])]),
    ("variants", .arr [moduleVariant "releaseApiElements" "java-api" file,
      moduleVariant "releaseRuntimeElements" "java-runtime" file])]

/-! ### The bill of materials -/

/-- A component of the bill of materials. -/
def sbomComponent (py : StandardLibrary) (item : String × Json) : Py Json := do
  let sha256 ← getItem item.2 "sha256"
  let bytes ← getItem item.2 "bytes"
  return .obj [("type", .str "file"),
    ("bom-ref", .str ("urn:bss-litert:component:" ++ item.1)),
    ("name", .str item.1),
    ("hashes", .arr [.obj [("alg", .str "SHA-256"), ("content", sha256)]]),
    ("properties", .arr [.obj [("name", .str "bss.litert.component.bytes"),
      ("value", .str (py.str bytes))]])]

def sbomComponents (py : StandardLibrary) : List (String × Json) → Py (List Json)
  | [] => .ok []
  | item :: rest => do
      let component ← sbomComponent py item
      let components ← sbomComponents py rest
      return component :: components

def cyclonedxSbom (py : StandardLibrary) (group artifact version : String) (aar : Bytes)
    (buildManifest : Json) : Py Json := do
  let digest := py.hashlib.sha256 aar
  let bomRef := "pkg:maven/" ++ group ++ "/" ++ artifact ++ "@" ++ version ++ "?type=aar"
  let recorded ← itemsOf (← getItem buildManifest "components")
  let commit ← getItem (← getItem buildManifest "liteRt") "commit"
  let components ← sbomComponents py (sortByKey recorded)
  return .obj [("$schema", .str "https://cyclonedx.org/schema/bom-1.6.schema.json"),
    ("bomFormat", .str "CycloneDX"),
    ("specVersion", .str "1.6"),
    ("serialNumber", .str ("urn:uuid:" ++ py.uuid5 (bomRef ++ digest))),
    ("version", .int 1),
    ("metadata", .obj [("component", .obj [("type", .str "library"),
      ("bom-ref", .str bomRef),
      ("group", .str group),
      ("name", .str artifact),
      ("version", .str version),
      ("purl", .str bomRef),
      ("hashes", .arr [.obj [("alg", .str "SHA-256"), ("content", .str digest)]]),
      ("licenses", .arr [.obj [("license", .obj [("id", .str "Apache-2.0")])]]),
      ("properties", .arr [
        .obj [("name", .str "bss.litert.component.count"),
          ("value", .str (toString recorded.length))],
        .obj [("name", .str "bss.litert.upstream.commit"), ("value", commit)]])])]),
    ("components", .arr components)]

end BssLiteRt.Complete

import BssLiteRt.Python.Runtime

/-!
Owns the downloadable-runtime contract: the fields that the builder and the
verifier read. A field that is only copied or compared stays a JSON document.
-/

namespace BssLiteRt.Downloadable

open BssLiteRt.Library BssLiteRt.Python

def textDocument (text : String) : Document := ⟨.str text, trivial⟩

/-- `contract["apiAar"]` -/
structure ApiAar where
  fileName : String
  embeddedContractPath : String

/-- `contract["cpuCore"]["abis"][abi]` -/
structure CpuAbi where
  sourcePath : String
  bundleFileName : String
  byteSize : Document
  sha256 : Document
  elfClass : Document
  machine : Document
  soname : Document
  systemDependenciesOverride : Option Document

/-- `contract["cpuCore"]` -/
structure CpuCore where
  libraryName : String
  systemDependencies : Document
  abis : Dict String CpuAbi

/-- An element of `contract["boundedGpu"]["files"]` -/
structure GpuFile where
  sourcePath : String
  path : String
  byteSize : Document
  sha256 : Document
  elfClass : Document
  machine : Document
  soname : Document
  needed : Document
  runtimeLoads : Option Document

/-- `contract["boundedGpu"]` -/
structure BoundedGpu where
  abi : Document
  bundleFileName : String
  requiredCoreSha256 : Document
  profile : Document
  files : List GpuFile

structure Contract where
  schemaVersion : Document
  releaseVersion : Document
  releaseTag : Document
  runtimeArtifactVersion : Document
  baseLiteRtVersion : Document
  androidMinApi : Document
  sourceAar : Document
  apiAar : ApiAar
  cpuCore : CpuCore
  boundedGpu : BoundedGpu

/-- `metadata.get("systemDependenciesOverride", contract["cpuCore"]["systemDependencies"])` -/
def CpuAbi.needed (contract : Contract) (metadata : CpuAbi) : Document :=
  metadata.systemDependenciesOverride.getD contract.cpuCore.systemDependencies

/-- `contract["sourceAar"]["classesJarSha256"]` -/
def Contract.classesJarSha256 (contract : Contract) : Py Json :=
  getItem contract.sourceAar.val "classesJarSha256"

/-! ### The document of a contract -/

/-- The fields of an object with one that may be left out. -/
def withOptional (fields : List (String × Json)) (key : String) (value : Option Document) : Json :=
  match value with
  | some value => .obj (fields ++ [(key, value.val)])
  | none => .obj fields

def CpuAbi.document (metadata : CpuAbi) : Json :=
  withOptional [("sourcePath", .str metadata.sourcePath),
    ("bundleFileName", .str metadata.bundleFileName), ("byteSize", metadata.byteSize),
    ("sha256", metadata.sha256), ("elfClass", metadata.elfClass), ("machine", metadata.machine),
    ("soname", metadata.soname)]
    "systemDependenciesOverride" metadata.systemDependenciesOverride

def GpuFile.document (metadata : GpuFile) : Json :=
  withOptional [("path", .str metadata.path), ("sourcePath", .str metadata.sourcePath),
    ("byteSize", metadata.byteSize), ("sha256", metadata.sha256), ("elfClass", metadata.elfClass),
    ("machine", metadata.machine), ("soname", metadata.soname), ("needed", metadata.needed)]
    "runtimeLoads" metadata.runtimeLoads

/-- The contract as `downloadable-runtime-contract.json` states it. -/
def Contract.document (contract : Contract) : Json :=
  .obj [("schemaVersion", contract.schemaVersion), ("releaseVersion", contract.releaseVersion),
    ("releaseTag", contract.releaseTag),
    ("runtimeArtifactVersion", contract.runtimeArtifactVersion),
    ("baseLiteRtVersion", contract.baseLiteRtVersion), ("androidMinApi", contract.androidMinApi),
    ("sourceAar", contract.sourceAar),
    ("apiAar", .obj [("fileName", .str contract.apiAar.fileName),
      ("embeddedContractPath", .str contract.apiAar.embeddedContractPath)]),
    ("cpuCore", .obj [("libraryName", .str contract.cpuCore.libraryName),
      ("systemDependencies", contract.cpuCore.systemDependencies),
      ("abis", .obj (contract.cpuCore.abis.items.map fun item => (item.1, item.2.document)))]),
    ("boundedGpu", .obj [("abi", contract.boundedGpu.abi),
      ("bundleFileName", .str contract.boundedGpu.bundleFileName),
      ("requiredCoreSha256", contract.boundedGpu.requiredCoreSha256),
      ("profile", contract.boundedGpu.profile),
      ("files", .arr (contract.boundedGpu.files.map GpuFile.document))])]

/-! ### Bundles -/

/-- A component, its ABI and the file name of its bundle. -/
structure BundleName where
  component : String
  abi : Document
  fileName : String
deriving DecidableEq

/-- The bundles a contract declares. -/
def Contract.bundles (contract : Contract) : List BundleName :=
  (contract.cpuCore.abis.items.map fun item =>
    ⟨"cpu-core", textDocument item.1, item.2.bundleFileName⟩) ++
    [⟨"bounded-gpu", contract.boundedGpu.abi, contract.boundedGpu.bundleFileName⟩]

end BssLiteRt.Downloadable

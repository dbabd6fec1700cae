import BssLiteRt.Queue.WindowRuns
import BssLiteRt.Shim.Sessions
import BssLiteRt.Shim.Ownership
import BssLiteRt.Shim.ExperimentAgreement
import BssLiteRt.Shim.Unwaited
import BssLiteRt.Python.Concrete
import BssLiteRt.Archive.MemberNames
import BssLiteRt.Python.Collections
import BssLiteRt.Downloadable.GpuManifest
import BssLiteRt.Downloadable.Writing
import BssLiteRt.BoundedAar.Truth
import BssLiteRt.BoundedAar.Merge
import BssLiteRt.Library.JsonMarkers
import BssLiteRt.Complete.Soundness
import BssLiteRt.Audit.Sources
import BssLiteRt.Release.CompareBuilds
import BssLiteRt.Shim.Alone
import BssLiteRt.Downloadable.SourceCache
import BssLiteRt.BoundedAar.Accelerator
import BssLiteRt.Audit.ComponentDir
import BssLiteRt.Downloadable.ChecksumWriters
import BssLiteRt.Patches.Series
import BssLiteRt.Queue.Options
import BssLiteRt.Complete.ApiDocs
import BssLiteRt.Complete.MavenChecksums
import BssLiteRt.Shim.QueueTable
import BssLiteRt.Shim.RecordWait
import BssLiteRt.Shim.Events
import BssLiteRt.Shim.Monitor
import BssLiteRt.Shim.Exclusive
import BssLiteRt.Archive.FixedNames
import BssLiteRt.Complete.Pipeline
import BssLiteRt.Experiment.KernelBatch
import BssLiteRt.Experiment.Loader
import BssLiteRt.Complete.RuntimeContract
import BssLiteRt.Library.Commands
import BssLiteRt.Patches.Apply
import BssLiteRt.Audit.OwnCandidate
import BssLiteRt.Release.Bundle
import BssLiteRt.Audit.ElfTools
import BssLiteRt.Audit.NativeArtifacts
import BssLiteRt.Audit.ReleaseInputs
import BssLiteRt.Release.Reproducible

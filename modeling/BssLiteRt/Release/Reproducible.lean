import BssLiteRt.Release.Bundle

/-!
Owns what a comparison of two builds promises of their bundles: `compare_release_builds.py`
compares the version directories that `assemble_maven_bundle.py` makes the bundles of.
-/

namespace BssLiteRt.Release

open BssLiteRt.Library BssLiteRt.Python BssLiteRt.Archive

/-! ### What is compared -/

/-- The tree below a version directory. Files further down are no files of the version. -/
def LaidOut (directory : VersionDirectory) (tree : Tree) : Prop :=
  ∀ name, PurePosixPath.IsPlainComponent name → tree.get? name = directory.nodes.get? name

/-- The trees hold the same compared files further down. -/
def SameInner (first second : Tree) : Prop :=
  ∀ relative, ¬ PurePosixPath.IsPlainComponent relative → excludedSignature relative = false →
    fileAt first relative = fileAt second relative

section Compared

variable {py : StandardLibrary} {directory : VersionDirectory} {tree first second : Tree}
  {report : Comparison} {name : String}

theorem fileAt_laidOut (laid : LaidOut directory tree)
    (plain : PurePosixPath.IsPlainComponent name) :
    fileAt tree name = directory.files.get? name := by
  rw [fileAt, laid name plain, VersionDirectory.files, Dict.get?_filterMap]
  cases directory.nodes.get? name with
  | none => rfl
  | some node => cases node <;> rfl

/-- What is no name of the directory is no file of it. -/
theorem get?_files_of_not_plain (strange : ¬ PurePosixPath.IsPlainComponent name) :
    directory.files.get? name = none :=
  Dict.get?_eq_none_iff.mpr fun member => strange (plain_of_file member)

theorem linkFree_of_collectFiles {paths : List (String × Node)} {records : Dict String FileRecord}
    {signatures : List String} {collected : Dict String FileRecord × List String}
    (returned : collectFiles py paths records signatures = .ok collected) :
    ∀ item ∈ paths, item.2 ≠ .symlink := by
  induction paths generalizing records signatures with
  | nil => exact fun _ absent => absurd absent List.not_mem_nil
  | cons item rest inductionHypothesis =>
      obtain ⟨relative, node⟩ := item
      cases node with
      | symlink => cases returned
      | other => exact List.forall_mem_cons.mpr ⟨by simp, inductionHypothesis returned⟩
      | file data =>
          refine List.forall_mem_cons.mpr ⟨by simp, ?_⟩
          rw [collectFiles] at returned
          split at returned
          · exact inductionHypothesis returned
          · exact inductionHypothesis returned

theorem symlinkFree_of_fileTree {collected : Dict String FileRecord × List String}
    (returned : fileTree py tree = .ok collected) : SymlinkFree tree :=
  fun item member => linkFree_of_collectFiles returned item
    ((List.perm_insertionSort _ _).mem_iff.mpr member)

/-- Trees without links are found identical exactly when their compared files are. -/
theorem identical_iff (apart : CollisionFree py.hashlib.sha256 (fileAt first) (fileAt second))
    (compared : compareTrees py first second = .ok report) :
    report.identical = true ↔ SameCompared first second := by
  simp only [compareTrees, bind_eq_ok, pure_eq_ok, Except.ok.injEq] at compared
  obtain ⟨⟨firstFiles, firstSignatures⟩, firstRead, ⟨secondFiles, secondSignatures⟩, secondRead,
    rfl⟩ := compared
  obtain ⟨records, signatures, firstAgain, firstCollects⟩ :=
    @fileTree_ok py first (symlinkFree_of_fileTree firstRead)
  obtain ⟨others, otherSignatures, secondAgain, secondCollects⟩ :=
    @fileTree_ok py second (symlinkFree_of_fileTree secondRead)
  obtain ⟨rfl, -⟩ := Prod.mk.inj (Except.ok.inj (firstRead.symm.trans firstAgain))
  obtain ⟨rfl, -⟩ := Prod.mk.inj (Except.ok.inj (secondRead.symm.trans secondAgain))
  rw [decide_eq_true_iff]
  exact records_perm_iff apart firstCollects secondCollects

end Compared

/-! ### What is bundled -/

section Bundles

variable {py : StandardLibrary} {options : BundleOptions} {versionDir otherDir : PurePosixPath}
  {directory first second : VersionDirectory} {bundle firstBundle secondBundle : Bundle}
  {name path : String}

theorem excludedSignature_entryName (plain : PurePosixPath.IsPlainComponent name)
    (relative : options.coordinate.root = []) :
    excludedSignature (options.entryName name) = excludedSignature name := by
  have parsed : PurePosixPath.parse name = ⟨[], [name.toList]⟩ :=
    PurePosixPath.parse_components (by simp)
      (List.forall_mem_singleton.mpr ⟨plain.1, plain.2.2.1⟩) (by simp)
  have isName : (PurePosixPath.parse name).name = name := by
    rw [parsed, PurePosixPath.name]
    exact String.ofList_toList
  rw [excludedSignature, excludedSignature, name_entryName plain relative, isName]

/-- Bundles are the same exactly for the same files. -/
theorem bundle_eq_iff
    (firstAssembled : assembleBundle py options versionDir first = .ok firstBundle)
    (secondAssembled : assembleBundle py options otherDir second = .ok secondBundle) :
    firstBundle = secondBundle ↔ ∀ name, first.files.get? name = second.files.get? name := by
  constructor
  · rintro rfl name
    obtain ⟨-, entries, read, isFirst⟩ := readBack_of_assembled firstAssembled
    obtain ⟨-, others, readAgain, isSecond⟩ := readBack_of_assembled secondAssembled
    obtain rfl := Except.ok.inj ((read "").symm.trans (readAgain ""))
    by_cases plain : PurePosixPath.IsPlainComponent name
    · rw [← @get?_bundleEntries options first _ plain, ← isFirst, isSecond,
        get?_bundleEntries plain]
    · rw [get?_files_of_not_plain plain, get?_files_of_not_plain plain]
  · intro same
    obtain ⟨-, archive, written, rfl⟩ := assembleBundle_eq_ok.mp firstAssembled
    obtain ⟨-, other, otherWritten, rfl⟩ := assembleBundle_eq_ok.mp secondAssembled
    have entries := @bundleEntries_congr options second first same
    rw [entries] at written
    obtain rfl := Except.ok.inj (written.symm.trans otherWritten)
    rw [entries]

/-- Entries of bundles agree where the files of the directories do. -/
theorem bundleEntries_agree (relative : options.coordinate.root = [])
    (same : ∀ name, excludedSignature name = false →
      first.files.get? name = second.files.get? name)
    (compared : excludedSignature path = false) :
    (bundleEntries options first).get? path = (bundleEntries options second).get? path := by
  have isFile (name : String) (plain : PurePosixPath.IsPlainComponent name)
      (isPath : options.entryName name = path) :
      (bundleEntries options first).get? path = (bundleEntries options second).get? path := by
    subst isPath
    rw [excludedSignature_entryName plain relative] at compared
    rw [get?_bundleEntries plain, get?_bundleEntries plain, same name compared]
  by_cases inFirst : path ∈ bundleEntries options first
  · obtain ⟨name, member, isPath⟩ := mem_bundleEntries_iff.mp inFirst
    exact isFile name (plain_of_file member) isPath
  · by_cases inSecond : path ∈ bundleEntries options second
    · obtain ⟨name, member, isPath⟩ := mem_bundleEntries_iff.mp inSecond
      exact isFile name (plain_of_file member) isPath
    · rw [Dict.get?_eq_none_iff.mpr inFirst, Dict.get?_eq_none_iff.mpr inSecond]

end Bundles

/-- Bundles of builds that the comparison finds identical differ in nothing but what the
comparison leaves out, and are the same when that is; the comparison finds builds with
the same bundle identical unless they differ below the version. -/
theorem reproduced_bundles_iff (py : StandardLibrary) (options : BundleOptions)
    (versionDir otherDir : PurePosixPath) (first second : VersionDirectory)
    (firstTree secondTree : Tree) (report : Comparison) (firstBundle secondBundle : Bundle)
    (firstLaid : LaidOut first firstTree) (secondLaid : LaidOut second secondTree)
    (apart : CollisionFree py.hashlib.sha256 (fileAt firstTree) (fileAt secondTree))
    (compared : compareTrees py firstTree secondTree = .ok report)
    (firstAssembled : assembleBundle py options versionDir first = .ok firstBundle)
    (secondAssembled : assembleBundle py options otherDir second = .ok secondBundle) :
    (report.identical = true → ∃ firstEntries secondEntries,
      (∀ label, readNormalizedArchive py label firstBundle.archive = .ok firstEntries) ∧
      (∀ label, readNormalizedArchive py label secondBundle.archive = .ok secondEntries) ∧
      ∀ path, excludedSignature path = false →
        firstEntries.get? path = secondEntries.get? path) ∧
    (report.identical = true → (firstBundle = secondBundle ↔
      ∀ name, excludedSignature name = true →
        first.files.get? name = second.files.get? name)) ∧
    (firstBundle = secondBundle → (report.identical = true ↔ SameInner firstTree secondTree)) := by
  have sameFiles (same : SameCompared firstTree secondTree) (name : String)
      (compared : excludedSignature name = false) :
      first.files.get? name = second.files.get? name := by
    by_cases plain : PurePosixPath.IsPlainComponent name
    · rw [← fileAt_laidOut firstLaid plain, same name compared, fileAt_laidOut secondLaid plain]
    · rw [get?_files_of_not_plain plain, get?_files_of_not_plain plain]
  rw [identical_iff apart compared, bundle_eq_iff firstAssembled secondAssembled]
  refine ⟨fun same => ?_, fun same => ?_, fun same => ?_⟩
  · obtain ⟨relative, entries, read, isFirst⟩ := readBack_of_assembled firstAssembled
    obtain ⟨-, others, readOther, isSecond⟩ := readBack_of_assembled secondAssembled
    refine ⟨entries, others, read, readOther, fun path compared => ?_⟩
    rw [isFirst, isSecond, bundleEntries_agree relative (sameFiles same) compared]
  · constructor
    · exact fun all name _ => all name
    · intro excluded name
      cases isExcluded : excludedSignature name with
      | false => exact sameFiles same name isExcluded
      | true => exact excluded name isExcluded
  · constructor
    · exact fun compared relative _ isCompared => compared relative isCompared
    · intro inner relative isCompared
      by_cases plain : PurePosixPath.IsPlainComponent relative
      · rw [fileAt_laidOut firstLaid plain, same, fileAt_laidOut secondLaid plain]
      · exact inner relative plain isCompared

/-! ### A version signed twice -/

def signedBy (signature : Bytes) : VersionDirectory where
  nodes := ⟨[("runtime-test.aar", .file [1]), ("runtime-test.aar.asc", .file signature)], by simp⟩
  plain := by
    have names : ∀ name ∈ ["runtime-test.aar", "runtime-test.aar.asc"],
        PurePosixPath.IsPlainComponent name := by decide
    exact names

theorem fileAt_signedBy (signature : Bytes) (relative : String) :
    fileAt (signedBy signature).nodes relative =
      if relative = "runtime-test.aar" then some [1]
      else if relative = "runtime-test.aar.asc" then some signature else none := by
  by_cases library : relative = "runtime-test.aar"
  · simp [fileAt, signedBy, Dict.get?, library]
  · by_cases signed : relative = "runtime-test.aar.asc"
    · simp [fileAt, signedBy, Dict.get?, List.lookup_cons, signed]
    · simp [fileAt, signedBy, Dict.get?, List.lookup_cons, beq_false_of_ne library,
        beq_false_of_ne signed, library, signed]

theorem collisionFree_signedBy :
    CollisionFree concreteLibrary.hashlib.sha256 (fileAt (signedBy [2]).nodes)
      (fileAt (signedBy [3]).nodes) := by
  have hashes : concreteLibrary.hashlib.sha256 [2] ≠ concreteLibrary.hashlib.sha256 [3] := by
    decide
  intro relative data other inFirst inSecond same
  rw [fileAt_signedBy] at inFirst inSecond
  split at inFirst
  · rename_i library
    rw [if_pos library] at inSecond
    exact (Option.some.inj inFirst).symm.trans (Option.some.inj inSecond)
  · rename_i noLibrary
    rw [if_neg noLibrary] at inSecond
    split at inFirst
    · rename_i signed
      rw [if_pos signed] at inSecond
      rw [← Option.some.inj inFirst, ← Option.some.inj inSecond] at same
      exact absurd same hashes
    · cases inFirst

theorem bundled_signedBy {signature : Bytes} : ∃ bundle, assembleBundle concreteLibrary
    signedOptions signedOptions.coordinate (signedBy signature) = .ok bundle := by
  have files : (signedBy signature).files.keys = ["runtime-test.aar", "runtime-test.aar.asc"] := rfl
  have bundled : Bundled signedOptions (signedBy signature) := by
    constructor
    case linkFree => simp [SymlinkFree, signedBy]
    case nonempty =>
      refine ⟨"runtime-test.aar", ?_⟩
      rw [Dict.mem_iff_keys, files]
      exact List.mem_cons_self
    case signed =>
      intro _ name member
      rw [Dict.mem_iff_keys, files] at member ⊢
      revert member
      revert name
      decide
  obtain ⟨archive, written⟩ := (@archives_iff concreteLibrary signedOptions _
    bundled.nonempty).mpr ⟨signedOptions_leadDown, by
      simp only [Dict.mem_iff_keys, files]
      decide⟩
  exact ⟨_, assembleBundle_eq_ok.mpr ⟨bundled, archive, written, rfl⟩⟩

theorem reproduced_bundles_iff_signed_twice : ∃ report firstBundle secondBundle,
    compareTrees concreteLibrary (signedBy [2]).nodes (signedBy [3]).nodes = .ok report ∧
      report.identical = true ∧
      assembleBundle concreteLibrary signedOptions signedOptions.coordinate (signedBy [2]) =
        .ok firstBundle ∧
      assembleBundle concreteLibrary signedOptions signedOptions.coordinate (signedBy [3]) =
        .ok secondBundle ∧
      firstBundle ≠ secondBundle := by
  obtain ⟨firstBundle, firstAssembled⟩ := @bundled_signedBy [2]
  obtain ⟨secondBundle, secondAssembled⟩ := @bundled_signedBy [3]
  obtain ⟨report, compared, identical⟩ : ∃ report, compareTrees concreteLibrary
      (signedBy [2]).nodes (signedBy [3]).nodes = .ok report ∧ report.identical = true :=
    ⟨_, rfl, by decide⟩
  obtain ⟨-, same_iff, -⟩ := reproduced_bundles_iff concreteLibrary signedOptions
    signedOptions.coordinate signedOptions.coordinate (signedBy [2]) (signedBy [3]) _ _ report
    firstBundle secondBundle (fun _ _ => rfl) (fun _ _ => rfl) collisionFree_signedBy compared
    firstAssembled secondAssembled
  refine ⟨report, firstBundle, secondBundle, compared, identical, firstAssembled,
    secondAssembled, fun same => ?_⟩
  have signatures := (same_iff identical).mp same "runtime-test.aar.asc" (by decide)
  exact absurd signatures (by decide)

end BssLiteRt.Release

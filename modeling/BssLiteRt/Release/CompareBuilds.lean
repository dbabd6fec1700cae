import BssLiteRt.Python.Collections
import BssLiteRt.Python.Concrete
import BssLiteRt.Python.PurePosixPath
import BssLiteRt.Library.SortedKeys

/-!
Owns `compare_release_builds.py`: two trees compared by the size and the SHA-256
of each file, without the files taken for detached signatures.
-/

namespace BssLiteRt.Release

open BssLiteRt.Library BssLiteRt.Python

/-! ### Trees -/

/-- What a path of a tree is. -/
inductive Node where
  | file (data : Bytes)
  | symlink
  | other
deriving DecidableEq

/-- The paths that `root.rglob("*")` meets, relative to the root. -/
abbrev Tree := Dict String Node

/-- A record of `file_tree`. -/
structure FileRecord where
  bytes : Nat
  sha256 : String
deriving DecidableEq

def excludedSignature (relative : String) : Bool :=
  ".asc".toList <:+: (PurePosixPath.parse relative).name.toList

def fileRecord (py : StandardLibrary) (data : Bytes) : FileRecord where
  bytes := data.length
  sha256 := py.hashlib.sha256 data

/-- `sorted(root.rglob("*"))` -/
def walk (tree : Tree) : List (String × Node) :=
  tree.items.insertionSort fun left right =>
    (PurePosixPath.parse left.1).parts ≤ (PurePosixPath.parse right.1).parts

/-- The loop of `file_tree` over the paths. -/
def collectFiles (py : StandardLibrary) (paths : List (String × Node))
    (records : Dict String FileRecord) (signatures : List String) :
    Py (Dict String FileRecord × List String) :=
  match paths with
  | [] => .ok (records, signatures)
  | (relative, .symlink) :: _ =>
      raise .valueError ("Comparison tree contains a symlink: " ++ relative)
  | (_, .other) :: rest => collectFiles py rest records signatures
  | (relative, .file data) :: rest =>
      if excludedSignature relative then
        collectFiles py rest records (signatures ++ [relative])
      else
        collectFiles py rest (records.set relative (fileRecord py data)) signatures

def fileTree (py : StandardLibrary) (root : Tree) : Py (Dict String FileRecord × List String) :=
  collectFiles py (walk root) Dict.empty []

/-! ### The comparison -/

structure Comparison where
  identical : Bool
  missingFromFirst : List String
  missingFromSecond : List String
  changed : List String
  files : Dict String FileRecord
  firstSignatures : List String
  secondSignatures : List String

def compareTrees (py : StandardLibrary) (first second : Tree) : Py Comparison := do
  let (firstFiles, firstSignatures) ← fileTree py first
  let (secondFiles, secondSignatures) ← fileTree py second
  return {
    identical := firstFiles.items.Perm secondFiles.items
    missingFromFirst := sortedDifference secondFiles.keys firstFiles.keys
    missingFromSecond := sortedDifference firstFiles.keys secondFiles.keys
    changed := sortedNames (firstFiles.keys.filter fun name =>
      name ∈ secondFiles.keys ∧ firstFiles.get? name ≠ secondFiles.get? name)
    files := firstFiles
    firstSignatures
    secondSignatures }

/-! ### What is collected -/

/-- The contents of a file of a tree. -/
def fileAt (tree : Tree) (relative : String) : Option Bytes :=
  match tree.get? relative with
  | some (.file data) => some data
  | _ => none

def SymlinkFree (tree : Tree) : Prop :=
  ∀ item ∈ tree.items, item.2 ≠ .symlink

section Collected

variable {py : StandardLibrary}

/-- The record a path adds. -/
def recordOf? (py : StandardLibrary) (item : String × Node) : Option FileRecord :=
  match item.2 with
  | .file data => if excludedSignature item.1 then none else some (fileRecord py data)
  | _ => none

theorem collectFiles_ok {paths : List (String × Node)} (plain : ∀ item ∈ paths, item.2 ≠ .symlink)
    (unique : (paths.map Prod.fst).Nodup) (records : Dict String FileRecord)
    (signatures : List String) :
    ∃ collected later, collectFiles py paths records signatures = .ok (collected, later) ∧
      ∀ name, collected.get? name =
        match (paths.lookup name).bind fun node => recordOf? py (name, node) with
        | some record => some record
        | none => records.get? name := by
  induction paths generalizing records signatures with
  | nil => exact ⟨records, signatures, rfl, fun _ => rfl⟩
  | cons item rest inductionHypothesis =>
      obtain ⟨relative, node⟩ := item
      obtain ⟨headPlain, restPlain⟩ := List.forall_mem_cons.mp plain
      rw [List.map_cons, List.nodup_cons] at unique
      have absent : rest.lookup relative = none := Dict.lookup_eq_none_iff_notMem.mpr unique.1
      have skipped (same : recordOf? py (relative, node) = none) (name : String) :
          (((relative, node) :: rest).lookup name).bind (fun node => recordOf? py (name, node)) =
            (rest.lookup name).bind fun node => recordOf? py (name, node) := by
        rw [List.lookup_cons]
        by_cases isHead : name = relative
        · subst isHead
          simp [same, absent]
        · simp [beq_false_of_ne isHead]
      cases node with
      | symlink => exact absurd rfl headPlain
      | other =>
          obtain ⟨collected, later, returned, lookups⟩ :=
            inductionHypothesis restPlain unique.2 records signatures
          refine ⟨collected, later, returned, fun name => ?_⟩
          rw [lookups, skipped rfl]
      | file data =>
          by_cases excluded : excludedSignature relative = true
          · obtain ⟨collected, later, returned, lookups⟩ :=
              inductionHypothesis restPlain unique.2 records (signatures ++ [relative])
            refine ⟨collected, later, ?_, fun name => ?_⟩
            · rw [collectFiles, if_pos excluded, returned]
            · rw [lookups, skipped (if_pos excluded)]
          · obtain ⟨collected, later, returned, lookups⟩ :=
              inductionHypothesis restPlain unique.2 (records.set relative (fileRecord py data))
                signatures
            refine ⟨collected, later, ?_, fun name => ?_⟩
            · rw [collectFiles, if_neg excluded, returned]
            · rw [lookups, List.lookup_cons, Dict.get?_set]
              by_cases isHead : name = relative
              · subst isHead
                simp [absent, recordOf?, excluded]
              · simp [beq_false_of_ne isHead, isHead]

theorem fileTree_ok {tree : Tree} (plain : SymlinkFree tree) :
    ∃ records signatures, fileTree py tree = .ok (records, signatures) ∧
      ∀ name, records.get? name =
        if excludedSignature name then none else (fileAt tree name).map (fileRecord py) := by
  have same : (walk tree).Perm tree.items := List.perm_insertionSort _ _
  have unique : ((walk tree).map Prod.fst).Nodup := (same.map Prod.fst).nodup_iff.mpr tree.unique
  obtain ⟨records, signatures, returned, lookups⟩ := @collectFiles_ok py (walk tree)
    (fun item member => plain item (same.mem_iff.mp member)) unique Dict.empty []
  refine ⟨records, signatures, returned, fun name => ?_⟩
  have found : (walk tree).lookup name = tree.get? name :=
    @Dict.get?_of_perm _ _ _ ⟨walk tree, unique⟩ tree same name
  rw [lookups, found, fileAt]
  cases tree.get? name with
  | none => simp
  | some node => cases node <;> by_cases excluded : excludedSignature name = true <;>
      simp [recordOf?, excluded]

end Collected

/-! ### What the comparison hides -/

/-- A detached signature or its checksum sidecar. -/
def isSignature (relative : String) : Bool :=
  [".asc", ".asc.md5", ".asc.sha1", ".asc.sha256", ".asc.sha512"].any fun ending =>
    ending.toList.isSuffixOf (PurePosixPath.parse relative).name.toList

/-- The trees hold the same files outside of signatures and their sidecars. -/
def SamePayload (first second : Tree) : Prop :=
  ∀ relative, isSignature relative = false → fileAt first relative = fileAt second relative

/-- The trees hold the same files among those that are compared. -/
def SameCompared (first second : Tree) : Prop :=
  ∀ relative, excludedSignature relative = false → fileAt first relative = fileAt second relative

/-- The trees hold the same files among those that are hidden and are no
signatures. -/
def SameHidden (first second : Tree) : Prop :=
  ∀ relative, excludedSignature relative = true → isSignature relative = false →
    fileAt first relative = fileAt second relative

theorem excluded_of_isSignature {relative : String} (signature : isSignature relative = true) :
    excludedSignature relative = true := by
  obtain ⟨ending, member, suffix⟩ := List.any_eq_true.mp signature
  have holds : ∀ ending ∈ [".asc", ".asc.md5", ".asc.sha1", ".asc.sha256", ".asc.sha512"],
      ".asc".toList <:+: ending.toList := by decide
  apply decide_eq_true
  exact (holds ending member).trans (List.isSuffixOf_iff_suffix.mp suffix).isInfix

theorem samePayload_iff {first second : Tree} :
    SamePayload first second ↔ SameCompared first second ∧ SameHidden first second := by
  constructor
  · intro same
    refine ⟨fun relative compared => same relative ?_, fun relative _ => same relative⟩
    apply Bool.eq_false_iff.mpr
    intro signature
    rw [excluded_of_isSignature signature] at compared
    cases compared
  · rintro ⟨compared, hidden⟩ relative noSignature
    cases excluded : excludedSignature relative with
    | false => exact compared relative excluded
    | true => exact hidden relative excluded noSignature

section Compared

variable {py : StandardLibrary} {first second : Tree}

/-- The records are those of the files that are compared. -/
def Collects (py : StandardLibrary) (tree : Tree) (records : Dict String FileRecord) : Prop :=
  ∀ name, records.get? name =
    if excludedSignature name then none else (fileAt tree name).map (fileRecord py)

theorem records_perm_iff {firstFiles secondFiles : Dict String FileRecord}
    (apart : CollisionFree py.hashlib.sha256 (fileAt first) (fileAt second))
    (firstCollects : Collects py first firstFiles)
    (secondCollects : Collects py second secondFiles) :
    firstFiles.items.Perm secondFiles.items ↔ SameCompared first second := by
  constructor
  · intro same relative compared
    have lookups := Dict.get?_of_perm same relative
    rw [firstCollects, secondCollects, if_neg (ne_true_of_eq_false compared),
      if_neg (ne_true_of_eq_false compared)] at lookups
    cases inFirst : fileAt first relative with
    | none =>
        rw [inFirst, Option.map_none, eq_comm, Option.map_eq_none_iff] at lookups
        exact lookups.symm
    | some data =>
        rw [inFirst, Option.map_some, eq_comm, Option.map_eq_some_iff] at lookups
        obtain ⟨other, inSecond, records⟩ := lookups
        have hashes : py.hashlib.sha256 data = py.hashlib.sha256 other :=
          (congrArg FileRecord.sha256 records).symm
        rw [inSecond, apart relative data other inFirst inSecond hashes]
  · intro same
    apply Dict.perm_of_get?
    intro relative
    rw [firstCollects, secondCollects]
    cases excluded : excludedSignature relative with
    | true => rfl
    | false => rw [same relative excluded]

theorem perm_iff_lists_empty (firstFiles secondFiles : Dict String FileRecord) :
    firstFiles.items.Perm secondFiles.items ↔
      sortedDifference secondFiles.keys firstFiles.keys = [] ∧
        sortedDifference firstFiles.keys secondFiles.keys = [] ∧
        sortedNames (firstFiles.keys.filter fun name =>
          name ∈ secondFiles.keys ∧ firstFiles.get? name ≠ secondFiles.get? name) = [] := by
  rw [sortedDifference_eq_nil_iff, sortedDifference_eq_nil_iff, sortedNames_eq_nil_iff,
    List.filter_eq_nil_iff]
  simp only [decide_eq_true_iff, not_and, not_not]
  constructor
  · intro same
    have lookups := Dict.get?_of_perm same
    have names (name : String) : name ∈ firstFiles.keys ↔ name ∈ secondFiles.keys := by
      rw [← Dict.mem_iff_keys, ← Dict.mem_iff_keys, Dict.mem_iff_get?, Dict.mem_iff_get?, lookups]
    exact ⟨fun name => (names name).mpr, fun name => (names name).mp, fun name _ _ => lookups name⟩
  · rintro ⟨inFirst, inSecond, unchanged⟩
    apply Dict.perm_of_get?
    intro name
    by_cases present : name ∈ firstFiles.keys
    · exact unchanged name present (inSecond name present)
    · have absent : name ∉ secondFiles.keys := fun member => present (inFirst name member)
      rw [Dict.get?_eq_none_iff.mpr present, Dict.get?_eq_none_iff.mpr absent]

/-- The names of changed files do not depend on which tree comes first. -/
theorem changed_comm (firstFiles secondFiles : Dict String FileRecord) :
    sortedNames (secondFiles.keys.filter fun name =>
        name ∈ firstFiles.keys ∧ secondFiles.get? name ≠ firstFiles.get? name) =
      sortedNames (firstFiles.keys.filter fun name =>
        name ∈ secondFiles.keys ∧ firstFiles.get? name ≠ secondFiles.get? name) := by
  apply sortedNames_congr
  intro name
  rw [List.mem_filter, List.mem_filter, decide_eq_true_iff, decide_eq_true_iff, ← and_assoc,
    ← and_assoc, and_comm (b := name ∈ firstFiles.keys), ne_comm]

end Compared

/-- When the comparison hides nothing but signatures. The lists and the symmetry
are right in any case. -/
theorem comparison_hides_signatures_iff (py : StandardLibrary) (first second : Tree)
    (firstPlain : SymlinkFree first) (secondPlain : SymlinkFree second)
    (apart : CollisionFree py.hashlib.sha256 (fileAt first) (fileAt second)) :
    ∃ report swapped, compareTrees py first second = .ok report ∧
      compareTrees py second first = .ok swapped ∧
      ((report.identical = true ↔ SamePayload first second) ↔
        SameHidden first second ∨ ¬ SameCompared first second) ∧
      (report.identical = true ↔ report.missingFromFirst = [] ∧ report.missingFromSecond = [] ∧
        report.changed = []) ∧
      swapped.missingFromFirst = report.missingFromSecond ∧
      swapped.missingFromSecond = report.missingFromFirst ∧
      swapped.identical = report.identical ∧ swapped.changed = report.changed := by
  obtain ⟨firstFiles, firstSignatures, firstRead, firstCollects⟩ := @fileTree_ok py first firstPlain
  obtain ⟨secondFiles, secondSignatures, secondRead, secondCollects⟩ :=
    @fileTree_ok py second secondPlain
  have comparedIff := records_perm_iff apart firstCollects secondCollects
  refine ⟨_, _, by rw [compareTrees, firstRead, ok_bind, secondRead]; rfl,
    by rw [compareTrees, secondRead, ok_bind, firstRead]; rfl, ?_, ?_, rfl, rfl, ?_, ?_⟩
  · rw [decide_eq_true_iff, comparedIff, samePayload_iff]
    by_cases compared : SameCompared first second <;> simp [compared]
  · rw [decide_eq_true_iff]
    exact perm_iff_lists_empty firstFiles secondFiles
  · exact decide_eq_decide.mpr ⟨List.Perm.symm, List.Perm.symm⟩
  · exact changed_comm firstFiles secondFiles

/-! ### A payload that is hidden -/

def asciiTree (data : Bytes) : Tree :=
  ⟨[("runtime.ascii", .file data)], List.nodup_singleton _⟩

theorem fileAt_asciiTree (data : Bytes) (relative : String) :
    fileAt (asciiTree data) relative = if relative = "runtime.ascii" then some data else none := by
  by_cases named : relative = "runtime.ascii"
  · simp [fileAt, asciiTree, Dict.get?, named]
  · simp [fileAt, asciiTree, Dict.get?, List.lookup_cons, beq_false_of_ne named, named]

theorem changed_payload_hidden :
    ∃ report, compareTrees concreteLibrary (asciiTree [1]) (asciiTree [2]) = .ok report ∧
      report.identical = true ∧ ¬ SamePayload (asciiTree [1]) (asciiTree [2]) := by
  refine ⟨_, rfl, by decide, fun same => ?_⟩
  have differs := same "runtime.ascii" (by decide)
  rw [fileAt_asciiTree, fileAt_asciiTree, if_pos rfl, if_pos rfl] at differs
  exact absurd differs (by decide)

theorem comparison_hides_signatures_iff_ascii :
    ∃ report swapped, compareTrees concreteLibrary (asciiTree [1]) (asciiTree [2]) = .ok report ∧
      compareTrees concreteLibrary (asciiTree [2]) (asciiTree [1]) = .ok swapped ∧
      ((report.identical = true ↔ SamePayload (asciiTree [1]) (asciiTree [2])) ↔
        SameHidden (asciiTree [1]) (asciiTree [2]) ∨
          ¬ SameCompared (asciiTree [1]) (asciiTree [2])) ∧
      (report.identical = true ↔ report.missingFromFirst = [] ∧ report.missingFromSecond = [] ∧
        report.changed = []) ∧
      swapped.missingFromFirst = report.missingFromSecond ∧
      swapped.missingFromSecond = report.missingFromFirst ∧
      swapped.identical = report.identical ∧ swapped.changed = report.changed := by
  have plain (data : Bytes) : SymlinkFree (asciiTree data) :=
    List.forall_mem_singleton.mpr nofun
  have hashes : concreteLibrary.hashlib.sha256 [1] ≠ concreteLibrary.hashlib.sha256 [2] := by
    decide
  apply comparison_hides_signatures_iff concreteLibrary _ _ (plain _) (plain _)
  intro relative data other inFirst inSecond same
  rw [fileAt_asciiTree] at inFirst inSecond
  split at inFirst
  · rename_i named
    rw [if_pos named] at inSecond
    rw [← Option.some.inj inFirst, ← Option.some.inj inSecond] at same
    exact absurd same hashes
  · cases inFirst

end BssLiteRt.Release

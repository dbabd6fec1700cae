import BssLiteRt.Audit.Candidate
import BssLiteRt.Complete.Components
import BssLiteRt.Python.Concrete

/-!
Owns where the entries of an audited candidate come from: which of them the audit
compares with the component directory, and what it leaves unchecked.
-/

namespace BssLiteRt.Audit

open BssLiteRt.Library BssLiteRt.Python BssLiteRt.Archive BssLiteRt.Complete

/-! ### What an audit without errors has seen -/

section Audited

variable {py : StandardLibrary} {files : Files} {aarName : String} {aar : Bytes}
  {componentDir : PurePosixPath} {contract : Contract} {mode : Mode} {stored : List ZipEntry}

theorem errorIf_eq_nil_iff {wrong : Bool} {error : String} :
    errorIf wrong error = [] ↔ wrong = false := by
  cases wrong <;> simp [errorIf]

theorem get?_readEntries {names : List String} {start entries : Dict String Bytes}
    (returned : readEntries stored names start = .ok entries) (name : String) :
    entries.get? name =
      if name ∈ names then (entryDict stored).get? name else start.get? name := by
  induction names generalizing start with
  | nil =>
      obtain rfl := Except.ok.inj returned
      rw [if_neg List.not_mem_nil]
  | cons first rest inductionHypothesis =>
      rw [readEntries] at returned
      obtain ⟨data, read, returned⟩ := bind_eq_ok.mp returned
      rw [inductionHypothesis returned, Dict.get?_set]
      by_cases later : name ∈ rest
      · rw [if_pos later, if_pos (List.mem_cons_of_mem _ later)]
      · by_cases same : name = first
        · subst same
          rw [if_neg later, if_pos rfl, if_pos List.mem_cons_self, readEntry_ok_iff.mp read]
        · simp [later, same]

theorem readEntries_pairs {pairs : List (String × Bytes)} {start : Dict String Bytes}
    (held : ∀ pair ∈ pairs, (entryDict stored).get? pair.1 = some pair.2) :
    readEntries stored (pairs.map Prod.fst) start =
      .ok (pairs.foldl (fun entries pair => entries.set pair.1 pair.2) start) := by
  induction pairs generalizing start with
  | nil => rfl
  | cons first rest inductionHypothesis =>
      obtain ⟨head, tail⟩ := List.forall_mem_cons.mp held
      rw [List.map_cons, readEntries, readEntry_ok_iff.mpr head, ok_bind, inductionHypothesis tail]
      rfl

/-- An archive of canonical entries is read back whole. -/
theorem readEntries_archived {items : List (String × Bytes)} (canonical : CanonicalItems items) :
    readEntries (items.map archived) (filenames (items.map archived)) Dict.empty =
      .ok canonical.dict := by
  have held : ∀ pair ∈ items, (entryDict (items.map archived)).get? pair.1 = some pair.2 := by
    intro pair member
    rw [canonical.entryDict_archived]
    exact Dict.get?_eq_some_iff.mpr member
  rw [canonical.filenames_archived, readEntries_pairs held, ← Dict.ofPairs,
    Dict.ofPairs_of_nodup canonical.unique]
  rfl

theorem readEntry_archived {items : List (String × Bytes)} (canonical : CanonicalItems items)
    {name : String} {data : Bytes} (member : (name, data) ∈ items) :
    readEntry (items.map archived) name = .ok data := by
  rw [readEntry_ok_iff, canonical.entryDict_archived]
  exact Dict.get?_eq_some_iff.mpr member

theorem compareNative_eq_nil_iff {entries : Dict String Bytes} {names : List String} :
    compareNative files componentDir entries names = [] ↔
      ∀ name ∈ names, ∃ data, files (componentPath componentDir name) = some data ∧
        entries.get? name = some data := by
  induction names with
  | nil => simp [compareNative]
  | cons name rest inductionHypothesis =>
      rw [compareNative, List.append_eq_nil_iff, errorIf_eq_nil_iff, inductionHypothesis,
        List.forall_mem_cons]
      refine and_congr_left fun _ => ?_
      cases files (componentPath componentDir name) <;> simp

/-- An archive in which an audit finds no error. -/
structure Audited (py : StandardLibrary) (files : Files) (componentDir : PurePosixPath)
    (contract : Contract) (mode : Mode) (stored : List ZipEntry) (entries : Dict String Bytes) :
    Prop where
  unique : (filenames (stored.filter fun entry => !entry.info.isDir)).Nodup
  read : readEntries stored (filenames (stored.filter fun entry => !entry.info.isDir)) Dict.empty =
    .ok entries
  classes : auditApiClasses py entries contract = .ok []
  placed : ∀ name ∈ entries.keys, isMisplaced name = false
  noDiagnostic : ∀ name ∈ entries.keys, (PurePosixPath.parse name).name ≠ "libOCLQ.so"
  matrix : ∀ name, name ∈ entries.keys.filter isNative ↔ name ∈ expectedNative contract mode
  bytes : ∀ name ∈ expectedNative contract mode, name ∈ entries.keys.filter isNative →
    ∃ data, files (componentPath componentDir name) = some data ∧ entries.get? name = some data

theorem nodup_of_duplicates {names : List String}
    (none : sortedNames (names.filter fun name => names.count name > 1) = []) : names.Nodup := by
  rw [sortedNames_eq_nil_iff, List.filter_eq_nil_iff] at none
  rw [List.nodup_iff_count_le_one]
  intro name
  by_cases member : name ∈ names
  · have notTwice := none name member
    rw [decide_eq_true_iff] at notTwice
    omega
  · rw [List.count_eq_zero_of_not_mem member]
    exact Nat.zero_le 1

theorem duplicates_of_nodup {names : List String} (unique : names.Nodup) :
    sortedNames (names.filter fun name => names.count name > 1) = [] := by
  rw [sortedNames_eq_nil_iff, List.filter_eq_nil_iff]
  intro name _
  have once := List.nodup_iff_count_le_one.mp unique name
  rw [decide_eq_true_iff]
  omega

theorem archiveEntries_ok_iff {entries : Dict String Bytes} :
    archiveEntries py aar = .ok (entries, []) ↔ ∃ stored, py.zipfile.read aar = .ok stored ∧
      (filenames (stored.filter fun entry => !entry.info.isDir)).Nodup ∧
      readEntries stored (filenames (stored.filter fun entry => !entry.info.isDir)) Dict.empty =
        .ok entries := by
  unfold archiveEntries
  simp only [bind_eq_ok, pure_eq_ok, Except.ok.injEq, Prod.mk.injEq, errorIf_eq_nil_iff,
    decide_eq_false_iff_not, not_not]
  constructor
  · rintro ⟨stored, opened, _, read, rfl, none⟩
    exact ⟨stored, opened, nodup_of_duplicates none, read⟩
  · rintro ⟨stored, opened, unique, read⟩
    exact ⟨stored, opened, entries, read, rfl, duplicates_of_nodup unique⟩

theorem nested_eq_nil_iff {names : List String} :
    (names.filter isMisplaced).insertionSort (· ≤ ·) = [] ↔
      ∀ name ∈ names, isMisplaced name = false := by
  rw [← List.length_eq_zero_iff, List.length_insertionSort, List.length_eq_zero_iff,
    List.filter_eq_nil_iff]
  simp only [Bool.not_eq_true]

theorem auditCandidate_noError_iff :
    (∃ report, auditCandidate py files aarName aar componentDir contract mode = .ok (report, [])) ↔
      ∃ stored entries, py.zipfile.read aar = .ok stored ∧
        Audited py files componentDir contract mode stored entries := by
  unfold auditCandidate
  simp only [bind_eq_ok, pure_eq_ok, Except.ok.injEq, Prod.mk.injEq, List.append_eq_nil_iff,
    errorIf_eq_nil_iff, decide_eq_false_iff_not, not_not, nested_eq_nil_iff, List.any_eq_false,
    decide_eq_true_iff, Bool.not_eq_false', sameNames_iff, compareNative_eq_nil_iff]
  constructor
  · rintro ⟨_, ⟨entries, _⟩, listed, _, classes, rfl, ⟨⟨⟨⟨rfl, rfl⟩, placed⟩, noDiagnostic⟩, matrix⟩,
      bytes⟩
    obtain ⟨stored, opened, unique, read⟩ := archiveEntries_ok_iff.mp listed
    refine ⟨stored, entries, opened, unique, read, classes, placed, noDiagnostic, matrix, ?_⟩
    intro name expected actual
    exact bytes name (mem_sortedNames.mpr (List.mem_filter.mpr ⟨expected, decide_eq_true actual⟩))
  · rintro ⟨stored, entries, opened, audited⟩
    have listed := archiveEntries_ok_iff.mpr ⟨stored, opened, audited.unique, audited.read⟩
    refine ⟨_, (entries, []), listed, [], audited.classes, rfl, ⟨⟨⟨⟨rfl, rfl⟩, audited.placed⟩,
      audited.noDiagnostic⟩, audited.matrix⟩, fun name member => ?_⟩
    obtain ⟨expected, actual⟩ := List.mem_filter.mp (mem_sortedNames.mp member)
    exact audited.bytes name expected (of_decide_eq_true actual)

end Audited

/-! ### The component directory -/

section Components

variable {py : StandardLibrary} {files : Files} {componentDir : PurePosixPath}
  {contract : Contract} {stored : List ZipEntry} {entries : Dict String Bytes}

/-- The file of the component directory for an entry under `jni/`. -/
def nativeFile (componentDir : PurePosixPath) (relative : String) : PurePosixPath :=
  componentDir.child ("native/" ++ relative)

/-- The candidate holds the classes of the API component. -/
def SourceClasses (py : StandardLibrary) (files : Files) (componentDir : PurePosixPath)
    (stored : List ZipEntry) : Prop :=
  ∃ apiAar api classes, files (componentDir.child "api/litert-bss-api.aar") = some apiAar ∧
    py.zipfile.read apiAar = .ok api ∧ readEntry api "classes.jar" = .ok classes ∧
    readEntry stored "classes.jar" = .ok classes

/-- Every native entry and the classes of the candidate are those of the components. -/
structure ComesFromComponents (py : StandardLibrary) (files : Files)
    (componentDir : PurePosixPath) (stored : List ZipEntry) : Prop where
  native : ∀ entry ∈ stored, entry.info.isDir = false → ∀ relative,
    entry.info.filename = "jni/" ++ relative →
      files (nativeFile componentDir relative) = some entry.data
  classes : SourceClasses py files componentDir stored

/-- The paths below `jni/` whose bytes the audit compares. -/
def IsCompared (relative : String) : Prop :=
  endsWith ("jni/" ++ relative) ".so" = true ∧ relative.toList.head? ≠ some '/'

/-- What the audit does not compare agrees with the components nevertheless. -/
structure UncomparedAgrees (py : StandardLibrary) (files : Files)
    (componentDir : PurePosixPath) (stored : List ZipEntry) : Prop where
  native : ∀ entry ∈ stored, entry.info.isDir = false → ∀ relative,
    entry.info.filename = "jni/" ++ relative → ¬ IsCompared relative →
      files (nativeFile componentDir relative) = some entry.data
  classes : SourceClasses py files componentDir stored

theorem withoutFront_append (front back : String) : withoutFront (front ++ back) front = back := by
  simp [withoutFront, startsWith]

theorem isNative_append (relative : String) :
    isNative ("jni/" ++ relative) = endsWith ("jni/" ++ relative) ".so" := by
  simp [isNative, startsWith]

theorem componentPath_append {relative : String} (below : relative.toList.head? ≠ some '/') :
    componentPath componentDir ("jni/" ++ relative) = nativeFile componentDir relative := by
  rw [componentPath, withoutFront_append, PurePosixPath.child_child (by decide) below]
  rfl

/-- The audit has compared the entries that it can compare. -/
theorem Audited.native
    (audited : Audited py files componentDir contract .complete stored entries) {entry : ZipEntry}
    (member : entry ∈ stored) (isFile : entry.info.isDir = false) {relative : String}
    (named : entry.info.filename = "jni/" ++ relative) (compared : IsCompared relative) :
    files (nativeFile componentDir relative) = some entry.data := by
  have kept : entry ∈ stored.filter fun entry => !entry.info.isDir :=
    List.mem_filter.mpr ⟨member, by rw [isFile]; rfl⟩
  have held : entries.get? ("jni/" ++ relative) = some entry.data := by
    have listed : entry.info.filename ∈ filenames (stored.filter fun entry => !entry.info.isDir) :=
      List.mem_map_of_mem kept
    rw [← named, get?_readEntries audited.read, if_pos listed,
      get?_entryDict_of_unique audited.unique kept]
  have actual : "jni/" ++ relative ∈ entries.keys.filter isNative := by
    refine List.mem_filter.mpr ⟨Dict.mem_iff_get?.mpr ⟨_, held⟩, ?_⟩
    rw [isNative_append, compared.1]
  obtain ⟨data, found, same⟩ := audited.bytes _ ((audited.matrix _).mp actual) actual
  rw [← componentPath_append compared.2, found, ← same, held]

theorem Audited.comesFromComponents_iff
    (audited : Audited py files componentDir contract .complete stored entries) :
    ComesFromComponents py files componentDir stored ↔
      UncomparedAgrees py files componentDir stored := by
  constructor
  · exact fun comes => ⟨fun entry member isFile relative named _ =>
      comes.native entry member isFile relative named, comes.classes⟩
  · intro agrees
    refine ⟨fun entry member isFile relative named => ?_, agrees.classes⟩
    by_cases compared : IsCompared relative
    · exact audited.native member isFile named compared
    · exact agrees.native entry member isFile relative named compared

end Components

/-- A candidate that is audited without errors comes from the components exactly when the
entries that the audit does not compare do. -/
theorem audited_candidate_comes_from_components_iff (py : StandardLibrary) (files : Files)
    (aarName : String) (aar : Bytes) (componentDir : PurePosixPath) (contract : Contract)
    (report : Json) (noError : auditCandidate py files aarName aar componentDir contract .complete =
      .ok (report, [])) :
    ∃ stored, py.zipfile.read aar = .ok stored ∧
      (ComesFromComponents py files componentDir stored ↔
        UncomparedAgrees py files componentDir stored) := by
  obtain ⟨stored, entries, opened, audited⟩ := auditCandidate_noError_iff.mp ⟨report, noError⟩
  exact ⟨stored, opened, audited.comesFromComponents_iff⟩

/-! ### A concrete candidate -/

section Sample

def sampleContract : Contract where
  forbiddenClassPrefixes := ["com/google/android/play/"]
  nativeLibraries := ⟨[("libLiteRt.so", ["x86_64"])], List.nodup_singleton _⟩

def componentDirectory : PurePosixPath :=
  .parse "/build/components"

/-- A class archive without classes. -/
def sourceClasses : Bytes :=
  concreteLibrary.zipfile.write []

def apiItems : List (String × Bytes) :=
  [("classes.jar", sourceClasses)]

def sampleFiles : Files := fun path =>
  if path = .parse "/build/components/native/x86_64/libLiteRt.so" then some [3]
  else if path = .parse "/build/components/api/litert-bss-api.aar" then
    some (concreteLibrary.zipfile.write (apiItems.map archived))
  else none

theorem sampleFiles_api : sampleFiles (componentDirectory.child "api/litert-bss-api.aar") =
    some (concreteLibrary.zipfile.write (apiItems.map archived)) := by
  have path : componentDirectory.child "api/litert-bss-api.aar" =
      .parse "/build/components/api/litert-bss-api.aar" := by
    decide
  rw [path, sampleFiles, if_neg (by decide), if_pos rfl]

theorem apiItems_canonical : CanonicalItems apiItems where
  normal := List.forall_mem_singleton.mpr (by decide : IsNormalName "classes.jar")
  unique := List.nodup_singleton _
  sorted := List.pairwise_singleton _ _

def candidateItems (classes : Bytes) : List (String × Bytes) :=
  [("classes.jar", classes), ("jni/x86_64/libLiteRt.so", [3])]

def candidateAar (classes : Bytes) : Bytes :=
  concreteLibrary.zipfile.write ((candidateItems classes).map archived)

theorem candidateItems_canonical (classes : Bytes) : CanonicalItems (candidateItems classes) where
  normal := List.forall_mem_cons.mpr ⟨(by decide : IsNormalName "classes.jar"),
    List.forall_mem_singleton.mpr
      (by decide : IsNormalName "jni/x86_64/libLiteRt.so")⟩
  unique := by
    show ["classes.jar", "jni/x86_64/libLiteRt.so"].Nodup
    decide
  sorted := by
    refine List.pairwise_pair.mpr ?_
    show "classes.jar" ≤ "jni/x86_64/libLiteRt.so"
    decide

theorem candidate_audited {classes : Bytes} {classEntries : List ZipEntry}
    (read : concreteLibrary.zipfile.read classes = .ok classEntries)
    (allowed : forbiddenClasses (filenames classEntries) sampleContract.forbiddenClassPrefixes = []) :
    ∃ report, auditCandidate concreteLibrary sampleFiles "candidate.aar" (candidateAar classes)
      componentDirectory sampleContract .complete = .ok (report, []) := by
  have canonical := candidateItems_canonical classes
  refine auditCandidate_noError_iff.mpr ⟨_, canonical.dict,
    concreteLibrary.zipfile.read_write _, ?_⟩
  have keys : canonical.dict.keys = ["classes.jar", "jni/x86_64/libLiteRt.so"] := rfl
  have actual : canonical.dict.keys.filter isNative = ["jni/x86_64/libLiteRt.so"] := by
    rw [keys]
    decide
  have expected : expectedNative sampleContract .complete = ["jni/x86_64/libLiteRt.so"] := by
    decide
  constructor
  case unique =>
      rw [canonical.files_archived, canonical.filenames_archived]
      exact canonical.unique
  case read =>
      rw [canonical.files_archived]
      exact readEntries_archived canonical
  case classes =>
      have held : canonical.dict.get? "classes.jar" = some classes := rfl
      rw [auditApiClasses, held]
      dsimp only
      rw [read, ok_bind, allowed]
      rfl
  case placed =>
      rw [keys]
      decide
  case noDiagnostic =>
      rw [keys]
      decide
  case matrix => rw [actual, expected]; exact fun _ => Iff.rfl
  case bytes =>
      rw [expected]
      refine List.forall_mem_singleton.mpr fun _ => ⟨[3], ?_, rfl⟩
      decide

/-- The audit has compared the only native entry of the candidate. -/
theorem candidate_compared {classes : Bytes} {entry : ZipEntry}
    (member : entry ∈ (candidateItems classes).map archived) {relative : String}
    (named : entry.info.filename = "jni/" ++ relative) : IsCompared relative := by
  have canonical := candidateItems_canonical classes
  have listed : entry.info.filename ∈ ["classes.jar", "jni/x86_64/libLiteRt.so"] := by
    have inArchive : entry.info.filename ∈ filenames ((candidateItems classes).map archived) :=
      List.mem_map_of_mem member
    rwa [canonical.filenames_archived] at inArchive
  rw [named, List.mem_pair] at listed
  rcases listed with classesJar | library
  · have chars := congrArg String.toList classesJar
    simp at chars
  · refine ⟨?_, ?_⟩
    · rw [library]
      decide
    · have chars := congrArg String.toList library
      rw [String.toList_append] at chars
      have below := List.append_cancel_left (chars.trans
        (show "jni/x86_64/libLiteRt.so".toList =
          "jni/".toList ++ "x86_64/libLiteRt.so".toList by decide))
      rw [below]
      decide

/-- A candidate with the classes of the API component comes from the components. -/
theorem audited_candidate_comes_from_components_iff_same : ∃ stored,
    concreteLibrary.zipfile.read (candidateAar sourceClasses) = .ok stored ∧
      ComesFromComponents concreteLibrary sampleFiles componentDirectory stored := by
  obtain ⟨report, noError⟩ := candidate_audited (concreteLibrary.zipfile.read_write []) rfl
  obtain ⟨stored, opened, comes_iff⟩ := audited_candidate_comes_from_components_iff concreteLibrary
    sampleFiles "candidate.aar" (candidateAar sourceClasses) componentDirectory sampleContract report
    noError
  refine ⟨stored, opened, comes_iff.mpr ?_⟩
  obtain rfl := Except.ok.inj ((concreteLibrary.zipfile.read_write _).symm.trans opened)
  refine ⟨fun entry member _ relative named uncompared => ?_, ?_⟩
  · exact absurd (candidate_compared member named) uncompared
  · exact ⟨_, apiItems.map archived, sourceClasses, sampleFiles_api,
      concreteLibrary.zipfile.read_write _,
      readEntry_archived apiItems_canonical List.mem_cons_self,
      readEntry_archived (candidateItems_canonical _) List.mem_cons_self⟩

/-- Another class archive. -/
def replacedClasses : Bytes :=
  concreteLibrary.zipfile.write [archived ("A.class", [])]

theorem replacedClasses_ne : replacedClasses ≠ sourceClasses := by
  intro same
  have read := congrArg concreteLibrary.zipfile.read same
  rw [replacedClasses, sourceClasses, concreteLibrary.zipfile.read_write,
    concreteLibrary.zipfile.read_write] at read
  cases Except.ok.inj read

/-- The audit accepts a candidate whose classes are not those of the API component. -/
theorem replaced_classes_audited :
    (∃ report, auditCandidate concreteLibrary sampleFiles "candidate.aar"
      (candidateAar replacedClasses) componentDirectory sampleContract .complete =
        .ok (report, [])) ∧
      ∀ stored, concreteLibrary.zipfile.read (candidateAar replacedClasses) = .ok stored →
        ¬ ComesFromComponents concreteLibrary sampleFiles componentDirectory stored := by
  refine ⟨candidate_audited (concreteLibrary.zipfile.read_write _) (by decide), ?_⟩
  intro stored opened comes
  obtain rfl := Except.ok.inj ((concreteLibrary.zipfile.read_write _).symm.trans opened)
  obtain ⟨apiAar, api, classes, found, apiRead, source, own⟩ := comes.classes
  obtain rfl := Option.some.inj (sampleFiles_api.symm.trans found)
  obtain rfl := Except.ok.inj ((concreteLibrary.zipfile.read_write _).symm.trans apiRead)
  have fromApi := readEntry_archived apiItems_canonical List.mem_cons_self
  have fromCandidate :=
    readEntry_archived (candidateItems_canonical replacedClasses) List.mem_cons_self
  obtain rfl := Except.ok.inj (fromApi.symm.trans source)
  exact replacedClasses_ne (Except.ok.inj (fromCandidate.symm.trans own))

end Sample

end BssLiteRt.Audit

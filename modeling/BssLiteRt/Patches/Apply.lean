import BssLiteRt.Library.Commands
import BssLiteRt.Patches.Series

/-!
Owns `main` of `apply-complete-runtime-patches.py` with the commands it gives to git, and
when the patches are applied. Git is a parameter: it answers a command and may change the
state of the repository.
-/

namespace BssLiteRt.Patches

open BssLiteRt.Library BssLiteRt.Library.Commands BssLiteRt.Library.Commands.Program
  BssLiteRt.Library.Commands.Question BssLiteRt.Python

/-! ### Git -/

/-- What the git command does in a directory. -/
structure Git (World : Type) where
  run : Path → List String → World → Completed × World

/-- What stops the script. -/
inductive ApplyFailure where
  | script (failure : Failure)
  | runtimeError (message : String)
deriving DecidableEq

abbrev GitProgram (World α : Type) := Program World (List String) ApplyFailure α

def fromScript {World α : Type} (result : Script α) : GitProgram World α :=
  lift (result.mapError .script)

/-- `if condition: raise RuntimeError(message)` -/
def raiseRuntimeIf (condition : Bool) (message : String) : Except ApplyFailure Unit :=
  if condition then .error (.runtimeError message) else .ok ()

/-- `if condition: raise ValueError(message)` -/
def raiseValueIf (condition : Bool) (message : String) : Except ApplyFailure Unit :=
  (call (raiseIf condition .valueError message)).mapError .script

/-- `stderr.strip() or stdout.strip()` -/
def detail (result : Completed) : String :=
  if strip result.stderr ≠ "" then strip result.stderr else strip result.stdout

/-- `word in f"{stdout}\n{stderr}".lower()` for a lower-case ASCII word. No character
beyond ASCII has a letter of the two words as its lower case. -/
def mentions (result : Completed) (word : String) : Bool :=
  decide (word.toList <:+: (result.stdout ++ "\n" ++ result.stderr).toList.map Char.toLower)

def isFuzzy (result : Completed) : Bool :=
  mentions result "offset" || mentions result "fuzz"

def rejectFuzzyApplication (result : Completed) : Except ApplyFailure Unit :=
  raiseRuntimeIf (isFuzzy result)
    ("Patch application reported an offset or fuzz:\n" ++ result.stdout ++ result.stderr)

section Main

variable {World : Type}

def runGit (git : Git World) (source : Path) (args : List String) : GitProgram World Completed :=
  give (git.run source) args

def requireGit (git : Git World) (source : Path) (args : List String) :
    GitProgram World String := do
  let result ← runGit git source args
  lift (raiseRuntimeIf (result.returncode ≠ 0)
    ("git " ++ String.intercalate " " args ++ " failed: " ++ detail result))
  return strip result.stdout

/-! ### The script -/

structure ApplyOptions where
  source : List String
  lock : List String
  patchDir : List String
  verifyOnly : Bool

def headCommand : List String :=
  ["rev-parse", "HEAD"]

def statusCommand : List String :=
  ["status", "--porcelain", "--untracked-files=no"]

def applyCommand (option : String) (patches : List Path) : List String :=
  ["apply", option, "--verbose", "--whitespace=error-all"] ++ patches.map pathText

/-- What `main` has read before its first command: the directory of the sources, the
locked commit and the patches. -/
structure ApplyInputs where
  source : Path
  expectedCommit : Json
  patches : List Path

def readInputs (py : StandardLibrary) (system : FileSystem) (options : ApplyOptions) :
    Script ApplyInputs := do
  let source ← resolvePath system options.source
  let lock ← call (readLock py (← openFile system (← resolvePath system options.lock)))
  let patches ← resolvePatches py system lock options.patchDir
  call (raiseIf (!system.pathExists (source ++ [".git"])) .valueError
    ("LiteRT source is not a Git worktree: " ++ pathText source))
  let expectedCommit ← call (getItem lock "liteRt" >>= (getItem · "commit"))
  return ⟨source, expectedCommit, patches⟩

def applyMain (py : StandardLibrary) (git : Git World) (system : FileSystem)
    (options : ApplyOptions) : GitProgram World Unit := do
  let inputs ← fromScript (readInputs py system options)
  let actualCommit ← requireGit git inputs.source headCommand
  lift (raiseValueIf (!(Json.str actualCommit).pyEq inputs.expectedCommit)
    ("Expected LiteRT commit " ++ py.str inputs.expectedCommit ++ ", got " ++ actualCommit ++ "."))
  let status ← requireGit git inputs.source statusCommand
  lift (raiseValueIf (status ≠ "") "LiteRT tracked worktree must be clean before patching.")
  let check ← runGit git inputs.source (applyCommand "--check" inputs.patches)
  lift (raiseRuntimeIf (check.returncode ≠ 0) ("Patch preflight failed: " ++ detail check))
  lift (rejectFuzzyApplication check)
  if options.verifyOnly then
    return ()
  else
    let applied ← runGit git inputs.source (applyCommand "--index" inputs.patches)
    lift (raiseRuntimeIf (applied.returncode ≠ 0)
      ("Patch application failed: " ++ detail applied))
    lift (rejectFuzzyApplication applied)

/-! ### The questions it asks -/

/-- The answer of a command that has to succeed. -/
def succeeds (args : List String) (result : Completed) : Except ApplyFailure Unit :=
  raiseRuntimeIf (result.returncode ≠ 0)
    ("git " ++ String.intercalate " " args ++ " failed: " ++ detail result)

def headQuestion (py : StandardLibrary) (expectedCommit : Json) :
    Question (List String) Completed ApplyFailure where
  command := headCommand
  accept result := do
    succeeds headCommand result
    raiseValueIf (!(Json.str (strip result.stdout)).pyEq expectedCommit)
      ("Expected LiteRT commit " ++ py.str expectedCommit ++ ", got " ++ strip result.stdout ++ ".")

def statusQuestion : Question (List String) Completed ApplyFailure where
  command := statusCommand
  accept result := do
    succeeds statusCommand result
    raiseValueIf (strip result.stdout ≠ "")
      "LiteRT tracked worktree must be clean before patching."

def applyQuestion (option failed : String) (patches : List Path) :
    Question (List String) Completed ApplyFailure where
  command := applyCommand option patches
  accept result := do
    raiseRuntimeIf (result.returncode ≠ 0) (failed ++ detail result)
    rejectFuzzyApplication result

/-- The questions before the patches are applied. -/
def checkQuestions (py : StandardLibrary) (inputs : ApplyInputs) :
    List (Question (List String) Completed ApplyFailure) :=
  [headQuestion py inputs.expectedCommit, statusQuestion,
    applyQuestion "--check" "Patch preflight failed: " inputs.patches]

/-- The commands of a run that only verifies. -/
def checkCommands (inputs : ApplyInputs) : List (List String) :=
  [headCommand, statusCommand, applyCommand "--check" inputs.patches]

def applicationQuestion (inputs : ApplyInputs) : Question (List String) Completed ApplyFailure :=
  applyQuestion "--index" "Patch application failed: " inputs.patches

def questions (py : StandardLibrary) (inputs : ApplyInputs) (verifyOnly : Bool) :
    List (Question (List String) Completed ApplyFailure) :=
  checkQuestions py inputs ++ if verifyOnly then [] else [applicationQuestion inputs]

variable {py : StandardLibrary} {git : Git World} {system : FileSystem} {options : ApplyOptions}
  {inputs : ApplyInputs} {world : World}

theorem requireGit_bind {α : Type} (source : Path) (args : List String)
    (next : String → GitProgram World α) :
    requireGit git source args >>= next = give (git.run source) args >>= fun result =>
      lift (succeeds args result) >>= fun _ => next (strip result.stdout) := by
  simp only [requireGit, runGit, succeeds, bind_assoc, pure_bind]

/-- The script reads its inputs and asks its questions. -/
theorem applyMain_eq_askAll :
    applyMain py git system options = fromScript (readInputs py system options) >>= fun inputs =>
      askAll (git.run inputs.source) (questions py inputs options.verifyOnly) := by
  refine bind_congr fun inputs => ?_
  simp only [requireGit_bind, runGit, questions, checkQuestions, applicationQuestion,
    List.cons_append, List.nil_append, askAll, headQuestion, statusQuestion, applyQuestion,
    lift_bind, bind_assoc]
  cases options.verifyOnly <;> simp [askAll, lift_bind]

/-! ### When it applies the patches -/

/-- The state in which the patches are applied. -/
def atApplication (git : Git World) (inputs : ApplyInputs) (world : World) : World :=
  settle (git.run inputs.source) world (checkCommands inputs)

/-- The repository is at the locked commit without tracked changes, and git could apply
the patches just where they say. -/
def Ready (git : Git World) (inputs : ApplyInputs) (world : World) : Prop :=
  let head := git.run inputs.source headCommand world
  let status := git.run inputs.source statusCommand head.2
  let check := git.run inputs.source (applyCommand "--check" inputs.patches) status.2
  (head.1.returncode = 0 ∧ inputs.expectedCommit = .str (strip head.1.stdout)) ∧
    (status.1.returncode = 0 ∧ strip status.1.stdout = "") ∧
      check.1.returncode = 0 ∧ isFuzzy check.1 = false

/-- Git applies the patches just where they say. -/
def AppliesCleanly (git : Git World) (inputs : ApplyInputs) (world : World) : Prop :=
  let applied := git.run inputs.source (applyCommand "--index" inputs.patches) world
  applied.1.returncode = 0 ∧ isFuzzy applied.1 = false

section Answers

variable {result : Completed} {condition : Bool} {message option failed : String}
  {patches : List Path} {expectedCommit : Json}

theorem then_eq_ok {first second : Except ApplyFailure Unit} :
    (first >>= fun _ => second) = .ok () ↔ first = .ok () ∧ second = .ok () := by
  cases first with
  | error failure => exact ⟨nofun, fun both => absurd both.1 nofun⟩
  | ok returned => exact (and_iff_right rfl).symm

@[simp] theorem raiseRuntimeIf_eq_ok :
    raiseRuntimeIf condition message = .ok () ↔ condition = false := by
  cases condition <;> simp [raiseRuntimeIf]

@[simp] theorem raiseValueIf_eq_ok :
    raiseValueIf condition message = .ok () ↔ condition = false := by
  cases condition <;> simp [raiseValueIf, raiseIf, raise, call, Except.mapError]

theorem headQuestion_accept :
    (headQuestion py expectedCommit).accept result = .ok () ↔
      result.returncode = 0 ∧ expectedCommit = .str (strip result.stdout) := by
  simp only [headQuestion, succeeds, then_eq_ok, raiseRuntimeIf_eq_ok, raiseValueIf_eq_ok,
    decide_eq_false_iff_not, not_not, Bool.not_eq_false', ne_eq, Json.str_pyEq_iff]

theorem statusQuestion_accept :
    statusQuestion.accept result = .ok () ↔ result.returncode = 0 ∧ strip result.stdout = "" := by
  simp only [statusQuestion, succeeds, then_eq_ok, raiseRuntimeIf_eq_ok, raiseValueIf_eq_ok,
    decide_eq_false_iff_not, not_not, ne_eq]

theorem applyQuestion_accept :
    (applyQuestion option failed patches).accept result = .ok () ↔
      result.returncode = 0 ∧ isFuzzy result = false := by
  simp only [applyQuestion, rejectFuzzyApplication, then_eq_ok, raiseRuntimeIf_eq_ok,
    decide_eq_false_iff_not, not_not, ne_eq]

end Answers

theorem accepted_checkQuestions :
    Accepted (git.run inputs.source) world (checkQuestions py inputs) ↔ Ready git inputs world := by
  simp only [checkQuestions, Accepted, headQuestion_accept, statusQuestion_accept,
    applyQuestion_accept, and_true]
  rfl

theorem accepted_questions {verifyOnly : Bool} :
    Accepted (git.run inputs.source) world (questions py inputs verifyOnly) ↔
      Ready git inputs world ∧
        (verifyOnly = false → AppliesCleanly git inputs (atApplication git inputs world)) := by
  rw [← @accepted_checkQuestions _ py]
  cases verifyOnly with
  | true => simp [questions]
  | false =>
      simp only [questions, checkQuestions, applicationQuestion, Bool.false_eq_true, if_false,
        List.cons_append, List.nil_append, Accepted, applyQuestion_accept, and_true, and_assoc,
        forall_const]
      rfl

/-- The inputs are what the lock, the series and the patch directory say. -/
structure FromLock (py : StandardLibrary) (system : FileSystem) (options : ApplyOptions)
    (inputs : ApplyInputs) : Prop where
  source : resolve system options.source = .ok inputs.source
  worktree : system.pathExists (inputs.source ++ [".git"]) = true
  locked : ∃ lockPath data lock, resolve system options.lock = .ok lockPath ∧
    system.readFile lockPath = some data ∧ readLock py data = .ok lock ∧
      (∃ liteRt, lock.field? "liteRt" = some liteRt ∧
        liteRt.field? "commit" = some inputs.expectedCommit) ∧
      ∃ root locked, SeriesLocked system lock options.patchDir root locked ∧
        List.Forall₂ (Applies py system root) locked inputs.patches

theorem readInputs_eq_ok :
    readInputs py system options = .ok inputs ↔ FromLock py system options inputs := by
  simp only [readInputs, script_bind_eq_ok, call_eq_ok, resolvePath_eq_ok, openFile_eq_ok,
    resolvePatches_eq_ok, raiseIf_eq_ok, exists_unit, bind_eq_ok, getItem_ok_iff,
    Bool.not_eq_false']
  constructor
  · rintro ⟨source, isSource, lockPath, isLockPath, data, isData, lock, isLock, patches,
      ⟨root, locked, series, applies⟩, worktree, commit, ⟨liteRt, hasLiteRt, hasCommit⟩, returned⟩
    cases returned
    exact ⟨isSource, worktree, lockPath, data, lock, isLockPath, isData, isLock,
      ⟨liteRt, hasLiteRt, hasCommit⟩, root, locked, series, applies⟩
  · rintro ⟨isSource, worktree, lockPath, data, lock, isLockPath, isData, isLock,
      ⟨liteRt, hasLiteRt, hasCommit⟩, root, locked, series, applies⟩
    exact ⟨_, isSource, lockPath, isLockPath, data, isData, lock, isLock, _,
      ⟨root, locked, series, applies⟩, worktree, _, ⟨liteRt, hasLiteRt, hasCommit⟩, rfl⟩

/-- `--index` stands in one command only. -/
theorem index_notMem_checkCommands :
    applyCommand "--index" inputs.patches ∉ checkCommands inputs := by
  simp [checkCommands, headCommand, statusCommand, applyCommand]

theorem applyMain_of_ok (read : readInputs py system options = .ok inputs) :
    applyMain py git system options =
      askAll (git.run inputs.source) (questions py inputs options.verifyOnly) := by
  rw [applyMain_eq_askAll, read]
  rfl

/-- A run that only verifies gives no more commands than its checks. -/
theorem commands_of_verifying (py : StandardLibrary) (git : Git World) (inputs : ApplyInputs)
    (world : World) :
    (askAll (git.run inputs.source) (questions py inputs true) world).commands <+:
      checkCommands inputs := by
  have given := @commands_askAll _ _ _ _ (git.run inputs.source) (questions py inputs true) world
  rwa [questions, if_pos rfl, List.append_nil] at given

theorem commands_of_applying (py : StandardLibrary) (git : Git World) (inputs : ApplyInputs)
    (world : World) :
    (askAll (git.run inputs.source) (questions py inputs false) world).commands =
        checkCommands inputs ++
          [applyCommand "--index" inputs.patches] ∨
      (askAll (git.run inputs.source) (questions py inputs false) world).commands <+:
        checkCommands inputs := by
  have given := @commands_askAll _ _ _ _ (git.run inputs.source) (questions py inputs false) world
  rw [questions, if_neg Bool.false_ne_true, List.map_append, List.map_singleton] at given
  exact List.prefix_concat_iff.mp given

theorem applies_iff_ready (py : StandardLibrary) (git : Git World) (inputs : ApplyInputs)
    (world : World) :
    applyCommand "--index" inputs.patches ∈
        (askAll (git.run inputs.source) (questions py inputs false) world).commands ↔
      Ready git inputs world := by
  rw [← @accepted_checkQuestions _ py]
  exact gives_last_iff index_notMem_checkCommands

/-- The patches are applied exactly when the lock describes them, git is ready for them and
the script is not asked only to verify; then they are applied once, as the last command. -/
theorem patches_applied_iff_ready (py : StandardLibrary) (git : Git World) (system : FileSystem)
    (options : ApplyOptions) (world : World) :
    (∀ failure, readInputs py system options = .error failure →
      applyMain py git system options world = ⟨.error (.script failure), world, []⟩) ∧
    ∀ inputs, readInputs py system options = .ok inputs →
      FromLock py system options inputs ∧
        (applyMain py git system options world).commands <+:
          checkCommands inputs ++ [applyCommand "--index" inputs.patches] ∧
        (applyCommand "--index" inputs.patches ∈
            (applyMain py git system options world).commands ↔
          options.verifyOnly = false ∧ Ready git inputs world) ∧
        ((applyMain py git system options world).result = .ok () ↔
          Ready git inputs world ∧ (options.verifyOnly = false →
            AppliesCleanly git inputs (atApplication git inputs world))) := by
  constructor
  · intro failure failed
    rw [applyMain_eq_askAll, failed]
    rfl
  · intro inputs read
    rw [applyMain_of_ok read]
    refine ⟨readInputs_eq_ok.mp read, ?_, ?_, askAll_eq_ok_iff.trans accepted_questions⟩
    · refine (commands_askAll _ _).trans ?_
      cases options.verifyOnly with
      | false => exact List.prefix_rfl
      | true => exact ⟨[applyCommand "--index" inputs.patches], rfl⟩
    · cases options.verifyOnly with
      | true =>
          simp only [Bool.true_eq_false, false_and, iff_false]
          intro member
          exact index_notMem_checkCommands
            ((commands_of_verifying py git inputs world).subset member)
      | false =>
          rw [and_iff_right rfl, ← @accepted_checkQuestions _ py]
          exact gives_last_iff index_notMem_checkCommands

/-! ### All or nothing -/

/-- What the script relies on from git, where a state is that of the tracked files and of
the index. The questions change nothing, and neither does an application that fails;
patches that apply where they say without an index do so with one; and a change by an
application shows in the status. -/
structure KeepsWord (git : Git World) : Prop where
  headKeeps : ∀ source world, (git.run source headCommand world).2 = world
  statusKeeps : ∀ source world, (git.run source statusCommand world).2 = world
  checkKeeps : ∀ source patches world,
    (git.run source (applyCommand "--check" patches) world).2 = world
  atomic : ∀ source patches world,
    (git.run source (applyCommand "--index" patches) world).1.returncode ≠ 0 →
      (git.run source (applyCommand "--index" patches) world).2 = world
  sameReport : ∀ source patches world,
    isFuzzy (git.run source (applyCommand "--check" patches) world).1 = false →
      (git.run source (applyCommand "--index" patches) world).1.returncode = 0 →
        isFuzzy (git.run source (applyCommand "--index" patches) world).1 = false
  shows : ∀ source patches world,
    (git.run source (applyCommand "--index" patches) world).1.returncode = 0 →
      (git.run source (applyCommand "--index" patches) world).2 ≠ world →
        strip (git.run source statusCommand
          (git.run source (applyCommand "--index" patches) world).2).1.stdout ≠ ""

/-- The repository after the patches. -/
def patched (git : Git World) (inputs : ApplyInputs) (world : World) : World :=
  (git.run inputs.source (applyCommand "--index" inputs.patches) world).2

section KeepsWord

variable (keeps : KeepsWord git)
include keeps

theorem settle_checks {commands : List (List String)}
    (given : commands <+: checkCommands inputs) :
    settle (git.run inputs.source) world commands = world := by
  refine settle_of_keeps (fun command member world => ?_) world
  have asked := given.subset member
  simp only [checkCommands, List.mem_cons, List.not_mem_nil, or_false] at asked
  rcases asked with rfl | rfl | rfl
  · exact keeps.headKeeps _ _
  · exact keeps.statusKeeps _ _
  · exact keeps.checkKeeps _ _ _

theorem atApplication_eq : atApplication git inputs world = world :=
  settle_checks keeps List.prefix_rfl

/-- A repository that git is ready for has a clean status and a clean check. -/
theorem clean_of_ready (ready : Ready git inputs world) :
    strip (git.run inputs.source statusCommand world).1.stdout = "" ∧
      isFuzzy (git.run inputs.source (applyCommand "--check" inputs.patches) world).1 = false := by
  obtain ⟨-, ⟨-, clean⟩, -, check⟩ := ready
  rw [keeps.headKeeps] at clean check
  rw [keeps.statusKeeps] at check
  exact ⟨clean, check⟩

/-- A repository that git is ready for gets the patches. -/
theorem state_of_ready (read : readInputs py system options = .ok inputs)
    (verifyOnly : options.verifyOnly = false) (ready : Ready git inputs world) :
    (applyMain py git system options world).state = patched git inputs world := by
  rw [applyMain_of_ok read, state_askAll, verifyOnly]
  rcases commands_of_applying py git inputs world with whole | part
  · rw [whole, settle_append_one, settle_checks keeps List.prefix_rfl]
    rfl
  · have applied := (applies_iff_ready py git inputs world).mpr ready
    exact absurd (part.subset applied) index_notMem_checkCommands

/-- One that git is not ready for is left alone. -/
theorem state_of_not_ready (read : readInputs py system options = .ok inputs)
    (notReady : ¬ Ready git inputs world) :
    (applyMain py git system options world).state = world := by
  rw [applyMain_of_ok read, state_askAll]
  cases options.verifyOnly with
  | true => exact settle_checks keeps (commands_of_verifying py git inputs world)
  | false =>
      rcases commands_of_applying py git inputs world with whole | part
      · refine absurd ((applies_iff_ready py git inputs world).mp ?_) notReady
        exact whole ▸ List.mem_append_right _ (List.mem_singleton_self _)
      · exact settle_checks keeps part

theorem appliesCleanly_iff (ready : Ready git inputs world) :
    AppliesCleanly git inputs (atApplication git inputs world) ↔
      (git.run inputs.source (applyCommand "--index" inputs.patches) world).1.returncode = 0 := by
  rw [atApplication_eq keeps]
  exact and_iff_left_of_imp (keeps.sameReport _ _ _ (clean_of_ready keeps ready).2)

/-- Unless the script returns after applying the patches, the repository is as it was. -/
theorem state_of_not_applied
    (notApplied : (applyMain py git system options world).result ≠ .ok () ∨
      options.verifyOnly = true) : (applyMain py git system options world).state = world := by
  cases read : readInputs py system options with
  | error failure =>
      rw [applyMain_eq_askAll, read]
      rfl
  | ok inputs =>
      by_cases ready : Ready git inputs world
      · cases verifyOnly : options.verifyOnly with
        | true =>
            rw [applyMain_of_ok read, state_askAll, verifyOnly]
            exact settle_checks keeps (commands_of_verifying py git inputs world)
        | false =>
            rw [state_of_ready keeps read verifyOnly ready]
            apply keeps.atomic
            intro succeeded
            refine notApplied.elim (fun failed => failed ?_) (by simp [verifyOnly])
            rw [applyMain_of_ok read, askAll_eq_ok_iff, accepted_questions,
              appliesCleanly_iff keeps ready]
            exact ⟨ready, fun _ => succeeded⟩
      · exact state_of_not_ready keeps read ready

end KeepsWord

end Main

/-! ### A repository with one patch -/

def commitLock : Json :=
  .obj [("liteRt", .obj [("commit", .str "0f")]),
    ("patchSeries", .arr [.obj [("file", .str "a.patch"), ("sha256", .str onePatchDigest)]]),
    ("schemaVersion", .int 1)]

/-- The patch directory, the lock and the sources at the root. -/
def sourceTree : FileSystem :=
  (((onePatch "a.patch\n").allocate.setContents 2 (jsonBytes commitLock)).setNode ["lock.json"]
    (some (.file 2)) (by decide)).setNode [".git"] (some .directory) (by decide)

/-- Whether the patch is applied is all that the repository remembers. -/
def oneCommitGit : Git Bool where
  run _ args applied :=
    match args with
    | "rev-parse" :: _ => (⟨0, "0f\n", ""⟩, applied)
    | "status" :: _ => (⟨0, if applied then "M  BUILD\n" else "", ""⟩, applied)
    | "apply" :: "--index" :: _ =>
        (if applied then ⟨1, "", "error: patch does not apply\n"⟩ else ⟨0, "", ""⟩, true)
    | _ => (⟨0, "Checking patch BUILD...\n", ""⟩, applied)

def rootOptions (verifyOnly : Bool) : ApplyOptions :=
  ⟨[], ["lock.json"], ["patches"], verifyOnly⟩

def rootInputs : ApplyInputs :=
  ⟨[], .str "0f", [["patches", "a.patch"]]⟩

theorem keepsWord_oneCommitGit : KeepsWord oneCommitGit where
  headKeeps _ _ := rfl
  statusKeeps _ _ := rfl
  checkKeeps _ _ _ := rfl
  atomic := by
    rintro source patches (_ | _) failed
    · exact absurd rfl failed
    · rfl
  sameReport := by
    rintro source patches (_ | _) exact succeeded
    · show isFuzzy ⟨0, "", ""⟩ = false
      decide
    · cases succeeded
  shows := by
    intro source patches applied succeeded changed
    show strip "M  BUILD\n" ≠ ""
    decide

theorem fromLock_sourceTree (verifyOnly : Bool) :
    FromLock concreteLibrary sourceTree (rootOptions verifyOnly) rootInputs where
  source := resolve_of_walk (FileSystem.walk_directory sourceTree.root _)
  worktree :=
    congrArg Except.isOk (@FileSystem.walk_directory sourceTree [".git"] rfl FileSystem.linkLimit)
  locked := by
    have wellFormed : commitLock.WellFormed := by
      simp [commitLock, Json.wellFormed_obj, Json.wellFormed_arr]
    have sorted : commitLock.sortKeys = commitLock := by
      rw [commitLock, Json.sortKeys_obj, sortByKey_eq_self (by simp)]
      simp only [List.map_cons, List.map_nil, Json.sortKeys_arr]
      rw [Json.sortKeys_obj, sortByKey_eq_self (by simp), Json.sortKeys_obj,
        sortByKey_eq_self (by simp)]
      rfl
    have loaded : readLock concreteLibrary (jsonBytes commitLock) = .ok commitLock := by
      refine readLock_eq_ok.mpr ⟨?_, rfl⟩
      rw [readJson_jsonBytes concreteLibrary wellFormed, sorted]
    have series : readSeries sourceTree ["patches"] = .ok ["a.patch"] := by
      have read := @FileSystem.readFile_file sourceTree ["patches", "series"] 0 rfl
      refine script_bind_eq_ok.mpr ⟨_, openFile_eq_ok.mpr read, script_bind_eq_ok.mpr
        ⟨"a.patch\n", call_eq_ok.mpr (readTextUtf8_encodeUtf8 (by decide)), ?_⟩⟩
      exact congrArg Except.ok (by decide)
    have resolved {path : Path} {number : Nat}
        (present : sourceTree.nodes path = some (.file number)) :
        resolve sourceTree path = .ok path :=
      resolve_of_walk (FileSystem.walk_file present _)
    have applies : Applies concreteLibrary sourceTree ["patches"] ("a.patch", onePatchDigest)
        ["patches", "a.patch"] :=
      ⟨@resolved ["patches", "a.patch"] 1 rfl, rfl, [1],
        @FileSystem.readFile_file sourceTree ["patches", "a.patch"] 1 rfl, rfl⟩
    have stored : sourceTree.readFile ["lock.json"] = some (jsonBytes commitLock) := by
      rw [@FileSystem.readFile_file sourceTree ["lock.json"] 2 rfl, sourceTree,
        FileSystem.contents_setNode, FileSystem.contents_setNode,
        FileSystem.contents_setContents_self]
    have seriesLocked : SeriesLocked sourceTree commitLock ["patches"] ["patches"]
        [("a.patch", onePatchDigest)] :=
      ⟨resolve_of_walk (FileSystem.walk_directory rfl _), ⟨_, rfl, .cons ⟨rfl, rfl⟩ .nil⟩, series⟩
    exact ⟨["lock.json"], jsonBytes commitLock, commitLock, @resolved ["lock.json"] 2 rfl, stored,
      loaded, ⟨_, rfl, rfl⟩, ["patches"], [("a.patch", onePatchDigest)], seriesLocked, .cons applies .nil⟩

theorem ready_oneCommitGit : Ready oneCommitGit rootInputs false :=
  ⟨⟨rfl, congrArg Json.str (by decide)⟩, ⟨rfl, by decide⟩, rfl, by decide⟩

theorem patches_applied_iff_ready_sample :
    applyCommand "--index" [["patches", "a.patch"]] ∈
      (applyMain concreteLibrary oneCommitGit sourceTree (rootOptions false) false).commands := by
  obtain ⟨-, -, applies_iff, -⟩ := (patches_applied_iff_ready concreteLibrary oneCommitGit
    sourceTree (rootOptions false) false).2 _ (readInputs_eq_ok.mpr (fromLock_sourceTree false))
  exact applies_iff.mpr ⟨rfl, ready_oneCommitGit⟩

end BssLiteRt.Patches

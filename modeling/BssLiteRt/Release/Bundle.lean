import BssLiteRt.Archive.FixedNames
import BssLiteRt.Complete.StagingMain
import BssLiteRt.Release.CompareBuilds

/-!
Owns `assemble_maven_bundle.py`: the files of one version directory become a bundle
under their paths in the repository, with a manifest of its entries. What is checked of
the staged directory can be checked of the unpacked bundle.
-/

namespace BssLiteRt.Release

open BssLiteRt.Library BssLiteRt.Python BssLiteRt.Archive
open BssLiteRt.Complete (fileRecords readRecord signatureName verifyStagingMain)
open BssLiteRt.Complete.MavenChecksums (isSidecar sidecarSuffixes sidecarName readFile)

/-! ### The version directory -/

/-- The names of a directory with what they lead to. -/
structure VersionDirectory where
  nodes : Dict String Node
  plain : ∀ name ∈ nodes, PurePosixPath.IsPlainComponent name

/-- What `path.read_bytes()` returns of a regular file. -/
def Node.contents? : Node → Option Bytes
  | .file data => some data
  | _ => none

def VersionDirectory.files (directory : VersionDirectory) : Dict String Bytes :=
  directory.nodes.filterMap fun _ node => node.contents?

/-! ### The coordinate -/

/-- `text.split(".")` -/
def splitDots (text : String) : List String :=
  (text.toList.splitOn '.').map String.ofList

/-- The arguments of the script. No argument of a program holds a NUL. -/
structure BundleOptions where
  group : String
  artifact : String
  version : String
  outputName : String
  requireSignatures : Bool
  nulFree : ∀ text ∈ [group, artifact, version], '\x00' ∉ text.toList

namespace BundleOptions

/-- `Path(*args.group.split(".")) / args.artifact / args.version` -/
def coordinate (options : BundleOptions) : PurePosixPath :=
  (((splitDots options.group).foldl PurePosixPath.child (PurePosixPath.parse "")).child
    options.artifact).child options.version

/-- `(coordinate / path.name).as_posix()` -/
def entryName (options : BundleOptions) (name : String) : String :=
  (options.coordinate.child name).asPosix

end BundleOptions

/-! ### The bundle -/

/-- The loop over the directory. -/
def collectPayloads (options : BundleOptions) (versionDir : PurePosixPath) :
    List (String × Node) → Dict String Bytes → Py (Dict String Bytes)
  | [], entries => .ok entries
  | (name, .symlink) :: _, _ =>
      raise .valueError
        ("Maven payload must not contain symlinks: " ++ (versionDir.child name).asPosix)
  | (_, .other) :: rest, entries => collectPayloads options versionDir rest entries
  | (name, .file data) :: rest, entries =>
      collectPayloads options versionDir rest (entries.set (options.entryName name) data)

def unsignedPayloads (entries : Dict String Bytes) : List String :=
  entries.keys.filter fun name => !isSidecar name ∧ signatureName name ∉ entries

def bundleManifest (py : StandardLibrary) (options : BundleOptions) (entries : Dict String Bytes) :
    Json :=
  .obj [("schemaVersion", .int 1),
    ("coordinate", .str (options.group ++ ":" ++ options.artifact ++ ":" ++ options.version)),
    ("bundle", .str options.outputName),
    ("files", fileRecords py entries)]

/-- The two files that the script writes. -/
structure Bundle where
  archive : Bytes
  manifest : Bytes

/-- `main`, on a version directory that exists. -/
def assembleBundle (py : StandardLibrary) (options : BundleOptions) (versionDir : PurePosixPath)
    (directory : VersionDirectory) : Py Bundle := do
  let entries ← collectPayloads options versionDir (sortByKey directory.nodes.items) Dict.empty
  raiseIf (entries.items = []) .valueError "Maven version directory is empty."
  let unsigned := unsignedPayloads entries
  raiseIf (options.requireSignatures ∧ unsigned ≠ []) .valueError
    ("Unsigned Maven payloads: " ++ showNames py unsigned)
  let archive ← archiveBytes py entries
  return ⟨archive, jsonBytes (bundleManifest py options entries)⟩

/-- The version directory of a repository that the bundle was unpacked into. -/
def unpackVersion (entries : Dict String Bytes) : Dict String Bytes :=
  .ofPairs (entries.items.map fun item => ((PurePosixPath.parse item.1).name, item.2))

/-! ### Paths of entries -/

section Paths

variable {options : BundleOptions} {name other : String}

/-- A path that parsing or `/` returns for names without NUL. -/
structure CleanPath (path : PurePosixPath) : Prop where
  root : ∀ char ∈ path.root, char = '/'
  kept : ∀ component ∈ path.tail, PurePosixPath.keeps component = true
  slashFree : ∀ component ∈ path.tail, '/' ∉ component
  nulFree : ∀ component ∈ path.tail, '\x00' ∉ component

theorem CleanPath.parse {text : String} (nulFree : '\x00' ∉ text.toList) :
    CleanPath (PurePosixPath.parse text) where
  root := PurePosixPath.root_parseChars _
  kept := fun _ member => (PurePosixPath.mem_tail_parseChars member).1
  slashFree := fun _ member => (PurePosixPath.mem_tail_parseChars member).2.1
  nulFree := fun _ member nul => nulFree ((PurePosixPath.mem_tail_parseChars member).2.2 _ nul)

theorem CleanPath.child {path : PurePosixPath} (clean : CleanPath path) {text : String}
    (nulFree : '\x00' ∉ text.toList) : CleanPath (path.child text) := by
  have parsed := CleanPath.parse nulFree
  rw [PurePosixPath.child]
  split
  · exact parsed
  · refine ⟨clean.root, ?_, ?_, ?_⟩
    · exact fun component member => (List.mem_append.mp member).elim (clean.kept _) (parsed.kept _)
    · exact fun component member =>
        (List.mem_append.mp member).elim (clean.slashFree _) (parsed.slashFree _)
    · exact fun component member =>
        (List.mem_append.mp member).elim (clean.nulFree _) (parsed.nulFree _)

theorem CleanPath.foldl_child {path : PurePosixPath} (clean : CleanPath path) {texts : List String}
    (nulFree : ∀ text ∈ texts, '\x00' ∉ text.toList) :
    CleanPath (texts.foldl PurePosixPath.child path) := by
  induction texts generalizing path with
  | nil => exact clean
  | cons text rest inductionHypothesis =>
      obtain ⟨textFree, restFree⟩ := List.forall_mem_cons.mp nulFree
      exact inductionHypothesis (clean.child textFree) restFree

theorem nulFree_splitDots {text : String} (nulFree : '\x00' ∉ text.toList) :
    ∀ piece ∈ splitDots text, '\x00' ∉ piece.toList := by
  intro piece member nul
  obtain ⟨chars, isPiece, rfl⟩ := List.mem_map.mp member
  rw [String.toList_ofList] at nul
  apply nulFree
  have whole : List.intercalate ['.'] (text.toList.splitOn '.') = text.toList :=
    List.intercalate_splitOn '.'
  rw [← whole]
  have within : [chars].Sublist (text.toList.splitOn '.') := List.singleton_sublist.mpr isPiece
  exact (intercalate_sublist within).subset (by rwa [List.intercalate_singleton])

theorem BundleOptions.clean (options : BundleOptions) : CleanPath options.coordinate := by
  have groupFree := options.nulFree options.group (by simp)
  have artifactFree := options.nulFree options.artifact (by simp)
  have versionFree := options.nulFree options.version (by simp)
  have start : CleanPath (PurePosixPath.parse "") := CleanPath.parse (by decide)
  exact ((start.foldl_child (nulFree_splitDots groupFree)).child artifactFree).child versionFree

theorem intercalate_concat {α : Type} {separator last : List α} {components : List (List α)}
    (nonempty : components ≠ []) : List.intercalate separator (components ++ [last]) =
      List.intercalate separator components ++ separator ++ last := by
  induction components with
  | nil => exact absurd rfl nonempty
  | cons first rest inductionHypothesis =>
      cases rest with
      | nil => simp [List.intercalate]
      | cons second others =>
          have later := inductionHypothesis (List.cons_ne_nil second others)
          rw [List.cons_append, List.cons_append, List.intercalate_cons_cons, ← List.cons_append,
            later, List.intercalate_cons_cons]
          simp only [List.append_assoc]

/-- What stands before the name of a file in the path of its entry. -/
def entryFront (options : BundleOptions) : List Char :=
  if options.coordinate.tail = [] then options.coordinate.root
  else options.coordinate.root ++ List.intercalate ['/'] options.coordinate.tail ++ ['/']

theorem child_plain {path : PurePosixPath} (plain : PurePosixPath.IsPlainComponent name) :
    path.child name = ⟨path.root, path.tail ++ [name.toList]⟩ := by
  have relative : name.toList.head? ≠ some '/' := by simpa using plain.relative []
  have parsed : PurePosixPath.parse name = ⟨[], [name.toList]⟩ :=
    PurePosixPath.parse_components (by simp)
      (List.forall_mem_singleton.mpr ⟨plain.1, plain.2.2.1⟩) (by simp)
  rw [PurePosixPath.child, if_neg relative, parsed]

theorem toList_entryName (plain : PurePosixPath.IsPlainComponent name) :
    (options.entryName name).toList = entryFront options ++ name.toList := by
  rw [BundleOptions.entryName, child_plain plain, PurePosixPath.asPosix, String.toList_ofList,
    PurePosixPath.asPosixChars, if_neg (by simp), entryFront]
  split
  · rename_i empty
    rw [empty, List.nil_append, List.intercalate_singleton]
  · rename_i nonempty
    rw [intercalate_concat nonempty]
    simp only [List.append_assoc]

theorem entryName_inj (plain : PurePosixPath.IsPlainComponent name)
    (otherPlain : PurePosixPath.IsPlainComponent other)
    (same : options.entryName name = options.entryName other) : name = other := by
  have texts := congrArg String.toList same
  rw [toList_entryName plain, toList_entryName otherPlain] at texts
  exact String.toList_inj.mp (List.append_cancel_left texts)

theorem entryFront_ends (options : BundleOptions) :
    entryFront options = [] ∨ ['/'] <:+ entryFront options := by
  unfold entryFront
  split
  · have slashes := options.clean.root
    cases shape : options.coordinate.root.reverse with
    | nil => exact Or.inl (List.reverse_eq_nil_iff.mp shape)
    | cons last front =>
        have back := congrArg List.reverse shape
        rw [List.reverse_reverse, List.reverse_cons] at back
        have isSlash : last = '/' := slashes last (by rw [back]; simp)
        exact Or.inr ⟨front.reverse, by rw [back, isSlash]⟩
  · exact Or.inr (List.suffix_append _ _)

/-- An ending without a slash is an ending of the name. -/
theorem endsWith_entryName (plain : PurePosixPath.IsPlainComponent name) {ending : String}
    (slashFree : '/' ∉ ending.toList) :
    endsWith (options.entryName name) ending = endsWith name ending := by
  rw [Bool.eq_iff_iff, endsWith, endsWith, List.isSuffixOf_iff_suffix, List.isSuffixOf_iff_suffix,
    toList_entryName plain]
  constructor
  · intro whole
    rcases List.suffix_or_suffix_of_suffix whole (List.suffix_append _ name.toList) with
      inName | longer
    · exact inName
    · obtain ⟨front, shape⟩ := longer
      rw [← shape, List.suffix_append_self_iff] at whole
      have noSlash : '/' ∉ front := fun member =>
        slashFree (shape ▸ List.mem_append_left name.toList member)
      have empty : front = [] := by
        rcases entryFront_ends options with atRoot | slash
        · exact List.suffix_nil.mp (atRoot ▸ whole)
        · rcases List.suffix_or_suffix_of_suffix slash whole with inFront | within
          · exact absurd (inFront.subset List.mem_cons_self) noSlash
          · by_contra nonempty
            obtain ⟨char, rest, isFront⟩ := List.exists_cons_of_ne_nil nonempty
            have member : char ∈ front := isFront ▸ List.mem_cons_self
            exact noSlash (List.mem_singleton.mp (within.subset member) ▸ member)
      rw [← shape, empty, List.nil_append]
  · exact fun inName => inName.trans (List.suffix_append _ _)

/-- A coordinate whose path leads down from the repository. -/
structure LeadsDown (coordinate : PurePosixPath) : Prop where
  relative : coordinate.root = []
  noParent : ['.', '.'] ∉ coordinate.tail
  noBackslash : ∀ component ∈ coordinate.tail, '\\' ∉ component

theorem relative_child (plain : PurePosixPath.IsPlainComponent name)
    (relative : options.coordinate.root = []) : (options.coordinate.child name).Relative := by
  rw [child_plain plain]
  refine ⟨relative, by simp, ?_, ?_⟩
  · exact List.forall_mem_append.mpr ⟨options.clean.kept, List.forall_mem_singleton.mpr plain.1⟩
  · exact List.forall_mem_append.mpr
      ⟨options.clean.slashFree, List.forall_mem_singleton.mpr plain.2.2.1⟩

theorem parse_entryName (plain : PurePosixPath.IsPlainComponent name)
    (relative : options.coordinate.root = []) :
    PurePosixPath.parse (options.entryName name) = options.coordinate.child name := by
  rw [PurePosixPath.parse, BundleOptions.entryName, PurePosixPath.asPosix, String.toList_ofList]
  exact (relative_child plain relative).parseChars_asPosixChars

theorem normalizeName_entryName (plain : PurePosixPath.IsPlainComponent name)
    (relative : options.coordinate.root = []) :
    normalizeName (options.entryName name) = options.entryName name := by
  rw [normalizeName, parse_entryName plain relative, BundleOptions.entryName]

theorem nulFree_entryName (plain : PurePosixPath.IsPlainComponent name) :
    '\x00' ∉ (options.entryName name).toList := by
  rw [toList_entryName plain, List.mem_append, not_or]
  refine ⟨fun member => ?_, plain.2.2.2⟩
  have rooted : '\x00' ∉ options.coordinate.root := fun member =>
    absurd (options.clean.root _ member) (by decide)
  unfold entryFront at member
  split at member
  · exact rooted member
  · simp only [List.mem_append, List.mem_singleton] at member
    rcases member with (inRoot | inTail) | slash
    · exact rooted inRoot
    · rcases PurePosixPath.mem_intercalate_slash inTail with slash | ⟨component, isPart, inside⟩
      · exact absurd slash (by decide)
      · exact options.clean.nulFree component isPart inside
    · exact absurd slash (by decide)

theorem mem_entryName_iff (plain : PurePosixPath.IsPlainComponent name)
    (relative : options.coordinate.root = []) {char : Char} (notSlash : char ≠ '/') :
    char ∈ (options.entryName name).toList ↔
      (∃ component ∈ options.coordinate.tail, char ∈ component) ∨ char ∈ name.toList := by
  have joined := (relative_child plain relative).asPosixChars_eq
  rw [BundleOptions.entryName, PurePosixPath.asPosix, String.toList_ofList, joined,
    child_plain plain]
  constructor
  · intro member
    obtain ⟨component, isPart, inside⟩ :=
      (PurePosixPath.mem_intercalate_slash member).resolve_left notSlash
    rcases List.mem_append.mp isPart with inTail | isName
    · exact Or.inl ⟨component, inTail, inside⟩
    · exact Or.inr (List.mem_singleton.mp isName ▸ inside)
  · have within {component : List Char} (isPart : component ∈ options.coordinate.tail ++ [name.toList])
        (inside : char ∈ component) :
        char ∈ List.intercalate ['/'] (options.coordinate.tail ++ [name.toList]) := by
      apply (intercalate_sublist (List.singleton_sublist.mpr isPart)).subset
      rwa [List.intercalate_singleton]
    rintro (⟨component, inTail, inside⟩ | inName)
    · exact within (List.mem_append_left _ inTail) inside
    · exact within (List.mem_append_right _ List.mem_cons_self) inName

theorem head_asPosixChars_of_rooted {path : PurePosixPath} {char : Char} {rest : List Char}
    (rooted : path.root = char :: rest) : path.asPosixChars.head? = some char := by
  rw [PurePosixPath.asPosixChars, if_neg (by simp [rooted]), rooted]
  rfl

theorem rejects_of_rooted (plain : PurePosixPath.IsPlainComponent name)
    (rooted : options.coordinate.root ≠ []) : rejectsName (options.entryName name) = true := by
  obtain ⟨char, rest, shape⟩ := List.exists_cons_of_ne_nil rooted
  have isSlash : char = '/' := options.clean.root char (shape ▸ List.mem_cons_self)
  have starts : (options.entryName name).toList.head? = some '/' := by
    rw [BundleOptions.entryName, PurePosixPath.asPosix, String.toList_ofList, ← isSlash]
    exact head_asPosixChars_of_rooted (by rw [child_plain plain]; exact shape)
  have parsedRoot : ∃ more, (PurePosixPath.parse (options.entryName name)).root = '/' :: more := by
    obtain ⟨others, whole⟩ := List.head?_eq_some_iff.mp starts
    rw [PurePosixPath.parse, whole, PurePosixPath.parseChars]
    show ∃ more, (PurePosixPath.splitRoot ('/' :: others)).1 = '/' :: more
    unfold PurePosixPath.splitRoot
    split
    · exact ⟨_, rfl⟩
    · exact ⟨_, rfl⟩
    · exact ⟨_, rfl⟩
    · rename_i notRooted
      exact absurd rfl (notRooted _)
  obtain ⟨more, isRoot⟩ := parsedRoot
  have head := head_asPosixChars_of_rooted isRoot
  rw [← toList_normalizeName] at head
  simp [rejectsName, head]

/-- When an archive accepts the entry of a file. -/
theorem accepts_entryName_iff (plain : PurePosixPath.IsPlainComponent name) :
    rejectsName (options.entryName name) = false ↔
      LeadsDown options.coordinate ∧ '\\' ∉ name.toList := by
  by_cases relative : options.coordinate.root = []
  · have isPath := relative_child plain relative
    have parts : (PurePosixPath.parse (options.entryName name)).parts =
        options.coordinate.tail ++ [name.toList] := by
      rw [parse_entryName plain relative, child_plain plain, PurePosixPath.parts, if_pos relative]
    have nonempty : (options.entryName name).toList ≠ [] := by
      rw [toList_entryName plain]
      intro empty
      have noName := (List.append_eq_nil_iff.mp empty).2
      have kept := plain.1
      simp [noName, PurePosixPath.keeps] at kept
    have notRooted : (options.entryName name).toList.head? ≠ some '/' := by
      rw [BundleOptions.entryName, PurePosixPath.asPosix, String.toList_ofList]
      exact isPath.head_ne_slash
    have notDot : options.entryName name ≠ "." := by
      intro isDot
      rw [isDot] at parts
      exact absurd parts.symm (by simp [PurePosixPath.parts, show (PurePosixPath.parse ".").root = []
        from rfl, show (PurePosixPath.parse ".").tail = [] from rfl])
    have notParent : ['.', '.'] ≠ name.toList := fun same =>
      plain.2.1 (String.toList_inj.mp same.symm)
    rw [Bool.eq_false_iff]
    simp only [rejectsName, normalizeName_entryName plain relative, parts, nonempty, notRooted,
      notDot, false_or, decide_eq_true_eq, ne_eq, not_or, List.mem_append, List.mem_singleton,
      notParent, or_false, mem_entryName_iff plain relative (show '\\' ≠ '/' by decide)]
    constructor
    · rintro ⟨noParent, noBackslash, nameFree⟩
      exact ⟨⟨relative, noParent, fun component member inside =>
        noBackslash ⟨component, member, inside⟩⟩, nameFree⟩
    · rintro ⟨down, nameFree⟩
      exact ⟨down.noParent, fun found => by
        obtain ⟨component, member, inside⟩ := found
        exact down.noBackslash component member inside, nameFree⟩
  · rw [rejects_of_rooted plain relative]
    simp only [Bool.true_eq_false, false_iff, not_and]
    exact fun down => absurd down.relative relative

end Paths

/-! ### Entries of the bundle -/

section Entries

variable {options : BundleOptions} {versionDir : PurePosixPath} {directory : VersionDirectory}
  {entries : Dict String Bytes} {name : String}

/-- The regular files of a list of nodes. -/
def filesOf (items : List (String × Node)) : List (String × Bytes) :=
  items.filterMap fun item => item.2.contents?.map (Prod.mk item.1)

/-- The entry of a file. -/
def entryItem (options : BundleOptions) (item : String × Bytes) : String × Bytes :=
  (options.entryName item.1, item.2)

theorem collectPayloads_ok_iff {items : List (String × Node)} {start result : Dict String Bytes} :
    collectPayloads options versionDir items start = .ok result ↔
      (∀ item ∈ items, item.2 ≠ .symlink) ∧
        ((filesOf items).map (entryItem options)).foldl
          (fun entries item => entries.set item.1 item.2) start = result := by
  induction items generalizing start with
  | nil => simp [collectPayloads, filesOf]
  | cons item rest inductionHypothesis =>
      obtain ⟨path, node⟩ := item
      cases node with
      | symlink => simp [collectPayloads]
      | other =>
          rw [collectPayloads, inductionHypothesis]
          simp [filesOf, Node.contents?]
      | file data =>
          rw [collectPayloads, inductionHypothesis]
          simp [filesOf, Node.contents?, entryItem]

theorem plain_of_file (member : name ∈ directory.files) : PurePosixPath.IsPlainComponent name := by
  obtain ⟨data, found⟩ := Dict.mem_iff_get?.mp member
  rw [VersionDirectory.files, Dict.get?_filterMap] at found
  obtain ⟨node, isNode, -⟩ := Option.bind_eq_some_iff.mp found
  exact directory.plain name (Dict.mem_iff_get?.mpr ⟨node, isNode⟩)

/-- The loop meets the files in the order of their names. -/
theorem filesOf_sorted (directory : VersionDirectory) :
    filesOf (sortByKey directory.nodes.items) = sortByKey directory.files.items := by
  have same : (filesOf (sortByKey directory.nodes.items)).Perm directory.files.items :=
    (sortByKey_perm _).filterMap _
  have unique : ((filesOf (sortByKey directory.nodes.items)).map Prod.fst).Nodup :=
    (same.map Prod.fst).nodup_iff.mpr directory.files.unique
  have sorted : (filesOf (sortByKey directory.nodes.items)).Pairwise
      fun left right => left.1 ≤ right.1 := by
    apply List.Pairwise.filterMap _ _ (sortByKey_pairwise directory.nodes.items)
    intro left right below leftFile isLeft rightFile isRight
    obtain ⟨data, -, rfl⟩ := Option.map_eq_some_iff.mp isLeft
    obtain ⟨other, -, rfl⟩ := Option.map_eq_some_iff.mp isRight
    exact below
  rw [← sortByKey_eq_of_perm unique same, sortByKey_eq_self sorted]

/-- The entries for the files of the directory, in the order of their names. -/
def entryItems (options : BundleOptions) (directory : VersionDirectory) : List (String × Bytes) :=
  (sortByKey directory.files.items).map (entryItem options)

theorem unique_entryItems : ((entryItems options directory).map Prod.fst).Nodup := by
  have names : (entryItems options directory).map Prod.fst =
      ((sortByKey directory.files.items).map Prod.fst).map options.entryName := by
    rw [entryItems, List.map_map, List.map_map]
    rfl
  have plain : ∀ name ∈ (sortByKey directory.files.items).map Prod.fst,
      PurePosixPath.IsPlainComponent name := by
    intro name member
    rw [((sortByKey_perm _).map Prod.fst).mem_iff] at member
    exact plain_of_file member
  rw [names]
  apply List.Nodup.map_on
  · intro first isFirst second isSecond same
    exact entryName_inj (plain first isFirst) (plain second isSecond) same
  · exact ((sortByKey_perm _).map Prod.fst).nodup_iff.mpr directory.files.unique

/-- The entries that the script makes of a directory without links. -/
def bundleEntries (options : BundleOptions) (directory : VersionDirectory) : Dict String Bytes :=
  ⟨entryItems options directory, unique_entryItems⟩

theorem collectPayloads_eq_ok :
    collectPayloads options versionDir (sortByKey directory.nodes.items) Dict.empty = .ok entries ↔
      SymlinkFree directory.nodes ∧ bundleEntries options directory = entries := by
  rw [collectPayloads_ok_iff, filesOf_sorted]
  have linkFree : (∀ item ∈ sortByKey directory.nodes.items, item.2 ≠ .symlink) ↔
      SymlinkFree directory.nodes := by
    simp only [mem_sortByKey, SymlinkFree]
  have made : ((sortByKey directory.files.items).map (entryItem options)).foldl
      (fun entries item => entries.set item.1 item.2) Dict.empty =
        bundleEntries options directory :=
    Dict.ofPairs_of_nodup unique_entryItems
  rw [linkFree, made]

theorem mem_bundleEntries_iff {path : String} : path ∈ bundleEntries options directory ↔
    ∃ name ∈ directory.files, options.entryName name = path := by
  have names : (bundleEntries options directory).keys =
      ((sortByKey directory.files.items).map Prod.fst).map options.entryName := by
    show (entryItems options directory).map Prod.fst = _
    rw [entryItems, List.map_map, List.map_map]
    rfl
  rw [Dict.mem_iff_keys, names, List.mem_map]
  simp only [((sortByKey_perm directory.files.items).map Prod.fst).mem_iff]
  rfl

/-- The entry under the path of a file holds the file. -/
theorem get?_bundleEntries (plain : PurePosixPath.IsPlainComponent name) :
    (bundleEntries options directory).get? (options.entryName name) =
      directory.files.get? name := by
  have both (data : Bytes) : (bundleEntries options directory).get? (options.entryName name) =
      some data ↔ directory.files.get? name = some data := by
    rw [Dict.get?_eq_some_iff, Dict.get?_eq_some_iff]
    constructor
    · intro member
      obtain ⟨item, isItem, same⟩ := List.mem_map.mp member
      obtain ⟨samePath, rfl⟩ := Prod.mk.inj same
      rw [mem_sortByKey] at isItem
      have itemPlain : PurePosixPath.IsPlainComponent item.1 :=
        plain_of_file (List.mem_map_of_mem isItem)
      exact entryName_inj itemPlain plain samePath ▸ isItem
    · intro member
      exact List.mem_map.mpr ⟨(name, data), mem_sortByKey.mpr member, rfl⟩
  exact Option.ext both

end Entries

/-! ### What is bundled -/

section Bundled

variable {py : StandardLibrary} {options : BundleOptions} {versionDir : PurePosixPath}
  {directory : VersionDirectory} {bundle : Bundle} {name : String}

/-- Every file that is no sidecar has a signature beside it. -/
def Signed (files : Dict String Bytes) : Prop :=
  ∀ name ∈ files, isSidecar name = false → signatureName name ∈ files

/-- A directory that the script takes. -/
structure Bundled (options : BundleOptions) (directory : VersionDirectory) : Prop where
  linkFree : SymlinkFree directory.nodes
  nonempty : ∃ name, name ∈ directory.files
  signed : options.requireSignatures = true → Signed directory.files

theorem isSidecar_entryName (plain : PurePosixPath.IsPlainComponent name) :
    isSidecar (options.entryName name) = isSidecar name := by
  have slashFree : ∀ suffix ∈ sidecarSuffixes, '/' ∉ suffix.toList := by decide
  rw [Bool.eq_iff_iff, isSidecar, isSidecar, List.any_eq_true, List.any_eq_true]
  apply exists_congr
  intro suffix
  apply and_congr_right
  intro listed
  rw [endsWith_entryName plain (slashFree suffix listed)]

theorem plain_signatureName (plain : PurePosixPath.IsPlainComponent name) :
    PurePosixPath.IsPlainComponent (signatureName name) := by
  obtain ⟨kept, -, whole, nulFree⟩ := plain
  have shape : (signatureName name).toList = name.toList ++ ".asc".toList :=
    String.toList_append
  have nonempty : name.toList ≠ [] := fun empty => by simp [PurePosixPath.keeps, empty] at kept
  have long : 4 < (signatureName name).toList.length := by
    have positive := List.length_pos_iff.mpr nonempty
    have added : ".asc".toList.length = 4 := rfl
    rw [shape, List.length_append]
    omega
  refine ⟨?_, ?_, ?_, ?_⟩
  · have notEmpty : (signatureName name).toList ≠ [] := fun same => by simp [same] at long
    have notDot : (signatureName name).toList ≠ ['.'] := fun same => by simp [same] at long
    simp [PurePosixPath.keeps, notEmpty, notDot]
  · exact fun same => absurd (same ▸ long) (by decide)
  · rw [shape, List.mem_append, not_or]
    exact ⟨whole, by decide⟩
  · rw [shape, List.mem_append, not_or]
    exact ⟨nulFree, by decide⟩

theorem signatureName_entryName (plain : PurePosixPath.IsPlainComponent name) :
    signatureName (options.entryName name) = options.entryName (signatureName name) := by
  apply String.toList_inj.mp
  rw [toList_entryName (plain_signatureName plain), signatureName, signatureName,
    String.toList_append, String.toList_append, toList_entryName plain, List.append_assoc]

theorem entryName_mem_iff (plain : PurePosixPath.IsPlainComponent name) :
    options.entryName name ∈ bundleEntries options directory ↔ name ∈ directory.files := by
  rw [Dict.mem_iff_get?, Dict.mem_iff_get?, get?_bundleEntries plain]

theorem unsignedPayloads_eq_nil_iff :
    unsignedPayloads (bundleEntries options directory) = [] ↔ Signed directory.files := by
  rw [unsignedPayloads, List.filter_eq_nil_iff]
  simp only [Bool.not_eq_true', decide_eq_true_eq, Bool.decide_and, Bool.and_eq_true, not_and,
    not_not, Signed]
  constructor
  · intro signed name member payload
    have plain := plain_of_file member
    have isEntry : options.entryName name ∈ (bundleEntries options directory).keys :=
      (entryName_mem_iff plain).mpr member
    have hasSignature := signed _ isEntry (by rw [isSidecar_entryName plain, payload])
    rw [signatureName_entryName plain] at hasSignature
    exact (entryName_mem_iff (plain_signatureName plain)).mp hasSignature
  · intro signed path isEntry payload
    obtain ⟨name, member, rfl⟩ := mem_bundleEntries_iff.mp isEntry
    have plain := plain_of_file member
    rw [isSidecar_entryName plain] at payload
    rw [signatureName_entryName plain]
    exact (entryName_mem_iff (plain_signatureName plain)).mpr (signed name member payload)

theorem bundleEntries_empty_iff : (bundleEntries options directory).items = [] ↔
    ¬ ∃ name, name ∈ directory.files := by
  constructor
  · rintro empty ⟨name, member⟩
    have isEntry := (@entryName_mem_iff options _ _ (plain_of_file member)).mpr member
    rw [Dict.mem_iff_keys, Dict.keys, empty] at isEntry
    exact absurd isEntry List.not_mem_nil
  · intro none
    apply List.eq_nil_iff_forall_not_mem.mpr
    intro item member
    obtain ⟨name, isFile, -⟩ := mem_bundleEntries_iff.mp (List.mem_map_of_mem member)
    exact none ⟨name, isFile⟩

theorem assembleBundle_eq_ok : assembleBundle py options versionDir directory = .ok bundle ↔
    Bundled options directory ∧
      ∃ archive, archiveBytes py (bundleEntries options directory) = .ok archive ∧
        ⟨archive, jsonBytes (bundleManifest py options (bundleEntries options directory))⟩ =
          bundle := by
  simp only [assembleBundle, bind_eq_ok, exists_unit, raiseIf_eq_ok, collectPayloads_eq_ok,
    pure_eq_ok, Except.ok.injEq, decide_eq_false_iff_not]
  constructor
  · rintro ⟨entries, ⟨linkFree, rfl⟩, nonempty, signed, archive, written, whole⟩
    rw [bundleEntries_empty_iff, not_not] at nonempty
    refine ⟨⟨linkFree, nonempty, fun required => ?_⟩, archive, written, whole⟩
    by_contra unsigned
    exact signed ⟨required, fun none => unsigned (unsignedPayloads_eq_nil_iff.mp none)⟩
  · rintro ⟨bundled, archive, written, whole⟩
    refine ⟨_, ⟨bundled.linkFree, rfl⟩, ?_, ?_, archive, written, whole⟩
    · rw [bundleEntries_empty_iff, not_not]
      exact bundled.nonempty
    · rintro ⟨required, unsigned⟩
      exact unsigned (unsignedPayloads_eq_nil_iff.mpr (bundled.signed required))

theorem archives_iff (nonempty : ∃ name, name ∈ directory.files) :
    (∃ archive, archiveBytes py (bundleEntries options directory) = .ok archive) ↔
      LeadsDown options.coordinate ∧ ∀ name ∈ directory.files, '\\' ∉ name.toList := by
  have accepted_iff : (∀ path ∈ bundleEntries options directory, rejectsName path = false) ↔
      LeadsDown options.coordinate ∧ ∀ name ∈ directory.files, '\\' ∉ name.toList := by
    constructor
    · intro accepted
      have each (name : String) (member : name ∈ directory.files) :=
        (accepts_entryName_iff (plain_of_file member)).mp
          (accepted _ (mem_bundleEntries_iff.mpr ⟨name, member, rfl⟩))
      obtain ⟨name, member⟩ := nonempty
      exact ⟨(each name member).1, fun name member => (each name member).2⟩
    · rintro ⟨down, noBackslash⟩ path isEntry
      obtain ⟨name, member, rfl⟩ := mem_bundleEntries_iff.mp isEntry
      exact (accepts_entryName_iff (plain_of_file member)).mpr ⟨down, noBackslash name member⟩
  rw [← accepted_iff]
  constructor
  · rintro ⟨archive, written⟩
    exact accepted_of_archiveBytes written
  · intro accepted
    have down : LeadsDown options.coordinate := (accepted_iff.mp accepted).1
    apply archiveBytes_of_normal
    intro path isEntry
    refine ⟨accepted path isEntry, ?_⟩
    obtain ⟨name, member, rfl⟩ := mem_bundleEntries_iff.mp isEntry
    have plain := plain_of_file member
    exact ⟨normalizeName_entryName plain down.relative, nulFree_entryName plain⟩

end Bundled

/-- A version directory is bundled exactly when it holds files and no link, when its files
are signed, if that is asked, and when its path leads down from the repository. -/
theorem version_bundled_iff (py : StandardLibrary) (options : BundleOptions)
    (versionDir : PurePosixPath) (directory : VersionDirectory) :
    (∃ bundle, assembleBundle py options versionDir directory = .ok bundle) ↔
      Bundled options directory ∧ LeadsDown options.coordinate ∧
        ∀ name ∈ directory.files, '\\' ∉ name.toList := by
  constructor
  · rintro ⟨bundle, assembled⟩
    obtain ⟨bundled, archive, written, -⟩ := assembleBundle_eq_ok.mp assembled
    exact ⟨bundled, (archives_iff bundled.nonempty).mp ⟨archive, written⟩⟩
  · rintro ⟨bundled, accepted⟩
    obtain ⟨archive, written⟩ := (@archives_iff py _ _ bundled.nonempty).mpr accepted
    exact ⟨_, assembleBundle_eq_ok.mpr ⟨bundled, archive, written, rfl⟩⟩

/-! ### Unpacked -/

section Unpacked

variable {py : StandardLibrary} {options : BundleOptions} {versionDir : PurePosixPath}
  {directory : VersionDirectory} {bundle : Bundle} {entries : Dict String Bytes}

theorem name_entryName {name : String} (plain : PurePosixPath.IsPlainComponent name)
    (relative : options.coordinate.root = []) :
    (PurePosixPath.parse (options.entryName name)).name = name := by
  rw [parse_entryName plain relative, child_plain plain, PurePosixPath.name,
    List.getLast?_append_of_ne_nil _ (by simp)]
  exact String.ofList_toList

/-- Unpacking gives the files of the directory back. -/
theorem get?_unpackVersion (relative : options.coordinate.root = [])
    (same : ∀ path, entries.get? path = (bundleEntries options directory).get? path)
    (name : String) : (unpackVersion entries).get? name = directory.files.get? name := by
  have isEntry {path : String} (member : path ∈ entries.keys) :
      ∃ name ∈ directory.files, options.entryName name = path := by
    apply mem_bundleEntries_iff.mp
    rwa [Dict.mem_iff_get?, ← same, ← Dict.mem_iff_get?]
  have unique : ((entries.items.map fun item =>
      ((PurePosixPath.parse item.1).name, item.2)).map Prod.fst).Nodup := by
    rw [List.map_map]
    have names : (entries.keys.map fun path => (PurePosixPath.parse path).name).Nodup := by
      apply List.Nodup.map_on _ entries.unique
      intro first isFirst second isSecond sameName
      obtain ⟨name, member, rfl⟩ := isEntry isFirst
      obtain ⟨other, otherMember, rfl⟩ := isEntry isSecond
      rw [name_entryName (plain_of_file member) relative,
        name_entryName (plain_of_file otherMember) relative] at sameName
      rw [sameName]
    rwa [Dict.keys, List.map_map] at names
  have both (data : Bytes) : (unpackVersion entries).get? name = some data ↔
      directory.files.get? name = some data := by
    rw [unpackVersion, Dict.ofPairs_of_nodup unique, Dict.get?_eq_some_iff]
    constructor
    · intro member
      obtain ⟨item, isItem, sameItem⟩ := List.mem_map.mp member
      obtain ⟨sameName, rfl⟩ := Prod.mk.inj sameItem
      obtain ⟨file, isFile, isPath⟩ := isEntry (List.mem_map_of_mem isItem)
      have plain := plain_of_file isFile
      rw [← isPath, name_entryName plain relative] at sameName
      rw [← sameName, ← get?_bundleEntries plain, isPath, ← same]
      exact Dict.get?_eq_some_iff.mpr isItem
    · intro found
      have plain := plain_of_file (Dict.mem_iff_get?.mpr ⟨data, found⟩)
      rw [← get?_bundleEntries plain, ← same] at found
      refine List.mem_map.mpr ⟨_, Dict.get?_eq_some_iff.mp found, ?_⟩
      rw [name_entryName plain relative]
  exact Option.ext both

theorem wellFormed_bundleManifest : (bundleManifest py options entries).WellFormed := by
  rw [bundleManifest, Json.wellFormed_obj]
  refine ⟨by simp, ?_⟩
  simp only [List.forall_mem_cons]
  exact ⟨trivial, trivial, trivial, Complete.wellFormed_fileRecords, by simp⟩

/-- The bundle depends on the files alone. -/
theorem bundleEntries_congr {other : VersionDirectory}
    (same : ∀ name, other.files.get? name = directory.files.get? name) :
    bundleEntries options other = bundleEntries options directory := by
  have sorted : sortByKey other.files.items = sortByKey directory.files.items :=
    sortByKey_eq_of_perm other.files.unique (Dict.perm_of_get? same)
  apply Dict.ext_items
  show entryItems options other = entryItems options directory
  rw [entryItems, entryItems, sorted]

theorem Bundled.congr {other : VersionDirectory} (bundled : Bundled options directory)
    (linkFree : SymlinkFree other.nodes)
    (same : ∀ name, other.files.get? name = directory.files.get? name) :
    Bundled options other where
  linkFree := linkFree
  nonempty := by simpa only [Complete.mem_congr same] using bundled.nonempty
  signed := by simpa only [Signed, Complete.mem_congr same] using bundled.signed

/-- The archive of a bundle is read back as the entries of its directory. -/
theorem readBack_of_assembled (assembled : assembleBundle py options versionDir directory =
      .ok bundle) : options.coordinate.root = [] ∧ ∃ entries,
    (∀ label, readNormalizedArchive py label bundle.archive = .ok entries) ∧
      ∀ path, entries.get? path = (bundleEntries options directory).get? path := by
  obtain ⟨bundled, archive, written, rfl⟩ := assembleBundle_eq_ok.mp assembled
  obtain ⟨down, -⟩ := (archives_iff bundled.nonempty).mp ⟨archive, written⟩
  have normal : ∀ path ∈ bundleEntries options directory, IsNormalised path := by
    intro path isEntry
    obtain ⟨name, member, rfl⟩ := mem_bundleEntries_iff.mp isEntry
    have plain := plain_of_file member
    exact ⟨normalizeName_entryName plain down.relative, nulFree_entryName plain⟩
  obtain ⟨items, canonical, same, rfl⟩ := readBack_of_normal normal written
  exact ⟨down.relative, canonical.dict, canonical.readNormalizedArchive_write, same⟩

end Unpacked

/-- A bundle holds the files of its version directory under their paths and nothing else,
its manifest describes them as they are, the order of the directory leaves no trace, and
the staged version passes its verification exactly when the unpacked one does. -/
theorem bundle_round_trip (py : StandardLibrary) (options : BundleOptions)
    (versionDir : PurePosixPath) (directory : VersionDirectory) (bundle : Bundle)
    (assembled : assembleBundle py options versionDir directory = .ok bundle) :
    ∃ entries document records,
      (∀ label, readNormalizedArchive py label bundle.archive = .ok entries) ∧
      (∀ path, path ∈ entries ↔ ∃ name ∈ directory.files, options.entryName name = path) ∧
      (∀ name, PurePosixPath.IsPlainComponent name →
        entries.get? (options.entryName name) = directory.files.get? name) ∧
      readJson py bundle.manifest = .ok document ∧
      document.field? "coordinate" =
        some (.str (options.group ++ ":" ++ options.artifact ++ ":" ++ options.version)) ∧
      document.field? "files" = some records ∧
      (∀ path, records.field? path = (entries.get? path).map (readRecord py)) ∧
      (∀ other : VersionDirectory, SymlinkFree other.nodes →
        (∀ name, other.files.get? name = directory.files.get? name) →
          assembleBundle py options versionDir other = .ok bundle) ∧
      ∀ staging contract sourceFiles sourceLock,
        verifyStagingMain py staging contract sourceFiles sourceLock (unpackVersion entries) =
          verifyStagingMain py staging contract sourceFiles sourceLock directory.files := by
  obtain ⟨relative, entries, read, same⟩ := readBack_of_assembled assembled
  obtain ⟨bundled, archive, written, rfl⟩ := assembleBundle_eq_ok.mp assembled
  have described := @wellFormed_bundleManifest py options (bundleEntries options directory)
  have readBack := readJson_jsonBytes py described
  have listed := @field?_sorted "files" (fileRecords py (bundleEntries options directory)) _
    described rfl
  have named := @field?_sorted "coordinate"
    (.str (options.group ++ ":" ++ options.artifact ++ ":" ++ options.version)) _ described rfl
  rw [Json.sortKeys] at named
  dsimp only
  refine ⟨entries, _, _, read, ?_, ?_, readBack, named, listed, ?_, ?_, ?_⟩
  · intro path
    rw [Complete.mem_congr same, mem_bundleEntries_iff]
  · intro name plain
    rw [same, get?_bundleEntries plain]
  · intro path
    rw [Json.field?_sortKeys Complete.wellFormed_fileRecords, Complete.field?_fileRecords,
      Option.map_map, same]
    rfl
  · intro other linkFree sameFiles
    have sameEntries := @bundleEntries_congr options directory other sameFiles
    apply assembleBundle_eq_ok.mpr
    rw [sameEntries]
    exact ⟨bundled.congr linkFree sameFiles, _, written, rfl⟩
  · intro staging contract sourceFiles sourceLock
    exact Complete.verifyStagingMain_congr (get?_unpackVersion relative same) _ _ _ _

/-! ### A signed version -/

def signedOptions : BundleOptions :=
  ⟨"example", "runtime", "test", "bundle.zip", true, by decide⟩

/-- A library, its signature and a directory. -/
def signedVersion : VersionDirectory where
  nodes := ⟨[("runtime-test.aar", .file [1]), ("runtime-test.aar.asc", .file [2]),
    ("inner", .other)], by decide⟩
  plain := by decide

theorem bundled_signedVersion : Bundled signedOptions signedVersion where
  linkFree := by unfold SymlinkFree; decide
  nonempty := ⟨"runtime-test.aar", by decide⟩
  signed := fun _ => by unfold Signed; decide

theorem signedOptions_leadDown : LeadsDown signedOptions.coordinate where
  relative := by decide
  noParent := by decide
  noBackslash := by decide

theorem bundle_round_trip_signed : ∃ bundle entries,
    assembleBundle concreteLibrary signedOptions signedOptions.coordinate signedVersion =
        .ok bundle ∧
      readNormalizedArchive concreteLibrary "bundle.zip" bundle.archive = .ok entries ∧
      entries.get? (signedOptions.entryName "runtime-test.aar") = some [1] := by
  obtain ⟨archive, written⟩ := (@archives_iff concreteLibrary signedOptions signedVersion
    bundled_signedVersion.nonempty).mpr ⟨signedOptions_leadDown, by decide⟩
  have assembled := (@assembleBundle_eq_ok _ _ signedOptions.coordinate _ _).mpr
    ⟨bundled_signedVersion, archive, written, rfl⟩
  obtain ⟨entries, document, records, read, -, files, -⟩ :=
    bundle_round_trip concreteLibrary signedOptions _ signedVersion _ assembled
  refine ⟨_, entries, assembled, read _, ?_⟩
  rw [files "runtime-test.aar" (by decide)]
  decide

end BssLiteRt.Release

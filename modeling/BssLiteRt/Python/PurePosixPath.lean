import BssLiteRt.Python.Runtime
import Mathlib.Data.List.Infix

/-!
Owns `PurePosixPath`: a root and the components between slashes, without the
empty ones and without `.`.
-/

namespace BssLiteRt.Python

structure PurePosixPath where
  root : List Char
  tail : List (List Char)
deriving DecidableEq

namespace PurePosixPath

/-- The root of a path and the rest. Exactly two leading slashes are a root of
their own. -/
def splitRoot : List Char → List Char × List Char
  | '/' :: '/' :: '/' :: rest => (['/'], '/' :: '/' :: rest)
  | '/' :: '/' :: rest => (['/', '/'], rest)
  | '/' :: rest => (['/'], rest)
  | relative => ([], relative)

/-- A component that parsing keeps. -/
def keeps (component : List Char) : Bool :=
  component ≠ [] ∧ component ≠ ['.']

def parseChars (chars : List Char) : PurePosixPath :=
  let (root, relative) := splitRoot chars
  ⟨root, (relative.splitOn '/').filter keeps⟩

/-- `PurePosixPath(name)` -/
def parse (name : String) : PurePosixPath :=
  parseChars name.toList

def asPosixChars (path : PurePosixPath) : List Char :=
  if path.root = [] ∧ path.tail = [] then ['.']
  else path.root ++ List.intercalate ['/'] path.tail

/-- `path.as_posix()` -/
def asPosix (path : PurePosixPath) : String :=
  String.ofList path.asPosixChars

/-- `PurePosixPath(front) / back` -/
def join (front back : String) : PurePosixPath :=
  if back.toList.head? = some '/' then parse back
  else if front.toList = [] ∨ ['/'].isSuffixOf front.toList then parse (front ++ back)
  else parse (front ++ "/" ++ back)

/-- `path / name` -/
def child (path : PurePosixPath) (name : String) : PurePosixPath :=
  if name.toList.head? = some '/' then parse name
  else ⟨path.root, path.tail ++ (parse name).tail⟩

/-- `path.parts` -/
def parts (path : PurePosixPath) : List (List Char) :=
  if path.root = [] then path.tail else path.root :: path.tail

/-- `path.name` -/
def name (path : PurePosixPath) : String :=
  String.ofList (path.tail.getLast?.getD [])

/-- `PurePosixPath(name).suffix` of a component: its last dot and what follows, when
something stands on either side. -/
def suffix (name : List Char) : List Char :=
  let extension := name.reverse.takeWhile (· ≠ '.')
  match name.reverse.dropWhile (· ≠ '.') with
  | [] => []
  | dot :: stem => if stem ≠ [] ∧ extension ≠ [] then (dot :: extension.reverse) else []

/-- The component in the place of `name` in `path.with_suffix(new)`. -/
def withSuffix (name new : List Char) : List Char :=
  name.take (name.length - (suffix name).length) ++ new

theorem suffix_isSuffix (name : List Char) : suffix name <:+ name := by
  unfold suffix
  dsimp only
  split
  · exact List.nil_suffix
  · rename_i dot stem after
    split
    · have shape := @List.takeWhile_append_dropWhile _ (· ≠ '.') name.reverse
      rw [after] at shape
      have back := congrArg List.reverse shape
      rw [List.reverse_reverse, List.reverse_append, List.reverse_cons, List.append_assoc] at back
      exact ⟨stem.reverse, back⟩
    · exact List.nil_suffix

/-- What is added to the suffix is added to the name. -/
theorem withSuffix_suffix_append (name added : List Char) :
    withSuffix name (suffix name ++ added) = name ++ added := by
  obtain ⟨front, shape⟩ := suffix_isSuffix name
  have length : front.length = name.length - (suffix name).length := by
    rw [← congrArg List.length shape, List.length_append, Nat.add_sub_cancel]
  have taken : name.take (name.length - (suffix name).length) = front := by
    have back := @List.take_left _ front (suffix name)
    rwa [shape, length] at back
  rw [withSuffix, taken, ← List.append_assoc, shape]

/-! ### Components -/

theorem splitOn_components {chars : List Char} :
    ∀ component ∈ chars.splitOn '/', '/' ∉ component ∧ ∀ char ∈ component, char ∈ chars := by
  induction chars with
  | nil => simp
  | cons first rest inductionHypothesis =>
      intro component member
      rw [List.splitOn_cons_eq_if_modifyHead] at member
      split at member
      · rcases List.mem_cons.mp member with rfl | inRest
        · exact ⟨List.not_mem_nil, fun _ absent => absurd absent List.not_mem_nil⟩
        · obtain ⟨slashFree, within⟩ := inductionHypothesis component inRest
          exact ⟨slashFree, fun char inside => List.mem_cons_of_mem _ (within char inside)⟩
      · rename_i notSlash
        obtain ⟨head, tail, shape⟩ := List.exists_cons_of_ne_nil (List.splitOn_ne_nil '/' rest)
        rw [shape, List.modifyHead_cons] at member
        rw [shape] at inductionHypothesis
        rcases List.mem_cons.mp member with rfl | inTail
        · obtain ⟨slashFree, within⟩ := inductionHypothesis head List.mem_cons_self
          refine ⟨?_, fun char inside => ?_⟩
          · rw [List.mem_cons, not_or]
            exact ⟨fun same => notSlash (beq_iff_eq.mpr same.symm), slashFree⟩
          · rcases List.mem_cons.mp inside with rfl | later
            · exact List.mem_cons_self
            · exact List.mem_cons_of_mem _ (within char later)
        · obtain ⟨slashFree, within⟩ :=
            inductionHypothesis component (List.mem_cons_of_mem _ inTail)
          exact ⟨slashFree, fun char inside => List.mem_cons_of_mem _ (within char inside)⟩

theorem splitRoot_suffix (chars : List Char) : (splitRoot chars).2 <:+ chars := by
  unfold splitRoot
  split
  · exact List.suffix_cons _ _
  · exact (List.suffix_cons _ _).trans (List.suffix_cons _ _)
  · exact List.suffix_cons _ _
  · exact List.suffix_refl _

theorem mem_tail_parseChars {chars component : List Char}
    (member : component ∈ (parseChars chars).tail) :
    keeps component = true ∧ '/' ∉ component ∧ ∀ char ∈ component, char ∈ chars := by
  obtain ⟨split, kept⟩ := List.mem_filter.mp member
  obtain ⟨slashFree, within⟩ := splitOn_components component split
  exact ⟨kept, slashFree, fun char inside => (splitRoot_suffix chars).subset (within char inside)⟩

theorem root_parseChars (chars : List Char) : ∀ char ∈ (parseChars chars).root, char = '/' := by
  show ∀ char ∈ (splitRoot chars).1, char = '/'
  unfold splitRoot
  split <;> simp

theorem mem_intercalate_slash {components : List (List Char)} {char : Char}
    (member : char ∈ List.intercalate ['/'] components) :
    char = '/' ∨ ∃ component ∈ components, char ∈ component := by
  induction components with
  | nil => simp at member
  | cons first rest inductionHypothesis =>
      cases rest with
      | nil => exact Or.inr ⟨first, List.mem_cons_self, by simpa using member⟩
      | cons second rest =>
          rw [List.intercalate_cons_cons, List.append_assoc, List.mem_append, List.mem_append,
            List.mem_singleton] at member
          rcases member with inFirst | slash | later
          · exact Or.inr ⟨first, List.mem_cons_self, inFirst⟩
          · exact Or.inl slash
          · exact (inductionHypothesis later).imp_right fun ⟨component, inRest, inside⟩ =>
              ⟨component, List.mem_cons_of_mem _ inRest, inside⟩

/-- Parsing adds no character but slashes and the dot of an empty path. -/
theorem mem_asPosixChars_parseChars {chars : List Char} {char : Char}
    (member : char ∈ (parseChars chars).asPosixChars) (notSlash : char ≠ '/') (notDot : char ≠ '.') :
    char ∈ chars := by
  unfold asPosixChars at member
  split at member
  · exact absurd (List.mem_singleton.mp member) notDot
  · rcases List.mem_append.mp member with inRoot | inTail
    · exact absurd (root_parseChars chars char inRoot) notSlash
    · obtain ⟨component, inside, here⟩ := (mem_intercalate_slash inTail).resolve_left notSlash
      exact (mem_tail_parseChars inside).2.2 char here

/-! ### Relative paths -/

/-- A path as parsing returns it for a relative name that is not empty. -/
structure Relative (path : PurePosixPath) : Prop where
  root : path.root = []
  nonempty : path.tail ≠ []
  kept : ∀ component ∈ path.tail, keeps component = true
  slashFree : ∀ component ∈ path.tail, '/' ∉ component

theorem Relative.asPosixChars_eq {path : PurePosixPath} (relative : path.Relative) :
    path.asPosixChars = List.intercalate ['/'] path.tail := by
  rw [asPosixChars, if_neg (fun empty => relative.nonempty empty.2), relative.root,
    List.nil_append]

/-- The text of a relative path begins with its first component. -/
theorem Relative.head_ne_slash {path : PurePosixPath} (relative : path.Relative) :
    path.asPosixChars.head? ≠ some '/' := by
  obtain ⟨first, rest, shape⟩ := List.exists_cons_of_ne_nil relative.nonempty
  have member : first ∈ path.tail := by rw [shape]; exact List.mem_cons_self
  have slashFree := relative.slashFree first member
  have kept := relative.kept first member
  rw [relative.asPosixChars_eq, shape]
  cases first with
  | nil => simp [keeps] at kept
  | cons char chars =>
      rw [List.mem_cons, not_or] at slashFree
      cases rest <;> simp [List.intercalate, Ne.symm slashFree.1]

theorem splitRoot_relative {chars : List Char} (relative : chars.head? ≠ some '/') :
    splitRoot chars = ([], chars) := by
  unfold splitRoot
  split <;> first | rfl | exact absurd rfl relative

/-- A relative path is read back from its text. -/
theorem Relative.parseChars_asPosixChars {path : PurePosixPath} (relative : path.Relative) :
    parseChars path.asPosixChars = path := by
  unfold parseChars
  rw [splitRoot_relative relative.head_ne_slash]
  show (⟨[], (path.asPosixChars.splitOn '/').filter keeps⟩ : PurePosixPath) = path
  rw [relative.asPosixChars_eq, List.splitOn_intercalate _ relative.slashFree relative.nonempty,
    List.filter_eq_self.mpr relative.kept, ← relative.root]

/-! ### Plain components -/

/-- A text that is one component of a path and leads down. -/
def IsPlainComponent (text : String) : Prop :=
  keeps text.toList = true ∧ text ≠ ".." ∧ '/' ∉ text.toList ∧ '\x00' ∉ text.toList

instance (text : String) : Decidable (IsPlainComponent text) :=
  inferInstanceAs (Decidable (_ ∧ _ ∧ _ ∧ _))

theorem parse_components {text : String} {components : List (List Char)}
    (nonempty : components ≠ [])
    (plain : ∀ component ∈ components, keeps component = true ∧ '/' ∉ component)
    (shape : text.toList = List.intercalate ['/'] components) : parse text = ⟨[], components⟩ := by
  have relative : Relative ⟨[], components⟩ :=
    ⟨rfl, nonempty, fun component member => (plain component member).1,
      fun component member => (plain component member).2⟩
  rw [parse, shape, ← relative.asPosixChars_eq]
  exact relative.parseChars_asPosixChars

/-- The text between plain components is not changed by parsing. -/
theorem asPosix_parse_components {text : String} {components : List (List Char)}
    (nonempty : components ≠ [])
    (plain : ∀ component ∈ components, keeps component = true ∧ '/' ∉ component)
    (shape : text.toList = List.intercalate ['/'] components) : (parse text).asPosix = text := by
  have relative : Relative ⟨[], components⟩ :=
    ⟨rfl, nonempty, fun component member => (plain component member).1,
      fun component member => (plain component member).2⟩
  rw [parse_components nonempty plain shape, asPosix, relative.asPosixChars_eq, ← shape,
    String.ofList_toList]

theorem asPosix_join {front back : String} (frontPlain : IsPlainComponent front)
    (backPlain : IsPlainComponent back) : (join front back).asPosix = front ++ "/" ++ back := by
  obtain ⟨frontKept, -, frontWhole, -⟩ := frontPlain
  obtain ⟨backKept, -, backWhole, -⟩ := backPlain
  have relative : back.toList.head? ≠ some '/' := fun rooted =>
    backWhole (List.mem_of_mem_head? rooted)
  have separated : ¬ (front.toList = [] ∨ ['/'].isSuffixOf front.toList = true) := by
    rw [not_or, List.isSuffixOf_iff_suffix]
    refine ⟨fun empty => ?_, fun ends => frontWhole (ends.subset List.mem_cons_self)⟩
    simp [keeps, empty] at frontKept
  rw [join, if_neg relative, if_neg separated]
  refine @asPosix_parse_components _ [front.toList, back.toList] (by simp) ?_ (by simp)
  simp [frontKept, frontWhole, backKept, backWhole]

/-- A path that begins with a plain component is relative. -/
theorem IsPlainComponent.relative {front : String} (plain : IsPlainComponent front)
    (rest : List Char) : (front.toList ++ rest).head? ≠ some '/' := by
  obtain ⟨kept, -, whole, -⟩ := plain
  cases starts : front.toList with
  | nil => simp [keeps, starts] at kept
  | cons first others =>
      intro rooted
      rw [List.cons_append, List.head?_cons, Option.some.injEq] at rooted
      exact whole (by rw [starts, rooted]; exact List.mem_cons_self)

theorem tail_parse_append {front back : String} (frontPlain : IsPlainComponent front)
    (relative : back.toList.head? ≠ some '/') :
    (parse (front ++ "/" ++ back)).tail = front.toList :: (parse back).tail := by
  have shape : (front ++ "/" ++ back).toList = front.toList ++ '/' :: back.toList := by simp
  rw [parse, parse, shape, parseChars, parseChars, splitRoot_relative (frontPlain.relative _),
    splitRoot_relative relative]
  show List.filter keeps _ = _ :: List.filter keeps _
  rw [List.splitOn_append_cons_self_of_not_mem frontPlain.2.2.1,
    List.filter_cons_of_pos frontPlain.1]

/-- `path / front / back` is `path / f"{front}/{back}"`. -/
theorem child_child {path : PurePosixPath} {front back : String}
    (frontPlain : IsPlainComponent front) (relative : back.toList.head? ≠ some '/') :
    (path.child front).child back = path.child (front ++ "/" ++ back) := by
  have frontRelative : front.toList.head? ≠ some '/' := by
    simpa using frontPlain.relative []
  have bothRelative : (front ++ "/" ++ back).toList.head? ≠ some '/' := by
    simpa using frontPlain.relative ('/' :: back.toList)
  have frontTail : (parse front).tail = [front.toList] := by
    rw [parse_components (by simp) (List.forall_mem_singleton.mpr
      ⟨frontPlain.1, frontPlain.2.2.1⟩) (by simp)]
  rw [child, child, child, if_neg relative, if_neg frontRelative, if_neg bothRelative,
    tail_parse_append frontPlain relative, frontTail, List.append_assoc, List.singleton_append]

end PurePosixPath

end BssLiteRt.Python

import Mathlib.Data.List.Infix
import Mathlib.Logic.Function.Basic

/-!
Owns a file system of places: at a place stands a directory, a file, or a link to
another path, and one file may stand at two places. Every place but the root stands
in a directory, and every component of a place is a name.
-/

namespace BssLiteRt.Library

/-- The components of a place, from the root. -/
abbrev Path := List String

namespace FileSystem

inductive Node where
  | directory
  | file (number : Nat)
  | symlink (target : List String)
deriving DecidableEq

inductive OsError where
  | noSuchFile
  | fileExists
  | notADirectory
  | isADirectory
  | tooManyLinks
  | busy
  | refused
  | embeddedNull
deriving DecidableEq

/-- What a place other than a directory holds. -/
inductive Entry where
  | bytes (data : List UInt8)
  | link (target : List String)
deriving DecidableEq

/-- The character that ends a path for the system. -/
def hasNul (name : String) : Bool :=
  name.toList.any (· = '\x00')

/-- A component that stands for itself. -/
def isName (name : String) : Bool :=
  decide (name ≠ "") && decide (name ≠ ".") && decide (name ≠ "..") &&
    !name.toList.any (· = '/') && !hasNul name

theorem not_dots_of_isName {name : String} (named : isName name = true) :
    name ≠ "." ∧ name ≠ ".." := by
  simp only [isName, Bool.and_eq_true, decide_eq_true_eq] at named
  exact ⟨named.1.1.1.2, named.1.1.2⟩

theorem hasNul_of_isName {name : String} (named : isName name = true) : hasNul name = false := by
  simp only [isName, Bool.and_eq_true, Bool.not_eq_true'] at named
  exact named.2

end FileSystem

open FileSystem

structure FileSystem where
  nodes : Path → Option Node
  contents : Nat → List UInt8
  next : Nat
  root : nodes [] = some .directory
  rooted : ∀ path node, path ≠ [] → nodes path = some node → nodes path.dropLast = some .directory
  fresh : ∀ path number, nodes path = some (.file number) → number < next
  named : ∀ path node, nodes path = some node → path.all isName = true

namespace FileSystem

variable {system : FileSystem} {path other : Path}

/-- Only the root, and files that stand nowhere. -/
def unplaced (files : List (List UInt8)) : FileSystem where
  nodes path := if path = [] then some .directory else none
  contents number := files.getD number []
  next := files.length
  root := rfl
  rooted path node notRoot found := by
    rw [if_neg notRoot] at found
    cases found
  fresh path number found := by split at found <;> cases found
  named path node found := by
    split at found
    · rename_i isRoot
      rw [isRoot]
      rfl
    · cases found

def entry (system : FileSystem) (path : Path) : Option Entry :=
  match system.nodes path with
  | some (.file number) => some (.bytes (system.contents number))
  | some (.symlink target) => some (.link target)
  | some .directory => none
  | none => none

theorem entry_eq_bytes {data : List UInt8} : system.entry path = some (.bytes data) ↔
    ∃ number, system.nodes path = some (.file number) ∧ system.contents number = data := by
  unfold entry
  split
  · rename_i number found
    rw [found, Option.some.injEq, Entry.bytes.injEq]
    exact ⟨fun holds => ⟨number, rfl, holds⟩, fun ⟨_, same, holds⟩ =>
      Node.file.inj (Option.some.inj same) ▸ holds⟩
  · rename_i found
    exact ⟨nofun, fun ⟨_, isFile, _⟩ => absurd (found.symm.trans isFile) nofun⟩
  · rename_i found
    exact ⟨nofun, fun ⟨_, isFile, _⟩ => absurd (found.symm.trans isFile) nofun⟩
  · rename_i found
    exact ⟨nofun, fun ⟨_, isFile, _⟩ => absurd (found.symm.trans isFile) nofun⟩

theorem entry_file {number : Nat} (found : system.nodes path = some (.file number)) :
    system.entry path = some (.bytes (system.contents number)) :=
  entry_eq_bytes.mpr ⟨number, found, rfl⟩

/-- The target of the link at a place. -/
def linkAt (system : FileSystem) (path : Path) : Option (List String) :=
  match system.nodes path with
  | some (.symlink target) => some target
  | _ => none

theorem linkAt_eq_some {target : List String} :
    system.linkAt path = some target ↔ system.nodes path = some (.symlink target) := by
  unfold linkAt
  split
  · rename_i found atPath
    rw [atPath, Option.some.injEq, Option.some.injEq, Node.symlink.injEq]
  · rename_i notLink
    exact ⟨nofun, fun atPath => absurd atPath (notLink target)⟩

theorem linkAt_eq_none (notLink : ∀ target, system.nodes path ≠ some (.symlink target)) :
    system.linkAt path = none := by
  rw [Option.eq_none_iff_forall_ne_some]
  exact fun target isLink => notLink target (linkAt_eq_some.mp isLink)

/-! ### Changing a place -/

/-- A place without a directory may get another node when it stands in a directory. -/
structure Settable (system : FileSystem) (path : Path) (node : Option Node) : Prop where
  notRoot : path ≠ []
  notDirectory : system.nodes path ≠ some .directory
  parent : node ≠ none → system.nodes path.dropLast = some .directory
  known : ∀ number, node = some (.file number) → number < system.next
  named : node ≠ none → path.all isName = true

instance (node : Option Node) (limit : Nat) :
    Decidable (∀ number, node = some (.file number) → number < limit) :=
  match node with
  | some (.file found) => decidable_of_iff (found < limit) (by simp)
  | some .directory => isTrue (by simp)
  | some (.symlink _) => isTrue (by simp)
  | none => isTrue (by simp)

instance (node : Option Node) : Decidable (system.Settable path node) :=
  decidable_of_iff (path ≠ [] ∧ system.nodes path ≠ some .directory ∧
      (node ≠ none → system.nodes path.dropLast = some .directory) ∧
      (∀ number, node = some (.file number) → number < system.next) ∧
      (node ≠ none → path.all isName = true))
    ⟨fun ⟨notRoot, notDirectory, parent, known, named⟩ =>
        ⟨notRoot, notDirectory, parent, known, named⟩,
      fun ⟨notRoot, notDirectory, parent, known, named⟩ =>
        ⟨notRoot, notDirectory, parent, known, named⟩⟩

def setNode (system : FileSystem) (path : Path) (node : Option Node)
    (settable : system.Settable path node) : FileSystem where
  nodes := Function.update system.nodes path node
  contents := system.contents
  next := system.next
  root := by rw [Function.update_of_ne settable.notRoot.symm, system.root]
  rooted := by
    intro other found notRoot atOther
    have parentKept (isDirectory : system.nodes other.dropLast = some .directory) :
        Function.update system.nodes path node other.dropLast = some .directory := by
      rw [Function.update_of_ne, isDirectory]
      intro same
      exact settable.notDirectory (same ▸ isDirectory)
    by_cases same : other = path
    · subst same
      rw [Function.update_self] at atOther
      exact parentKept (settable.parent (atOther ▸ Option.some_ne_none found))
    · rw [Function.update_of_ne same] at atOther
      exact parentKept (system.rooted other found notRoot atOther)
  fresh := by
    intro other number atOther
    by_cases same : other = path
    · subst same
      rw [Function.update_self] at atOther
      exact settable.known number atOther
    · rw [Function.update_of_ne same] at atOther
      exact system.fresh other number atOther
  named := by
    intro other found atOther
    by_cases same : other = path
    · subst same
      rw [Function.update_self] at atOther
      exact settable.named (atOther ▸ Option.some_ne_none found)
    · rw [Function.update_of_ne same] at atOther
      exact system.named other found atOther

section SetNode

variable {node : Option Node} {settable : system.Settable path node}

@[simp] theorem nodes_setNode_self : (system.setNode path node settable).nodes path = node :=
  Function.update_self _ _ _

theorem nodes_setNode : (system.setNode path node settable).nodes other =
    if other = path then node else system.nodes other :=
  Function.update_apply _ _ _ _

theorem nodes_setNode_of_ne (different : other ≠ path) :
    (system.setNode path node settable).nodes other = system.nodes other :=
  Function.update_of_ne different _ _

@[simp] theorem contents_setNode :
    (system.setNode path node settable).contents = system.contents := rfl

theorem entry_setNode_of_ne (different : other ≠ path) :
    (system.setNode path node settable).entry other = system.entry other := by
  rw [entry, nodes_setNode_of_ne different, contents_setNode, entry]

end SetNode

/-! ### Contents -/

def setContents (system : FileSystem) (number : Nat) (data : List UInt8) : FileSystem :=
  { system with contents := Function.update system.contents number data }

@[simp] theorem nodes_setContents (number : Nat) (data : List UInt8) :
    (system.setContents number data).nodes = system.nodes := rfl

theorem contents_setContents_self (number : Nat) (data : List UInt8) :
    (system.setContents number data).contents number = data :=
  Function.update_self _ _ _

/-- A place of another file holds what it held. -/
theorem entry_setContents_of_ne {number : Nat} {data : List UInt8}
    (different : system.nodes path ≠ some (.file number)) :
    (system.setContents number data).entry path = system.entry path := by
  rw [entry, nodes_setContents, entry]
  cases atPath : system.nodes path with
  | none => rfl
  | some node =>
      cases node with
      | directory | symlink => rfl
      | file found =>
          have notSame : found ≠ number := by
            rintro rfl
            exact different atPath
          have kept : (system.setContents number data).contents found = system.contents found :=
            Function.update_of_ne notSame _ _
          simp only [kept]

/-- One more file, which stands nowhere yet. -/
def allocate (system : FileSystem) : FileSystem :=
  { system with
    contents := Function.update system.contents system.next []
    next := system.next + 1
    fresh := fun path number found => Nat.lt_succ_of_lt (system.fresh path number found) }

theorem entry_allocate : system.allocate.entry path = system.entry path := by
  apply @entry_setContents_of_ne system path system.next []
  intro found
  exact absurd (system.fresh path _ found) (Nat.lt_irrefl _)

/-! ### Files -/

/-- An empty file at a place, a new one when there is none. -/
def truncateAt (system : FileSystem) (path : Path) : Except OsError (Nat × FileSystem) :=
  match system.nodes path with
  | some .directory => .error .isADirectory
  | some (.symlink _) => .error .tooManyLinks
  | some (.file number) => .ok (number, system.setContents number [])
  | none =>
      if settable : system.allocate.Settable path (some (.file system.next)) then
        .ok (system.next, system.allocate.setNode path _ settable)
      else .error .noSuchFile

def sameFile : Option Node → Option Node → Bool
  | some (.file left), some (.file right) => left = right
  | _, _ => false

/-- Move what is no directory. A place with the same file is left as it is. -/
def renameAt (system : FileSystem) (source target : Path) : Except OsError FileSystem :=
  if system.nodes source = none then .error .noSuchFile
  else if source = target ∨ sameFile (system.nodes source) (system.nodes target) then .ok system
  else if system.nodes target = some .directory then .error .isADirectory
  else if placed : system.Settable target (system.nodes source) then
    let moved := system.setNode target (system.nodes source) placed
    if removed : moved.Settable source none then .ok (moved.setNode source none removed)
    else .error .isADirectory
  else .error .noSuchFile

def unlinkAt (system : FileSystem) (path : Path) : Except OsError FileSystem :=
  if system.nodes path = none then .error .noSuchFile
  else if removable : system.Settable path none then .ok (system.setNode path none removable)
  else .error .isADirectory

/-! ### What stands above a place -/

theorem nodes_of_leading {front : Path} {node : Node} (found : system.nodes path = some node)
    (isFront : front <+: path) : front = path ∨ system.nodes front = some .directory := by
  induction path using List.reverseRecOn generalizing node with
  | nil => exact Or.inl (List.prefix_nil.mp isFront)
  | append_singleton parent name inductionHypothesis =>
      have parentFound : system.nodes parent = some .directory := by
        have stands := system.rooted _ node (by simp) found
        rwa [List.dropLast_concat] at stands
      rcases List.prefix_concat_iff.mp isFront with same | inParent
      · exact Or.inl same
      · right
        rcases inductionHypothesis parentFound inParent with rfl | isDirectory
        · exact parentFound
        · exact isDirectory

/-- The last component of a place where something stands. -/
theorem isName_of_child {parent : Path} {name : String} {node : Node}
    (found : system.nodes (parent ++ [name]) = some node) : isName name = true :=
  List.all_eq_true.mp (system.named _ _ found) name (by simp)

theorem noNul_of_present {node : Node} (found : system.nodes path = some node) :
    path.any hasNul = false := by
  rw [List.any_eq_false]
  intro name member
  rw [hasNul_of_isName (List.all_eq_true.mp (system.named path node found) name member)]
  exact Bool.false_ne_true

/-! ### New directories -/

/-- Directories have been made where nothing stood. -/
structure Made (system after : FileSystem) : Prop where
  nodes : ∀ path, after.nodes path = system.nodes path ∨
    system.nodes path = none ∧ after.nodes path = some .directory
  contents : after.contents = system.contents

theorem Made.refl (system : FileSystem) : Made system system :=
  ⟨fun _ => Or.inl rfl, rfl⟩

theorem Made.trans {between after : FileSystem} (first : Made system between)
    (second : Made between after) : Made system after := by
  refine ⟨fun path => ?_, second.contents.trans first.contents⟩
  rcases second.nodes path with same | ⟨absent, directory⟩
  · rw [same]
    exact first.nodes path
  · rcases first.nodes path with earlier | ⟨-, made⟩
    · exact Or.inr ⟨earlier ▸ absent, directory⟩
    · rw [made] at absent
      cases absent

theorem Made.entry {after : FileSystem} (made : Made system after) (path : Path) :
    after.entry path = system.entry path := by
  rw [FileSystem.entry, FileSystem.entry, made.contents]
  rcases made.nodes path with same | ⟨absent, directory⟩
  · rw [same]
  · rw [absent, directory]

theorem Made.linkAt {after : FileSystem} (made : Made system after) :
    after.linkAt = system.linkAt := by
  funext path
  rw [FileSystem.linkAt, FileSystem.linkAt]
  rcases made.nodes path with same | ⟨absent, directory⟩
  · rw [same]
  · rw [absent, directory]

/-! ### A place of one's own -/

/-- What stands there is no link and stands nowhere else. -/
structure Unshared (system : FileSystem) (path : Path) : Prop where
  notLink : ∀ target, system.nodes path ≠ some (.symlink target)
  alone : ∀ number other, system.nodes path = some (.file number) →
    system.nodes other = some (.file number) → other = path

theorem unshared_of_absent (absent : system.nodes path = none) : system.Unshared path := by
  refine ⟨fun target => ?_, fun number other atPath => ?_⟩
  · rw [absent]
    nofun
  · rw [absent] at atPath
    cases atPath

theorem Unshared.made {after : FileSystem} (own : system.Unshared path)
    (made : Made system after) : after.Unshared path := by
  have kept {place : Path} {node : Node} (found : after.nodes place = some node)
      (notDirectory : node ≠ .directory) : system.nodes place = some node := by
    rcases made.nodes place with same | ⟨-, directory⟩
    · rw [← same, found]
    · exact absurd (Option.some.inj (found.symm.trans directory)) notDirectory
  exact ⟨fun target found => own.notLink target (kept found nofun),
    fun number other atPath atOther => own.alone number other (kept atPath nofun) (kept atOther nofun)⟩

/-- Nothing but one place has changed. -/
structure OnlyAt (path : Path) (before after : FileSystem) : Prop where
  nodes : ∀ other, other ≠ path → after.nodes other = before.nodes other
  entry : ∀ other, other ≠ path → after.entry other = before.entry other

theorem OnlyAt.refl (path : Path) (system : FileSystem) : OnlyAt path system system :=
  ⟨fun _ _ => rfl, fun _ _ => rfl⟩

theorem OnlyAt.trans {before between after : FileSystem} (first : OnlyAt path before between)
    (second : OnlyAt path between after) : OnlyAt path before after where
  nodes other different := (second.nodes other different).trans (first.nodes other different)
  entry other different := (second.entry other different).trans (first.entry other different)

section Unshared

variable {number : Nat} {data : List UInt8}

theorem setContents_onlyAt (own : system.Unshared path)
    (found : system.nodes path = some (.file number)) :
    OnlyAt path system (system.setContents number data) := by
  refine ⟨fun _ _ => rfl, fun other different => entry_setContents_of_ne ?_⟩
  exact fun shared => different (own.alone number other found shared)

theorem Unshared.setContents (own : system.Unshared path) :
    (system.setContents number data).Unshared path :=
  ⟨own.notLink, own.alone⟩

/-- A file of one's own is emptied without a change to any other place. -/
theorem truncateAt_unshared {after : FileSystem} (own : system.Unshared path)
    (opened : system.truncateAt path = .ok (number, after)) :
    OnlyAt path system after ∧ after.nodes path = some (.file number) ∧ after.Unshared path ∧
      system.nodes path ≠ some .directory := by
  unfold truncateAt at opened
  split at opened
  · cases opened
  · cases opened
  · rename_i file found
    obtain ⟨rfl, rfl⟩ := Prod.mk.inj (Except.ok.inj opened)
    exact ⟨setContents_onlyAt own found, found, own.setContents, by simp [found]⟩
  · rename_i absent
    split at opened
    · rename_i settable
      obtain ⟨rfl, rfl⟩ := Prod.mk.inj (Except.ok.inj opened)
      refine ⟨⟨fun other different => nodes_setNode_of_ne different, fun other different => ?_⟩,
        nodes_setNode_self, ⟨by simp, ?_⟩, by simp [absent]⟩
      · rw [entry_setNode_of_ne different, entry_allocate]
      · intro file other atPath atOther
        by_contra different
        rw [nodes_setNode_self] at atPath
        rw [nodes_setNode_of_ne different] at atOther
        rw [← Node.file.inj (Option.some.inj atPath)] at atOther
        exact absurd (system.fresh other _ atOther) (Nat.lt_irrefl _)
    · cases opened

/-- What is left after a file of one's own has been moved. -/
structure Moved (source target : Path) (number : Nat) (before after : FileSystem) : Prop where
  atTarget : after.nodes target = some (.file number)
  contents : after.contents = before.contents
  gone : after.nodes source = none
  others : ∀ other, other ≠ source → other ≠ target → after.nodes other = before.nodes other
  notDirectory : before.nodes target ≠ some .directory

/-- Renaming a file of one's own puts it in place of the target. -/
theorem renameAt_unshared {target : Path} {after : FileSystem} (own : system.Unshared path)
    (found : system.nodes path = some (.file number)) (apart : target ≠ path)
    (renamed : system.renameAt path target = .ok after) : Moved path target number system after := by
  have notSame : ¬ (path = target ∨ sameFile (system.nodes path) (system.nodes target) = true) := by
    rintro (same | same)
    · exact apart same.symm
    · rw [found] at same
      cases atTarget : system.nodes target with
      | none => simp [atTarget, sameFile] at same
      | some node =>
          cases node with
          | directory | symlink => simp [atTarget, sameFile] at same
          | file other =>
              have equal : number = other := by simpa [atTarget, sameFile] using same
              exact apart (own.alone number target found (equal ▸ atTarget))
  rw [renameAt, if_neg (by simp [found]), if_neg notSame] at renamed
  split at renamed
  · cases renamed
  · rename_i notDirectory
    split at renamed
    · rename_i placed
      dsimp only at renamed
      split at renamed
      · rename_i removed
        obtain rfl := Except.ok.inj renamed
        refine ⟨?_, rfl, nodes_setNode_self, fun other notPath notTarget => ?_, notDirectory⟩
        · rw [nodes_setNode_of_ne apart, nodes_setNode_self, found]
        · rw [nodes_setNode_of_ne notPath, nodes_setNode_of_ne notTarget]
      · cases renamed
    · cases renamed

theorem Moved.entry {source target : Path} {before after : FileSystem}
    (moved : Moved source target number before after) (other : Path) (notSource : other ≠ source)
    (notTarget : other ≠ target) : after.entry other = before.entry other := by
  rw [FileSystem.entry, moved.others other notSource notTarget, moved.contents, FileSystem.entry]

theorem unlinkAt_onlyAt {after : FileSystem} (unlinked : system.unlinkAt path = .ok after) :
    OnlyAt path system after ∧ after.nodes path = none ∧ system.nodes path ≠ some .directory := by
  unfold unlinkAt at unlinked
  split at unlinked
  · cases unlinked
  · split at unlinked
    · rename_i removable
      obtain rfl := Except.ok.inj unlinked
      exact ⟨⟨fun other different => nodes_setNode_of_ne different,
        fun other different => entry_setNode_of_ne different⟩, nodes_setNode_self,
          removable.notDirectory⟩
    · cases unlinked

end Unshared

end FileSystem

end BssLiteRt.Library

import BssLiteRt.Library.ListHeap
import BssLiteRt.Library.SortedKeys
import BssLiteRt.Python.Collections

/-!
Owns the member lists of the runtime contract as list objects in memory, and how
`prepare_maven_publication.py` and `verify-runtime-contract.py` join its two tables
of members.
-/

namespace BssLiteRt.Complete

open BssLiteRt.Library BssLiteRt.Python

/-! ### The two tables -/

/-- The tables of `contract["api"]`. They hold references to lists of members. -/
structure ApiTables where
  requiredMembers : Dict String Address
  bssExtensionMembers : Dict String Address

/-- A contract in memory. Every list that a table refers to exists. -/
structure LoadedContract where
  api : ApiTables
  heap : ListHeap String
  requiredAllocated : ∀ className address,
    api.requiredMembers.get? className = some address → address < heap.size
  extensionsAllocated : ∀ className address,
    api.bssExtensionMembers.get? className = some address → address < heap.size

/-- A table of member lists and the memory in which they are. -/
structure MemberTable where
  members : Dict String Address
  heap : ListHeap String

namespace MemberTable

/-- `members.setdefault(class_name, []).extend(extensions)` -/
def extendClass (table : MemberTable) (className : String) (extensions : Address) : MemberTable :=
  let (fresh, heap) := table.heap.create []
  match table.members.get? className with
  | some address => ⟨table.members, heap.extend address (heap.read extensions)⟩
  | none => ⟨table.members.set className fresh, heap.extend fresh (heap.read extensions)⟩

/-- The loop over the items of `bssExtensionMembers`. -/
def extendAll (table : MemberTable) : List (String × Address) → MemberTable
  | [] => table
  | (className, extensions) :: rest => (table.extendClass className extensions).extendAll rest

end MemberTable

/-- `dict(contract["api"]["requiredMembers"])` and the loop. The copy is shallow: it
has its own keys and shares the lists. -/
def mergedMembers (api : ApiTables) (heap : ListHeap String) : MemberTable :=
  (MemberTable.mk api.requiredMembers heap).extendAll api.bssExtensionMembers.items

inductive VerifyMode where
  | reference
  | api
  | complete
deriving DecidableEq

/-- The table that `verify-runtime-contract.py` compares with the classes. -/
def inspectedMembers (mode : VerifyMode) (api : ApiTables) (heap : ListHeap String) :
    MemberTable :=
  if mode ∈ [.api, .complete] then mergedMembers api heap else ⟨api.requiredMembers, heap⟩

/-! ### One class -/

namespace MemberTable

/-- The members that the table has for a class. -/
def listed (table : MemberTable) (className : String) : Option (List String) :=
  (table.members.get? className).map table.heap.read

/-- Every list of the table exists. -/
def Allocated (table : MemberTable) : Prop :=
  ∀ className address, table.members.get? className = some address → address < table.heap.size

/-- The list that is extended for a class. -/
def target (table : MemberTable) (className : String) : Address :=
  (table.members.get? className).getD table.heap.size

variable {table : MemberTable} {className other : String} {extensions address : Address}

theorem extendClass_heap (table : MemberTable) (className : String) (extensions : Address) :
    (table.extendClass className extensions).heap =
      (table.heap.create []).2.extend (table.target className)
        ((table.heap.create []).2.read extensions) := by
  unfold extendClass target ListHeap.create
  cases table.members.get? className <;> rfl

/-- The class has its list, and every other class keeps its own. -/
theorem get?_extendClass (table : MemberTable) (className other : String) (extensions : Address) :
    (table.extendClass className extensions).members.get? other =
      if other = className then some (table.target className) else table.members.get? other := by
  unfold extendClass target ListHeap.create
  cases found : table.members.get? className with
  | none => exact Dict.get?_set _ _ _ _
  | some address =>
      show table.members.get? other = _
      rw [Option.getD_some]
      by_cases same : other = className
      · rw [if_pos same, same, found]
      · rw [if_neg same]

theorem grows_extendClass (table : MemberTable) (className : String) (extensions : Address) :
    table.heap.Grows (table.extendClass className extensions).heap := by
  rw [extendClass_heap]
  exact (ListHeap.grows_create _ _).trans (ListHeap.grows_extend _ _ _)

/-- A class that is there keeps its list object. -/
theorem get?_extendClass_of_some (found : table.members.get? other = some address)
    (className : String) (extensions : Address) :
    (table.extendClass className extensions).members.get? other = some address := by
  rw [get?_extendClass]
  split
  · rename_i same
    rw [target, ← same, found, Option.getD_some]
  · exact found

theorem target_lt (allocated : table.Allocated) (className : String) :
    table.target className < (table.heap.create []).2.size := by
  rw [ListHeap.size_create, target]
  cases found : table.members.get? className with
  | none => exact Nat.lt_succ_self _
  | some address => exact Nat.lt_succ_of_lt (allocated _ _ found)

theorem Allocated.extendClass (allocated : table.Allocated) (className : String)
    (extensions : Address) : (table.extendClass className extensions).Allocated := by
  intro other address found
  rw [extendClass_heap, ListHeap.size_extend]
  rw [get?_extendClass] at found
  split at found
  · rw [← Option.some.inj found]
    exact target_lt allocated className
  · rw [ListHeap.size_create]
    exact Nat.lt_succ_of_lt (allocated _ _ found)

/-- A list that is not the one of the class, or to which nothing is added, stays. -/
theorem read_extendClass (inMemory : address < table.heap.size)
    (extensionsInMemory : extensions < table.heap.size)
    (untouched : table.members.get? className = some address → table.heap.read extensions = []) :
    (table.extendClass className extensions).heap.read address = table.heap.read address := by
  rw [extendClass_heap, ListHeap.read_create_of_lt extensionsInMemory]
  by_cases same : table.target className = address
  · have found : table.members.get? className = some address := by
      unfold target at same
      cases found : table.members.get? className with
      | none =>
          rw [found, Option.getD_none] at same
          exact absurd same (Nat.ne_of_gt inMemory)
      | some own =>
          rw [found, Option.getD_some] at same
          rw [same]
    rw [untouched found, ListHeap.extend_nil, ListHeap.read_create_of_lt inMemory]
  · rw [ListHeap.read_extend_of_ne same, ListHeap.read_create_of_lt inMemory]

/-- The class then has its members followed by the extensions. -/
theorem listed_extendClass_self (allocated : table.Allocated)
    (extensionsInMemory : extensions < table.heap.size) :
    (table.extendClass className extensions).listed className =
      some ((table.listed className).getD [] ++ table.heap.read extensions) := by
  unfold listed
  rw [get?_extendClass, if_pos rfl, Option.map_some, extendClass_heap,
    ListHeap.read_create_of_lt extensionsInMemory,
    ListHeap.read_extend_self (target_lt allocated className)]
  unfold target
  cases found : table.members.get? className with
  | none =>
      rw [Option.getD_none, ListHeap.read_create_self]
      rfl
  | some address =>
      rw [Option.getD_some, ListHeap.read_create_of_lt (allocated _ _ found)]
      rfl

theorem listed_extendClass_of_ne (allocated : table.Allocated)
    (extensionsInMemory : extensions < table.heap.size) (different : other ≠ className)
    (ownList : ∀ address, table.members.get? className = some address →
      table.members.get? other = some address → table.heap.read extensions = []) :
    (table.extendClass className extensions).listed other = table.listed other := by
  unfold listed
  rw [get?_extendClass, if_neg different]
  cases found : table.members.get? other with
  | none => rfl
  | some address =>
      exact congrArg some (read_extendClass (allocated _ _ found) extensionsInMemory
        fun shared => ownList address shared found)

/-! ### All classes -/

/-- A list that gains members is the list of one class, and of nothing else. -/
def Apart (table : MemberTable) (pairs : List (String × Address)) : Prop :=
  ∀ item ∈ pairs, ∀ address, table.members.get? item.1 = some address →
    table.heap.read item.2 ≠ [] →
    (∀ other, table.members.get? other = some address → other = item.1) ∧
      ∀ other ∈ pairs, other.2 ≠ address

variable {pairs rest : List (String × Address)}

theorem apart_of_nothing_added
    (nothingAdded : ∀ item ∈ pairs, ∀ address, table.members.get? item.1 = some address →
      table.heap.read item.2 = []) : table.Apart pairs :=
  fun item member address found added => absurd (nothingAdded item member address found) added

/-- The lists of extensions that are still to be read stay as they are. -/
theorem Apart.read_rest (apart : table.Apart ((className, extensions) :: rest))
    (inMemory : ∀ item ∈ (className, extensions) :: rest, item.2 < table.heap.size)
    {item : String × Address} (member : item ∈ rest) :
    (table.extendClass className extensions).heap.read item.2 = table.heap.read item.2 := by
  refine read_extendClass (inMemory item (List.mem_cons_of_mem _ member))
    (inMemory _ List.mem_cons_self) fun found => ?_
  by_contra added
  exact (apart _ List.mem_cons_self _ found added).2 item (List.mem_cons_of_mem _ member) rfl

theorem Apart.extendClass (apart : table.Apart ((className, extensions) :: rest))
    (allocated : table.Allocated)
    (inMemory : ∀ item ∈ (className, extensions) :: rest, item.2 < table.heap.size)
    (fresh : className ∉ rest.map Prod.fst) :
    (table.extendClass className extensions).Apart rest := by
  intro item member address found added
  have different : item.1 ≠ className :=
    fun same => fresh (List.mem_map.mpr ⟨item, member, same⟩)
  rw [get?_extendClass, if_neg different] at found
  rw [apart.read_rest inMemory member] at added
  obtain ⟨oneClass, noExtensions⟩ := apart item (List.mem_cons_of_mem _ member) address found added
  refine ⟨fun other otherFound => ?_, fun other otherMember =>
    noExtensions other (List.mem_cons_of_mem _ otherMember)⟩
  rw [get?_extendClass] at otherFound
  split at otherFound
  · rename_i same
    have isTarget := Option.some.inj otherFound
    unfold target at isTarget
    cases own : table.members.get? className with
    | none =>
        rw [own, Option.getD_none] at isTarget
        exact absurd isTarget (Nat.ne_of_gt (allocated _ _ found))
    | some ownAddress =>
        rw [own, Option.getD_some] at isTarget
        rw [same]
        exact oneClass className (isTarget ▸ own)
  · exact oneClass other otherFound

theorem mem_extendAll (table : MemberTable) (pairs : List (String × Address)) (other : String) :
    other ∈ (table.extendAll pairs).members ↔ other ∈ table.members ∨ other ∈ pairs.map Prod.fst := by
  induction pairs generalizing table with
  | nil => exact ⟨.inl, fun either => either.resolve_right List.not_mem_nil⟩
  | cons item rest inductionHypothesis =>
      have now : other ∈ (table.extendClass item.1 item.2).members ↔
          other = item.1 ∨ other ∈ table.members := by
        rw [Dict.mem_iff_get?, Dict.mem_iff_get?, get?_extendClass]
        split <;> simp_all
      rw [extendAll, inductionHypothesis, now, List.map_cons, List.mem_cons, or_assoc,
        or_left_comm]

/-- The items in the order of their classes are the classes in order, each with its
members. -/
theorem map_sortByKey_members (table : MemberTable) (render : String → List String → String) :
    (sortByKey table.members.items).map (fun item => render item.1 (table.heap.read item.2)) =
      (sortedNames table.members.keys).map fun className =>
        render className ((table.listed className).getD []) := by
  have classes : sortedNames table.members.keys = (sortByKey table.members.items).map Prod.fst := by
    have unique : table.members.keys.Nodup := table.members.unique
    rw [keys_sortByKey, sortedNames, unique.dedup]
    rfl
  rw [classes, List.map_map]
  refine List.map_congr_left fun item member => ?_
  have found : table.members.get? item.1 = some item.2 :=
    Dict.get?_eq_some_iff.mpr (mem_sortByKey.mp member)
  show _ = render item.1 ((table.listed item.1).getD [])
  rw [listed, found]
  rfl

theorem grows_extendAll (table : MemberTable) (pairs : List (String × Address)) :
    table.heap.Grows (table.extendAll pairs).heap := by
  induction pairs generalizing table with
  | nil => exact .refl _
  | cons item rest inductionHypothesis =>
      exact (grows_extendClass table item.1 item.2).trans (inductionHypothesis _)

theorem get?_extendAll_of_some (found : table.members.get? other = some address)
    (pairs : List (String × Address)) :
    (table.extendAll pairs).members.get? other = some address := by
  induction pairs generalizing table with
  | nil => exact found
  | cons item rest inductionHypothesis =>
      exact inductionHypothesis (get?_extendClass_of_some found item.1 item.2)

/-- Extensions that are in memory are there after one class. -/
theorem inMemory_extendClass
    (inMemory : ∀ item ∈ (className, extensions) :: rest, item.2 < table.heap.size) :
    ∀ item ∈ rest, item.2 < (table.extendClass className extensions).heap.size :=
  fun item member => Nat.lt_of_lt_of_le (inMemory item (List.mem_cons_of_mem _ member))
    (grows_extendClass table className extensions).size_le

/-- Each class of the items then has its members followed by its extensions. -/
theorem listed_extendAll (allocated : table.Allocated)
    (inMemory : ∀ item ∈ pairs, item.2 < table.heap.size)
    (unique : (pairs.map Prod.fst).Nodup) (apart : table.Apart pairs) (other : String) :
    (table.extendAll pairs).listed other =
      match pairs.lookup other with
      | some extensions => some ((table.listed other).getD [] ++ table.heap.read extensions)
      | none => table.listed other := by
  induction pairs generalizing table with
  | nil => rfl
  | cons item rest inductionHypothesis =>
      obtain ⟨className, extensions⟩ := item
      obtain ⟨fresh, restUnique⟩ := List.nodup_cons.mp unique
      have headInMemory := inMemory _ List.mem_cons_self
      have later := inductionHypothesis (allocated.extendClass className extensions)
        (inMemory_extendClass inMemory) restUnique (apart.extendClass allocated inMemory fresh)
      rw [extendAll, later, List.lookup_cons]
      by_cases same : other = className
      · subst same
        rw [Dict.lookup_eq_none_iff_notMem.mpr fresh, beq_self_eq_true]
        exact listed_extendClass_self allocated headInMemory
      · have kept := @listed_extendClass_of_ne table className other extensions allocated
          headInMemory same fun address own shared => by
            by_contra added
            exact same ((apart _ List.mem_cons_self address own added).1 other shared)
        rw [beq_false_of_ne same, kept]
        cases found : rest.lookup other with
        | none => rfl
        | some otherExtensions =>
            have member := (Dict.lookup_eq_some_iff_mem restUnique).mp found
            have readLater := apart.read_rest inMemory member
            exact congrArg (fun added => some ((table.listed other).getD [] ++ added)) readLater

/-- A list to which no item adds a member stays. -/
theorem read_extendAll (allocated : table.Allocated)
    (inMemory : ∀ item ∈ pairs, item.2 < table.heap.size)
    (unique : (pairs.map Prod.fst).Nodup) (apart : table.Apart pairs)
    (addressInMemory : address < table.heap.size)
    (untouched : ∀ item ∈ pairs, table.members.get? item.1 = some address →
      table.heap.read item.2 = []) :
    (table.extendAll pairs).heap.read address = table.heap.read address := by
  induction pairs generalizing table with
  | nil => rfl
  | cons item rest inductionHypothesis =>
      obtain ⟨className, extensions⟩ := item
      obtain ⟨fresh, restUnique⟩ := List.nodup_cons.mp unique
      have now := read_extendClass addressInMemory (inMemory _ List.mem_cons_self)
        (untouched _ List.mem_cons_self)
      refine (inductionHypothesis (allocated.extendClass className extensions)
        (inMemory_extendClass inMemory) restUnique (apart.extendClass allocated inMemory fresh)
        (Nat.lt_of_lt_of_le addressInMemory (grows_extendClass _ _ _).size_le) ?_).trans now
      intro item member found
      have different : item.1 ≠ className :=
        fun same => fresh (List.mem_map.mpr ⟨item, member, same⟩)
      rw [get?_extendClass, if_neg different] at found
      rw [apart.read_rest inMemory member]
      exact untouched item (List.mem_cons_of_mem _ member) found

/-- A list to which an item adds a member is longer, whatever else refers to it. -/
theorem length_read_extendAll (allocated : table.Allocated)
    (inMemory : ∀ item ∈ pairs, item.2 < table.heap.size) {item : String × Address}
    (member : item ∈ pairs) (found : table.members.get? item.1 = some address)
    (added : table.heap.read item.2 ≠ []) :
    (table.heap.read address).length < ((table.extendAll pairs).heap.read address).length := by
  induction pairs generalizing table with
  | nil => exact absurd member List.not_mem_nil
  | cons first rest inductionHypothesis =>
      obtain ⟨className, extensions⟩ := first
      have grown := grows_extendClass table className extensions
      have addressInMemory := allocated _ _ found
      rcases List.mem_cons.mp member with rfl | later
      · have headInMemory := inMemory _ List.mem_cons_self
        have itsList := @listed_extendClass_self table className extensions allocated headInMemory
        unfold listed at itsList
        rw [get?_extendClass_of_some found, found, Option.map_some, Option.map_some,
          Option.getD_some, Option.some.injEq] at itsList
        have kept := (grows_extendAll (table.extendClass className extensions) rest).prefixes address
          (Nat.lt_of_lt_of_le addressInMemory grown.size_le)
        refine Nat.lt_of_lt_of_le ?_ kept.length_le
        rw [itsList, List.length_append]
        exact Nat.lt_add_of_pos_right (List.length_pos_iff.mpr added)
      · have stillAdded : (table.extendClass className extensions).heap.read item.2 ≠ [] := by
          intro empty
          have kept := grown.prefixes item.2 (inMemory item member)
          rw [empty] at kept
          exact added (List.prefix_nil.mp kept)
        exact Nat.lt_of_le_of_lt (grown.prefixes address addressInMemory).length_le
          (inductionHypothesis (allocated.extendClass className extensions)
            (inMemory_extendClass inMemory) later
            (get?_extendClass_of_some found className extensions) stillAdded)

end MemberTable

end BssLiteRt.Complete

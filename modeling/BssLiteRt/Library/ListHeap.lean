import Mathlib.Data.List.Basic

/-!
Owns list objects in memory: creating one, reading one and extending one in
place. A list is known by its address, so every holder of the address sees a
change.
-/

namespace BssLiteRt.Library

/-- What a variable or a table holds of a list object. -/
abbrev Address := Nat

/-- The list objects that exist, in the order in which they were created. -/
structure ListHeap (α : Type) where
  lists : List (List α)
deriving DecidableEq

namespace ListHeap

variable {α : Type}

def size (heap : ListHeap α) : Nat :=
  heap.lists.length

def read (heap : ListHeap α) (address : Address) : List α :=
  heap.lists[address]?.getD []

/-- Create a list object. -/
def create (heap : ListHeap α) (items : List α) : Address × ListHeap α :=
  (heap.size, ⟨heap.lists ++ [items]⟩)

/-- Append the items to the list object itself. -/
def extend (heap : ListHeap α) (address : Address) (items : List α) : ListHeap α :=
  ⟨heap.lists.modify address (· ++ items)⟩

variable {heap : ListHeap α} {address other : Address} {items : List α}

@[simp] theorem size_create (heap : ListHeap α) (items : List α) :
    (heap.create items).2.size = heap.size + 1 :=
  List.length_append

@[simp] theorem size_extend (heap : ListHeap α) (address : Address) (items : List α) :
    (heap.extend address items).size = heap.size :=
  List.length_modify _ _ _

/-- The new list has an address that no list had. -/
theorem read_create_self (heap : ListHeap α) (items : List α) :
    (heap.create items).2.read heap.size = items := by
  unfold create read size
  rw [List.getElem?_concat_length, Option.getD_some]

theorem read_create_of_lt (allocated : address < heap.size) (items : List α) :
    (heap.create items).2.read address = heap.read address := by
  unfold create read
  rw [List.getElem?_append_left allocated]

theorem read_extend_self (allocated : address < heap.size) (items : List α) :
    (heap.extend address items).read address = heap.read address ++ items := by
  unfold extend read
  rw [List.getElem?_modify_eq, List.getElem?_eq_getElem allocated]
  rfl

theorem read_extend_of_ne (different : address ≠ other) (items : List α) :
    (heap.extend address items).read other = heap.read other := by
  unfold extend read
  rw [List.getElem?_modify_ne _ _ different]

theorem extend_nil (heap : ListHeap α) (address : Address) : heap.extend address [] = heap := by
  unfold extend
  simp only [List.append_nil]
  exact congrArg ListHeap.mk (List.modify_id _ _)

/-- No list object is lost, and each one has at most gained items at its end. -/
structure Grows (before after : ListHeap α) : Prop where
  size_le : before.size ≤ after.size
  prefixes : ∀ address < before.size, before.read address <+: after.read address

theorem Grows.refl (heap : ListHeap α) : heap.Grows heap :=
  ⟨Nat.le_refl _, fun _ _ => List.prefix_refl _⟩

theorem Grows.trans {first second third : ListHeap α} (earlier : first.Grows second)
    (later : second.Grows third) : first.Grows third :=
  ⟨Nat.le_trans earlier.size_le later.size_le, fun address allocated =>
    (earlier.prefixes address allocated).trans
      (later.prefixes address (Nat.lt_of_lt_of_le allocated earlier.size_le))⟩

theorem grows_create (heap : ListHeap α) (items : List α) : heap.Grows (heap.create items).2 :=
  ⟨Nat.le_of_lt (by rw [size_create]; exact Nat.lt_succ_self _),
    fun _ allocated => read_create_of_lt allocated items ▸ List.prefix_refl _⟩

theorem grows_extend (heap : ListHeap α) (address : Address) (items : List α) :
    heap.Grows (heap.extend address items) := by
  refine ⟨Nat.le_of_eq (size_extend heap address items).symm, fun other allocated => ?_⟩
  by_cases same : address = other
  · subst same
    rw [read_extend_self allocated]
    exact List.prefix_append _ _
  · exact read_extend_of_ne same items ▸ List.prefix_refl _

end ListHeap

end BssLiteRt.Library

import BssLiteRt.Library.Dict
import Mathlib.Data.List.Sort

/-!
Owns items sorted by their keys. The sort is stable, so a change of values
commutes with it, and with distinct keys the result does not depend on the order
given.
-/

namespace BssLiteRt.Library

variable {κ ν μ : Type} [LinearOrder κ]

/-- Sort the items by key, as `sorted` does. -/
def sortByKey (items : List (κ × ν)) : List (κ × ν) :=
  items.insertionSort fun left right => left.1 ≤ right.1

theorem sortByKey_perm (items : List (κ × ν)) : (sortByKey items).Perm items :=
  List.perm_insertionSort _ items

@[simp] theorem mem_sortByKey {items : List (κ × ν)} {item : κ × ν} :
    item ∈ sortByKey items ↔ item ∈ items :=
  (sortByKey_perm items).mem_iff

theorem sortByKey_pairwise (items : List (κ × ν)) :
    (sortByKey items).Pairwise fun left right => left.1 ≤ right.1 := by
  have total : Std.Total fun left right : κ × ν => left.1 ≤ right.1 :=
    ⟨fun left right => le_total left.1 right.1⟩
  have trans : IsTrans (κ × ν) fun left right => left.1 ≤ right.1 :=
    ⟨fun _ _ _ first second => le_trans first second⟩
  exact List.pairwise_insertionSort _ items

theorem sortByKey_eq_self {items : List (κ × ν)}
    (sorted : items.Pairwise fun left right => left.1 ≤ right.1) : sortByKey items = items :=
  List.Pairwise.insertionSort_eq sorted

theorem sortByKey_idempotent (items : List (κ × ν)) :
    sortByKey (sortByKey items) = sortByKey items :=
  sortByKey_eq_self (sortByKey_pairwise items)

/-- Changing values and sorting commute. -/
theorem sortByKey_map (change : ν → μ) (items : List (κ × ν)) :
    sortByKey (items.map fun item => (item.1, change item.2)) =
      (sortByKey items).map fun item => (item.1, change item.2) := by
  unfold sortByKey
  rw [List.map_insertionSort _ fun left right : κ × μ => left.1 ≤ right.1]
  intro left _ right _
  exact Iff.rfl

theorem keys_sortByKey (items : List (κ × ν)) :
    (sortByKey items).map Prod.fst = (items.map Prod.fst).insertionSort (· ≤ ·) := by
  unfold sortByKey
  rw [List.map_insertionSort _ fun left right : κ => left ≤ right]
  intro left _ right _
  exact Iff.rfl

/-- With distinct keys the result depends only on which items there are. -/
theorem sortByKey_eq_of_perm {left right : List (κ × ν)} (unique : (left.map Prod.fst).Nodup)
    (same : left.Perm right) : sortByKey left = sortByKey right := by
  have sortedSame : (sortByKey left).Perm (sortByKey right) :=
    (sortByKey_perm left).trans (same.trans (sortByKey_perm right).symm)
  refine sortedSame.eq_of_pairwise ?_ (sortByKey_pairwise left) (sortByKey_pairwise right)
  intro first second inLeft inRight below above
  have firstIn : first ∈ left := mem_sortByKey.mp inLeft
  have secondIn : second ∈ left := same.mem_iff.mpr (mem_sortByKey.mp inRight)
  exact List.inj_on_of_nodup_map unique firstIn secondIn (le_antisymm below above)

theorem lookup_sortByKey {items : List (κ × ν)} (unique : (items.map Prod.fst).Nodup) (key : κ) :
    (sortByKey items).lookup key = items.lookup key := by
  have sortedUnique : ((sortByKey items).map Prod.fst).Nodup :=
    ((sortByKey_perm items).map Prod.fst).nodup_iff.mpr unique
  let sorted : Dict κ ν := ⟨_, sortedUnique⟩
  let given : Dict κ ν := ⟨_, unique⟩
  have same : sorted.items.Perm given.items := sortByKey_perm items
  exact Dict.get?_of_perm same key

/-- A dictionary that is filled in the order of its keys. -/
theorem get?_ofPairs_sortByKey (dict : Dict κ ν) (key : κ) :
    (Dict.ofPairs (sortByKey dict.items)).get? key = dict.get? key := by
  have sortedUnique : ((sortByKey dict.items).map Prod.fst).Nodup :=
    ((sortByKey_perm _).map Prod.fst).nodup_iff.mpr dict.unique
  rw [Dict.get?_ofPairs_of_nodup sortedUnique]
  exact lookup_sortByKey dict.unique key

end BssLiteRt.Library

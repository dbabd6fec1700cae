import Mathlib.Algebra.GroupWithZero.Nat
import Mathlib.Algebra.Order.BigOperators.Group.List
import Mathlib.Algebra.Order.Group.Nat
import Mathlib.Data.List.Basic
import Mathlib.Data.List.Perm.Subperm

/-!
Owns lists in which one element moves at a time: what every element keeps, and
how the number of elements with a property changes.
-/

namespace BssLiteRt.Library.Counting

variable {α : Type} {property : α → Bool} {elements : List α} {index : Nat} {before after : α}

theorem forall_set {claim : α → Prop} (all : ∀ element ∈ elements, claim element)
    (moved : claim after) : ∀ element ∈ elements.set index after, claim element := by
  intro element member
  rcases List.mem_or_eq_of_mem_set member with old | rfl
  · exact all element old
  · exact moved

theorem forall_append_one {claim : α → Prop} (all : ∀ element ∈ elements, claim element)
    (added : claim after) : ∀ element ∈ elements ++ [after], claim element := by
  intro element member
  rcases List.mem_append.mp member with old | new
  · exact all element old
  · rwa [List.mem_singleton.mp new]

/-- An element other than the moved one stays. -/
theorem mem_set_other {element : α} (found : elements[index]? = some before)
    (other : before ≠ element) (member : element ∈ elements) :
    element ∈ elements.set index after := by
  obtain ⟨position, located⟩ := List.mem_iff_getElem?.mp member
  have different : index ≠ position := by
    rintro rfl
    rw [found] at located
    exact other (Option.some.inj located)
  apply List.mem_iff_getElem?.mpr
  exact ⟨position, by rwa [List.getElem?_set_ne different]⟩

/-- A move that keeps the property of its element keeps the count. -/
theorem countP_set_same (found : elements[index]? = some before)
    (same : property after = property before) :
    (elements.set index after).countP property = elements.countP property := by
  induction elements generalizing index with
  | nil => rfl
  | cons first rest inductionHypothesis =>
      cases index with
      | zero =>
          cases found
          rw [List.set_cons_zero, List.countP_cons, List.countP_cons, same]
      | succ index =>
          rw [List.set_cons_succ, List.countP_cons, List.countP_cons, inductionHypothesis found]

/-- A move that gives its element the property adds one to the count. -/
theorem countP_set_gained (found : elements[index]? = some before)
    (absent : property before = false) (present : property after = true) :
    (elements.set index after).countP property = elements.countP property + 1 := by
  induction elements generalizing index with
  | nil => cases found
  | cons first rest inductionHypothesis =>
      cases index with
      | zero =>
          cases found
          rw [List.set_cons_zero, List.countP_cons, List.countP_cons, absent, present]
          rfl
      | succ index =>
          rw [List.set_cons_succ, List.countP_cons, List.countP_cons, inductionHypothesis found]
          exact Nat.add_right_comm _ _ _

/-- A move that takes the property from its element takes one off the count. -/
theorem countP_set_lost (found : elements[index]? = some before)
    (present : property before = true) (absent : property after = false) :
    (elements.set index after).countP property + 1 = elements.countP property := by
  obtain ⟨inRange, rfl⟩ := List.getElem?_eq_some_iff.mp found
  have back : (elements.set index after).set index elements[index] = elements := by
    rw [List.set_set, List.set_getElem_self]
  rw [← countP_set_gained (List.getElem?_set_self inRange) absent present, back]

/-- A part of the elements that is as large as another part containing it is
all of it. -/
theorem forall_of_countP_eq {smaller larger : α → Bool}
    (within : ∀ element ∈ elements, smaller element = true → larger element = true)
    (equal : elements.countP smaller = elements.countP larger) :
    ∀ element ∈ elements, larger element = true → smaller element = true := by
  induction elements with
  | nil => simp
  | cons first rest inductionHypothesis =>
      have withinRest : ∀ element ∈ rest, smaller element = true → larger element = true :=
        fun element member => within element (List.mem_cons_of_mem _ member)
      have fewer := List.countP_mono_left withinRest
      rw [List.countP_cons, List.countP_cons] at equal
      by_cases inSmaller : smaller first = true
      · have inLarger := within first List.mem_cons_self inSmaller
        rw [if_pos inSmaller, if_pos inLarger] at equal
        have restEqual := Nat.add_right_cancel equal
        exact List.forall_mem_cons.mpr
          ⟨fun _ => inSmaller, inductionHypothesis withinRest restEqual⟩
      · have notInLarger : larger first ≠ true := by
          intro inLarger
          rw [if_neg inSmaller, if_pos inLarger] at equal
          omega
        rw [if_neg inSmaller, if_neg notInLarger] at equal
        exact List.forall_mem_cons.mpr
          ⟨fun inLarger => absurd inLarger notInLarger, inductionHypothesis withinRest equal⟩

/-- A sum is what the other elements give and the measure of the one that moves. -/
theorem sum_map_set (measure : α → Nat) (found : elements[index]? = some before) :
    ∃ others, (elements.map measure).sum = others + measure before ∧
      ∀ after, ((elements.set index after).map measure).sum = others + measure after := by
  induction elements generalizing index with
  | nil => cases found
  | cons first rest inductionHypothesis =>
      cases index with
      | zero =>
          cases found
          refine ⟨(rest.map measure).sum, ?_, fun after => ?_⟩
          · rw [List.map_cons, List.sum_cons, Nat.add_comm]
          · rw [List.set_cons_zero, List.map_cons, List.sum_cons, Nat.add_comm]
      | succ index =>
          obtain ⟨others, sum, moved⟩ := inductionHypothesis found
          refine ⟨measure first + others, ?_, fun after => ?_⟩
          · rw [List.map_cons, List.sum_cons, sum, Nat.add_assoc]
          · rw [List.set_cons_succ, List.map_cons, List.sum_cons, moved, Nat.add_assoc]

/-- A change that makes no element larger and loses none keeps every size: it can only
move the elements around. -/
theorem measure_eq_of_covered (measure : α → Nat) {change : α → α} (unique : elements.Nodup)
    (covered : ∀ element ∈ elements, element ∈ elements.map change)
    (shrinks : ∀ element ∈ elements, measure (change element) ≤ measure element) :
    ∀ element ∈ elements, measure (change element) = measure element := by
  have moved : elements.Perm (elements.map change) :=
    (unique.subperm covered).perm_of_length_le (by rw [List.length_map])
  have sameSum := (moved.map measure).sum_nat
  rw [List.map_map] at sameSum
  intro element member
  by_contra smaller
  have less := List.sum_lt_sum (measure ∘ change) measure shrinks
    ⟨element, member, Nat.lt_of_le_of_ne (shrinks element member) smaller⟩
  exact absurd less (Nat.not_lt.mpr (Nat.le_of_eq sameSum))

end BssLiteRt.Library.Counting

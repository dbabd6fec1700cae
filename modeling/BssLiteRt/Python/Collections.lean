import BssLiteRt.Python.Text
import Mathlib.Data.List.Dedup
import Mathlib.Data.List.Infix
import Mathlib.Data.List.Sort

/-!
Owns what the scripts do with sets of names, with the texts that show them, and
with bytes they search for a marker.
-/

namespace BssLiteRt.Python

/-! ### Sets of names -/

/-- `set(left) == set(right)` -/
def sameNames (left right : List String) : Bool :=
  (∀ name ∈ left, name ∈ right) ∧ ∀ name ∈ right, name ∈ left

/-- `sorted(set(names))` -/
def sortedNames (names : List String) : List String :=
  names.dedup.insertionSort (· ≤ ·)

/-- `sorted(set(left) - set(right))` -/
def sortedDifference (left right : List String) : List String :=
  sortedNames (left.filter (· ∉ right))

/-- `sorted(set(left) & set(right))` -/
def sortedIntersection (left right : List String) : List String :=
  sortedNames (left.filter (· ∈ right))

/-- A list of texts as a message shows it. -/
def showNames (py : StandardLibrary) (names : List String) : String :=
  "[" ++ String.intercalate ", " (names.map py.repr) ++ "]"

theorem sameNames_iff {left right : List String} :
    sameNames left right = true ↔ ∀ name, name ∈ left ↔ name ∈ right := by
  rw [sameNames, decide_eq_true_iff]
  constructor
  · rintro ⟨forward, backward⟩ name
    exact ⟨forward name, backward name⟩
  · intro same
    exact ⟨fun name => (same name).mp, fun name => (same name).mpr⟩

theorem mem_sortedNames {names : List String} {name : String} :
    name ∈ sortedNames names ↔ name ∈ names := by
  rw [sortedNames, List.mem_insertionSort, List.mem_dedup]

/-- Each name is there once, after the smaller ones. -/
theorem sortedNames_pairwise (names : List String) : (sortedNames names).Pairwise (· < ·) := by
  have unique : (sortedNames names).Nodup :=
    (List.perm_insertionSort _ _).nodup_iff.mpr names.nodup_dedup
  exact (List.pairwise_insertionSort _ _).imp₂ (fun _ _ below apart => lt_of_le_of_ne below apart)
    unique

/-- The order in which the names are met does not matter. -/
theorem sortedNames_congr {left right : List String} (same : ∀ name, name ∈ left ↔ name ∈ right) :
    sortedNames left = sortedNames right := by
  have samePerm : left.dedup.Perm right.dedup := by
    apply (List.perm_ext_iff_of_nodup left.nodup_dedup right.nodup_dedup).mpr
    intro name
    rw [List.mem_dedup, List.mem_dedup, same]
  have sortedSame : (sortedNames left).Perm (sortedNames right) :=
    (List.perm_insertionSort _ _).trans (samePerm.trans (List.perm_insertionSort _ _).symm)
  refine sortedSame.eq_of_pairwise ?_ (List.pairwise_insertionSort _ _)
    (List.pairwise_insertionSort _ _)
  exact fun _ _ _ _ below above => le_antisymm below above

theorem sortedNames_eq_nil_iff {names : List String} : sortedNames names = [] ↔ names = [] := by
  rw [List.eq_nil_iff_forall_not_mem, List.eq_nil_iff_forall_not_mem]
  exact forall_congr' fun name => not_congr mem_sortedNames

theorem sortedNames_filter_eq_nil_iff {names : List String} {passes : String → Bool} :
    sortedNames (names.filter passes) = [] ↔ ∀ name ∈ names, passes name = false := by
  simp [sortedNames_eq_nil_iff, List.filter_eq_nil_iff]

theorem sortedIntersection_eq_nil_iff {left right : List String} :
    sortedIntersection left right = [] ↔ ∀ name ∈ left, name ∉ right := by
  rw [List.eq_nil_iff_forall_not_mem]
  simp only [sortedIntersection, mem_sortedNames, List.mem_filter, decide_eq_true_iff, not_and]

theorem sortedDifference_eq_nil_iff {left right : List String} :
    sortedDifference left right = [] ↔ ∀ name ∈ left, name ∈ right := by
  rw [List.eq_nil_iff_forall_not_mem]
  simp only [sortedDifference, mem_sortedNames, List.mem_filter, decide_eq_true_iff, not_and,
    not_not]

/-! ### Markers -/

/-- `marker in data` -/
def containsBytes (marker data : Bytes) : Bool :=
  decide (marker <:+: data)

/-- `data.count(marker)` from the byte after the next `skip`: occurrences that do not
overlap, for a marker that is not empty. -/
def countFrom (marker : Bytes) (skip : Nat) : Bytes → Nat
  | [] => 0
  | byte :: rest =>
      match skip with
      | skip + 1 => countFrom marker skip rest
      | 0 =>
          if marker.isPrefixOf (byte :: rest) then
            countFrom marker (marker.length - 1) rest + 1
          else
            countFrom marker 0 rest

/-- `data.count(marker)` -/
def countBytes (marker data : Bytes) : Nat :=
  countFrom marker 0 data

/-! ### Fields of a text -/

/-- The characters that `strip` removes. -/
def isSpace (char : Char) : Bool :=
  char ∈ ['\t', '\n', '\x0b', '\x0c', '\r', '\x1c', '\x1d', '\x1e', '\x1f', ' ', '\u0085', '\u00a0',
    '\u1680', '\u2028', '\u2029', '\u202f', '\u205f', '\u3000'] ∨
    0x2000 ≤ char.toNat ∧ char.toNat ≤ 0x200a

/-- `text.strip()` -/
def strip (text : String) : String :=
  String.ofList ((text.toList.dropWhile isSpace).rdropWhile isSpace)

/-- `" ".join(text.split())` -/
def joinWords (text : String) : String :=
  String.ofList (List.intercalate [' '] ((text.toList.splitOnP isSpace).filter (· ≠ [])))

/-- `subprocess.CompletedProcess` of a program that writes text. -/
structure Completed where
  returncode : Int
  stdout : String
  stderr : String
deriving DecidableEq

/-- `text.split(":")` -/
def splitColon (text : String) : List String :=
  (text.toList.splitOn ':').map String.ofList

end BssLiteRt.Python

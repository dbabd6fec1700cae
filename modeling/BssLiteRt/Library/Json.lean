import BssLiteRt.Library.SortedKeys
import Mathlib.Data.String.Basic

/-!
Owns JSON values without fractions: sorting the keys of every object, equality
up to the order of keys, and lookups. An object is the list of its fields; that
their keys are distinct is `WellFormed`.
-/

namespace BssLiteRt.Library

inductive Json where
  | null
  | bool (value : Bool)
  | int (value : Int)
  | str (value : String)
  | arr (items : List Json)
  | obj (fields : List (String × Json))

namespace Json

/-- Induction with one case for all the items of an array and one for all the
fields of an object. -/
theorem induction {motive : Json → Prop} (null : motive .null)
    (bool : ∀ value, motive (.bool value)) (int : ∀ value, motive (.int value))
    (str : ∀ value, motive (.str value))
    (arr : ∀ items, (∀ item ∈ items, motive item) → motive (.arr items))
    (obj : ∀ fields, (∀ field ∈ fields, motive field.2) → motive (.obj fields))
    (value : Json) : motive value :=
  @Json.rec motive (fun items => ∀ item ∈ items, motive item)
    (fun fields => ∀ field ∈ fields, motive field.2) (fun field => motive field.2)
    null bool int str arr obj (fun _ absent => absurd absent List.not_mem_nil)
    (fun _ _ head tail => List.forall_mem_cons.mpr ⟨head, tail⟩)
    (fun _ absent => absurd absent List.not_mem_nil)
    (fun _ _ head tail => List.forall_mem_cons.mpr ⟨head, tail⟩)
    (fun _ _ second => second) value

/-! ### Sorted keys -/

/-- The value as `json.loads` reads it after a dump with `sort_keys`. -/
def sortKeys : Json → Json
  | .arr items => .arr (sortItems items)
  | .obj fields => .obj (sortByKey (sortFields fields))
  | .null => .null
  | .bool value => .bool value
  | .int value => .int value
  | .str value => .str value
where
  sortItems : List Json → List Json
    | [] => []
    | item :: rest => item.sortKeys :: sortItems rest
  sortFields : List (String × Json) → List (String × Json)
    | [] => []
    | (key, value) :: rest => (key, value.sortKeys) :: sortFields rest

theorem sortItems_eq (items : List Json) : sortKeys.sortItems items = items.map sortKeys := by
  induction items with
  | nil => rfl
  | cons item rest inductionHypothesis =>
      rw [sortKeys.sortItems, inductionHypothesis, List.map_cons]

theorem sortFields_eq (fields : List (String × Json)) :
    sortKeys.sortFields fields = fields.map fun field => (field.1, field.2.sortKeys) := by
  induction fields with
  | nil => rfl
  | cons field rest inductionHypothesis =>
      rw [sortKeys.sortFields, inductionHypothesis, List.map_cons]

theorem sortKeys_arr (items : List Json) : (Json.arr items).sortKeys = .arr (items.map sortKeys) := by
  rw [sortKeys, sortItems_eq]

theorem sortKeys_obj (fields : List (String × Json)) :
    (Json.obj fields).sortKeys =
      .obj ((sortByKey fields).map fun field => (field.1, field.2.sortKeys)) := by
  rw [sortKeys, sortFields_eq, sortByKey_map sortKeys]

theorem sortKeys_idempotent (value : Json) : value.sortKeys.sortKeys = value.sortKeys := by
  induction value using induction with
  | null | bool | int | str => rfl
  | arr items inductionHypothesis =>
      rw [sortKeys_arr, sortKeys_arr, List.map_map]
      congr 1
      exact List.map_congr_left inductionHypothesis
  | obj fields inductionHypothesis =>
      rw [sortKeys_obj, sortKeys_obj, sortByKey_map sortKeys,
        sortByKey_idempotent, List.map_map]
      congr 1
      apply List.map_congr_left
      intro field member
      show (field.1, field.2.sortKeys.sortKeys) = _
      rw [inductionHypothesis field (mem_sortByKey.mp member)]

/-! ### Equality -/

mutual

def decEq : (left right : Json) → Decidable (left = right)
  | .null, .null => isTrue rfl
  | .bool left, .bool right =>
      decidable_of_iff (left = right) ⟨congrArg Json.bool, Json.bool.inj⟩
  | .int left, .int right => decidable_of_iff (left = right) ⟨congrArg Json.int, Json.int.inj⟩
  | .str left, .str right => decidable_of_iff (left = right) ⟨congrArg Json.str, Json.str.inj⟩
  | .arr left, .arr right =>
      have := decEqItems left right
      decidable_of_iff (left = right) ⟨congrArg Json.arr, Json.arr.inj⟩
  | .obj left, .obj right =>
      have := decEqFields left right
      decidable_of_iff (left = right) ⟨congrArg Json.obj, Json.obj.inj⟩
  | .null, .bool _ | .null, .int _ | .null, .str _ | .null, .arr _ | .null, .obj _
  | .bool _, .null | .bool _, .int _ | .bool _, .str _ | .bool _, .arr _ | .bool _, .obj _
  | .int _, .null | .int _, .bool _ | .int _, .str _ | .int _, .arr _ | .int _, .obj _
  | .str _, .null | .str _, .bool _ | .str _, .int _ | .str _, .arr _ | .str _, .obj _
  | .arr _, .null | .arr _, .bool _ | .arr _, .int _ | .arr _, .str _ | .arr _, .obj _
  | .obj _, .null | .obj _, .bool _ | .obj _, .int _ | .obj _, .str _ | .obj _, .arr _ =>
      isFalse (by simp)

def decEqItems : (left right : List Json) → Decidable (left = right)
  | [], [] => isTrue rfl
  | left :: leftRest, right :: rightRest =>
      have := decEq left right
      have := decEqItems leftRest rightRest
      decidable_of_iff (left = right ∧ leftRest = rightRest) (by simp)
  | [], _ :: _ | _ :: _, [] => isFalse (by simp)

def decEqFields : (left right : List (String × Json)) → Decidable (left = right)
  | [], [] => isTrue rfl
  | (leftKey, left) :: leftRest, (rightKey, right) :: rightRest =>
      have := decEq left right
      have := decEqFields leftRest rightRest
      decidable_of_iff (leftKey = rightKey ∧ left = right ∧ leftRest = rightRest)
        (by simp [and_assoc])
  | [], _ :: _ | _ :: _, [] => isFalse (by simp)

end

instance : DecidableEq Json := decEq

/-- The form two values share exactly when Python finds them equal: a truth
value equals its number, and the keys of an object have no order. -/
def normal : Json → Json
  | .arr items => .arr (normalItems items)
  | .obj fields => .obj (sortByKey (normalFields fields))
  | .null => .null
  | .bool value => .int (if value then 1 else 0)
  | .int value => .int value
  | .str value => .str value
where
  normalItems : List Json → List Json
    | [] => []
    | item :: rest => item.normal :: normalItems rest
  normalFields : List (String × Json) → List (String × Json)
    | [] => []
    | (key, value) :: rest => (key, value.normal) :: normalFields rest

/-- `left == right` in Python. -/
def pyEq (left right : Json) : Bool :=
  left.normal = right.normal

theorem normalItems_eq (items : List Json) : normal.normalItems items = items.map normal := by
  induction items with
  | nil => rfl
  | cons item rest inductionHypothesis =>
      rw [normal.normalItems, inductionHypothesis, List.map_cons]

theorem normalFields_eq (fields : List (String × Json)) :
    normal.normalFields fields = fields.map fun field => (field.1, field.2.normal) := by
  induction fields with
  | nil => rfl
  | cons field rest inductionHypothesis =>
      rw [normal.normalFields, inductionHypothesis, List.map_cons]

theorem normal_arr (items : List Json) : (Json.arr items).normal = .arr (items.map normal) := by
  rw [normal, normalItems_eq]

theorem normal_obj (fields : List (String × Json)) :
    (Json.obj fields).normal =
      .obj ((sortByKey fields).map fun field => (field.1, field.2.normal)) := by
  rw [normal, normalFields_eq, sortByKey_map normal]

theorem normal_sortKeys (value : Json) : value.sortKeys.normal = value.normal := by
  induction value using induction with
  | null | bool | int | str => rfl
  | arr items inductionHypothesis =>
      rw [sortKeys_arr, normal_arr, normal_arr, List.map_map]
      congr 1
      exact List.map_congr_left inductionHypothesis
  | obj fields inductionHypothesis =>
      rw [sortKeys_obj, normal_obj, normal_obj, sortByKey_map sortKeys, sortByKey_idempotent,
        List.map_map]
      congr 1
      apply List.map_congr_left
      intro field member
      show (field.1, field.2.sortKeys.normal) = _
      rw [inductionHypothesis field (mem_sortByKey.mp member)]

theorem pyEq_iff {left right : Json} : left.pyEq right = true ↔ left.normal = right.normal :=
  decide_eq_true_iff

@[simp] theorem pyEq_refl (value : Json) : value.pyEq value = true :=
  pyEq_iff.mpr rfl

@[simp] theorem pyEq_sortKeys (value : Json) : value.sortKeys.pyEq value = true :=
  pyEq_iff.mpr (normal_sortKeys value)

theorem pyEq_str_iff {text : String} {value : Json} :
    value.pyEq (.str text) = true ↔ value = .str text := by
  rw [pyEq_iff]
  cases value <;> simp [normal]

theorem str_pyEq_iff {text : String} {value : Json} :
    (Json.str text).pyEq value = true ↔ value = .str text := by
  rw [pyEq_iff, eq_comm, ← pyEq_iff, pyEq_str_iff]

/-! ### Lookups -/

/-- The value of a key of an object. -/
def field? (key : String) : Json → Option Json
  | .obj fields => fields.lookup key
  | .null | .bool _ | .int _ | .str _ | .arr _ => none

/-- The object of a dictionary. -/
def ofDict (dict : Dict String Json) : Json :=
  .obj dict.items

@[simp] theorem field?_ofDict (dict : Dict String Json) (key : String) :
    (ofDict dict).field? key = dict.get? key :=
  rfl

/-- Every object has distinct keys, as every dictionary does. -/
def WellFormed : Json → Prop
  | .arr items => wellFormedItems items
  | .obj fields => (fields.map Prod.fst).Nodup ∧ wellFormedFields fields
  | .null | .bool _ | .int _ | .str _ => True
where
  wellFormedItems : List Json → Prop
    | [] => True
    | item :: rest => item.WellFormed ∧ wellFormedItems rest
  wellFormedFields : List (String × Json) → Prop
    | [] => True
    | (_, value) :: rest => value.WellFormed ∧ wellFormedFields rest

@[simp] theorem wellFormed_null : Json.null.WellFormed := trivial

@[simp] theorem wellFormed_bool (value : Bool) : (Json.bool value).WellFormed := trivial

@[simp] theorem wellFormed_int (value : Int) : (Json.int value).WellFormed := trivial

@[simp] theorem wellFormed_str (value : String) : (Json.str value).WellFormed := trivial

theorem wellFormed_arr {items : List Json} :
    (Json.arr items).WellFormed ↔ ∀ item ∈ items, item.WellFormed := by
  show WellFormed.wellFormedItems items ↔ _
  induction items with
  | nil => simp [WellFormed.wellFormedItems]
  | cons item rest inductionHypothesis =>
      rw [WellFormed.wellFormedItems, inductionHypothesis, List.forall_mem_cons]

theorem wellFormed_obj {fields : List (String × Json)} :
    (Json.obj fields).WellFormed ↔
      (fields.map Prod.fst).Nodup ∧ ∀ field ∈ fields, field.2.WellFormed := by
  show _ ∧ WellFormed.wellFormedFields fields ↔ _
  refine and_congr Iff.rfl ?_
  induction fields with
  | nil => simp [WellFormed.wellFormedFields]
  | cons field rest inductionHypothesis =>
      rw [WellFormed.wellFormedFields, inductionHypothesis, List.forall_mem_cons]

theorem wellFormed_ofDict {dict : Dict String Json} :
    (ofDict dict).WellFormed ↔ ∀ item ∈ dict.items, item.2.WellFormed := by
  rw [ofDict, wellFormed_obj]
  exact and_iff_right dict.unique

theorem wellFormed_ofDict_iff_get? {dict : Dict String Json} :
    (ofDict dict).WellFormed ↔ ∀ key value, dict.get? key = some value → value.WellFormed := by
  rw [wellFormed_ofDict]
  constructor
  · intro inner key value found
    exact inner (key, value) (Dict.get?_eq_some_iff.mp found)
  · intro inner item member
    exact inner item.1 item.2 (Dict.get?_eq_some_iff.mpr member)

theorem WellFormed.set {dict : Dict String Json} {key : String} {value : Json}
    (wellFormed : (ofDict dict).WellFormed) (inner : value.WellFormed) :
    (ofDict (dict.set key value)).WellFormed := by
  rw [wellFormed_ofDict_iff_get?] at wellFormed ⊢
  intro other found stored
  rw [Dict.get?_set] at stored
  split at stored
  · exact Option.some.inj stored ▸ inner
  · exact wellFormed other found stored

theorem WellFormed.field? {value found : Json} {key : String} (wellFormed : value.WellFormed)
    (stored : value.field? key = some found) : found.WellFormed := by
  cases value with
  | null | bool | int | str | arr => cases stored
  | obj fields =>
      obtain ⟨unique, inner⟩ := wellFormed_obj.mp wellFormed
      exact inner _ ((Dict.lookup_eq_some_iff_mem unique).mp stored)

/-- Sorting the keys keeps every lookup. -/
theorem field?_sortKeys {value : Json} (wellFormed : value.WellFormed) (key : String) :
    value.sortKeys.field? key = (value.field? key).map sortKeys := by
  cases value with
  | null | bool | int | str | arr => rfl
  | obj fields =>
      have unique := (wellFormed_obj.mp wellFormed).1
      rw [sortKeys_obj]
      show List.lookup key (List.map _ (sortByKey fields)) = (fields.lookup key).map sortKeys
      rw [Dict.lookup_map_values fun _ => sortKeys, lookup_sortByKey unique]

theorem WellFormed.sortKeys {value : Json} (wellFormed : value.WellFormed) :
    value.sortKeys.WellFormed := by
  induction value using induction with
  | null | bool | int | str => trivial
  | arr items inductionHypothesis =>
      rw [wellFormed_arr] at wellFormed
      rw [sortKeys_arr, wellFormed_arr, List.forall_mem_map]
      exact fun item member => inductionHypothesis item member (wellFormed item member)
  | obj fields inductionHypothesis =>
      obtain ⟨unique, inner⟩ := wellFormed_obj.mp wellFormed
      rw [sortKeys_obj, wellFormed_obj, List.map_map, List.forall_mem_map]
      refine ⟨((sortByKey_perm fields).map Prod.fst).nodup_iff.mpr unique, ?_⟩
      intro field member
      rw [mem_sortByKey] at member
      exact inductionHypothesis field member (inner field member)

/-- Two dictionaries are equal when every lookup is. -/
theorem pyEq_ofDict_iff {left right : Dict String Json} :
    (ofDict left).pyEq (ofDict right) = true ↔
      ∀ key, (left.get? key).map normal = (right.get? key).map normal := by
  let normalized (dict : Dict String Json) := dict.mapValues fun _ => normal
  have values (dict : Dict String Json) (key : String) :
      (normalized dict).get? key = (dict.get? key).map normal :=
    Dict.get?_mapValues (fun _ => normal) dict key
  have shape (dict : Dict String Json) :
      (ofDict dict).normal = .obj (sortByKey (normalized dict).items) := by
    rw [ofDict, normal_obj, ← sortByKey_map normal]
    rfl
  rw [pyEq_iff, shape, shape, Json.obj.injEq]
  simp only [← values]
  constructor
  · intro same key
    rw [← get?_ofPairs_sortByKey (normalized left), same, get?_ofPairs_sortByKey]
  · intro same
    exact sortByKey_eq_of_perm (normalized left).unique (Dict.perm_of_get? same)

/-- What equals an object with distinct keys is one. -/
theorem obj_of_pyEq {value : Json} {fields : List (String × Json)}
    (unique : (fields.map Prod.fst).Nodup) (same : value.pyEq (.obj fields) = true) :
    ∃ own, value = .obj own ∧ (own.map Prod.fst).Nodup := by
  cases value with
  | null | bool | int | str | arr =>
      rw [pyEq_iff, normal_obj] at same
      cases same
  | obj own =>
      have sorted : (sortByKey own).map Prod.fst = (sortByKey fields).map Prod.fst := by
        rw [pyEq_iff, normal_obj, normal_obj, Json.obj.injEq] at same
        have keys := congrArg (List.map Prod.fst) same
        rwa [List.map_map, List.map_map] at keys
      refine ⟨own, rfl, ?_⟩
      rw [← ((sortByKey_perm own).map Prod.fst).nodup_iff, sorted,
        ((sortByKey_perm fields).map Prod.fst).nodup_iff]
      exact unique

/-- What equals an object with distinct keys has its lookups. -/
theorem field?_of_pyEq {value : Json} {fields : List (String × Json)}
    (unique : (fields.map Prod.fst).Nodup) (same : value.pyEq (.obj fields) = true) (key : String) :
    (value.field? key).map normal = (fields.lookup key).map normal := by
  obtain ⟨own, rfl, ownUnique⟩ := obj_of_pyEq unique same
  exact (@pyEq_ofDict_iff ⟨own, ownUnique⟩ ⟨fields, unique⟩).mp same key

/-- Equal values with distinct keys have the same fields, up to equality. -/
theorem field?_of_pyEq_wellFormed {value other : Json} (wellFormed : other.WellFormed)
    (same : value.pyEq other = true) (key : String) :
    (value.field? key).map normal = (other.field? key).map normal := by
  cases other with
  | obj fields => exact field?_of_pyEq (wellFormed_obj.mp wellFormed).1 same key
  | null | bool | int | str | arr =>
      rw [pyEq_iff] at same
      cases value with
      | null | bool | int | str | arr => rfl
      | obj fields =>
          rw [normal_obj] at same
          cases same

end Json

end BssLiteRt.Library

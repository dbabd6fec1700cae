import Mathlib.Data.List.Nodup
import Mathlib.Data.List.Perm.Lattice

/-!
Owns dictionaries that remember the order in which their keys were first
inserted: at most one value for each key, replacement in place, and iteration in
insertion order.
-/

namespace BssLiteRt.Library

/-- A finite map with an order of its keys. -/
structure Dict (κ ν : Type) where
  items : List (κ × ν)
  unique : (items.map Prod.fst).Nodup

namespace Dict

variable {κ ν μ : Type}

def keys (dict : Dict κ ν) : List κ :=
  dict.items.map Prod.fst

def empty : Dict κ ν := ⟨[], List.nodup_nil⟩

@[ext] theorem ext_items {left right : Dict κ ν} (same : left.items = right.items) :
    left = right := by
  cases left
  cases right
  cases same
  rfl

/-- Change every value and keep the keys. -/
def mapValues (change : κ → ν → μ) (dict : Dict κ ν) : Dict κ μ where
  items := dict.items.map fun item => (item.1, change item.1 item.2)
  unique := by
    rw [List.map_map]
    exact dict.unique

/-- Keep the items that pass. -/
def filter (passes : κ → ν → Bool) (dict : Dict κ ν) : Dict κ ν where
  items := dict.items.filter fun item => passes item.1 item.2
  unique := dict.unique.sublist (List.filter_sublist.map Prod.fst)

/-- Change the values that can be changed and drop the other items. -/
def filterMap (change : κ → ν → Option μ) (dict : Dict κ ν) : Dict κ μ where
  items := dict.items.filterMap fun item => (change item.1 item.2).map (Prod.mk item.1)
  unique := by
    have keys : (dict.items.filterMap fun item => (change item.1 item.2).map (Prod.mk item.1)).map
        Prod.fst = (dict.items.filter fun item => (change item.1 item.2).isSome).map Prod.fst := by
      induction dict.items with
      | nil => rfl
      | cons item rest inductionHypothesis =>
          cases changed : change item.1 item.2 <;> simp [changed, inductionHypothesis]
    rw [keys]
    exact dict.unique.sublist (List.filter_sublist.map Prod.fst)

variable [DecidableEq κ]

instance [DecidableEq ν] : DecidableEq (Dict κ ν) := fun left right =>
  decidable_of_iff (left.items = right.items) ⟨ext_items, fun same => by rw [same]⟩

def get? (dict : Dict κ ν) (key : κ) : Option ν :=
  dict.items.lookup key

instance : Membership κ (Dict κ ν) := ⟨fun dict key => key ∈ dict.keys⟩

instance (key : κ) (dict : Dict κ ν) : Decidable (key ∈ dict) :=
  inferInstanceAs (Decidable (key ∈ dict.keys))

/-- Give `key` a value: in place when it has one, else at the end. -/
def set (dict : Dict κ ν) (key : κ) (value : ν) : Dict κ ν :=
  if absent : key ∉ dict.keys then
    { items := dict.items ++ [(key, value)]
      unique := by
        rw [List.map_append, List.map_cons, List.map_nil]
        exact dict.unique.append (List.nodup_singleton key)
          (List.disjoint_singleton.mpr absent) }
  else
    { items := dict.items.map fun item => (item.1, if item.1 = key then value else item.2)
      unique := by
        rw [List.map_map]
        exact dict.unique }

def erase (dict : Dict κ ν) (key : κ) : Dict κ ν :=
  dict.filter fun other _ => other ≠ key

/-- Set every item of `other`, in its order. -/
def update (dict other : Dict κ ν) : Dict κ ν :=
  other.items.foldl (fun dict item => dict.set item.1 item.2) dict

/-- Set the pairs in order, so that the last value of a key stays. -/
def ofPairs (pairs : List (κ × ν)) : Dict κ ν :=
  pairs.foldl (fun dict item => dict.set item.1 item.2) empty

/-! ### Lookups -/

@[simp] theorem get?_empty (key : κ) : (empty : Dict κ ν).get? key = none := rfl

omit [DecidableEq κ] in
theorem mem_iff_keys {key : κ} {dict : Dict κ ν} : key ∈ dict ↔ key ∈ dict.keys := Iff.rfl

theorem lookup_eq_some_iff_mem {items : List (κ × ν)} (unique : (items.map Prod.fst).Nodup)
    {key : κ} {value : ν} : items.lookup key = some value ↔ (key, value) ∈ items := by
  induction items with
  | nil => simp
  | cons first rest inductionHypothesis =>
      rw [List.map_cons, List.nodup_cons] at unique
      obtain ⟨fresh, restUnique⟩ := unique
      rw [List.lookup_cons, List.mem_cons, ← inductionHypothesis restUnique]
      by_cases same : key = first.1
      · subst same
        have absent : rest.lookup first.1 ≠ some value := by
          intro found
          have member := (inductionHypothesis restUnique).mp found
          exact fresh (List.mem_map.mpr ⟨_, member, rfl⟩)
        simp [absent, Prod.ext_iff, eq_comm]
      · simp [same, Prod.ext_iff, beq_false_of_ne same]

theorem get?_eq_some_iff {dict : Dict κ ν} {key : κ} {value : ν} :
    dict.get? key = some value ↔ (key, value) ∈ dict.items :=
  lookup_eq_some_iff_mem dict.unique

theorem lookup_eq_none_iff_notMem {items : List (κ × ν)} {key : κ} :
    items.lookup key = none ↔ key ∉ items.map Prod.fst := by
  rw [List.lookup_eq_none_iff, List.mem_map]
  simp only [not_exists, not_and, bne_iff_ne, ne_eq]
  exact ⟨fun absent item member same => absent item member same.symm,
    fun absent item member same => absent item member same.symm⟩

theorem get?_eq_none_iff {dict : Dict κ ν} {key : κ} : dict.get? key = none ↔ key ∉ dict :=
  lookup_eq_none_iff_notMem

theorem mem_iff_get? {dict : Dict κ ν} {key : κ} :
    key ∈ dict ↔ ∃ value, dict.get? key = some value := by
  rw [← Option.ne_none_iff_exists', ne_eq, get?_eq_none_iff, not_not]

/-- A dictionary is determined by its lookups, up to the order of its items. -/
theorem perm_of_get? {left right : Dict κ ν} (same : ∀ key, left.get? key = right.get? key) :
    left.items.Perm right.items := by
  have leftNodup : left.items.Nodup := List.Nodup.of_map _ left.unique
  have rightNodup : right.items.Nodup := List.Nodup.of_map _ right.unique
  rw [List.perm_ext_iff_of_nodup leftNodup rightNodup]
  rintro ⟨key, value⟩
  rw [← get?_eq_some_iff, ← get?_eq_some_iff, same key]

theorem get?_of_perm {left right : Dict κ ν} (same : left.items.Perm right.items) (key : κ) :
    left.get? key = right.get? key := by
  apply Option.ext
  intro value
  rw [get?_eq_some_iff, get?_eq_some_iff, same.mem_iff]

/-! ### Lookups after a change -/

theorem keys_set (dict : Dict κ ν) (key : κ) (value : ν) :
    (dict.set key value).keys = if key ∈ dict.keys then dict.keys else dict.keys ++ [key] := by
  unfold set
  split <;> simp_all [keys]

theorem get?_set (dict : Dict κ ν) (key other : κ) (value : ν) :
    (dict.set key value).get? other = if other = key then some value else dict.get? other := by
  apply Option.ext
  intro found
  rw [get?_eq_some_iff, set]
  split
  · rename_i absent
    rw [List.mem_append, List.mem_singleton, Prod.mk.injEq, ← get?_eq_some_iff]
    split
    · rename_i same
      subst same
      have none : dict.get? other = none := get?_eq_none_iff.mpr absent
      simp [none, eq_comm]
    · rename_i different
      simp [different]
  · rename_i present
    rw [not_not] at present
    show (other, found) ∈ dict.items.map _ ↔ _
    rw [List.mem_map]
    split
    · rename_i same
      subst same
      obtain ⟨item, member, sameKey⟩ := List.mem_map.mp present
      constructor
      · rintro ⟨old, -, changed⟩
        obtain ⟨atKey, rfl⟩ := Prod.mk.injEq .. ▸ changed
        rw [if_pos atKey]
      · intro isValue
        obtain rfl := Option.some.inj isValue
        exact ⟨item, member, by rw [sameKey, if_pos rfl]⟩
    · rename_i different
      rw [get?_eq_some_iff]
      constructor
      · rintro ⟨old, member, changed⟩
        obtain ⟨atKey, rfl⟩ := Prod.mk.injEq .. ▸ changed
        subst atKey
        rwa [if_neg different]
      · intro member
        exact ⟨(other, found), member, by simp [different]⟩

/-- A new key goes to the end. -/
theorem items_set_of_absent {dict : Dict κ ν} {key : κ} (absent : key ∉ dict) (value : ν) :
    (dict.set key value).items = dict.items ++ [(key, value)] := by
  have notInKeys : key ∉ dict.keys := absent
  rw [set, dif_pos notInKeys]

@[simp] theorem get?_set_self (dict : Dict κ ν) (key : κ) (value : ν) :
    (dict.set key value).get? key = some value := by
  rw [get?_set, if_pos rfl]

/-- A dictionary that has the value does not change. -/
theorem set_of_get? {dict : Dict κ ν} {key : κ} {value : ν} (found : dict.get? key = some value) :
    dict.set key value = dict := by
  have present : key ∈ dict.keys := mem_iff_get?.mpr ⟨value, found⟩
  apply ext_items
  rw [set, dif_neg (not_not.mpr present)]
  show dict.items.map (fun item => (item.1, if item.1 = key then value else item.2)) = dict.items
  refine (List.map_congr_left fun item member => ?_).trans (List.map_id dict.items)
  by_cases same : item.1 = key
  · have stored : dict.get? item.1 = some item.2 := get?_eq_some_iff.mpr member
    rw [same, found, Option.some.injEq] at stored
    rw [if_pos same, stored]
    rfl
  · rw [if_neg same]
    rfl

theorem perm_iff_get? {left right : Dict κ ν} :
    left.items.Perm right.items ↔ ∀ key, left.get? key = right.get? key :=
  ⟨get?_of_perm, perm_of_get?⟩

theorem mem_set_iff {dict : Dict κ ν} {key other : κ} {value : ν} :
    other ∈ dict.set key value ↔ other = key ∨ other ∈ dict := by
  rw [mem_iff_get?, mem_iff_get?, get?_set]
  split <;> simp_all

theorem get?_filter (passes : κ → ν → Bool) (dict : Dict κ ν) (key : κ) :
    (dict.filter passes).get? key = (dict.get? key).filter (passes key) := by
  apply Option.ext
  intro value
  rw [get?_eq_some_iff, Option.filter_eq_some_iff, get?_eq_some_iff]
  exact List.mem_filter

theorem get?_erase (dict : Dict κ ν) (key other : κ) :
    (dict.erase key).get? other = if other = key then none else dict.get? other := by
  rw [erase, get?_filter]
  split
  · rename_i same
    cases dict.get? other <;> simp [Option.filter, same]
  · rename_i different
    cases dict.get? other <;> simp [Option.filter, different]

theorem lookup_map_values (change : κ → ν → μ) (items : List (κ × ν)) (key : κ) :
    (items.map fun item => (item.1, change item.1 item.2)).lookup key =
      (items.lookup key).map (change key) := by
  induction items with
  | nil => rfl
  | cons first rest inductionHypothesis =>
      rw [List.map_cons, List.lookup_cons, List.lookup_cons, inductionHypothesis]
      by_cases same : key = first.1
      · subst same
        simp
      · simp [beq_false_of_ne same]

theorem get?_mapValues (change : κ → ν → μ) (dict : Dict κ ν) (key : κ) :
    (dict.mapValues change).get? key = (dict.get? key).map (change key) :=
  lookup_map_values change dict.items key

theorem get?_filterMap (change : κ → ν → Option μ) (dict : Dict κ ν) (key : κ) :
    (dict.filterMap change).get? key = (dict.get? key).bind (change key) := by
  apply Option.ext
  intro value
  rw [get?_eq_some_iff, Option.bind_eq_some_iff]
  simp only [get?_eq_some_iff]
  constructor
  · intro member
    obtain ⟨⟨other, stored⟩, listed, changed⟩ := List.mem_filterMap.mp member
    obtain ⟨result, changedTo, same⟩ := Option.map_eq_some_iff.mp changed
    cases same
    exact ⟨stored, listed, changedTo⟩
  · rintro ⟨stored, listed, changedTo⟩
    exact List.mem_filterMap.mpr ⟨_, listed, Option.map_eq_some_iff.mpr ⟨value, changedTo, rfl⟩⟩

/-- Of several values set for a key the last one stays. -/
theorem get?_foldl_set (dict : Dict κ ν) (pairs : List (κ × ν)) (key : κ) :
    (pairs.foldl (fun dict item => dict.set item.1 item.2) dict).get? key =
      (pairs.reverse.lookup key).or (dict.get? key) := by
  induction pairs generalizing dict with
  | nil => rfl
  | cons first rest inductionHypothesis =>
      rw [List.foldl_cons, inductionHypothesis, List.reverse_cons, List.lookup_append,
        Option.or_assoc, get?_set, List.lookup_cons, List.lookup_nil]
      by_cases same : key = first.1
      · simp [same]
      · simp [same, beq_false_of_ne same]

/-- Pairs with new, distinct keys go to the end in their order. -/
theorem items_foldl_set {dict : Dict κ ν} {pairs : List (κ × ν)}
    (unique : ((dict.items ++ pairs).map Prod.fst).Nodup) :
    (pairs.foldl (fun dict item => dict.set item.1 item.2) dict).items = dict.items ++ pairs := by
  induction pairs generalizing dict with
  | nil => rw [List.foldl_nil, List.append_nil]
  | cons first rest inductionHypothesis =>
      have absent : first.1 ∉ dict := by
        intro present
        rw [List.map_append, List.map_cons] at unique
        exact (List.nodup_append.mp unique).2.2 _ present _ List.mem_cons_self rfl
      have added := items_set_of_absent absent first.2
      rw [List.append_cons] at unique ⊢
      rw [List.foldl_cons, inductionHypothesis (by rwa [added]), added]

theorem ofPairs_of_nodup {pairs : List (κ × ν)} (unique : (pairs.map Prod.fst).Nodup) :
    ofPairs pairs = ⟨pairs, unique⟩ :=
  ext_items (@items_foldl_set _ _ _ empty pairs unique)

theorem lookup_reverse (dict : Dict κ ν) (key : κ) :
    dict.items.reverse.lookup key = dict.get? key := by
  have unique : (dict.items.reverse.map Prod.fst).Nodup := by
    rw [List.map_reverse]
    exact List.nodup_reverse.mpr dict.unique
  apply Option.ext
  intro value
  rw [lookup_eq_some_iff_mem unique, List.mem_reverse, get?_eq_some_iff]

theorem get?_update (dict other : Dict κ ν) (key : κ) :
    (dict.update other).get? key = (other.get? key).or (dict.get? key) := by
  rw [update, get?_foldl_set, lookup_reverse]

theorem mem_update_iff {dict other : Dict κ ν} {key : κ} :
    key ∈ dict.update other ↔ key ∈ other ∨ key ∈ dict := by
  rw [mem_iff_get?, get?_update, mem_iff_get?, mem_iff_get?]
  cases other.get? key <;> simp

theorem get?_ofPairs (pairs : List (κ × ν)) (key : κ) :
    (ofPairs pairs).get? key = pairs.reverse.lookup key := by
  rw [ofPairs, get?_foldl_set, get?_empty, Option.or_none]

theorem mem_of_get?_ofPairs {pairs : List (κ × ν)} {key : κ} {value : ν}
    (found : (ofPairs pairs).get? key = some value) : (key, value) ∈ pairs := by
  rw [get?_ofPairs] at found
  obtain ⟨front, back, shape, -⟩ := List.lookup_eq_some_iff.mp found
  exact List.mem_reverse.mp (shape ▸ List.mem_append_right _ List.mem_cons_self)

theorem mem_ofPairs_iff {pairs : List (κ × ν)} {key : κ} :
    key ∈ ofPairs pairs ↔ key ∈ pairs.map Prod.fst := by
  rw [mem_iff_get?]
  constructor
  · rintro ⟨value, found⟩
    exact List.mem_map_of_mem (mem_of_get?_ofPairs found)
  · intro member
    rw [← Option.ne_none_iff_exists', get?_ofPairs, ne_eq, List.lookup_eq_none_iff, not_forall]
    obtain ⟨item, itemMember, rfl⟩ := List.mem_map.mp member
    exact ⟨item, fun different => by simpa using different (List.mem_reverse.mpr itemMember)⟩

theorem get?_ofPairs_of_nodup {pairs : List (κ × ν)} (unique : (pairs.map Prod.fst).Nodup)
    (key : κ) : (ofPairs pairs).get? key = pairs.lookup key := by
  rw [get?_ofPairs]
  exact lookup_reverse ⟨pairs, unique⟩ key

end Dict

/-! ### Hashes of values -/

section CollisionFree

variable {κ ν δ : Type} {hash : ν → δ} {left right : κ → Option ν}

/-- Different values at one key have different hashes. -/
def CollisionFree (hash : ν → δ) (left right : κ → Option ν) : Prop :=
  ∀ key value other, left key = some value → right key = some other →
    hash value = hash other → value = other

theorem CollisionFree.map_eq_iff (apart : CollisionFree hash left right) (key : κ) :
    (left key).map hash = (right key).map hash ↔ left key = right key := by
  cases first : left key with
  | none => cases right key <;> simp
  | some value =>
      cases second : right key with
      | none => simp
      | some other =>
          simp only [Option.map_some, Option.some.injEq]
          exact ⟨apart key value other first second, congrArg hash⟩

end CollisionFree

end BssLiteRt.Library

import BssLiteRt.Library.JsonText
import Mathlib.Data.List.Infix

/-!
Owns the search for a marker in the text of a JSON value: it occurs in the text
exactly when it occurs inside one of the value's strings.
-/

namespace BssLiteRt.Library

/-! ### Occurrences and separators -/

section Separators

variable {α : Type} {marker front back : List α} {separator : α}

/-- What does not hold a separator occurs on one side of it. -/
theorem infix_append_separator_iff (apart : separator ∉ marker) :
    marker <:+: front ++ separator :: back ↔ marker <:+: front ∨ marker <:+: back := by
  constructor
  · rintro ⟨before, after, whole⟩
    rw [List.append_assoc] at whole
    rcases List.append_eq_append_iff.mp whole with ⟨middle, frontShape, shape⟩ | ⟨middle, shape, rest⟩
    · -- The occurrence starts in `front`.
      rcases List.append_eq_append_iff.mp shape with ⟨gap, middleShape, -⟩ | ⟨gap, markerShape, cut⟩
      · exact Or.inl ⟨before, gap, by rw [List.append_assoc, ← middleShape, frontShape]⟩
      · cases gap with
        | nil =>
            rw [List.append_nil] at markerShape
            exact Or.inl ⟨before, [], by rw [List.append_nil, markerShape, frontShape]⟩
        | cons first more =>
            rw [List.cons_append, List.cons.injEq] at cut
            exact absurd (by simp [markerShape, ← cut.1]) apart
    · cases middle with
      | nil =>
          rw [List.nil_append] at rest
          cases marker with
          | nil => exact Or.inl List.nil_infix
          | cons first more =>
              rw [List.cons_append, List.cons.injEq] at rest
              exact absurd (by simp [rest.1]) apart
      | cons first more =>
          rw [List.cons_append, List.cons.injEq] at rest
          exact Or.inr ⟨more, after, by rw [List.append_assoc, rest.2]⟩
  · rintro (⟨before, after, rfl⟩ | ⟨before, after, rfl⟩)
    · exact ⟨before, after ++ separator :: back, by simp⟩
    · exact ⟨front ++ separator :: before, after, by simp⟩

theorem infix_cons_separator_iff (apart : separator ∉ marker) (long : marker ≠ []) :
    marker <:+: separator :: back ↔ marker <:+: back := by
  have split := @infix_append_separator_iff _ marker [] back separator apart
  rw [List.nil_append, List.infix_nil] at split
  rw [split]
  exact or_iff_right long

end Separators

namespace Json

/-! ### Strings of a value -/

/-- The characters of a text inside its quotes. -/
def escaped (text : String) : List Char :=
  text.toList.flatMap escape

/-- The strings of a value, keys included. -/
def texts : Json → List String
  | .null | .bool _ | .int _ => []
  | .str text => [text]
  | .arr items => textsItems items
  | .obj fields => textsFields fields
where
  textsItems : List Json → List String
    | [] => []
    | item :: rest => item.texts ++ textsItems rest
  textsFields : List (String × Json) → List String
    | [] => []
    | (key, value) :: rest => key :: value.texts ++ textsFields rest

@[simp] theorem texts_arr (items : List Json) : (Json.arr items).texts = items.flatMap texts := by
  rw [texts]
  induction items with
  | nil => rfl
  | cons item rest inductionHypothesis =>
      rw [texts.textsItems, inductionHypothesis, List.flatMap_cons]

@[simp] theorem texts_obj (fields : List (String × Json)) :
    (Json.obj fields).texts = fields.flatMap fun field => field.1 :: field.2.texts := by
  rw [texts]
  induction fields with
  | nil => rfl
  | cons field rest inductionHypothesis =>
      rw [texts.textsFields, inductionHypothesis, List.flatMap_cons]

/-- Sorting the keys keeps the strings. -/
theorem mem_texts_sortKeys {value : Json} {text : String} :
    text ∈ value.sortKeys.texts ↔ text ∈ value.texts := by
  induction value using induction with
  | null | bool | int | str => rfl
  | arr items inductionHypothesis =>
      rw [sortKeys_arr, texts_arr, texts_arr, List.mem_flatMap, List.mem_flatMap]
      constructor
      · rintro ⟨changed, member, inside⟩
        obtain ⟨item, itemMember, rfl⟩ := List.mem_map.mp member
        exact ⟨item, itemMember, (inductionHypothesis item itemMember).mp inside⟩
      · rintro ⟨item, member, inside⟩
        exact ⟨item.sortKeys, List.mem_map_of_mem member,
          (inductionHypothesis item member).mpr inside⟩
  | obj fields inductionHypothesis =>
      rw [sortKeys_obj, texts_obj, texts_obj, List.mem_flatMap, List.mem_flatMap]
      constructor
      · rintro ⟨changed, member, inside⟩
        obtain ⟨field, fieldMember, rfl⟩ := List.mem_map.mp member
        rw [mem_sortByKey] at fieldMember
        refine ⟨field, fieldMember, ?_⟩
        rw [List.mem_cons] at inside ⊢
        exact inside.imp_right (inductionHypothesis field fieldMember).mp
      · rintro ⟨field, member, inside⟩
        refine ⟨(field.1, field.2.sortKeys), ?_, ?_⟩
        · exact List.mem_map.mpr ⟨field, mem_sortByKey.mpr member, rfl⟩
        · rw [List.mem_cons] at inside ⊢
          exact inside.imp_right (inductionHypothesis field member).mpr

/-! ### Markers -/

/-- The characters between the strings and words of a dump. -/
def separators : List Char :=
  ['"', '\n', ' ', ',', ':', '[', ']', '\x7b', '\x7d']

/-- A text that occurs in no word and no number of a dump and holds no separator. -/
structure IsMarker (marker : List Char) : Prop where
  apart : ∀ separator ∈ separators, separator ∉ marker
  long : 5 < marker.length
  notNumber : ∃ char ∈ marker, char ≠ '-' ∧ char.isDigit = false

section Marker

variable {marker : List Char}

theorem IsMarker.ne_nil (isMarker : IsMarker marker) : marker ≠ [] := by
  have long := isMarker.long
  intro empty
  rw [empty] at long
  simp at long

theorem IsMarker.not_infix_short (isMarker : IsMarker marker) {word : List Char}
    (short : word.length ≤ 5) : ¬ marker <:+: word := by
  intro occurs
  have length := occurs.length_le
  have long := isMarker.long
  omega

theorem IsMarker.not_infix_decimal (isMarker : IsMarker marker) (value : Int) :
    ¬ marker <:+: decimal value := by
  intro occurs
  obtain ⟨char, member, notMinus, notDigit⟩ := isMarker.notNumber
  have digits (number : Nat) : char ∉ Nat.toDigits 10 number := by
    intro inside
    have digit := Nat.isDigit_of_mem_toDigits (by decide) (by decide) inside
    rw [notDigit] at digit
    exact absurd digit Bool.false_ne_true
  have inside := occurs.subset member
  cases value with
  | ofNat number => exact digits number inside
  | negSucc number => exact digits (number + 1) ((List.mem_cons.mp inside).resolve_left notMinus)

theorem IsMarker.infix_quote_iff (isMarker : IsMarker marker) {text : String} :
    marker <:+: quote text ↔ marker <:+: escaped text := by
  have apart := isMarker.apart '"' (by decide)
  rw [quote, List.cons_append, infix_cons_separator_iff apart isMarker.ne_nil,
    infix_append_separator_iff apart, List.infix_nil]
  exact or_iff_left isMarker.ne_nil

theorem IsMarker.infix_newline_iff (isMarker : IsMarker marker) {level : Nat} {front back : List Char} :
    marker <:+: front ++ (newline level ++ back) ↔ marker <:+: front ∨ marker <:+: back := by
  have spaces (count : Nat) : marker <:+: List.replicate count ' ' ++ back ↔ marker <:+: back := by
    induction count with
    | zero => rfl
    | succ count inductionHypothesis =>
        rw [List.replicate_succ, List.cons_append,
          infix_cons_separator_iff (isMarker.apart ' ' (by decide)) isMarker.ne_nil,
          inductionHypothesis]
  rw [newline, List.cons_append, infix_append_separator_iff (isMarker.apart '\n' (by decide)),
    spaces]

theorem IsMarker.infix_bracket_iff (isMarker : IsMarker marker) {level : Nat}
    {opening closing : Char} {parts : List (List Char)} (opens : opening ∈ separators)
    (closes : closing ∈ separators) :
    marker <:+: bracket level opening closing parts ↔ ∃ part ∈ parts, marker <:+: part := by
  have notOpening := isMarker.apart opening opens
  have notClosing := isMarker.apart closing closes
  have joined : marker <:+: List.intercalate (',' :: newline (level + 1)) parts ↔
      ∃ part ∈ parts, marker <:+: part := by
    induction parts with
    | nil => simp [isMarker.ne_nil]
    | cons part more inductionHypothesis =>
        cases more with
        | nil => simp
        | cons second more =>
            rw [List.intercalate_cons_cons, List.append_assoc, List.cons_append,
              infix_append_separator_iff (isMarker.apart ',' (by decide)),
              ← List.nil_append (newline _ ++ _), isMarker.infix_newline_iff, List.infix_nil,
              inductionHypothesis, or_iff_right isMarker.ne_nil]
            exact (List.exists_mem_cons_iff ..).symm
  cases parts with
  | nil =>
      rw [bracket, infix_cons_separator_iff notOpening isMarker.ne_nil,
        infix_cons_separator_iff notClosing isMarker.ne_nil]
      simp [isMarker.ne_nil]
  | cons part more =>
      rw [bracket, List.append_assoc, List.append_assoc, List.cons_append,
        infix_cons_separator_iff notOpening isMarker.ne_nil, ← List.nil_append (newline _ ++ _),
        isMarker.infix_newline_iff, isMarker.infix_newline_iff,
        infix_cons_separator_iff notClosing isMarker.ne_nil, List.infix_nil, joined]
      simp [isMarker.ne_nil]

/-- A marker occurs in the text of a value when it occurs in one of its strings. -/
theorem IsMarker.infix_print_iff (isMarker : IsMarker marker) {level : Nat} {value : Json} :
    marker <:+: value.print level ↔ ∃ text ∈ value.texts, marker <:+: escaped text := by
  induction value using induction generalizing level with
  | null =>
      rw [print, iff_false_left (isMarker.not_infix_short (by decide))]
      simp [texts]
  | bool value =>
      have short : ¬ marker <:+: (Json.bool value).print level := by
        cases value <;> exact isMarker.not_infix_short (by rw [print]; decide)
      rw [iff_false_left short]
      simp [texts]
  | int value =>
      rw [print, iff_false_left (isMarker.not_infix_decimal value)]
      simp [texts]
  | str text =>
      rw [print, isMarker.infix_quote_iff]
      simp [texts]
  | arr items inductionHypothesis =>
      rw [print, printItems_eq, isMarker.infix_bracket_iff (by decide) (by decide), texts_arr]
      constructor
      · rintro ⟨part, member, occurs⟩
        obtain ⟨item, itemMember, rfl⟩ := List.mem_map.mp member
        obtain ⟨text, inside, found⟩ := (inductionHypothesis item itemMember).mp occurs
        exact ⟨text, List.mem_flatMap.mpr ⟨item, itemMember, inside⟩, found⟩
      · rintro ⟨text, member, occurs⟩
        obtain ⟨item, itemMember, inside⟩ := List.mem_flatMap.mp member
        exact ⟨_, List.mem_map_of_mem itemMember,
          (inductionHypothesis item itemMember).mpr ⟨text, inside, occurs⟩⟩
  | obj fields inductionHypothesis =>
      rw [print, printFields_eq, isMarker.infix_bracket_iff (by decide) (by decide), texts_obj]
      have atField {field : String × Json} (member : field ∈ fields) :
          marker <:+: printField (level + 1) field ↔
            ∃ text ∈ field.1 :: field.2.texts, marker <:+: escaped text := by
        rw [printField, infix_append_separator_iff (isMarker.apart ':' (by decide)),
          infix_cons_separator_iff (isMarker.apart ' ' (by decide)) isMarker.ne_nil,
          isMarker.infix_quote_iff, inductionHypothesis field member, List.exists_mem_cons_iff]
      constructor
      · rintro ⟨part, member, occurs⟩
        obtain ⟨field, fieldMember, rfl⟩ := List.mem_map.mp member
        obtain ⟨text, inside, found⟩ := (atField fieldMember).mp occurs
        exact ⟨text, List.mem_flatMap.mpr ⟨field, fieldMember, inside⟩, found⟩
      · rintro ⟨text, member, occurs⟩
        obtain ⟨field, fieldMember, inside⟩ := List.mem_flatMap.mp member
        exact ⟨_, List.mem_map_of_mem fieldMember, (atField fieldMember).mpr ⟨text, inside, occurs⟩⟩

theorem IsMarker.infix_dumps_iff (isMarker : IsMarker marker) {value : Json} :
    marker <:+: value.dumps.toList ↔ ∃ text ∈ value.texts, marker <:+: escaped text := by
  rw [dumps, String.toList_ofList, isMarker.infix_print_iff]
  simp only [mem_texts_sortKeys]

end Marker

end Json

end BssLiteRt.Library

import BssLiteRt.Library.Json
import Mathlib.Data.Bool.AllAny

/-!
Owns the text of a JSON value: two spaces of indentation a level, sorted keys
and ASCII escapes.
-/

namespace BssLiteRt.Library.Json

/-- A UTF-16 unit as four lower-case hexadecimal digits. -/
def unitDigits (unit : Nat) : List Char :=
  [Nat.digitChar (unit / 4096 % 16), Nat.digitChar (unit / 256 % 16),
    Nat.digitChar (unit / 16 % 16), Nat.digitChar (unit % 16)]

def escapeUnit (unit : Nat) : List Char :=
  '\\' :: 'u' :: unitDigits unit

/-- A character inside a string. Above the first plane it is a surrogate pair. -/
def escape (char : Char) : List Char :=
  if char = '"' then ['\\', '"']
  else if char = '\\' then ['\\', '\\']
  else if char = '\n' then ['\\', 'n']
  else if char = '\r' then ['\\', 'r']
  else if char = '\t' then ['\\', 't']
  else if char = '\x08' then ['\\', 'b']
  else if char = '\x0c' then ['\\', 'f']
  else if 32 ≤ char.toNat ∧ char.toNat ≤ 126 then [char]
  else if char.toNat < 65536 then escapeUnit char.toNat
  else
    escapeUnit (55296 + (char.toNat - 65536) / 1024) ++
      escapeUnit (56320 + (char.toNat - 65536) % 1024)

def quote (text : String) : List Char :=
  '"' :: text.toList.flatMap escape ++ ['"']

def decimal : Int → List Char
  | .ofNat number => Nat.toDigits 10 number
  | .negSucc number => '-' :: Nat.toDigits 10 (number + 1)

/-- A line break and the indentation of a level. -/
def newline (level : Nat) : List Char :=
  '\n' :: List.replicate (2 * level) ' '

/-- The parts of an array or object, one a line, between its brackets. -/
def bracket (level : Nat) (opening closing : Char) (parts : List (List Char)) : List Char :=
  match parts with
  | [] => [opening, closing]
  | _ :: _ =>
      opening :: newline (level + 1) ++
        List.intercalate (',' :: newline (level + 1)) parts ++ newline level ++ [closing]

/-- The text of a value whose keys are in the order to be written. -/
def print (level : Nat) : Json → List Char
  | .null => ['n', 'u', 'l', 'l']
  | .bool true => ['t', 'r', 'u', 'e']
  | .bool false => ['f', 'a', 'l', 's', 'e']
  | .int value => decimal value
  | .str value => quote value
  | .arr items => bracket level '[' ']' (printItems (level + 1) items)
  | .obj fields => bracket level '\x7b' '\x7d' (printFields (level + 1) fields)
where
  printItems (level : Nat) : List Json → List (List Char)
    | [] => []
    | item :: rest => item.print level :: printItems level rest
  printFields (level : Nat) : List (String × Json) → List (List Char)
    | [] => []
    | (key, value) :: rest => (quote key ++ ':' :: ' ' :: value.print level) :: printFields level rest

theorem printItems_eq (level : Nat) (items : List Json) :
    print.printItems level items = items.map (print level) := by
  induction items with
  | nil => rfl
  | cons item rest inductionHypothesis =>
      rw [print.printItems, inductionHypothesis, List.map_cons]

/-- A field on its line. -/
def printField (level : Nat) (field : String × Json) : List Char :=
  quote field.1 ++ ':' :: ' ' :: field.2.print level

theorem printFields_eq (level : Nat) (fields : List (String × Json)) :
    print.printFields level fields = fields.map (printField level) := by
  induction fields with
  | nil => rfl
  | cons field rest inductionHypothesis =>
      rw [print.printFields, inductionHypothesis, List.map_cons]
      rfl

/-! ### Characters of a dump -/

/-- What a dump is made of: line breaks and the visible ASCII characters. -/
def IsPrinted (char : Char) : Prop :=
  char = '\n' ∨ 32 ≤ char.toNat ∧ char.toNat ≤ 126

instance (char : Char) : Decidable (IsPrinted char) :=
  inferInstanceAs (Decidable (_ ∨ _))

theorem isPrinted_escapeUnit (unit : Nat) : ∀ char ∈ escapeUnit unit, IsPrinted char := by
  have digits : ∀ digit < 16, IsPrinted (Nat.digitChar digit) := by decide
  have digit (number : Nat) : IsPrinted (Nat.digitChar (number % 16)) :=
    digits _ (Nat.mod_lt _ (by decide))
  simp only [escapeUnit, unitDigits, List.forall_mem_cons]
  exact ⟨by decide, by decide, digit _, digit _, digit _, digit _,
    fun _ absent => absurd absent List.not_mem_nil⟩

theorem isPrinted_escape (char : Char) : ∀ printed ∈ escape char, IsPrinted printed := by
  unfold escape
  split
  · exact List.all_iff_forall_prop.mp (by decide)
  split
  · exact List.all_iff_forall_prop.mp (by decide)
  split
  · exact List.all_iff_forall_prop.mp (by decide)
  split
  · exact List.all_iff_forall_prop.mp (by decide)
  split
  · exact List.all_iff_forall_prop.mp (by decide)
  split
  · exact List.all_iff_forall_prop.mp (by decide)
  split
  · exact List.all_iff_forall_prop.mp (by decide)
  split
  · rename_i visible
    exact List.forall_mem_singleton.mpr (Or.inr visible)
  split
  · exact isPrinted_escapeUnit _
  · exact List.forall_mem_append.mpr ⟨isPrinted_escapeUnit _, isPrinted_escapeUnit _⟩

theorem isPrinted_quote (text : String) : ∀ char ∈ quote text, IsPrinted char := by
  rw [quote, List.forall_mem_append, List.forall_mem_cons, List.forall_mem_singleton]
  refine ⟨⟨by decide, ?_⟩, by decide⟩
  intro char member
  obtain ⟨escaped, _, inEscape⟩ := List.mem_flatMap.mp member
  exact isPrinted_escape escaped char inEscape

theorem isPrinted_toDigits (number : Nat) : ∀ char ∈ Nat.toDigits 10 number, IsPrinted char := by
  intro char member
  have digit := Nat.isDigit_of_mem_toDigits (by decide) (by decide) member
  have bounds : 48 ≤ char.toNat ∧ char.toNat ≤ 57 := by
    simpa [Char.isDigit, UInt32.le_iff_toNat_le] using digit
  exact Or.inr (by omega)

theorem isPrinted_newline (level : Nat) : ∀ char ∈ newline level, IsPrinted char := by
  rw [newline, List.forall_mem_cons]
  refine ⟨by decide, fun char member => ?_⟩
  rw [List.eq_of_mem_replicate member]
  decide

theorem isPrinted_bracket {level : Nat} {opening closing : Char} {parts : List (List Char)}
    (opens : IsPrinted opening) (closes : IsPrinted closing)
    (printed : ∀ part ∈ parts, ∀ char ∈ part, IsPrinted char) :
    ∀ char ∈ bracket level opening closing parts, IsPrinted char := by
  have joined : ∀ char ∈ List.intercalate (',' :: newline (level + 1)) parts, IsPrinted char := by
    induction parts with
    | nil => simp
    | cons part more inductionHypothesis =>
        obtain ⟨head, tail⟩ := List.forall_mem_cons.mp printed
        cases more with
        | nil => simpa using head
        | cons second more =>
            rw [List.intercalate_cons_cons, List.forall_mem_append, List.forall_mem_append,
              List.forall_mem_cons]
            exact ⟨⟨head, by decide, isPrinted_newline _⟩, inductionHypothesis tail⟩
  cases parts with
  | nil => exact List.forall_mem_cons.mpr ⟨opens, List.forall_mem_singleton.mpr closes⟩
  | cons part more =>
      rw [bracket, List.forall_mem_append, List.forall_mem_append, List.forall_mem_append,
        List.forall_mem_cons, List.forall_mem_singleton]
      exact ⟨⟨⟨⟨opens, isPrinted_newline _⟩, joined⟩, isPrinted_newline _⟩, closes⟩

theorem isPrinted_print (level : Nat) (value : Json) :
    ∀ char ∈ value.print level, IsPrinted char := by
  induction value using induction generalizing level with
  | null =>
      rw [print]
      exact List.all_iff_forall_prop.mp (by decide)
  | bool value =>
      cases value <;> (rw [print]; exact List.all_iff_forall_prop.mp (by decide))
  | int value =>
      cases value with
      | ofNat number => exact isPrinted_toDigits number
      | negSucc number => exact List.forall_mem_cons.mpr ⟨by decide, isPrinted_toDigits _⟩
  | str text => exact isPrinted_quote text
  | arr items inductionHypothesis =>
      rw [print, printItems_eq]
      apply isPrinted_bracket (by decide) (by decide)
      rw [List.forall_mem_map]
      exact fun item member => inductionHypothesis item member (level + 1)
  | obj fields inductionHypothesis =>
      rw [print, printFields_eq]
      apply isPrinted_bracket (by decide) (by decide)
      rw [List.forall_mem_map]
      intro field member
      rw [printField, List.forall_mem_append, List.forall_mem_cons, List.forall_mem_cons]
      exact ⟨isPrinted_quote _, by decide, by decide,
        inductionHypothesis field member (level + 1)⟩

/-- `json.dumps(value, indent=2, sort_keys=True)` -/
def dumps (value : Json) : String :=
  String.ofList (value.sortKeys.print 0)

/-- A dump does not depend on the order of keys. -/
@[simp] theorem dumps_sortKeys (value : Json) : value.sortKeys.dumps = value.dumps := by
  rw [dumps, sortKeys_idempotent, dumps]

theorem isPrinted_dumps (value : Json) : ∀ char ∈ value.dumps.toList, IsPrinted char := by
  rw [dumps, String.toList_ofList]
  exact isPrinted_print 0 value.sortKeys

example : (Json.obj [("b", .arr [.int (-12), .null]), ("a", .str "ê\n")]).dumps =
    "\x7b\n  \"a\": \"\\u00ea\\n\",\n  \"b\": [\n    -12,\n    null\n  ]\n\x7d" := by decide

end BssLiteRt.Library.Json

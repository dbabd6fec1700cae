import BssLiteRt.Library.JsonText

/-!
Owns a reader of JSON text and its round trip with `dumps`. Of several fields
with one key the last one counts, so every object read has distinct keys.
-/

namespace BssLiteRt.Library.Json

/-! ### The reader -/

def isSpace (char : Char) : Bool :=
  char = ' ' ∨ char = '\n' ∨ char = '\r' ∨ char = '\t'

def skipSpace (chars : List Char) : List Char :=
  chars.dropWhile isSpace

def hexValue (char : Char) : Option Nat :=
  if char.isDigit then some (char.toNat - 48)
  else if 'a' ≤ char ∧ char ≤ 'f' then some (char.toNat - 87)
  else if 'A' ≤ char ∧ char ≤ 'F' then some (char.toNat - 55)
  else none

/-- Four hexadecimal digits. -/
def readUnit : List Char → Option (Nat × List Char)
  | first :: second :: third :: fourth :: rest => do
      let first ← hexValue first
      let second ← hexValue second
      let third ← hexValue third
      let fourth ← hexValue fourth
      return (first * 4096 + second * 256 + third * 16 + fourth, rest)
  | _ => none

/-- A unit by itself, or the first of a surrogate pair. -/
def readSurrogate (unit : Nat) (rest : List Char) : Option (Char × List Char) :=
  if 55296 ≤ unit ∧ unit < 56320 then
    match rest with
    | '\\' :: 'u' :: rest =>
        (readUnit rest).map fun (low, rest) =>
          (Char.ofNat (65536 + (unit - 55296) * 1024 + (low - 56320)), rest)
    | _ => none
  else
    some (Char.ofNat unit, rest)

/-- The character a backslash escape stands for. -/
def readEscape : List Char → Option (Char × List Char)
  | '"' :: rest => some ('"', rest)
  | '\\' :: rest => some ('\\', rest)
  | '/' :: rest => some ('/', rest)
  | 'n' :: rest => some ('\n', rest)
  | 'r' :: rest => some ('\r', rest)
  | 't' :: rest => some ('\t', rest)
  | 'b' :: rest => some ('\x08', rest)
  | 'f' :: rest => some ('\x0c', rest)
  | 'u' :: rest => (readUnit rest).bind fun (unit, rest) => readSurrogate unit rest
  | _ => none

/-- The characters of a string up to its closing quote. -/
def readString : Nat → List Char → Option (List Char × List Char)
  | 0, _ => none
  | _, [] => none
  | fuel + 1, first :: rest =>
      if first = '"' then some ([], rest)
      else if first = '\\' then do
        let (char, rest) ← readEscape rest
        let (chars, rest) ← readString fuel rest
        return (char :: chars, rest)
      else do
        let (chars, rest) ← readString fuel rest
        return (first :: chars, rest)

def readNatural (chars : List Char) : Option (Nat × List Char) :=
  let digits := chars.takeWhile Char.isDigit
  if digits = [] then none
  else some (Nat.ofDigitChars 10 digits 0, chars.dropWhile Char.isDigit)

def readNumber : List Char → Option (Int × List Char)
  | '-' :: rest => (readNatural rest).map fun (number, rest) => (-(number : Int), rest)
  | chars => (readNatural chars).map fun (number, rest) => ((number : Int), rest)

def readScalar (chars : List Char) : Option (Json × List Char) :=
  match chars with
  | 'n' :: 'u' :: 'l' :: 'l' :: rest => some (.null, rest)
  | 't' :: 'r' :: 'u' :: 'e' :: rest => some (.bool true, rest)
  | 'f' :: 'a' :: 'l' :: 's' :: 'e' :: rest => some (.bool false, rest)
  | '"' :: rest =>
      (readString rest.length rest).map fun (text, rest) => (.str (String.ofList text), rest)
  | chars => (readNumber chars).map fun (number, rest) => (.int number, rest)

/-- A key, a colon and a value. -/
def readField (readValue : List Char → Option (Json × List Char)) (chars : List Char) :
    Option ((String × Json) × List Char) :=
  match skipSpace chars with
  | '"' :: rest =>
      (readString rest.length rest).bind fun (key, rest) =>
        match skipSpace rest with
        | ':' :: rest =>
            (readValue rest).map fun (value, rest) => ((String.ofList key, value), rest)
        | _ => none
  | _ => none

/-- Elements between commas up to the closing bracket. -/
def readSequence {α : Type} (readElement : List Char → Option (α × List Char)) (closing : Char) :
    Nat → List Char → Option (List α × List Char)
  | 0, _ => none
  | fuel + 1, chars =>
      (readElement chars).bind fun (element, rest) =>
        match skipSpace rest with
        | [] => none
        | first :: rest =>
            if first = closing then some ([element], rest)
            else if first = ',' then
              (readSequence readElement closing fuel rest).map fun (elements, rest) =>
                (element :: elements, rest)
            else none

/-- What stands behind an opening bracket. -/
def readBracket {α : Type} (readElement : List Char → Option (α × List Char)) (closing : Char)
    (fuel : Nat) (chars : List Char) : Option (List α × List Char) :=
  match skipSpace chars with
  | [] => none
  | first :: rest =>
      if first = closing then some ([], rest) else readSequence readElement closing fuel chars

def readValue : Nat → List Char → Option (Json × List Char)
  | 0, _ => none
  | fuel + 1, chars =>
      match skipSpace chars with
      | '[' :: rest =>
          (readBracket (readValue fuel) ']' fuel rest).map fun (items, rest) => (.arr items, rest)
      | '\x7b' :: rest =>
          (readBracket (readField (readValue fuel)) '\x7d' fuel rest).map fun (fields, rest) =>
            (.obj (Dict.ofPairs fields).items, rest)
      | chars => readScalar chars

/-- The value of a text that holds nothing else. -/
def parse (text : String) : Option Json :=
  match readValue text.toList.length text.toList with
  | some (value, rest) => if skipSpace rest = [] then some value else none
  | none => none

example : parse "\x7b\"a\": [1, -2], \"a\": \"\\u00ea\"\x7d\n" = some (.obj [("a", .str "ê")]) := by
  decide +kernel

/-! ### Strings read back -/

theorem hexValue_digitChar {digit : Nat} (small : digit < 16) :
    hexValue (Nat.digitChar digit) = some digit := by
  have all : ∀ digit < 16, hexValue (Nat.digitChar digit) = some digit := by decide
  exact all digit small

theorem readUnit_unitDigits {unit : Nat} (small : unit < 65536) (rest : List Char) :
    readUnit (unitDigits unit ++ rest) = some (unit, rest) := by
  have digit (number : Nat) : hexValue (Nat.digitChar (number % 16)) = some (number % 16) :=
    hexValue_digitChar (Nat.mod_lt _ (by decide))
  have value : unit / 4096 % 16 * 4096 + unit / 256 % 16 * 256 + unit / 16 % 16 * 16 + unit % 16 =
      unit := by omega
  simp [unitDigits, readUnit, digit, value]

theorem readSurrogate_pair {unit low : Nat} {digits rest : List Char}
    (surrogate : 55296 ≤ unit ∧ unit < 56320) (readLow : readUnit digits = some (low, rest)) :
    readSurrogate unit ('\\' :: 'u' :: digits) =
      some (Char.ofNat (65536 + (unit - 55296) * 1024 + (low - 56320)), rest) := by
  unfold readSurrogate
  rw [if_pos surrogate]
  simp only [readLow, Option.map_some]

/-- A character that is escaped is read back by its escape, and the others stand
for themselves. -/
theorem escape_cases (char : Char) (rest : List Char) :
    (∃ code, escape char = '\\' :: code ∧ readEscape (code ++ rest) = some (char, rest)) ∨
      (escape char = [char] ∧ char ≠ '"' ∧ char ≠ '\\') := by
  have valid : char.toNat < 55296 ∨ 57343 < char.toNat ∧ char.toNat < 1114112 := char.valid
  unfold escape
  split
  · rename_i same
    exact Or.inl ⟨_, rfl, by rw [same]; rfl⟩
  split
  · rename_i same
    exact Or.inl ⟨_, rfl, by rw [same]; rfl⟩
  split
  · rename_i same
    exact Or.inl ⟨_, rfl, by rw [same]; rfl⟩
  split
  · rename_i same
    exact Or.inl ⟨_, rfl, by rw [same]; rfl⟩
  split
  · rename_i same
    exact Or.inl ⟨_, rfl, by rw [same]; rfl⟩
  split
  · rename_i same
    exact Or.inl ⟨_, rfl, by rw [same]; rfl⟩
  split
  · rename_i same
    exact Or.inl ⟨_, rfl, by rw [same]; rfl⟩
  split
  · rename_i notQuote notBackslash _ _ _ _ _ _
    exact Or.inr ⟨rfl, notQuote, notBackslash⟩
  left
  split
  · rename_i small
    refine ⟨_, rfl, ?_⟩
    have notSurrogate : ¬ (55296 ≤ char.toNat ∧ char.toNat < 56320) := by omega
    simp [readEscape, readUnit_unitDigits small, readSurrogate, notSurrogate]
  · refine ⟨'u' :: (unitDigits (55296 + (char.toNat - 65536) / 1024) ++
      escapeUnit (56320 + (char.toNat - 65536) % 1024)), rfl, ?_⟩
    have high : 55296 + (char.toNat - 65536) / 1024 < 65536 := by omega
    have low : 56320 + (char.toNat - 65536) % 1024 < 65536 := by omega
    have surrogate : 55296 ≤ 55296 + (char.toNat - 65536) / 1024 ∧
        55296 + (char.toNat - 65536) / 1024 < 56320 := by omega
    have whole : 65536 + (55296 + (char.toNat - 65536) / 1024 - 55296) * 1024 +
        (56320 + (char.toNat - 65536) % 1024 - 56320) = char.toNat := by omega
    have readHigh := readUnit_unitDigits high
      (escapeUnit (56320 + (char.toNat - 65536) % 1024) ++ rest)
    have readLow := readUnit_unitDigits low rest
    rw [List.cons_append, List.append_assoc, readEscape, readHigh, Option.bind_some, escapeUnit,
      List.cons_append, List.cons_append]
    show readSurrogate _ ('\\' :: 'u' :: _) = _
    rw [readSurrogate_pair surrogate readLow, whole, Char.ofNat_toNat]

theorem readString_escape (chars : List Char) (rest : List Char) {fuel : Nat}
    (enough : (chars.flatMap escape).length < fuel) :
    readString fuel (chars.flatMap escape ++ '"' :: rest) = some (chars, rest) := by
  induction chars generalizing fuel with
  | nil =>
      cases fuel with
      | zero => contradiction
      | succ fuel => rfl
  | cons char chars inductionHypothesis =>
      cases fuel with
      | zero => contradiction
      | succ fuel =>
          rw [List.flatMap_cons] at enough ⊢
          rw [List.append_assoc]
          rcases escape_cases char (chars.flatMap escape ++ '"' :: rest) with
            ⟨code, escaped, back⟩ | ⟨plain, notQuote, notBackslash⟩
          · rw [escaped] at enough ⊢
            have later := @inductionHypothesis fuel (by
              simp only [List.length_append, List.length_cons] at enough
              omega)
            simp [readString, back, later]
          · rw [plain] at enough ⊢
            have later := @inductionHypothesis fuel (by
              simp only [List.length_append, List.length_cons] at enough
              omega)
            simp [readString, notQuote, notBackslash, later]

/-! ### Numbers read back -/

/-- A text that does not go on with a digit. -/
def NoDigit (rest : List Char) : Prop :=
  ∀ char ∈ rest.head?, char.isDigit = false

theorem readNatural_toDigits (number : Nat) {rest : List Char} (noDigit : NoDigit rest) :
    readNatural (Nat.toDigits 10 number ++ rest) = some (number, rest) := by
  have digits : ∀ char ∈ Nat.toDigits 10 number, char.isDigit = true := fun char member =>
    Nat.isDigit_of_mem_toDigits (by decide) (by decide) member
  have none : rest.takeWhile Char.isDigit = [] ∧ rest.dropWhile Char.isDigit = rest := by
    cases rest with
    | nil => exact ⟨rfl, rfl⟩
    | cons first rest => simp [noDigit first rfl]
  unfold readNatural
  rw [List.takeWhile_append_of_pos digits, List.dropWhile_append_of_pos digits, none.1, none.2,
    List.append_nil, if_neg Nat.toDigits_ne_nil, Nat.ofDigitChars_ten_toDigits]

theorem toDigits_head (number : Nat) :
    ∃ first rest, Nat.toDigits 10 number = first :: rest ∧ first.isDigit = true := by
  obtain ⟨first, rest, shape⟩ := List.exists_cons_of_ne_nil (@Nat.toDigits_ne_nil number 10)
  refine ⟨first, rest, shape, ?_⟩
  exact Nat.isDigit_of_mem_toDigits (by decide) (by decide) (shape ▸ List.mem_cons_self)

theorem readNumber_decimal (number : Int) {rest : List Char} (noDigit : NoDigit rest) :
    readNumber (decimal number ++ rest) = some (number, rest) := by
  cases number with
  | ofNat number =>
      have back := readNatural_toDigits number noDigit
      obtain ⟨first, digits, shape, digit⟩ := toDigits_head number
      rw [decimal]
      unfold readNumber
      split
      · rename_i minus
        rw [shape, List.cons_append, List.cons.injEq] at minus
        rw [minus.1] at digit
        exact absurd digit (by decide)
      · rw [back]
        rfl
  | negSucc number =>
      rw [decimal, List.cons_append, readNumber, readNatural_toDigits _ noDigit]
      rfl

/-! ### Values read back -/

theorem skipSpace_newline (level : Nat) (rest : List Char) :
    skipSpace (newline level ++ rest) = skipSpace rest := by
  have spaces : ∀ char ∈ newline level, isSpace char = true := by
    intro char member
    rcases List.mem_cons.mp member with rfl | space
    · rfl
    · rw [List.eq_of_mem_replicate space]
      rfl
  exact List.dropWhile_append_of_pos spaces

theorem skipSpace_cons {first : Char} {rest : List Char} (visible : isSpace first = false) :
    skipSpace (first :: rest) = first :: rest :=
  List.dropWhile_cons_of_neg (by simp [visible])

/-- The first character of a printed value is neither a space nor a closing
bracket. -/
theorem print_head (level : Nat) (value : Json) :
    ∃ first rest, value.print level = first :: rest ∧ isSpace first = false ∧
      first ≠ ']' ∧ first ≠ '\x7d' := by
  cases value with
  | null => exact ⟨_, _, rfl, by decide⟩
  | bool value => cases value <;> exact ⟨_, _, rfl, by decide⟩
  | int value =>
      cases value with
      | ofNat number =>
          obtain ⟨first, rest, shape, digit⟩ := toDigits_head number
          refine ⟨first, rest, shape, ?_, ?_, ?_⟩
          · apply Bool.eq_false_iff.mpr
            intro space
            rcases of_decide_eq_true space with rfl | rfl | rfl | rfl <;>
              exact absurd digit (by decide)
          · rintro rfl
            exact absurd digit (by decide)
          · rintro rfl
            exact absurd digit (by decide)
      | negSucc number => exact ⟨_, _, rfl, by decide⟩
  | str text => exact ⟨_, _, rfl, by decide⟩
  | arr items =>
      rw [print]
      cases print.printItems (level + 1) items <;> exact ⟨_, _, rfl, by decide⟩
  | obj fields =>
      rw [print]
      cases print.printFields (level + 1) fields <;> exact ⟨_, _, rfl, by decide⟩

theorem noDigit_newline (level : Nat) (rest : List Char) : NoDigit (newline level ++ rest) := by
  rintro char same
  rw [← Option.some.inj same]
  rfl

theorem noDigit_comma (rest : List Char) : NoDigit (',' :: rest) := by
  rintro char same
  rw [← Option.some.inj same]
  rfl

/-- Elements that are read back one by one are read back as a sequence. -/
theorem readSequence_intercalate {α : Type}
    {readElement : List Char → Option (α × List Char)} {closing : Char} {text : α → List Char}
    {level : Nat} (visible : isSpace closing = false) (notComma : closing ≠ ',')
    {elements : List α} (nonempty : elements ≠ [])
    (readsBack : ∀ element ∈ elements, ∀ rest, NoDigit rest →
      readElement (newline level ++ (text element ++ rest)) = some (element, rest))
    {fuel : Nat} (enough : elements.length ≤ fuel) (outer : Nat) (rest : List Char) :
    readSequence readElement closing fuel
        (newline level ++ (List.intercalate (',' :: newline level) (elements.map text) ++
          (newline outer ++ closing :: rest))) =
      some (elements, rest) := by
  induction elements generalizing fuel with
  | nil => contradiction
  | cons element more inductionHypothesis =>
      have elementBack := readsBack element List.mem_cons_self
      cases fuel with
      | zero => contradiction
      | succ fuel =>
          cases more with
          | nil =>
              rw [List.map_singleton, List.intercalate_singleton, readSequence,
                elementBack _ (noDigit_newline _ _)]
              simp [skipSpace_newline, skipSpace_cons visible]
          | cons second more =>
              have later := inductionHypothesis (List.cons_ne_nil second more)
                (fun other member => readsBack other (List.mem_cons_of_mem _ member))
                (Nat.le_of_succ_le_succ enough)
              have comma (chars : List Char) : skipSpace (',' :: chars) = ',' :: chars :=
                skipSpace_cons (by decide)
              rw [List.map_cons] at later
              rw [List.map_cons, List.map_cons, List.intercalate_cons_cons, List.append_assoc,
                List.append_assoc, List.cons_append, readSequence,
                elementBack _ (noDigit_comma _)]
              simp [comma, Ne.symm notComma, later]

/-- What `bracket` writes is read back. -/
theorem readBracket_bracket {α : Type}
    {readElement : List Char → Option (α × List Char)} {opening closing : Char}
    {text : α → List Char} {level : Nat} (visible : isSpace closing = false)
    (notComma : closing ≠ ',') {elements : List α}
    (readsBack : ∀ element ∈ elements, ∀ rest, NoDigit rest →
      readElement (newline (level + 1) ++ (text element ++ rest)) = some (element, rest))
    (heads : ∀ element ∈ elements, ∃ first chars, text element = first :: chars ∧
      isSpace first = false ∧ first ≠ closing)
    {fuel : Nat} (enough : elements.length ≤ fuel) (rest : List Char) :
    ∃ body, bracket level opening closing (elements.map text) ++ rest = opening :: body ∧
      readBracket readElement closing fuel body = some (elements, rest) := by
  cases elements with
  | nil =>
      refine ⟨closing :: rest, rfl, ?_⟩
      rw [readBracket, skipSpace_cons visible]
      simp
  | cons element more =>
      refine ⟨newline (level + 1) ++ (List.intercalate (',' :: newline (level + 1))
        ((element :: more).map text) ++ (newline level ++ closing :: rest)), by simp [bracket], ?_⟩
      have read := readSequence_intercalate visible notComma (List.cons_ne_nil element more)
        readsBack enough level rest
      obtain ⟨first, chars, shape, firstVisible, notClosing⟩ :=
        heads element List.mem_cons_self
      have starts : ∃ tail, List.intercalate (',' :: newline (level + 1))
          ((element :: more).map text) ++ (newline level ++ closing :: rest) = first :: tail := by
        cases more <;> simp [shape, List.intercalate_cons_cons]
      obtain ⟨tail, starts⟩ := starts
      rw [readBracket, skipSpace_newline, starts, skipSpace_cons firstVisible]
      simp only [if_neg notClosing]
      rw [← starts, read]

theorem readString_quote (text : String) (rest : List Char) :
    ∃ body, quote text ++ rest = '"' :: body ∧
      readString body.length body = some (text.toList, rest) := by
  refine ⟨text.toList.flatMap escape ++ '"' :: rest, by simp [quote], ?_⟩
  apply readString_escape
  rw [List.length_append, List.length_cons]
  omega

theorem readValue_of_skipSpace {left right : List Char} (same : skipSpace left = skipSpace right)
    (fuel : Nat) : readValue fuel left = readValue fuel right := by
  cases fuel with
  | zero => rfl
  | succ fuel =>
      unfold readValue
      rw [same]

theorem readValue_scalar {first : Char} (visible : isSpace first = false) (notArr : first ≠ '[')
    (notObj : first ≠ '\x7b') (fuel : Nat) (rest : List Char) :
    readValue (fuel + 1) (first :: rest) = readScalar (first :: rest) := by
  rw [readValue, skipSpace_cons visible]
  split
  · rename_i opens
    exact absurd (List.cons.inj opens).1 notArr
  · rename_i opens
    exact absurd (List.cons.inj opens).1 notObj
  · rfl

theorem decimal_head (number : Int) :
    ∃ first rest, decimal number = first :: rest ∧ (first.isDigit = true ∨ first = '-') := by
  cases number with
  | ofNat number =>
      obtain ⟨first, rest, shape, digit⟩ := toDigits_head number
      exact ⟨first, rest, shape, Or.inl digit⟩
  | negSucc number => exact ⟨_, _, rfl, Or.inr rfl⟩

theorem readValue_decimal (number : Int) (fuel : Nat) {rest : List Char}
    (noDigit : NoDigit rest) :
    readValue (fuel + 1) (decimal number ++ rest) = some (.int number, rest) := by
  obtain ⟨first, digits, shape, head⟩ := decimal_head number
  have other {char : Char} (notDigit : char.isDigit = false) (notMinus : char ≠ '-') :
      first ≠ char := by
    rintro rfl
    rcases head with digit | minus
    · exact absurd digit (by simp [notDigit])
    · exact notMinus minus
  have visible : isSpace first = false := by
    apply decide_eq_false
    rintro (space | space | space | space)
    all_goals exact other (by decide) (by decide) space
  have numberBack := readNumber_decimal number noDigit
  rw [shape, List.cons_append] at numberBack ⊢
  rw [readValue_scalar visible (other (by decide) (by decide)) (other (by decide) (by decide))]
  unfold readScalar
  split
  · rename_i begins
    exact absurd (List.cons.inj begins).1 (other (by decide) (by decide))
  · rename_i begins
    exact absurd (List.cons.inj begins).1 (other (by decide) (by decide))
  · rename_i begins
    exact absurd (List.cons.inj begins).1 (other (by decide) (by decide))
  · rename_i begins
    exact absurd (List.cons.inj begins).1 (other (by decide) (by decide))
  · rw [numberBack]
    rfl

theorem readValue_quote (text : String) (fuel : Nat) (rest : List Char) :
    readValue (fuel + 1) (quote text ++ rest) = some (.str text, rest) := by
  obtain ⟨body, shape, back⟩ := readString_quote text rest
  rw [shape, readValue_scalar (by decide) (by decide) (by decide)]
  show (readString body.length body).map _ = _
  rw [back, Option.map_some]
  show some (Json.str (String.ofList text.toList), rest) = _
  rw [String.ofList_toList]

theorem readField_printField {fuel : Nat} (level : Nat) (field : String × Json)
    {rest : List Char}
    (valueBack : readValue fuel (field.2.print level ++ rest) = some (field.2, rest)) :
    readField (readValue fuel) (newline level ++ (printField level field ++ rest)) =
      some (field, rest) := by
  obtain ⟨body, shape, back⟩ := readString_quote field.1 (':' :: ' ' :: (field.2.print level ++ rest))
  have spaced : readValue fuel (' ' :: (field.2.print level ++ rest)) = some (field.2, rest) := by
    rw [← valueBack]
    apply readValue_of_skipSpace
    rfl
  have whole : printField level field ++ rest = '"' :: body := by
    rw [← shape]
    simp [printField]
  rw [readField, skipSpace_newline, whole, skipSpace_cons (by decide)]
  show (readString body.length body).bind _ = _
  rw [back, Option.bind_some]
  show (readValue fuel (' ' :: (field.2.print level ++ rest))).map _ = _
  rw [spaced, Option.map_some]
  show some ((String.ofList field.1.toList, field.2), rest) = _
  rw [String.ofList_toList]

theorem length_le_bracket {level : Nat} {opening closing : Char} {parts : List (List Char)} :
    parts.length < (bracket level opening closing parts).length ∧
      ∀ part ∈ parts, part.length < (bracket level opening closing parts).length := by
  have counted (parts : List (List Char)) :
      parts.length ≤ (List.intercalate (',' :: newline (level + 1)) parts).length + 1 ∧
        ∀ part ∈ parts,
          part.length ≤ (List.intercalate (',' :: newline (level + 1)) parts).length := by
    induction parts with
    | nil => simp
    | cons part more inductionHypothesis =>
        cases more with
        | nil => simp
        | cons second more =>
            rw [List.intercalate_cons_cons]
            obtain ⟨number, each⟩ := inductionHypothesis
            simp only [List.length_append, List.length_cons, List.forall_mem_cons] at *
            refine ⟨by omega, by omega, by omega, ?_⟩
            intro other member
            have := each.2 other member
            omega
  cases parts with
  | nil => simp [bracket]
  | cons part more =>
      obtain ⟨number, each⟩ := counted (part :: more)
      simp only [bracket, List.length_append, List.length_cons] at *
      refine ⟨by omega, ?_⟩
      intro other member
      have := each other member
      omega

/-- An array is read back when each of its items is. -/
theorem readValue_arr {items : List Json} {fuel level : Nat}
    (enough : ((Json.arr items).print level).length ≤ fuel + 1)
    (each : ∀ item ∈ items, (item.print (level + 1)).length ≤ fuel → ∀ rest, NoDigit rest →
      readValue fuel (item.print (level + 1) ++ rest) = some (item, rest)) (rest : List Char) :
    readValue (fuel + 1) ((Json.arr items).print level ++ rest) = some (.arr items, rest) := by
  rw [print, printItems_eq] at enough ⊢
  obtain ⟨number, shorter⟩ := @length_le_bracket level '[' ']' (items.map (print (level + 1)))
  rw [List.length_map] at number
  have itemsBack : ∀ item ∈ items, ∀ rest, NoDigit rest →
      readValue fuel (newline (level + 1) ++ (item.print (level + 1) ++ rest)) =
        some (item, rest) := by
    intro item member rest noDigit
    have itsLength := shorter _ (List.mem_map_of_mem member)
    rw [readValue_of_skipSpace (skipSpace_newline (level + 1) _)]
    exact each item member (by omega) rest noDigit
  have heads : ∀ item ∈ items, ∃ first chars,
      item.print (level + 1) = first :: chars ∧ isSpace first = false ∧ first ≠ ']' := by
    intro item member
    obtain ⟨first, chars, shape, visible, notClosing, -⟩ := print_head (level + 1) item
    exact ⟨first, chars, shape, visible, notClosing⟩
  obtain ⟨body, shape, back⟩ := @readBracket_bracket _ (readValue fuel) '[' ']' _ level
    (by decide) (by decide) items itemsBack heads fuel (by omega) rest
  rw [shape, readValue, skipSpace_cons (by decide)]
  simp only [back, Option.map_some]

/-- An object with distinct keys is read back when each of its values is. -/
theorem readValue_obj {fields : List (String × Json)} (unique : (fields.map Prod.fst).Nodup)
    {fuel level : Nat} (enough : ((Json.obj fields).print level).length ≤ fuel + 1)
    (each : ∀ field ∈ fields, (field.2.print (level + 1)).length ≤ fuel → ∀ rest, NoDigit rest →
      readValue fuel (field.2.print (level + 1) ++ rest) = some (field.2, rest))
    (rest : List Char) :
    readValue (fuel + 1) ((Json.obj fields).print level ++ rest) = some (.obj fields, rest) := by
  rw [print, printFields_eq] at enough ⊢
  obtain ⟨number, shorter⟩ :=
    @length_le_bracket level '\x7b' '\x7d' (fields.map (printField (level + 1)))
  rw [List.length_map] at number
  have fieldsBack : ∀ field ∈ fields, ∀ rest, NoDigit rest →
      readField (readValue fuel) (newline (level + 1) ++ (printField (level + 1) field ++ rest)) =
        some (field, rest) := by
    intro field member rest noDigit
    have itsLength := shorter _ (List.mem_map_of_mem member)
    rw [printField, List.length_append, List.length_cons, List.length_cons] at itsLength
    exact readField_printField (level + 1) field (each field member (by omega) rest noDigit)
  have heads : ∀ field ∈ fields, ∃ first chars,
      printField (level + 1) field = first :: chars ∧ isSpace first = false ∧ first ≠ '\x7d' := by
    intro field member
    exact ⟨_, _, rfl, by decide⟩
  obtain ⟨body, shape, back⟩ := @readBracket_bracket _ (readField (readValue fuel)) '\x7b'
    '\x7d' _ level (by decide) (by decide) fields fieldsBack heads fuel (by omega) rest
  rw [shape, readValue, skipSpace_cons (by decide)]
  simp only [back, Option.map_some, Dict.ofPairs_of_nodup unique]

/-- A value takes at least one step to read. -/
theorem exists_fuel {value : Json} {fuel level : Nat}
    (enough : (value.print level).length ≤ fuel) : ∃ less, fuel = less + 1 := by
  obtain ⟨first, chars, shape, -⟩ := print_head level value
  apply Nat.exists_eq_succ_of_ne_zero
  rintro rfl
  rw [shape] at enough
  contradiction

/-- A printed value is read back, whatever follows it that is not a digit. -/
theorem readValue_print {value : Json} (wellFormed : value.WellFormed) {fuel level : Nat}
    (enough : (value.print level).length ≤ fuel) {rest : List Char} (noDigit : NoDigit rest) :
    readValue fuel (value.print level ++ rest) = some (value, rest) := by
  obtain ⟨less, rfl⟩ := exists_fuel enough
  induction value using induction generalizing less level rest with
  | null => rfl
  | bool value => cases value <;> rfl
  | int number => exact readValue_decimal number less noDigit
  | str text => exact readValue_quote text less rest
  | arr items inductionHypothesis =>
      refine readValue_arr enough (fun item member itsEnough rest noDigit => ?_) rest
      obtain ⟨fewer, rfl⟩ := exists_fuel itsEnough
      exact inductionHypothesis item member (wellFormed_arr.mp wellFormed item member) noDigit
        fewer itsEnough
  | obj fields inductionHypothesis =>
      obtain ⟨unique, inner⟩ := wellFormed_obj.mp wellFormed
      refine readValue_obj unique enough (fun field member itsEnough rest noDigit => ?_) rest
      obtain ⟨fewer, rfl⟩ := exists_fuel itsEnough
      exact inductionHypothesis field member (inner field member) noDigit fewer itsEnough

theorem wellFormed_sortKeys {value : Json} (wellFormed : value.WellFormed) :
    value.sortKeys.WellFormed := by
  induction value using induction with
  | null | bool | int | str => exact wellFormed
  | arr items inductionHypothesis =>
      rw [sortKeys_arr, wellFormed_arr, List.forall_mem_map]
      intro item member
      exact inductionHypothesis item member (wellFormed_arr.mp wellFormed item member)
  | obj fields inductionHypothesis =>
      obtain ⟨unique, inner⟩ := wellFormed_obj.mp wellFormed
      rw [sortKeys_obj, wellFormed_obj, List.forall_mem_map, List.map_map]
      refine ⟨((sortByKey_perm fields).map Prod.fst).nodup_iff.mpr unique, ?_⟩
      intro field member
      have inside := mem_sortByKey.mp member
      exact inductionHypothesis field inside (inner field inside)

/-- A dump and its last line break are read back as the value with sorted keys. -/
theorem parse_dumps {value : Json} (wellFormed : value.WellFormed) :
    parse (value.dumps ++ "\n") = some value.sortKeys := by
  have text : (value.dumps ++ "\n").toList = value.sortKeys.print 0 ++ ['\n'] := by
    simp [dumps]
  have noDigit : NoDigit ['\n'] := noDigit_newline 0 []
  rw [parse, text, readValue_print (wellFormed_sortKeys wellFormed)
    (by simp) noDigit]
  rfl

end BssLiteRt.Library.Json

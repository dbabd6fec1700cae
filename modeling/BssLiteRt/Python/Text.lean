import BssLiteRt.Python.Runtime
import Mathlib.Data.List.DropRight

/-!
Owns what the scripts do with text: prefixes, ASCII, the line breaks of a text
file, `splitlines`, and the division of a line at its first two spaces.
-/

namespace BssLiteRt.Python

open BssLiteRt.Library

/-- `text.startswith(front)` -/
def startsWith (text front : String) : Bool :=
  front.toList.isPrefixOf text.toList

/-- `text.endswith(back)` -/
def endsWith (text back : String) : Bool :=
  back.toList.isSuffixOf text.toList

/-- `text.removeprefix(front)` -/
def withoutFront (text front : String) : String :=
  if startsWith text front then String.ofList (text.toList.drop front.toList.length) else text

/-- `text.rstrip("/")` -/
def rstripSlash (text : String) : String :=
  String.ofList (text.toList.rdropWhile (· = '/'))

/-- `"".join(texts)` -/
def joinTexts (texts : List String) : String :=
  String.ofList (texts.flatMap String.toList)

/-! ### ASCII -/

def isAscii (char : Char) : Bool :=
  char.toNat < 128

/-- `text.encode("ascii")` -/
def encodeAscii (text : String) : Py Bytes :=
  if text.toList.all isAscii then
    .ok (text.toList.map fun char => UInt8.ofNat char.toNat)
  else
    raise .unicodeEncodeError "'ascii' codec can't encode characters: ordinal not in range(128)"

/-- `data.decode("ascii")` -/
def decodeAscii (data : Bytes) : Py String :=
  if data.all (fun byte => byte.toNat < 128) then
    .ok (String.ofList (data.map fun byte => Char.ofNat byte.toNat))
  else
    raise .unicodeDecodeError "'ascii' codec can't decode bytes: ordinal not in range(128)"

theorem encodeAscii_ok_iff {text : String} {data : Bytes} :
    encodeAscii text = .ok data ↔
      text.toList.all isAscii = true ∧
        text.toList.map (fun char => UInt8.ofNat char.toNat) = data := by
  unfold encodeAscii
  split <;> simp_all

theorem decodeAscii_of_encodeAscii {text : String} {data : Bytes}
    (encoded : encodeAscii text = .ok data) : decodeAscii data = .ok text := by
  obtain ⟨ascii, rfl⟩ := encodeAscii_ok_iff.mp encoded
  have small : ∀ char ∈ text.toList, char.toNat < 128 := fun char member =>
    of_decide_eq_true (List.all_eq_true.mp ascii char member)
  have value : ∀ char ∈ text.toList, (UInt8.ofNat char.toNat).toNat = char.toNat := by
    intro char member
    have := small char member
    rw [UInt8.toNat_ofNat']
    omega
  have bytesAscii : (text.toList.map fun char => UInt8.ofNat char.toNat).all
      (fun byte => byte.toNat < 128) = true := by
    rw [List.all_map, List.all_eq_true]
    intro char member
    exact decide_eq_true ((value char member).symm ▸ small char member)
  have back : (text.toList.map fun char => UInt8.ofNat char.toNat).map
      (fun byte => Char.ofNat byte.toNat) = text.toList := by
    rw [List.map_map]
    refine (List.map_congr_left fun char member => ?_).trans text.toList.map_id
    show Char.ofNat (UInt8.ofNat char.toNat).toNat = char
    rw [value char member, Char.ofNat_toNat]
  rw [decodeAscii, if_pos bytesAscii, back, String.ofList_toList]

/-! ### Text files -/

/-- The line breaks of a text file as a read in text mode returns them. -/
def universalNewlines : List Char → List Char
  | '\r' :: '\n' :: rest => '\n' :: universalNewlines rest
  | '\r' :: rest => '\n' :: universalNewlines rest
  | char :: rest => char :: universalNewlines rest
  | [] => []

theorem universalNewlines_eq_self {chars : List Char} (noReturn : '\r' ∉ chars) :
    universalNewlines chars = chars := by
  induction chars with
  | nil => rfl
  | cons first rest inductionHypothesis =>
      rw [List.mem_cons, not_or] at noReturn
      unfold universalNewlines
      split
      · rename_i same
        exact absurd (List.cons.inj same).1.symm noReturn.1
      · rename_i same
        exact absurd (List.cons.inj same).1.symm noReturn.1
      · rename_i same
        rw [← (List.cons.inj same).1, ← (List.cons.inj same).2, inductionHypothesis noReturn.2]
      · contradiction

/-- `path.read_text(encoding="utf-8")` -/
def readTextUtf8 (data : Bytes) : Py String := do
  let text ← decodeUtf8 data
  return String.ofList (universalNewlines text.toList)

/-- `path.read_text(encoding="ascii")` -/
def readTextAscii (data : Bytes) : Py String := do
  let text ← decodeAscii data
  return String.ofList (universalNewlines text.toList)

theorem readTextUtf8_encodeUtf8 {text : String} (noReturn : '\r' ∉ text.toList) :
    readTextUtf8 (encodeUtf8 text) = .ok text := by
  rw [readTextUtf8, decodeUtf8_encodeUtf8, ok_bind, universalNewlines_eq_self noReturn,
    String.ofList_toList]
  rfl

theorem readTextAscii_of_encodeAscii {text : String} {data : Bytes}
    (encoded : encodeAscii text = .ok data) (noReturn : '\r' ∉ text.toList) :
    readTextAscii data = .ok text := by
  rw [readTextAscii, decodeAscii_of_encodeAscii encoded, ok_bind,
    universalNewlines_eq_self noReturn, String.ofList_toList]
  rfl

/-! ### Lines -/

/-- The characters at which `splitlines` ends a line. -/
def isLineBreak (char : Char) : Bool :=
  char ∈ ['\n', '\x0b', '\x0c', '\r', '\x1c', '\x1d', '\x1e', '\u0085', '\u2028', '\u2029']

/-- `text.splitlines()` of a text whose carriage returns are gone. A line break at
the end starts no further line. -/
def splitLines (chars : List Char) : List (List Char) :=
  let lines := chars.splitOnP isLineBreak
  if lines.getLast? = some [] then lines.dropLast else lines

theorem splitLines_flatMap {lines : List (List Char)}
    (whole : ∀ line ∈ lines, ∀ char ∈ line, isLineBreak char = false) :
    splitLines (lines.flatMap fun line => line ++ ['\n']) = lines := by
  have split : (lines.flatMap fun line => line ++ ['\n']).splitOnP isLineBreak = lines ++ [[]] := by
    induction lines with
    | nil => rfl
    | cons line rest inductionHypothesis =>
        obtain ⟨head, tail⟩ := List.forall_mem_cons.mp whole
        rw [List.flatMap_cons, List.append_assoc, List.singleton_append,
          List.splitOnP_append_cons_of_forall_mem head '\n' (by decide),
          inductionHypothesis tail, List.cons_append]
  rw [splitLines, split]
  simp

/-- `line.split("  ", 1)` when it has two parts. -/
def splitTwoSpaces : List Char → Option (List Char × List Char)
  | ' ' :: ' ' :: rest => some ([], rest)
  | first :: rest => (splitTwoSpaces rest).map fun (front, back) => (first :: front, back)
  | [] => none

theorem splitTwoSpaces_append {front : List Char} (noSpace : ' ' ∉ front) (back : List Char) :
    splitTwoSpaces (front ++ ' ' :: ' ' :: back) = some (front, back) := by
  induction front with
  | nil => rfl
  | cons first rest inductionHypothesis =>
      rw [List.mem_cons, not_or] at noSpace
      rw [List.cons_append]
      unfold splitTwoSpaces
      split
      · rename_i same
        exact absurd (List.cons.inj same).1.symm noSpace.1
      · rename_i same
        rw [← (List.cons.inj same).1, ← (List.cons.inj same).2, inductionHypothesis noSpace.2]
        rfl
      · contradiction

end BssLiteRt.Python

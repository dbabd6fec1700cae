import BssLiteRt.Library.JsonParser
import BssLiteRt.Python.Runtime

/-!
Owns one standard library that obeys every law the scripts rely on: JSON by its
reader, an archive as the JSON text of its entries, and a hash that writes a
number made of all bytes in hexadecimal.
-/

namespace BssLiteRt.Python

open BssLiteRt.Library

namespace Concrete

/-! ### JSON -/

def loadsText (text : String) : Py Json :=
  match Json.parse text with
  | some value => .ok value
  | none => raise .jsonDecodeError "Expecting value"

def loadsBytes (data : Bytes) : Py Json :=
  decodeUtf8 data >>= loadsText

theorem loadsText_dumps {value : Json} (wellFormed : value.WellFormed) :
    loadsText (value.dumps ++ "\n") = .ok value.sortKeys := by
  rw [loadsText, Json.parse_dumps wellFormed]

theorem loadsBytes_dumps {value : Json} (wellFormed : value.WellFormed) :
    loadsBytes (encodeUtf8 (value.dumps ++ "\n")) = .ok value.sortKeys := by
  rw [loadsBytes, decodeUtf8_encodeUtf8, ok_bind, loadsText_dumps wellFormed]

def json : JsonModule where
  loadsText := loadsText
  loadsBytes := loadsBytes
  loadsText_dumps := fun _ => loadsText_dumps
  loadsBytes_dumps := fun _ => loadsBytes_dumps

/-! ### Archives -/

def entryJson (entry : ZipEntry) : Json :=
  let time := entry.info.dateTime
  .arr [.str entry.info.filename,
    .int time.year, .int time.month, .int time.day,
    .int time.hour, .int time.minute, .int time.second,
    .int entry.info.compressType, .int entry.info.createSystem, .int entry.info.externalAttr,
    .arr (entry.data.map fun byte => .int byte.toNat)]

def jsonByte : Json → Py UInt8
  | .int value => .ok (UInt8.ofNat value.toNat)
  | _ => raise .badZipFile "not a byte"

def jsonEntry : Json → Py ZipEntry
  | .arr [.str filename, .int year, .int month, .int day, .int hour, .int minute, .int second,
      .int compressType, .int createSystem, .int externalAttr, .arr data] =>
      if nulFree : '\x00' ∉ filename.toList then do
        let data ← data.mapM jsonByte
        return {
          info := {
            filename
            dateTime := ⟨year.toNat, month.toNat, day.toNat, hour.toNat, minute.toNat, second.toNat⟩
            compressType := compressType.toNat
            createSystem := createSystem.toNat
            externalAttr := externalAttr.toNat
            nulFree }
          data }
      else raise .badZipFile "a name holds a NUL"
  | _ => raise .badZipFile "not an entry"

def entriesJson (entries : List ZipEntry) : Json :=
  .arr (entries.map entryJson)

def writeArchive (entries : List ZipEntry) : Bytes :=
  encodeUtf8 ((entriesJson entries).dumps ++ "\n")

def readArchive (data : Bytes) : Py (List ZipEntry) := do
  match ← loadsBytes data with
  | .arr items => items.mapM jsonEntry
  | _ => raise .badZipFile "not an archive"

theorem mapM_eq_ok {α β : Type} {read : β → Py α} {write : α → β} {items : List α}
    (readsBack : ∀ item, read (write item) = .ok item) :
    (items.map write).mapM read = .ok items := by
  induction items with
  | nil => rfl
  | cons item rest inductionHypothesis =>
      rw [List.map_cons, List.mapM_cons, readsBack, ok_bind, inductionHypothesis]
      rfl

theorem jsonByte_int (byte : UInt8) : jsonByte (.int byte.toNat) = .ok byte := by
  rw [jsonByte, Int.toNat_natCast, UInt8.ofNat_toNat]

theorem jsonEntry_entryJson (entry : ZipEntry) : jsonEntry (entryJson entry) = .ok entry := by
  have nulFree := entry.info.nulFree
  have bytes := @mapM_eq_ok _ _ jsonByte _ entry.data jsonByte_int
  simp only [entryJson, jsonEntry, dif_pos nulFree, bytes, Int.toNat_natCast]
  rfl

theorem wellFormed_entriesJson (entries : List ZipEntry) : (entriesJson entries).WellFormed := by
  rw [entriesJson, Json.wellFormed_arr, List.forall_mem_map]
  intro entry _
  have bytes : (Json.arr (entry.data.map fun byte => .int byte.toNat)).WellFormed := by
    rw [Json.wellFormed_arr, List.forall_mem_map]
    exact fun _ _ => trivial
  rw [entryJson, Json.wellFormed_arr]
  simp only [List.forall_mem_cons]
  exact ⟨trivial, trivial, trivial, trivial, trivial, trivial, trivial, trivial, trivial, trivial,
    bytes, fun _ absent => absurd absent List.not_mem_nil⟩

theorem sortKeys_entriesJson (entries : List ZipEntry) :
    (entriesJson entries).sortKeys = entriesJson entries := by
  rw [entriesJson, Json.sortKeys_arr, List.map_map]
  congr 1
  apply List.map_congr_left
  intro entry _
  have bytes : (Json.arr (entry.data.map fun byte => .int byte.toNat)).sortKeys =
      .arr (entry.data.map fun byte => .int byte.toNat) := by
    rw [Json.sortKeys_arr, List.map_map]
    rfl
  show (entryJson entry).sortKeys = entryJson entry
  rw [entryJson, Json.sortKeys_arr]
  simp only [List.map_cons, List.map_nil, bytes]
  rfl

theorem readArchive_writeArchive (entries : List ZipEntry) :
    readArchive (writeArchive entries) = .ok entries := by
  rw [readArchive, writeArchive, loadsBytes_dumps (wellFormed_entriesJson entries),
    sortKeys_entriesJson]
  exact mapM_eq_ok jsonEntry_entryJson

def zipfile : ZipModule where
  write := writeArchive
  read := readArchive
  read_write := readArchive_writeArchive

/-! ### Hashes -/

/-- All bytes as one number. -/
def number (data : Bytes) : Nat :=
  data.foldl (fun number byte => number * 257 + byte.toNat + 1) 0

def digest (length : Nat) (data : Bytes) : String :=
  String.ofList ((List.range length).map fun place =>
    Nat.digitChar (number data / 16 ^ place % 16))

theorem digest_hex (length : Nat) (data : Bytes) : IsHexDigest length (digest length data) := by
  have digits : ∀ digit < 16, Nat.digitChar digit ∈ ("0123456789abcdef" : String).toList := by
    decide
  rw [IsHexDigest, digest, String.toList_ofList, List.length_map, List.length_range,
    List.forall_mem_map]
  exact ⟨rfl, fun _ _ => digits _ (Nat.mod_lt _ (by decide))⟩

def hashlib : Hashlib where
  md5 := digest 32
  sha1 := digest 40
  sha256 := digest 64
  sha512 := digest 128
  md5_hex := digest_hex 32
  sha1_hex := digest_hex 40
  sha256_hex := digest_hex 64
  sha512_hex := digest_hex 128

/-! ### Numbers -/

def int (text : String) : Py Int :=
  if text.toList ≠ [] ∧ text.toList.all Char.isDigit then
    .ok (text.toList.foldl (fun value digit => value * 10 + (digit.toNat - '0'.toNat)) 0 : Nat)
  else
    raise .valueError ("invalid literal for int() with base 10: '" ++ text ++ "'")

end Concrete

/-- `str(value)` -/
def Concrete.str : Json → String
  | .null => "None"
  | .bool value => if value then "True" else "False"
  | .str text => text
  | other => other.dumps

/-- A standard library that obeys the laws. -/
def concreteLibrary : StandardLibrary where
  json := Concrete.json
  zipfile := Concrete.zipfile
  hashlib := Concrete.hashlib
  str := Concrete.str
  repr := fun text => "'" ++ text ++ "'"
  reprBytes := fun data => "b'" ++ String.ofList (data.map fun byte => Char.ofNat byte.toNat) ++ "'"
  int := Concrete.int
  uuid5 := fun url => Concrete.digest 32 (encodeUtf8 url)

end BssLiteRt.Python

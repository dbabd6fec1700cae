import BssLiteRt.Library.Dict
import BssLiteRt.Library.JsonText

/-!
Owns what the scripts take from Python: exceptions, bytes and text, JSON
documents, and the parts of `zipfile`, `hashlib` and `json` they call. Those
parts are parameters; what the scripts rely on are fields of their structures.

Numbers of JSON documents are integers.
-/

namespace BssLiteRt.Python

open BssLiteRt.Library

/-! ### Exceptions -/

inductive ErrorKind where
  | valueError
  | keyError
  | typeError
  | attributeError
  | fileNotFoundError
  | unicodeEncodeError
  | unicodeDecodeError
  | badZipFile
  | jsonDecodeError
  | recursionError
  | runtimeError
  | systemExit
deriving DecidableEq

structure PyError where
  kind : ErrorKind
  message : String
deriving DecidableEq

/-- A call that returns a value or raises. -/
abbrev Py := Except PyError

def raise {α : Type} (kind : ErrorKind) (message : String) : Py α :=
  .error ⟨kind, message⟩

/-- `if condition: raise ...` -/
def raiseIf (condition : Bool) (kind : ErrorKind) (message : String) : Py Unit :=
  if condition then raise kind message else .ok ()

/-! ### Calls one after the other -/

section Calls

variable {α β : Type}

@[simp] theorem ok_bind (value : α) (next : α → Py β) : (Except.ok value >>= next) = next value :=
  rfl

@[simp] theorem error_bind (error : PyError) (next : α → Py β) :
    ((Except.error error : Py α) >>= next) = .error error :=
  rfl

@[simp] theorem pure_eq_ok (value : α) : (pure value : Py α) = .ok value :=
  rfl

/-- A sequence of calls returns when each of them does. -/
theorem bind_eq_ok {call : Py α} {next : α → Py β} {result : β} :
    (call >>= next) = .ok result ↔ ∃ value, call = .ok value ∧ next value = .ok result := by
  cases call with
  | error error => simp
  | ok value => simp

theorem exists_unit {holds : Unit → Prop} : (∃ returned, holds returned) ↔ holds () :=
  ⟨fun ⟨_, held⟩ => held, fun held => ⟨(), held⟩⟩

@[simp] theorem raise_ne_ok {kind : ErrorKind} {message : String} {value : α} :
    raise kind message ≠ .ok value :=
  nofun

@[simp] theorem raiseIf_false (kind : ErrorKind) (message : String) :
    raiseIf false kind message = .ok () :=
  rfl

@[simp] theorem raiseIf_eq_ok {condition : Bool} {kind : ErrorKind} {message : String}
    {returned : Unit} : raiseIf condition kind message = .ok returned ↔ condition = false := by
  cases condition <;> simp [raiseIf]

end Calls

/-! ### Bytes and text -/

abbrev Bytes := List UInt8

/-- `text.encode("utf-8")` -/
def encodeUtf8 (text : String) : Bytes :=
  text.toList.flatMap String.utf8EncodeChar

/-- `data.decode("utf-8")` -/
def decodeUtf8 (data : Bytes) : Py String :=
  match String.fromUTF8? data.toByteArray with
  | some text => .ok text
  | none => raise .unicodeDecodeError "invalid utf-8"

theorem decodeUtf8_encodeUtf8 (text : String) : decodeUtf8 (encodeUtf8 text) = .ok text := by
  have encoded : (encodeUtf8 text).toByteArray = text.toByteArray := by
    show text.toList.utf8Encode = _
    rw [← String.toByteArray_ofList, String.ofList_toList]
  unfold decodeUtf8 String.fromUTF8?
  rw [encoded, dif_pos text.isValidUTF8]
  rfl

theorem encodeUtf8_injective : Function.Injective encodeUtf8 := by
  intro left right same
  have decoded := congrArg decodeUtf8 same
  rw [decodeUtf8_encodeUtf8, decodeUtf8_encodeUtf8] at decoded
  exact Except.ok.inj decoded

/-! ### JSON documents -/

/-- `value[key]` -/
def getItem (value : Json) (key : String) : Py Json :=
  match value with
  | .obj _ =>
      match value.field? key with
      | some found => .ok found
      | none => raise .keyError ("'" ++ key ++ "'")
  | .arr _ => raise .typeError "list indices must be integers or slices, not str"
  | .str _ => raise .typeError "string indices must be integers, not 'str'"
  | .null => raise .typeError "'NoneType' object is not subscriptable"
  | .bool _ => raise .typeError "'bool' object is not subscriptable"
  | .int _ => raise .typeError "'int' object is not subscriptable"

theorem getItem_ok_iff {value found : Json} {key : String} :
    getItem value key = .ok found ↔ value.field? key = some found := by
  cases value with
  | obj fields =>
      rw [getItem]
      cases (Json.obj fields).field? key <;> simp
  | null | bool | int | str | arr => simp [getItem, Json.field?]

/-- `value.get(key, default)` -/
def getD (value : Json) (key : String) (default : Json) : Py Json :=
  match value with
  | .obj _ => .ok ((value.field? key).getD default)
  | .arr _ => raise .attributeError "'list' object has no attribute 'get'"
  | .str _ => raise .attributeError "'str' object has no attribute 'get'"
  | .null => raise .attributeError "'NoneType' object has no attribute 'get'"
  | .bool _ => raise .attributeError "'bool' object has no attribute 'get'"
  | .int _ => raise .attributeError "'int' object has no attribute 'get'"

theorem getD_of_field? {value found default : Json} {key : String}
    (stored : value.field? key = some found) : getD value key default = .ok found := by
  cases value with
  | obj fields => rw [getD, stored, Option.getD_some]
  | null | bool | int | str | arr => cases stored

theorem field?_of_getD {value found default : Json} {key : String}
    (returned : getD value key default = .ok found) (notDefault : found ≠ default) :
    value.field? key = some found := by
  cases value with
  | obj fields =>
      have same := Except.ok.inj returned
      cases present : (Json.obj fields).field? key with
      | none =>
          rw [present] at same
          exact absurd same.symm notDefault
      | some stored =>
          rw [present] at same
          exact congrArg some same
  | null | bool | int | str | arr => cases returned

/-- The value has the given field, up to the equality of Python. -/
def HasField (value : Json) (key : String) (expected : Json) : Prop :=
  ∃ found, value.field? key = some found ∧ found.pyEq expected = true

/-- What equals an object has its fields. -/
theorem hasField_of_pyEq {value expected : Json} {fields : List (String × Json)} {key : String}
    (unique : (fields.map Prod.fst).Nodup) (same : value.pyEq (.obj fields) = true)
    (listed : fields.lookup key = some expected) : HasField value key expected := by
  have lookups := Json.field?_of_pyEq unique same key
  rw [listed, Option.map_some, Option.map_eq_some_iff] at lookups
  obtain ⟨found, stored, equal⟩ := lookups
  exact ⟨found, stored, Json.pyEq_iff.mpr equal⟩

/-- The elements a `for` loop over the value meets. -/
def elements (value : Json) : Py (List Json) :=
  match value with
  | .arr items => .ok items
  | .obj fields => .ok (fields.map fun field => .str field.1)
  | .str text => .ok (text.toList.map fun char => .str (String.singleton char))
  | .null => raise .typeError "'NoneType' object is not iterable"
  | .bool _ => raise .typeError "'bool' object is not iterable"
  | .int _ => raise .typeError "'int' object is not iterable"

/-- `value.items()` -/
def itemsOf (value : Json) : Py (List (String × Json)) :=
  match value with
  | .obj fields => .ok fields
  | .arr _ => raise .attributeError "'list' object has no attribute 'items'"
  | .str _ => raise .attributeError "'str' object has no attribute 'items'"
  | .null => raise .attributeError "'NoneType' object has no attribute 'items'"
  | .bool _ => raise .attributeError "'bool' object has no attribute 'items'"
  | .int _ => raise .attributeError "'int' object has no attribute 'items'"

/-- A value that is used as a text, in a path or as bytes. -/
def asStr (value : Json) : Py String :=
  match value with
  | .str text => .ok text
  | _ => raise .typeError "expected str"

theorem asStr_ok_iff {value : Json} {text : String} : asStr value = .ok text ↔ value = .str text := by
  cases value <;> simp [asStr]

/-- `value.encode()` -/
def encodeText (value : Json) : Py Bytes :=
  match value with
  | .str text => .ok (encodeUtf8 text)
  | .obj _ => raise .attributeError "'dict' object has no attribute 'encode'"
  | .arr _ => raise .attributeError "'list' object has no attribute 'encode'"
  | .null => raise .attributeError "'NoneType' object has no attribute 'encode'"
  | .bool _ => raise .attributeError "'bool' object has no attribute 'encode'"
  | .int _ => raise .attributeError "'int' object has no attribute 'encode'"

/-- What a dictionary finds a key by. Lists and dictionaries cannot be keys. -/
def hashKey (value : Json) : Py Json :=
  match value with
  | .arr _ => raise .typeError "unhashable type: 'list'"
  | .obj _ => raise .typeError "unhashable type: 'dict'"
  | _ => .ok value.normal

theorem hashKey_eq_ok {value key : Json} (hashed : hashKey value = .ok key) : key = value.normal := by
  cases value with
  | arr | obj => cases hashed
  | null | bool | int | str => exact (Except.ok.inj hashed).symm

/-- Equal values are found under one key. -/
theorem hashKey_eq_of_pyEq {value other key : Json} (same : value.pyEq other = true)
    (hashed : hashKey other = .ok key) : hashKey value = .ok key := by
  obtain rfl := hashKey_eq_ok hashed
  rw [← Json.pyEq_iff.mp same]
  rw [Json.pyEq_iff] at same
  cases value with
  | null | bool | int | str => rfl
  | arr items =>
      rw [Json.normal_arr] at same
      cases other with
      | arr | obj => cases hashed
      | null | bool | int | str => cases same
  | obj fields =>
      rw [Json.normal_obj] at same
      cases other with
      | arr | obj => cases hashed
      | null | bool | int | str => cases same

/-- A document read by `json.loads`, which keeps one value for each key. -/
abbrev Document := { value : Json // value.WellFormed }

/-- What the scripts take from `json`. -/
structure JsonModule where
  loadsText : String → Py Json
  loadsBytes : Bytes → Py Json
  loadsText_dumps : ∀ value : Json, value.WellFormed →
    loadsText (value.dumps ++ "\n") = .ok value.sortKeys
  loadsBytes_dumps : ∀ value : Json, value.WellFormed →
    loadsBytes (encodeUtf8 (value.dumps ++ "\n")) = .ok value.sortKeys

/-! ### Archives -/

structure ZipTime where
  year : Nat
  month : Nat
  day : Nat
  hour : Nat
  minute : Nat
  second : Nat
deriving DecidableEq

/-- The header of an archive entry. A file name ends at its first NUL. -/
structure ZipInfo where
  filename : String
  dateTime : ZipTime
  compressType : Nat
  createSystem : Nat
  externalAttr : Nat
  nulFree : '\x00' ∉ filename.toList
deriving DecidableEq

def ZipInfo.isDir (info : ZipInfo) : Bool :=
  ['/'].isSuffixOf info.filename.toList

structure ZipEntry where
  info : ZipInfo
  data : Bytes
deriving DecidableEq

/-- What the scripts take from `zipfile`: an archive stores the names,
attributes and data of its entries and returns them in the order written. -/
structure ZipModule where
  write : List ZipEntry → Bytes
  read : Bytes → Py (List ZipEntry)
  read_write : ∀ entries, read (write entries) = .ok entries

/-! ### Hashes -/

def IsHexDigest (length : Nat) (text : String) : Prop :=
  text.toList.length = length ∧
    ∀ char ∈ text.toList, char ∈ ("0123456789abcdef" : String).toList

/-- What the scripts take from `hashlib`. -/
structure Hashlib where
  md5 : Bytes → String
  sha1 : Bytes → String
  sha256 : Bytes → String
  sha512 : Bytes → String
  md5_hex : ∀ data, IsHexDigest 32 (md5 data)
  sha1_hex : ∀ data, IsHexDigest 40 (sha1 data)
  sha256_hex : ∀ data, IsHexDigest 64 (sha256 data)
  sha512_hex : ∀ data, IsHexDigest 128 (sha512 data)

/-- The standard library the scripts run on. Messages show a value by `str` and
quote a text by `repr` and bytes by `reprBytes`; `int` reads a number from a text,
and `uuid5` writes the UUID of a URL. -/
structure StandardLibrary where
  json : JsonModule
  zipfile : ZipModule
  hashlib : Hashlib
  str : Json → String
  repr : String → String
  reprBytes : Bytes → String
  int : String → Py Int
  uuid5 : String → String

end BssLiteRt.Python

import BssLiteRt.Python.Text

/-!
Owns JSON documents in files: the text the scripts write, and what they find in
the document they read back.
-/

namespace BssLiteRt.Python

open BssLiteRt.Library

/-- `(json.dumps(value, indent=2, sort_keys=True) + "\n").encode("utf-8")` -/
def jsonBytes (value : Json) : Bytes :=
  encodeUtf8 (value.dumps ++ "\n")

/-- `json.loads(path.read_text(encoding="utf-8"))` -/
def readJson (py : StandardLibrary) (data : Bytes) : Py Json := do
  let text ← readTextUtf8 data
  py.json.loadsText text

theorem jsonBytes_sortKeys (value : Json) : jsonBytes value.sortKeys = jsonBytes value := by
  rw [jsonBytes, Json.dumps_sortKeys, jsonBytes]

/-- The text of a document holds no carriage return. -/
theorem readTextUtf8_jsonBytes (value : Json) :
    readTextUtf8 (jsonBytes value) = .ok (value.dumps ++ "\n") := by
  apply readTextUtf8_encodeUtf8
  rw [String.toList_append, List.mem_append, not_or]
  refine ⟨fun member => ?_, by decide⟩
  exact absurd (Json.isPrinted_dumps value '\r' member) (by decide)

theorem readJson_jsonBytes (py : StandardLibrary) {value : Json} (wellFormed : value.WellFormed) :
    readJson py (jsonBytes value) = .ok value.sortKeys := by
  rw [readJson, readTextUtf8_jsonBytes, ok_bind, py.json.loadsText_dumps value wellFormed]

section Fields

variable {key : String} {value : Json}

/-- A field of a document that was written and read back. -/
theorem field?_sorted {document : Json} (wellFormed : document.WellFormed)
    (found : document.field? key = some value) :
    document.sortKeys.field? key = some value.sortKeys := by
  rw [Json.field?_sortKeys wellFormed, found]
  rfl

theorem field?_loaded {dict : Dict String Json} (wellFormed : (Json.ofDict dict).WellFormed)
    (found : dict.get? key = some value) :
    (Json.ofDict dict).sortKeys.field? key = some value.sortKeys :=
  field?_sorted wellFormed (by rw [Json.field?_ofDict, found])

end Fields

end BssLiteRt.Python

import BssLiteRt.Python.JsonFiles
import BssLiteRt.Archive.Readers

/-!
Owns the files of a release directory: how the verifier finds one by a path, and
how the builder puts one under its name.
-/

namespace BssLiteRt.Downloadable

open BssLiteRt.Library BssLiteRt.Python BssLiteRt.Archive

/-! ### Reading -/

/-- A resolved directory: its own name, the regular files right in it, and the
file that any other path from it leads to. -/
structure Directory where
  name : String
  files : Dict String Bytes
  elsewhere : String → Option Bytes

/-- The name of the child that a path leads to, when it leads to one. -/
def childName (text : String) : Option String :=
  match PurePosixPath.parse text with
  | ⟨[], [component]⟩ => if component = ['.', '.'] then none else some (String.ofList component)
  | _ => none

namespace Directory

variable (directory : Directory)

/-- The contents of the regular file `directory / text`. -/
def lookup (text : String) : Option Bytes :=
  match childName text with
  | some name => directory.files.get? name
  | none => directory.elsewhere text

/-- `(directory / text).name` -/
def joinedName (text : String) : String :=
  let path := PurePosixPath.parse text
  if path.root = [] ∧ path.tail = [] then directory.name else path.name

/-- `(directory / text).read_bytes()` -/
def readBytes (text : String) : Py Bytes :=
  match directory.lookup text with
  | some data => .ok data
  | none => raise .fileNotFoundError ("[Errno 2] No such file or directory: " ++ text)

end Directory

/-! ### Writing -/

/-- The name under which `write_archive` writes before it replaces. -/
def temporaryName (name : String) : String :=
  "." ++ name ++ ".tmp"

/-- What `write_archive` does to a directory once it has the bytes: write the
temporary file, rename it, and unlink what is left of it. -/
def place (output : Dict String Bytes) (name : String) (data : Bytes) : Dict String Bytes :=
  let written := output.set (temporaryName name) data
  let replaced := (written.erase (temporaryName name)).set name data
  replaced.erase (temporaryName name)

def writeArchive (py : StandardLibrary) (output : Dict String Bytes) (name : String)
    (entries : Dict String Bytes) : Py (Dict String Bytes) := do
  let data ← archiveBytes py entries
  return place output name data

/-- `path.read_bytes()` of a file the builder has written. -/
def readOutput (output : Dict String Bytes) (name : String) : Py Bytes :=
  match output.get? name with
  | some data => .ok data
  | none => raise .fileNotFoundError ("[Errno 2] No such file or directory: " ++ name)

/-! ### Files by name -/

/-- A path component that names one file. -/
def IsPlain (name : String) : Prop :=
  childName name = some name

instance (name : String) : Decidable (IsPlain name) :=
  inferInstanceAs (Decidable (_ = _))

section Plain

variable {directory : Directory} {name : String}

theorem lookup_plain (plain : IsPlain name) : directory.lookup name = directory.files.get? name := by
  rw [Directory.lookup, plain]

theorem joinedName_plain (plain : IsPlain name) : directory.joinedName name = name := by
  unfold IsPlain childName at plain
  split at plain
  · rename_i component parsed
    split at plain
    · cases plain
    · unfold Directory.joinedName
      rw [parsed]
      simpa [PurePosixPath.name] using plain
  · cases plain

theorem readBytes_plain (plain : IsPlain name) {data : Bytes}
    (found : directory.files.get? name = some data) : directory.readBytes name = .ok data := by
  rw [Directory.readBytes, lookup_plain plain, found]

theorem readBytes_ok_iff {text : String} {data : Bytes} :
    directory.readBytes text = .ok data ↔ directory.lookup text = some data := by
  unfold Directory.readBytes
  cases directory.lookup text <;> simp

end Plain

theorem temporaryName_ne (name : String) : temporaryName name ≠ name := by
  intro same
  have length := congrArg (fun text => text.toList.length) same
  simp only [temporaryName, String.toList_append, List.length_append] at length
  have dot : ".".toList.length = 1 := rfl
  omega

theorem get?_place (output : Dict String Bytes) (name other : String) (data : Bytes) :
    (place output name data).get? other =
      if other = temporaryName name then none
      else if other = name then some data
      else output.get? other := by
  unfold place
  by_cases temporary : other = temporaryName name
  · simp [Dict.get?_erase, temporary]
  · by_cases same : other = name
    · simp [Dict.get?_erase, same, Ne.symm (temporaryName_ne name)]
    · simp [Dict.get?_erase, Dict.get?_set, temporary, same]

theorem mem_place {output : Dict String Bytes} {name other : String} {data : Bytes}
    (member : other ∈ place output name data) : other = name ∨ other ∈ output := by
  rw [Dict.mem_iff_get?, get?_place] at member
  rw [Dict.mem_iff_get?]
  split at member
  · simp at member
  · split at member
    · exact Or.inl ‹_›
    · exact Or.inr member

theorem readOutput_ok_iff {output : Dict String Bytes} {name : String} {data : Bytes} :
    readOutput output name = .ok data ↔ output.get? name = some data := by
  unfold readOutput
  cases output.get? name <;> simp

end BssLiteRt.Downloadable

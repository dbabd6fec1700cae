import BssLiteRt.Python.Collections
import BssLiteRt.Python.PurePosixPath

/-!
Owns what `verify_native_artifacts.py` learns of one library from `llvm-readobj` and
`llvm-nm`: the runs of the tools, and the readers of what they write.
-/

namespace BssLiteRt.Audit

open BssLiteRt.Library BssLiteRt.Python

/-! ### Runs of the tools -/

/-- What stops an inspection. -/
inductive InspectionFailure where
  | raised (error : PyError)
  | runtimeError (message : String)
deriving DecidableEq

abbrev Inspecting := Except InspectionFailure

def fromPy {α : Type} (result : Py α) : Inspecting α :=
  result.mapError .raised

/-- The two programs, with what a command completes with. -/
structure Toolchain where
  llvmReadobj : String
  llvmNm : String
  run : List String → Completed

/-- `run_tool` -/
def Toolchain.runTool (tools : Toolchain) (arguments : List String) : Inspecting String :=
  let result := tools.run arguments
  if result.returncode ≠ 0 then
    .error (.runtimeError ("Command failed (" ++ toString result.returncode ++ "): " ++
      String.intercalate " " arguments ++ "\n" ++ strip result.stderr))
  else
    .ok result.stdout

/-! ### Headers and notes -/

/-- `len(value)` -/
def lengthOf (value : Json) : Py Nat :=
  match value with
  | .arr items => .ok items.length
  | .obj fields => .ok fields.length
  | .str text => .ok text.toList.length
  | .null => raise .typeError "object of type 'NoneType' has no len()"
  | .bool _ => raise .typeError "object of type 'bool' has no len()"
  | .int _ => raise .typeError "object of type 'int' has no len()"

/-- `next(iter(value.values()))`, of a value of length one. -/
def soleValue (value : Json) : Py Json :=
  match value with
  | .obj ((_, found) :: _) => .ok found
  | .arr _ => raise .attributeError "'list' object has no attribute 'values'"
  | _ => raise .attributeError "'str' object has no attribute 'values'"

/-- The checks on the document of `readobj_header_and_notes`. -/
def soleFile (library : String) (document : Json) : Py Json := do
  let unexpected := "Unexpected llvm-readobj JSON for " ++ library
  let files ← lengthOf document
  raiseIf (files ≠ 1) .valueError unexpected
  match document with
  | .arr (file :: _) => do
      let fields ← lengthOf file
      raiseIf (fields ≠ 1) .valueError unexpected
      soleValue file
  | .obj _ => raise .keyError "0"
  | _ => soleValue document

def Toolchain.readobjHeaderAndNotes (py : StandardLibrary) (tools : Toolchain) (library : String) :
    Inspecting Json := do
  let output ← tools.runTool
    [tools.llvmReadobj, "--elf-output-style=JSON", "--file-headers", "--notes", library]
  fromPy do
    let document ← py.json.loadsText output
    soleFile library document

/-- `bytes([value])` -/
def byteOf (value : Json) : Py UInt8 :=
  match value with
  | .int number =>
      if 0 ≤ number ∧ number < 256 then .ok (UInt8.ofNat number.toNat)
      else raise .valueError "bytes must be in range(0, 256)"
  | .bool flag => .ok (if flag then 1 else 0)
  | .null => raise .typeError "'NoneType' object cannot be interpreted as an integer"
  | .str _ => raise .typeError "'str' object cannot be interpreted as an integer"
  | .arr _ => raise .typeError "'list' object cannot be interpreted as an integer"
  | .obj _ => raise .typeError "'dict' object cannot be interpreted as an integer"

/-- `int.from_bytes(data, "little")` -/
def fromLittleEndian (data : Bytes) : Nat :=
  data.foldr (fun byte value => byte.toNat + 256 * value) 0

def MISSING_API : String := "ELF is missing a valid .note.android.ident API level."

/-- The loop over the notes, which decides at the first Android note. -/
def androidApiOf : List Json → Py Nat
  | [] => raise .valueError MISSING_API
  | entry :: rest => do
      let noteSection ← getD entry "NoteSection" (.obj [])
      let name ← getD noteSection "Name" .null
      if name = .str ".note.android.ident" then
        let note ← getD noteSection "Note" (.obj [])
        let description ← getD note "Description data" (.obj [])
        let data ← getD description "Bytes" .null
        match data with
        | .arr items =>
            raiseIf (items.length < 4) .valueError MISSING_API
            let level ← (items.take 4).mapM byteOf
            return fromLittleEndian level
        | _ => raise .valueError MISSING_API
      else
        androidApiOf rest

def parseAndroidApi (document : Json) : Py Nat := do
  let notes ← getD document "Notes" (.arr [])
  androidApiOf (← elements notes)

/-! ### Needed libraries and symbols -/

/-- `\s*\[(.*?)\]` at the front of a text. -/
def matchBlock (chars : List Char) : Option (List Char) :=
  match chars.dropWhile isSpace with
  | '[' :: inner => if ']' ∈ inner then some (inner.takeWhile (· ≠ ']')) else none
  | _ => none

def neededMarker : List Char := "NeededLibraries".toList

/-- `re.search(r"NeededLibraries\s*\[(.*?)\]", output, re.DOTALL)` -/
def searchNeeded : List Char → Option (List Char)
  | [] => none
  | char :: rest =>
      let found :=
        if neededMarker.isPrefixOf (char :: rest) then
          matchBlock ((char :: rest).drop neededMarker.length)
        else none
      found.orElse fun _ => searchNeeded rest

/-- `[line.strip() for line in text.splitlines() if line.strip()]` -/
def strippedLines (chars : List Char) : List String :=
  ((splitLines chars).map fun line => strip (String.ofList line)).filter (· ≠ "")

def parseNeeded (output : String) : Py (List String) :=
  match searchNeeded output.toList with
  | none => raise .valueError "llvm-readobj output has no NeededLibraries block."
  | some inner => .ok ((strippedLines inner).insertionSort (· ≤ ·))

/-- `line.split()[0].split("@", 1)[0]`, when the line has a field. -/
def symbolOf (line : List Char) : Option String :=
  match (line.splitOnP isSpace).filter (· ≠ []) with
  | [] => none
  | field :: _ => some (String.ofList (field.takeWhile (· ≠ '@')))

def parseDefinedSymbols (output : String) : List String :=
  sortedNames ((splitLines output.toList).filterMap symbolOf)

/-! ### What the tools write is read back -/

section Readers

/-- `data` is what `int.to_bytes(4, "little")` makes of the number. -/
def littleEndian (number : Nat) : Bytes :=
  [UInt8.ofNat number, UInt8.ofNat (number / 256), UInt8.ofNat (number / 65536),
    UInt8.ofNat (number / 16777216)]

theorem fromLittleEndian_littleEndian {number : Nat} (small : number < 4294967296) :
    fromLittleEndian (littleEndian number) = number := by
  simp only [fromLittleEndian, littleEndian, List.foldr_cons, List.foldr_nil, UInt8.toNat_ofNat']
  omega

theorem byteOf_toNat (byte : UInt8) : byteOf (.int byte.toNat) = .ok byte := by
  have small : (0 : Int) ≤ byte.toNat ∧ (byte.toNat : Int) < 256 := by
    have bound := byte.toNat_lt
    omega
  rw [byteOf, if_pos small, Int.toNat_natCast, UInt8.ofNat_toNat]

theorem mapM_byteOf (data : Bytes) :
    (data.map fun byte => Json.int byte.toNat).mapM byteOf = .ok data := by
  induction data with
  | nil => rfl
  | cons byte rest inductionHypothesis =>
      rw [List.map_cons, List.mapM_cons, byteOf_toNat, ok_bind, inductionHypothesis]
      rfl

/-- The tool shows a note of a section. -/
def NotesSection (entry : Json) (name : String) : Prop :=
  ∃ noteSection, entry.field? "NoteSection" = some noteSection ∧
    noteSection.field? "Name" = some (.str name)

/-- The tool shows the bytes of a note. -/
def DescribesNote (entry : Json) (description : Bytes) : Prop :=
  ∃ noteSection note data, entry.field? "NoteSection" = some noteSection ∧
    noteSection.field? "Note" = some note ∧ note.field? "Description data" = some data ∧
    data.field? "Bytes" = some (.arr (description.map fun byte => .int byte.toNat))

theorem androidApiOf_other {entry : Json} {name : String} (shown : NotesSection entry name)
    (other : name ≠ ".note.android.ident") (rest : List Json) :
    androidApiOf (entry :: rest) = androidApiOf rest := by
  obtain ⟨noteSection, hasSection, named⟩ := shown
  rw [androidApiOf, getD_of_field? hasSection, ok_bind, getD_of_field? named, ok_bind,
    if_neg (by simpa using other)]

theorem androidApiOf_android {entry : Json} {level : Nat} {more : Bytes}
    (shown : NotesSection entry ".note.android.ident") (small : level < 4294967296)
    (described : DescribesNote entry (littleEndian level ++ more)) (rest : List Json) :
    androidApiOf (entry :: rest) = .ok level := by
  obtain ⟨noteSection, hasSection, named⟩ := shown
  obtain ⟨_, note, data, sameSection, hasNote, hasData, hasBytes⟩ := described
  obtain rfl := Option.some.inj (hasSection.symm.trans sameSection)
  have taken : ((littleEndian level ++ more).map fun byte => Json.int byte.toNat).take 4 =
      (littleEndian level).map fun byte => Json.int byte.toNat := rfl
  have long : ¬ ((littleEndian level ++ more).map fun byte => Json.int byte.toNat).length < 4 := by
    simp [littleEndian]
  rw [androidApiOf, getD_of_field? hasSection, ok_bind, getD_of_field? named, ok_bind, if_pos rfl,
    getD_of_field? hasNote, ok_bind, getD_of_field? hasData, ok_bind, getD_of_field? hasBytes,
    ok_bind]
  dsimp only
  rw [decide_eq_false long, raiseIf_false, ok_bind, taken, mapM_byteOf, ok_bind,
    fromLittleEndian_littleEndian small]
  rfl

/-- Notes before the Android note are passed over. -/
theorem androidApiOf_notes {others : List Json} (foreign : ∀ other ∈ others, ∃ name,
    NotesSection other name ∧ name ≠ ".note.android.ident") (rest : List Json) :
    androidApiOf (others ++ rest) = androidApiOf rest := by
  induction others with
  | nil => rfl
  | cons other others inductionHypothesis =>
      obtain ⟨⟨name, shown, isForeign⟩, othersForeign⟩ := List.forall_mem_cons.mp foreign
      rw [List.cons_append, androidApiOf_other shown isForeign]
      exact inductionHypothesis othersForeign

/-! Blocks of needed libraries -/

/-- No marker begins in a text that holds none, even before another marker. -/
theorem not_prefix_of_absent {front : List Char} (nonempty : front ≠ [])
    (absent : ¬ neededMarker <:+: front) (rest : List Char) :
    ¬ neededMarker <+: front ++ (neededMarker ++ rest) := by
  intro starts
  rcases List.prefix_or_prefix_of_prefix starts (List.prefix_append front _) with
    within | ⟨back, whole⟩
  · exact absent within.isInfix
  · have within : back <+: neededMarker ++ rest := by
      apply (List.prefix_append_right_inj front).mp
      rwa [whole]
    cases back with
    | nil => exact absent ⟨[], [], by rw [← whole]; simp⟩
    | cons char others =>
        -- the marker begins with a letter that occurs nowhere else in it
        obtain ⟨more, sameText⟩ := within
        have isLetter : char = 'N' := (List.cons.inj sameText).1
        obtain ⟨first, later, isFront⟩ := List.exists_cons_of_ne_nil nonempty
        have inTail : 'N' ∈ neededMarker.tail := by
          rw [← whole, isFront, isLetter]
          simp
        exact absurd inTail (by decide)

theorem searchNeeded_of_absent {front : List Char} (absent : ¬ neededMarker <:+: front)
    {rest inner : List Char} (block : matchBlock rest = some inner) :
    searchNeeded (front ++ (neededMarker ++ rest)) = some inner := by
  induction front with
  | nil =>
      have shape : neededMarker ++ rest = 'N' :: (neededMarker.tail ++ rest) := rfl
      have starts : neededMarker.isPrefixOf (neededMarker ++ rest) = true :=
        List.isPrefixOf_iff_prefix.mpr (List.prefix_append _ _)
      rw [List.nil_append, shape, searchNeeded, ← shape, if_pos starts, List.drop_left, block]
      rfl
  | cons char front inductionHypothesis =>
      have later : ¬ neededMarker <:+: front := fun within =>
        absent (within.trans (List.suffix_cons char front).isInfix)
      have notHere : neededMarker.isPrefixOf (char :: (front ++ (neededMarker ++ rest))) = false := by
        rw [← Bool.not_eq_true, List.isPrefixOf_iff_prefix]
        exact not_prefix_of_absent (List.cons_ne_nil char front) absent rest
      rw [List.cons_append, searchNeeded, notHere]
      exact inductionHypothesis later

theorem matchBlock_block {spaces inner : List Char} (blank : ∀ char ∈ spaces, isSpace char = true)
    (closed : ']' ∉ inner) (back : List Char) :
    matchBlock (spaces ++ '[' :: (inner ++ ']' :: back)) = some inner := by
  have opened : (spaces ++ '[' :: (inner ++ ']' :: back)).dropWhile isSpace =
      '[' :: (inner ++ ']' :: back) := by
    rw [List.dropWhile_append_of_pos blank]
    rfl
  have taken : (inner ++ ']' :: back).takeWhile (· ≠ ']') = inner := by
    rw [List.takeWhile_append_of_pos]
    · simp
    · intro char member
      exact decide_eq_true fun same => closed (same ▸ member)
  rw [matchBlock, opened]
  show (if ']' ∈ inner ++ ']' :: back then some _ else none) = _
  rw [if_pos (by simp), taken]

/-- A text of one word. -/
def IsWord (text : String) : Prop :=
  text ≠ "" ∧ ∀ char ∈ text.toList, isSpace char = false

theorem strip_indented {indent : List Char} (blank : ∀ char ∈ indent, isSpace char = true)
    {word : String} (isWord : IsWord word) : strip (String.ofList (indent ++ word.toList)) = word := by
  have front : (indent ++ word.toList).dropWhile isSpace = word.toList := by
    rw [List.dropWhile_append_of_pos blank, List.dropWhile_eq_self_iff]
    intro positive
    simp [isWord.2 _ (List.getElem_mem positive)]
  have back : word.toList.rdropWhile isSpace = word.toList := by
    rw [List.rdropWhile_eq_self_iff]
    intro nonempty
    simp [isWord.2 _ (List.getLast_mem nonempty)]
  rw [strip, String.toList_ofList, front, back, String.ofList_toList]

theorem isSpace_of_isLineBreak {char : Char} (ends : isLineBreak char = true) :
    isSpace char = true := by
  simp only [isLineBreak, isSpace, decide_eq_true_iff, List.mem_cons, List.not_mem_nil,
    or_false] at ends ⊢
  tauto

/-- The block of `--needed-libs`, one library a line. -/
def neededBlock (indent : List Char) (names : List String) : List Char :=
  '\n' :: names.flatMap fun name => indent ++ name.toList ++ ['\n']

theorem strippedLines_neededBlock {indent : List Char} (blank : ∀ char ∈ indent, char = ' ')
    {names : List String} (words : ∀ name ∈ names, IsWord name) :
    strippedLines (neededBlock indent names) = names := by
  have asLines : neededBlock indent names =
      ([] :: names.map fun name => indent ++ name.toList).flatMap fun line => line ++ ['\n'] := by
    rw [List.flatMap_cons, List.flatMap_map]
    rfl
  have whole : ∀ line ∈ [] :: names.map fun name => indent ++ name.toList, ∀ char ∈ line,
      isLineBreak char = false := by
    refine List.forall_mem_cons.mpr ⟨fun _ absent => absurd absent List.not_mem_nil, ?_⟩
    intro line member char inside
    obtain ⟨name, isName, rfl⟩ := List.mem_map.mp member
    rcases List.mem_append.mp inside with inIndent | inName
    · rw [blank char inIndent]
      decide
    · rw [← Bool.not_eq_true]
      intro ends
      have notSpace := (words name isName).2 char inName
      rw [isSpace_of_isLineBreak ends] at notSpace
      cases notSpace
  have spaces : ∀ char ∈ indent, isSpace char = true := fun char member => by
    rw [blank char member]
    decide
  have read : (names.map fun name => indent ++ name.toList).map
      (fun line => strip (String.ofList line)) = names := by
    rw [List.map_map]
    refine (List.map_congr_left fun name member => ?_).trans names.map_id
    exact strip_indented spaces (words name member)
  rw [strippedLines, asLines, splitLines_flatMap whole, List.map_cons, read,
    List.filter_cons_of_neg (by decide), List.filter_eq_self]
  intro name member
  exact decide_eq_true (words name member).1

/-- What `llvm-readobj --needed-libs` writes, between other parts of its output. -/
def printedNeeded (front : List Char) (indent : List Char) (names : List String)
    (back : List Char) : String :=
  String.ofList (front ++ (neededMarker ++ ([' '] ++ '[' ::
    (neededBlock indent names ++ ']' :: back))))

/-- A word that the name of a library can be. -/
def IsLibraryName (name : String) : Prop :=
  IsWord name ∧ ']' ∉ name.toList

theorem parseNeeded_printed {front indent : List Char} (absent : ¬ neededMarker <:+: front)
    (blank : ∀ char ∈ indent, char = ' ') {names : List String}
    (libraries : ∀ name ∈ names, IsLibraryName name) (back : List Char) :
    parseNeeded (printedNeeded front indent names back) =
      .ok (names.insertionSort (· ≤ ·)) := by
  have closed : ']' ∉ neededBlock indent names := by
    intro member
    rcases List.mem_cons.mp member with isBreak | inLines
    · exact absurd isBreak (by decide)
    · obtain ⟨name, isName, inside⟩ := List.mem_flatMap.mp inLines
      simp only [List.mem_append, List.mem_singleton] at inside
      rcases inside with (inIndent | inName) | isBreak
      · exact absurd (blank _ inIndent) (by decide)
      · exact (libraries name isName).2 inName
      · exact absurd isBreak (by decide)
  have block := @matchBlock_block [' '] (neededBlock indent names) (by simp [isSpace]) closed back
  rw [parseNeeded, printedNeeded, String.toList_ofList, searchNeeded_of_absent absent block]
  dsimp only
  rw [strippedLines_neededBlock blank fun name member => (libraries name member).1]

/-! Lines of symbols -/

/-- A symbol with its version, as `llvm-nm` shows both before the first blank. -/
structure ListedSymbol where
  symbol : String
  version : List Char
  rest : List Char
  word : IsWord symbol
  plain : '@' ∉ symbol.toList
  marked : version = [] ∨ version.head? = some '@'
  versionWhole : ∀ char ∈ version, isSpace char = false
  restWhole : ∀ char ∈ rest, isLineBreak char = false

def ListedSymbol.line (listed : ListedSymbol) : List Char :=
  listed.symbol.toList ++ listed.version ++ ' ' :: listed.rest

theorem symbolOf_line (listed : ListedSymbol) : symbolOf listed.line = some listed.symbol := by
  have noBlank : ∀ char ∈ listed.symbol.toList ++ listed.version, isSpace char = false :=
    List.forall_mem_append.mpr ⟨listed.word.2, listed.versionWhole⟩
  have nonempty : listed.symbol.toList ++ listed.version ≠ [] := by
    intro empty
    exact listed.word.1 (String.toList_eq_nil_iff.mp (List.append_eq_nil_iff.mp empty).1)
  have fields : listed.line.splitOnP isSpace =
      (listed.symbol.toList ++ listed.version) :: listed.rest.splitOnP isSpace :=
    List.splitOnP_append_cons_of_forall_mem noBlank ' ' (by decide) listed.rest
  have symbolPart : (listed.symbol.toList ++ listed.version).takeWhile (· ≠ '@') =
      listed.symbol.toList := by
    rw [List.takeWhile_append_of_pos]
    · rcases listed.marked with none | marked
      · simp [none]
      · obtain ⟨others, whole⟩ := List.head?_eq_some_iff.mp marked
        simp [whole]
    · intro char member
      exact decide_eq_true fun same => listed.plain (same ▸ member)
  have kept (later : List (List Char)) :
      ((listed.symbol.toList ++ listed.version) :: later).filter (· ≠ []) =
        (listed.symbol.toList ++ listed.version) :: later.filter (· ≠ []) :=
    List.filter_cons_of_pos (decide_eq_true nonempty)
  rw [symbolOf, fields, kept]
  show some (String.ofList _) = _
  rw [symbolPart, String.ofList_toList]

/-- What `llvm-nm` writes, one symbol a line. -/
def printedSymbols (symbols : List ListedSymbol) : String :=
  String.ofList (symbols.flatMap fun listed => listed.line ++ ['\n'])

theorem parseDefinedSymbols_printed (symbols : List ListedSymbol) :
    parseDefinedSymbols (printedSymbols symbols) =
      sortedNames (symbols.map ListedSymbol.symbol) := by
  have whole : ∀ line ∈ symbols.map ListedSymbol.line, ∀ char ∈ line,
      isLineBreak char = false := by
    intro line member
    obtain ⟨listed, -, rfl⟩ := List.mem_map.mp member
    have unbroken {char : Char} (notSpace : isSpace char = false) : isLineBreak char = false := by
      rw [← Bool.not_eq_true]
      intro ends
      rw [isSpace_of_isLineBreak ends] at notSpace
      cases notSpace
    refine List.forall_mem_append.mpr ⟨List.forall_mem_append.mpr ⟨?_, ?_⟩, ?_⟩
    · exact fun char member => unbroken (listed.word.2 char member)
    · exact fun char member => unbroken (listed.versionWhole char member)
    · exact List.forall_mem_cons.mpr ⟨by decide, listed.restWhole⟩
  have read : (symbols.map ListedSymbol.line).filterMap symbolOf =
      symbols.map ListedSymbol.symbol := by
    rw [List.filterMap_map, ← List.filterMap_eq_map]
    exact List.filterMap_congr fun listed _ => symbolOf_line listed
  have asLines : (symbols.flatMap fun listed => listed.line ++ ['\n']) =
      (symbols.map ListedSymbol.line).flatMap fun line => line ++ ['\n'] := by
    rw [List.flatMap_map]
  rw [parseDefinedSymbols, printedSymbols, String.toList_ofList, asLines,
    splitLines_flatMap whole, read]

end Readers

end BssLiteRt.Audit

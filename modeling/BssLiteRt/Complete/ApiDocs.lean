import BssLiteRt.Complete.MemberLists
import Mathlib.Algebra.GroupWithZero.Nat
import Mathlib.Algebra.Order.BigOperators.Group.List

/-!
Owns the page that `api_docs` of `prepare_maven_publication.py` renders, what one call
and many calls leave of the contract, and when a call leaves it as it was.
-/

namespace BssLiteRt.Complete

open BssLiteRt.Library BssLiteRt.Python

/-! ### The page -/

/-- `text.replace(char, replacement)` for one character -/
def replaceChar (char : Char) (replacement : String) (text : List Char) : List Char :=
  text.flatMap fun other => if other = char then replacement.toList else [other]

/-- The replacements of `html.escape`, in their order. -/
def escapeChars (text : List Char) : List Char :=
  let ampersand := replaceChar '&' "&amp;" text
  let less := replaceChar '<' "&lt;" ampersand
  let greater := replaceChar '>' "&gt;" less
  let doubleQuote := replaceChar '\x22' "&quot;" greater
  replaceChar '\x27' "&#x27;" doubleQuote

/-- `html.escape(text)` -/
def htmlEscape (text : String) : String :=
  String.ofList (escapeChars text.toList)

def memberItem (member : String) : String :=
  "<li><code>" ++ htmlEscape member ++ "</code></li>"

def classSection (className : String) (classMembers : List String) : String :=
  "<section><h2>" ++ htmlEscape className ++ "</h2><ul>" ++
    joinTexts (classMembers.map memberItem) ++ "</ul></section>"

def htmlDocument (body : String) : String :=
  "<!doctype html>\n" ++
  "<html lang=\"en\">\n" ++
  "<head>\n" ++
  "<meta charset=\"utf-8\">\n" ++
  "<meta name=\"viewport\" content=\"width=device-width, initial-scale=1\">\n" ++
  "<title>Booming SS LiteRT Android API</title>\n" ++
  "</head>\n" ++
  "<body>\n" ++
  "<main>\n" ++
  "<h1>Booming SS LiteRT Android API</h1>\n" ++
  body ++ "\n" ++
  "</main>\n" ++
  "</body>\n" ++
  "</html>\n"

/-- The document, and the memory after the call. -/
def apiDocs (api : ApiTables) (heap : ListHeap String) : Bytes × ListHeap String :=
  let table := mergedMembers api heap
  let rows := (sortByKey table.members.items).map fun item =>
    classSection item.1 (table.heap.read item.2)
  (encodeUtf8 (htmlDocument (joinTexts rows)), table.heap)

/-! ### Escaping -/

/-- What `html.escape` leaves of one character. -/
def escapeChar (char : Char) : List Char :=
  if char = '&' then "&amp;".toList
  else if char = '<' then "&lt;".toList
  else if char = '>' then "&gt;".toList
  else if char = '\x22' then "&quot;".toList
  else if char = '\x27' then "&#x27;".toList
  else [char]

/-- The later replacements leave what the earlier ones wrote. -/
theorem escapeChars_singleton (char : Char) : escapeChars [char] = escapeChar char := by
  by_cases ampersand : char = '&'
  · subst ampersand
    rfl
  by_cases less : char = '<'
  · subst less
    rfl
  by_cases greater : char = '>'
  · subst greater
    rfl
  by_cases doubleQuote : char = '\x22'
  · subst doubleQuote
    rfl
  by_cases apostrophe : char = '\x27'
  · subst apostrophe
    rfl
  have stays (other : Char) (replacement : String) (different : ¬ char = other) :
      replaceChar other replacement [char] = [char] := by
    rw [replaceChar, List.flatMap_singleton, if_neg different]
  unfold escapeChars escapeChar
  dsimp only
  rw [stays _ _ ampersand, stays _ _ less, stays _ _ greater, stays _ _ doubleQuote,
    stays _ _ apostrophe, if_neg ampersand, if_neg less, if_neg greater, if_neg doubleQuote,
    if_neg apostrophe]

theorem escapeChars_append (left right : List Char) :
    escapeChars (left ++ right) = escapeChars left ++ escapeChars right := by
  simp only [escapeChars, replaceChar, List.flatMap_append]

/-- Each character is escaped once. -/
theorem htmlEscape_eq (text : String) :
    htmlEscape text = String.ofList (text.toList.flatMap escapeChar) := by
  unfold htmlEscape
  refine congrArg String.ofList ?_
  induction text.toList with
  | nil => rfl
  | cons char rest inductionHypothesis =>
      rw [← List.singleton_append, escapeChars_append, escapeChars_singleton,
        inductionHypothesis, List.flatMap_append, List.flatMap_singleton]

/-! ### The contract -/

namespace LoadedContract

def requiredTable (contract : LoadedContract) : MemberTable :=
  ⟨contract.api.requiredMembers, contract.heap⟩

/-- The document of the next call. -/
def document (contract : LoadedContract) : Bytes :=
  (apiDocs contract.api contract.heap).1

/-- The same contract object after a call. -/
def afterDocs (contract : LoadedContract) : LoadedContract where
  api := contract.api
  heap := (apiDocs contract.api contract.heap).2
  requiredAllocated := fun className address found =>
    Nat.lt_of_lt_of_le (contract.requiredAllocated className address found)
      (contract.requiredTable.grows_extendAll contract.api.bssExtensionMembers.items).size_le
  extensionsAllocated := fun className address found =>
    Nat.lt_of_lt_of_le (contract.extensionsAllocated className address found)
      (contract.requiredTable.grows_extendAll contract.api.bssExtensionMembers.items).size_le

def afterCalls (contract : LoadedContract) : Nat → LoadedContract
  | 0 => contract
  | calls + 1 => (contract.afterCalls calls).afterDocs

def requiredList (contract : LoadedContract) (className : String) : List String :=
  ((contract.api.requiredMembers.get? className).map contract.heap.read).getD []

def extensionList (contract : LoadedContract) (className : String) : List String :=
  ((contract.api.bssExtensionMembers.get? className).map contract.heap.read).getD []

/-- No list that gains members is shared. -/
def Apart (contract : LoadedContract) : Prop :=
  contract.requiredTable.Apart contract.api.bssExtensionMembers.items

/-- The lists of a parsed JSON file are all different objects. -/
theorem apart_of_nodup {contract : LoadedContract}
    (distinct : ((contract.api.requiredMembers.items ++
      contract.api.bssExtensionMembers.items).map Prod.snd).Nodup) : contract.Apart := by
  rw [List.map_append, List.nodup_append] at distinct
  obtain ⟨requiredDistinct, -, disjoint⟩ := distinct
  intro item member address found _
  have itemMember := Dict.get?_eq_some_iff.mp found
  refine ⟨fun other otherFound => ?_, fun other otherMember same => ?_⟩
  · have otherItem := Dict.get?_eq_some_iff.mp otherFound
    exact congrArg Prod.fst
      (List.inj_on_of_nodup_map requiredDistinct otherItem itemMember rfl)
  · exact disjoint address (List.mem_map.mpr ⟨_, itemMember, rfl⟩) other.2
      (List.mem_map_of_mem otherMember) same.symm

variable {contract : LoadedContract}

theorem extensionsInMemory (contract : LoadedContract) :
    ∀ item ∈ contract.api.bssExtensionMembers.items, item.2 < contract.heap.size :=
  fun item member => contract.extensionsAllocated item.1 item.2 (Dict.get?_eq_some_iff.mpr member)

theorem requiredInMemory (contract : LoadedContract) : contract.requiredTable.Allocated :=
  contract.requiredAllocated

/-- The members that the joined table has for a class. -/
theorem listed_mergedMembers (apart : contract.Apart) (className : String) :
    ((mergedMembers contract.api contract.heap).listed className).getD [] =
      contract.requiredList className ++ contract.extensionList className := by
  have joined := MemberTable.listed_extendAll contract.requiredInMemory contract.extensionsInMemory
    contract.api.bssExtensionMembers.unique apart className
  unfold mergedMembers extensionList
  rw [requiredTable] at joined
  rw [joined, ← Dict.get?]
  cases contract.api.bssExtensionMembers.get? className with
  | none => exact (List.append_nil _).symm
  | some extensions => rfl

/-- A class of both tables has the extensions in its own list after a call. -/
theorem requiredList_afterDocs (apart : contract.Apart) (className : String) :
    contract.afterDocs.requiredList className = contract.requiredList className ++
      if className ∈ contract.api.requiredMembers then contract.extensionList className else [] := by
  have joined := listed_mergedMembers apart className
  unfold requiredList at joined ⊢
  show ((contract.api.requiredMembers.get? className).map
    (mergedMembers contract.api contract.heap).heap.read).getD [] = _
  cases found : contract.api.requiredMembers.get? className with
  | none => rw [if_neg (Dict.get?_eq_none_iff.mp found), List.append_nil]; rfl
  | some address =>
      rw [if_pos (Dict.mem_iff_get?.mpr ⟨address, found⟩), ← found, ← joined]
      have itsList := @MemberTable.get?_extendAll_of_some contract.requiredTable className address
        found contract.api.bssExtensionMembers.items
      unfold MemberTable.listed mergedMembers
      rw [requiredTable] at itsList
      rw [found, itsList]

theorem read_afterDocs (apart : contract.Apart) {address : Address}
    (extensions : ∃ item ∈ contract.api.bssExtensionMembers.items, item.2 = address) :
    contract.afterDocs.heap.read address = contract.heap.read address := by
  obtain ⟨own, ownMember, rfl⟩ := extensions
  refine MemberTable.read_extendAll contract.requiredInMemory contract.extensionsInMemory
    contract.api.bssExtensionMembers.unique apart (contract.extensionsInMemory own ownMember) ?_
  intro item member found
  by_contra added
  exact (apart item member own.2 found added).2 own ownMember rfl

theorem extensionList_afterDocs (apart : contract.Apart) (className : String) :
    contract.afterDocs.extensionList className = contract.extensionList className := by
  unfold extensionList
  show ((contract.api.bssExtensionMembers.get? className).map contract.afterDocs.heap.read).getD [] =
    _
  cases found : contract.api.bssExtensionMembers.get? className with
  | none => rfl
  | some extensions =>
      exact read_afterDocs apart ⟨_, Dict.get?_eq_some_iff.mp found, rfl⟩

theorem Apart.afterDocs (apart : contract.Apart) : contract.afterDocs.Apart := by
  intro item member address found added
  have kept := read_afterDocs apart ⟨item, member, rfl⟩
  exact apart item member address found (kept ▸ added)

/-- What the contract has after some calls. -/
theorem afterCalls_lists (apart : contract.Apart) (calls : Nat) :
    (contract.afterCalls calls).Apart ∧ (contract.afterCalls calls).api = contract.api ∧
      ∀ className,
        (contract.afterCalls calls).extensionList className = contract.extensionList className ∧
        (contract.afterCalls calls).requiredList className = contract.requiredList className ++
          (List.replicate calls (if className ∈ contract.api.requiredMembers then
            contract.extensionList className else [])).flatten := by
  induction calls with
  | zero => exact ⟨apart, rfl, fun className => ⟨rfl, (List.append_nil _).symm⟩⟩
  | succ calls inductionHypothesis =>
      obtain ⟨stillApart, sameTables, lists⟩ := inductionHypothesis
      refine ⟨stillApart.afterDocs, sameTables, fun className => ?_⟩
      obtain ⟨extensions, required⟩ := lists className
      refine ⟨(extensionList_afterDocs stillApart className).trans extensions, ?_⟩
      rw [afterCalls, requiredList_afterDocs stillApart, required, extensions, sameTables,
        List.replicate_succ', List.flatten_append, List.flatten_singleton, List.append_assoc]

end LoadedContract

/-! ### The documentation -/

def escapedText (text : String) : String :=
  String.ofList (text.toList.flatMap escapeChar)

def documentedItem (member : String) : String :=
  "<li><code>" ++ escapedText member ++ "</code></li>"

/-- A class with its members in the order given. -/
def documentedSection (className : String) (members : List String) : String :=
  "<section><h2>" ++ escapedText className ++ "</h2><ul>" ++
    joinTexts (members.map documentedItem) ++ "</ul></section>"

def documentation (classes : List String) (members : String → List String) : Bytes :=
  encodeUtf8 (htmlDocument (joinTexts (classes.map fun className =>
    documentedSection className (members className))))

theorem classSection_eq : classSection = documentedSection := by
  have items : memberItem = documentedItem := by
    funext member
    unfold memberItem documentedItem escapedText
    rw [htmlEscape_eq]
  funext className members
  unfold classSection documentedSection escapedText
  rw [htmlEscape_eq, items]

namespace LoadedContract

variable {contract : LoadedContract}

/-- The classes of both tables. -/
def documentedClasses (contract : LoadedContract) : List String :=
  sortedNames (contract.api.requiredMembers.keys ++ contract.api.bssExtensionMembers.keys)

theorem mem_documentedClasses {className : String} :
    className ∈ contract.documentedClasses ↔
      className ∈ contract.api.requiredMembers ∨ className ∈ contract.api.bssExtensionMembers := by
  rw [documentedClasses, mem_sortedNames, List.mem_append]
  exact Iff.rfl

/-- Every document lists what the contract has when it is rendered. -/
theorem document_eq (apart : contract.Apart) :
    contract.document = documentation contract.documentedClasses fun className =>
      contract.requiredList className ++ contract.extensionList className := by
  have sameClasses : sortedNames (mergedMembers contract.api contract.heap).members.keys =
      contract.documentedClasses := by
    refine sortedNames_congr fun className => ?_
    rw [List.mem_append]
    exact MemberTable.mem_extendAll _ _ className
  unfold document apiDocs documentation
  dsimp only
  rw [MemberTable.map_sortByKey_members, sameClasses, classSection_eq]
  simp only [listed_mergedMembers apart]

/-- Each call on a parsed contract lists the extensions of a required class once more. -/
theorem document_afterCalls (apart : contract.Apart) (calls : Nat) :
    (contract.afterCalls calls).document =
      documentation contract.documentedClasses fun className =>
        contract.requiredList className ++
          (List.replicate calls (if className ∈ contract.api.requiredMembers then
            contract.extensionList className else [])).flatten ++
          contract.extensionList className := by
  obtain ⟨stillApart, sameTables, lists⟩ := afterCalls_lists apart calls
  rw [document_eq stillApart]
  unfold documentedClasses
  simp only [sameTables, (lists _).1, (lists _).2]

/-- What rendering is for: the page lists every class once and in order, with its
required members followed by its extensions, and nothing else changes. -/
structure RendersOnly (contract : LoadedContract) : Prop where
  documented : ∃ classes : List String, classes.Pairwise (· < ·) ∧
    (∀ className, className ∈ classes ↔
      className ∈ contract.api.requiredMembers ∨ className ∈ contract.api.bssExtensionMembers) ∧
    contract.document = documentation classes fun className =>
      contract.requiredList className ++ contract.extensionList className
  kept : ∀ calls className,
    (contract.afterCalls calls).requiredList className = contract.requiredList className
  repeated : ∀ calls, (contract.afterCalls calls).document = contract.document

/-- No class of `requiredMembers` has extension members. -/
def Disjoint (contract : LoadedContract) : Prop :=
  ∀ className, className ∈ contract.api.requiredMembers → contract.extensionList className = []

theorem Disjoint.nothing_added (disjoint : contract.Disjoint) {item : String × Address}
    (member : item ∈ contract.api.bssExtensionMembers.items) {address : Address}
    (found : contract.api.requiredMembers.get? item.1 = some address) :
    contract.heap.read item.2 = [] := by
  have nothing := disjoint item.1 (Dict.mem_iff_get?.mpr ⟨address, found⟩)
  rw [extensionList, Dict.get?_eq_some_iff.mpr member] at nothing
  exact nothing

theorem Disjoint.apart (disjoint : contract.Disjoint) : contract.Apart :=
  MemberTable.apart_of_nothing_added fun _ member _ found => disjoint.nothing_added member found

/-- Joining the tables leaves the lists of `requiredMembers` exactly when nothing is
added to one of them. -/
theorem mergedMembers_keeps_iff (contract : LoadedContract) :
    (∀ className address, contract.api.requiredMembers.get? className = some address →
      (mergedMembers contract.api contract.heap).heap.read address =
        contract.heap.read address) ↔ contract.Disjoint := by
  constructor
  · intro kept className required
    obtain ⟨address, found⟩ := Dict.mem_iff_get?.mp required
    unfold extensionList
    cases extended : contract.api.bssExtensionMembers.get? className with
    | none => rfl
    | some extensions =>
        by_contra added
        have longer := MemberTable.length_read_extendAll contract.requiredInMemory
          contract.extensionsInMemory (Dict.get?_eq_some_iff.mp extended) found added
        exact Nat.ne_of_gt longer (congrArg List.length (kept className address found))
  · intro disjoint className address found
    exact MemberTable.read_extendAll contract.requiredInMemory contract.extensionsInMemory
      contract.api.bssExtensionMembers.unique disjoint.apart
      (contract.requiredAllocated className address found)
      fun _ member shared => disjoint.nothing_added member shared

/-- The verifier has the same effect, except in the mode that joins nothing. -/
theorem inspectedMembers_keeps_iff (contract : LoadedContract) (mode : VerifyMode) :
    (∀ className address, contract.api.requiredMembers.get? className = some address →
      (inspectedMembers mode contract.api contract.heap).heap.read address =
        contract.heap.read address) ↔ mode = .reference ∨ contract.Disjoint := by
  cases mode with
  | reference => exact ⟨fun _ => .inl rfl, fun _ _ _ _ => rfl⟩
  | api => exact (mergedMembers_keeps_iff contract).trans (or_iff_right nofun).symm
  | complete => exact (mergedMembers_keeps_iff contract).trans (or_iff_right nofun).symm

theorem Disjoint.rendersOnly (disjoint : contract.Disjoint) : contract.RendersOnly := by
  have nothing : ∀ className, (if className ∈ contract.api.requiredMembers then
      contract.extensionList className else []) = [] := by
    intro className
    split
    · exact disjoint className ‹_›
    · rfl
  have nothingEver : ∀ calls className,
      (List.replicate calls (if className ∈ contract.api.requiredMembers then
        contract.extensionList className else [])).flatten = [] := by
    intro calls className
    rw [nothing, List.flatten_replicate_nil]
  refine ⟨⟨_, sortedNames_pairwise _, fun _ => mem_documentedClasses,
    document_eq disjoint.apart⟩, fun calls className => ?_, fun calls => ?_⟩
  · obtain ⟨-, -, lists⟩ := afterCalls_lists disjoint.apart calls
    rw [(lists className).2, nothingEver, List.append_nil]
  · rw [document_afterCalls disjoint.apart, document_eq disjoint.apart]
    simp only [nothingEver, List.append_nil]

end LoadedContract

/-! ### A second document -/

/-- The characters that the members of a class take on the page. -/
def membersLength (members : List String) : Nat :=
  (members.map fun member => (documentedItem member).toList.length).sum

theorem membersLength_append (left right : List String) :
    membersLength (left ++ right) = membersLength left + membersLength right := by
  rw [membersLength, List.map_append, List.sum_append]
  rfl

theorem membersLength_pos {members : List String} (some : members ≠ []) :
    0 < membersLength members := by
  obtain ⟨first, rest, rfl⟩ := List.exists_cons_of_ne_nil some
  have item : 0 < (documentedItem first).toList.length := by
    simp only [documentedItem, String.toList_append, List.length_append]
    exact Nat.lt_add_left _ (by decide)
  rw [membersLength, List.map_cons, List.sum_cons]
  exact Nat.lt_add_right _ item

theorem length_joinTexts (texts : List String) :
    (joinTexts texts).toList.length = (texts.map fun text => text.toList.length).sum := by
  rw [joinTexts, String.toList_ofList, List.length_flatMap]

theorem length_documentedSection (className : String) (members : List String) :
    (documentedSection className members).toList.length =
      (documentedSection className []).toList.length + membersLength members := by
  have items (members : List String) :
      (joinTexts (members.map documentedItem)).toList.length = membersLength members := by
    rw [length_joinTexts, List.map_map]
    rfl
  have noItems : membersLength [] = 0 := rfl
  unfold documentedSection
  simp only [String.toList_append, List.length_append, items, noItems]
  omega

theorem htmlDocument_injective : Function.Injective htmlDocument := by
  intro left right same
  unfold htmlDocument at same
  simpa only [String.append_left_inj, String.append_right_inj] using same

/-- A page on which a class has more and no class fewer is another page. -/
theorem documentation_ne {classes : List String} {before after : String → List String}
    (grown : ∀ className ∈ classes,
      membersLength (before className) ≤ membersLength (after className))
    (more : ∃ className ∈ classes,
      membersLength (before className) < membersLength (after className)) :
    documentation classes after ≠ documentation classes before := by
  intro same
  have sameBody := htmlDocument_injective (encodeUtf8_injective same)
  have sameLength := congrArg (fun body : String => body.toList.length) sameBody
  simp only [length_joinTexts, List.map_map] at sameLength
  refine Nat.ne_of_gt (List.sum_lt_sum _ _ ?_ ?_) sameLength
  · intro className member
    dsimp only [Function.comp]
    rw [length_documentedSection, length_documentedSection className (after className)]
    exact Nat.add_le_add_left (grown className member) _
  · obtain ⟨className, member, strict⟩ := more
    refine ⟨className, member, ?_⟩
    dsimp only [Function.comp]
    rw [length_documentedSection, length_documentedSection className (after className)]
    exact Nat.add_lt_add_left strict _

namespace LoadedContract

variable {contract : LoadedContract}

/-- On a parsed contract the second document is the first one exactly when no class of
`requiredMembers` has extension members. -/
theorem second_document_iff (apart : contract.Apart) :
    (contract.afterCalls 1).document = contract.document ↔ contract.Disjoint := by
  constructor
  · intro same
    by_contra shared
    obtain ⟨className, required, added⟩ : ∃ className,
        className ∈ contract.api.requiredMembers ∧ contract.extensionList className ≠ [] := by
      simpa only [Disjoint, not_forall, exists_prop] using shared
    rw [document_afterCalls apart 1, document_eq apart] at same
    refine documentation_ne ?_ ?_ same
    · intro className _
      simp only [membersLength_append]
      omega
    · refine ⟨className, mem_documentedClasses.mpr (.inl required), ?_⟩
      have positive := membersLength_pos added
      simp only [membersLength_append, if_pos required, List.replicate_one, List.flatten_singleton]
      omega
  · exact fun disjoint => disjoint.rendersOnly.repeated 1

/-- Rendering leaves a contract as it was exactly when no class of `requiredMembers`
has extension members. -/
theorem rendersOnly_iff (contract : LoadedContract) :
    contract.RendersOnly ↔ contract.Disjoint := by
  constructor
  · intro renders
    refine (mergedMembers_keeps_iff contract).mp fun className address found => ?_
    have same := renders.kept 1 className
    have sameTable : (contract.afterCalls 1).api = contract.api := rfl
    rw [requiredList, requiredList, sameTable, found] at same
    exact same
  · exact Disjoint.rendersOnly

/-- A class that has a required member and an extension member. -/
def extendedClass : LoadedContract where
  api :=
    { requiredMembers := ⟨[("CompiledModel$GpuOptions", 0)], List.nodup_singleton _⟩
      bssExtensionMembers := ⟨[("CompiledModel$GpuOptions", 1)], List.nodup_singleton _⟩ }
  heap := ⟨[["getBackend()"], ["getKernelBatchSize()"]]⟩
  requiredAllocated := by
    intro className address found
    cases List.mem_singleton.mp (Dict.get?_eq_some_iff.mp found)
    decide
  extensionsAllocated := by
    intro className address found
    cases List.mem_singleton.mp (Dict.get?_eq_some_iff.mp found)
    decide

/-- The first call adds the extension to the required members, and the second lists it
twice. -/
theorem extendedClass_changed :
    extendedClass.afterDocs.requiredList "CompiledModel$GpuOptions" =
        ["getBackend()", "getKernelBatchSize()"] ∧
      extendedClass.afterDocs.document ≠ extendedClass.document ∧
      ¬ extendedClass.RendersOnly := by
  have apart : extendedClass.Apart := apart_of_nodup (by decide)
  have shared : ¬ extendedClass.Disjoint := fun disjoint =>
    absurd (disjoint "CompiledModel$GpuOptions" (by decide)) (by decide)
  have different : extendedClass.afterDocs.document ≠ extendedClass.document :=
    mt (second_document_iff apart).mp shared
  exact ⟨by decide, different, fun renders => different (renders.repeated 1)⟩

end LoadedContract

end BssLiteRt.Complete

import BssLiteRt.Downloadable.Build
import BssLiteRt.Downloadable.Writing
import BssLiteRt.Python.Paths

/-!
Owns `materialize_source_aar`: the source AAR is the supplied one, the cached one
or a download, and only after its size and its SHA-256 have been checked.
-/

namespace BssLiteRt.Downloadable

open BssLiteRt.Library BssLiteRt.Python

/-! ### The download -/

/-- What comes of a request: the URL is of no known kind, nobody answers, or bytes
arrive, and then the stream ends or breaks. -/
inductive Network where
  | unknownUrl
  | refused
  | stream (received : Bytes) (broken : Bool)

inductive SourceFailure where
  | script (failure : Failure)
  | network
deriving DecidableEq

def sourceIsValid (py : StandardLibrary) (system : FileSystem) (path : List String) (metadata : Json) :
    Py Bool :=
  match system.readFile path with
  | none => .ok false
  | some data => do
      let byteSize ← getItem metadata "byteSize"
      if (Json.int data.length).pyEq byteSize then
        let sha256 ← getItem metadata "sha256"
        return (Json.str (py.hashlib.sha256 data)).pyEq sha256
      else
        return false

/-- `cache_dir / metadata["fileName"]` -/
def sourcePath (cacheDir : List String) (metadata : Json) : Py (List String) := do
  let fileName ← asStr (← getItem metadata "fileName")
  return joinName cacheDir fileName

/-- `source.with_suffix(f"{source.suffix}.part")` -/
def partPath (source : List String) : Option (List String) :=
  source.getLast?.map fun name =>
    let suffix := PurePosixPath.suffix name.toList
    source.dropLast ++
      [String.ofList (PurePosixPath.withSuffix name.toList (suffix ++ ".part".toList))]

/-- `urllib.request.Request(metadata["url"])` -/
def requestUrl (py : StandardLibrary) (network : Network) (metadata : Json) : Py String := do
  let url ← asStr (← getItem metadata "url")
  match network with
  | .unknownUrl => raise .valueError ("unknown url type: " ++ py.repr url)
  | .refused | .stream _ _ => return url

/-- The body of the `try`. -/
def downloadAndReplace (py : StandardLibrary) (faults : Faults) (network : Network)
    (system : FileSystem) (temporary source : List String) (metadata : Json) :
    Except SourceFailure Unit × FileSystem :=
  match network with
  | .unknownUrl | .refused => (.error .network, system)
  | .stream received broken =>
      match writeBytes faults system temporary received with
      | (.error failure, written) => (.error (.script failure), written)
      | (.ok (), written) =>
          if broken then (.error .network, written)
          else
            match sourceIsValid py written temporary metadata with
            | .error error => (.error (.script (.python error)), written)
            | .ok false =>
                (.error (.script (.python ⟨.valueError,
                  "Downloaded source AAR does not match the frozen identity"⟩)), written)
            | .ok true =>
                match replace faults written temporary source with
                | (.error failure, after) => (.error (.script failure), after)
                | (.ok (), after) => (.ok (), after)

/-- What a call leaves behind: a path or an exception, the URLs requested, the files, and
whether the `unlink` of its `finally` has returned where the call got there. -/
structure Materialized where
  result : Except SourceFailure (List String)
  requests : List String
  system : FileSystem
  cleaned : Bool

/-- A call that raises before its `finally`. -/
def stopsWith (failure : Failure) (system : FileSystem) : Materialized :=
  ⟨.error (.script failure), [], system, true⟩

/-- The `try` with its `finally`. -/
def downloadAndClean (py : StandardLibrary) (faults : Faults) (network : Network)
    (system : FileSystem) (temporary source : List String) (metadata : Json) (url : String) :
    Materialized :=
  let (result, after) := downloadAndReplace py faults network system temporary source metadata
  match after.unlinkIfThere temporary with
  | .error error =>
      ⟨.error (.script (raised (nulInPath "unlink") error)), [url], after, false⟩
  | .ok cleaned => ⟨result.map fun _ => source, [url], cleaned, true⟩

/-- The part of `materialize_source_aar` for a cached file that is not valid. -/
def fetchSource (py : StandardLibrary) (faults : Faults) (network : Network) (system : FileSystem)
    (source : List String) (metadata : Json) : Materialized :=
  match partPath source with
  | none => stopsWith (.python ⟨.valueError, "PosixPath('/') has an empty name"⟩) system
  | some temporary =>
      match system.unlinkIfThere temporary with
      | .error error =>
          stopsWith (raised (nulInPath "unlink") error) system
      | .ok cleared =>
          match requestUrl py network metadata with
          | .error error => stopsWith (.python error) cleared
          | .ok url => downloadAndClean py faults network cleared temporary source metadata url

def materializeSourceAar (py : StandardLibrary) (faults : Faults) (network : Network)
    (system : FileSystem) (supplied : Option (List String)) (metadata : Json)
    (cacheDir : List String) : Materialized :=
  match supplied with
  | some path =>
      match resolve system path with
      | .error error => stopsWith (.python error) system
      | .ok source =>
          match sourceIsValid py system source metadata with
          | .error error => stopsWith (.python error) system
          | .ok false =>
              stopsWith (.python ⟨.valueError,
                "Supplied source AAR does not match the contract: " ++ pathText source⟩) system
          | .ok true => ⟨.ok source, [], system, true⟩
  | none =>
      match system.makeDirectories faults.refuses cacheDir with
      | (.error error, made) =>
          stopsWith (raised (nulInPath "mkdir") error) made
      | (.ok (), made) =>
          match sourcePath cacheDir metadata with
          | .error error => stopsWith (.python error) made
          | .ok source =>
              match sourceIsValid py made source metadata with
              | .error error => stopsWith (.python error) made
              | .ok true => ⟨.ok source, [], made, true⟩
              | .ok false => fetchSource py faults network made source metadata

/-! ### What is checked -/

/-- The bytes have the size and the SHA-256 of the contract. -/
def MatchesContract (py : StandardLibrary) (metadata : Json) (data : Bytes) : Prop :=
  HasField metadata "byteSize" (.int data.length) ∧
    HasField metadata "sha256" (.str (py.hashlib.sha256 data))

section Steps

variable {py : StandardLibrary} {faults : Faults} {network : Network} {system : FileSystem}
  {metadata : Json} {path temporary source : List String} {held : Path}

theorem sourceIsValid_true (valid : sourceIsValid py system path metadata = .ok true) :
    ∃ data, system.readFile path = some data ∧ MatchesContract py metadata data := by
  unfold sourceIsValid at valid
  split at valid
  · cases valid
  · rename_i data read
    obtain ⟨byteSize, sizeFound, rest⟩ := bind_eq_ok.mp valid
    split at rest
    · rename_i sameSize
      obtain ⟨sha256, hashFound, sameHash⟩ := bind_eq_ok.mp rest
      refine ⟨data, read, ⟨byteSize, getItem_ok_iff.mp sizeFound, ?_⟩,
        ⟨sha256, getItem_ok_iff.mp hashFound, ?_⟩⟩
      · exact Json.pyEq_iff.mpr (Json.pyEq_iff.mp sameSize).symm
      · exact Json.pyEq_iff.mpr (Json.pyEq_iff.mp (Except.ok.inj sameHash)).symm
    · cases rest

/-- New directories leave a valid file valid. -/
theorem sourceIsValid_made {after : FileSystem} (made : FileSystem.Made system after)
    (valid : sourceIsValid py system path metadata = .ok true) :
    sourceIsValid py after path metadata = .ok true := by
  obtain ⟨data, read, -⟩ := sourceIsValid_true valid
  rw [sourceIsValid, read] at valid
  rw [sourceIsValid, made.readFile read]
  exact valid

/-- The `.part` name is another name in the same directory. -/
theorem partPath_eq_some (named : partPath source = some temporary) :
    FileSystem.Siblings temporary source := by
  obtain ⟨name, last, rfl⟩ := Option.map_eq_some_iff.mp named
  dsimp only
  rw [PurePosixPath.withSuffix_suffix_append]
  have shape := List.dropLast_append_getLast? name last
  have longer (short : String) (few : short.toList.length < 5) :
      String.ofList (name.toList ++ ".part".toList) ≠ short := by
    rintro rfl
    simp at few
  refine ⟨source.dropLast, _, name, rfl, shape.symm, fun same => ?_, longer "." (by decide),
    longer ".." (by decide)⟩
  have lengths := congrArg (fun text : String => text.toList.length) same
  simp at lengths

/-- A download that is renamed has been checked, and one that fails has touched the
`.part` file only. -/
theorem downloadAndReplace_saved (siblings : FileSystem.Siblings temporary source)
    (located : system.locate .isADirectory temporary = .ok held) (own : system.Unshared held) :
    Saved (MatchesContract py metadata) temporary source held (FileSystem.beside held source)
      system (downloadAndReplace py faults network system temporary source metadata) := by
  have apart := siblings.apart located
  unfold downloadAndReplace
  cases network with
  | unknownUrl => exact .stops located apart (.refl own)
  | refused => exact .stops located apart (.refl own)
  | stream received broken =>
      obtain ⟨changed, complete⟩ :=
        @writeBytes_unshared faults system temporary held received located own
      dsimp only
      split
      · rename_i failure written outcome
        rw [outcome] at changed
        exact .stops located apart changed
      · rename_i written outcome
        rw [outcome] at changed complete
        obtain ⟨number, found, -⟩ := complete rfl
        cases broken with
        | true => exact .stops located apart changed
        | false =>
            rw [if_neg Bool.false_ne_true]
            split
            · exact .stops located apart changed
            · exact .stops located apart changed
            · rename_i valid
              split
              · rename_i failure after failed
                obtain rfl := replace_error failed
                exact .stops located apart changed
              · rename_i after replaced
                obtain ⟨data, read, matching⟩ := sourceIsValid_true valid
                have received := FileSystem.readFile_of_locate
                  (FileSystem.locate_keeps changed.keeps located) (FileSystem.entry_file found)
                obtain rfl := Option.some.inj (received.symm.trans read)
                exact .replaced siblings located changed found matching replaced

/-- A `.part` path without a place leaves everything as it is. -/
theorem downloadAndReplace_unlocated (siblings : FileSystem.Siblings temporary source)
    (unlocated : ∀ held, system.locate .isADirectory temporary ≠ .ok held) :
    ∃ failure, downloadAndReplace py faults network system temporary source metadata =
      (.error failure, system) := by
  unfold downloadAndReplace
  cases network with
  | unknownUrl => exact ⟨_, rfl⟩
  | refused => exact ⟨_, rfl⟩
  | stream received broken =>
      obtain ⟨failure, failed⟩ := @writeBytes_unlocated faults system temporary source received
        siblings unlocated
      dsimp only
      rw [failed]
      exact ⟨_, rfl⟩

/-- A call leaves no file in the cache that it has not checked. -/
structure SourceChecked (py : StandardLibrary) (metadata : Json) (cacheDir : List String)
    (supplied : Option (List String)) (before : FileSystem) (outcome : Materialized) : Prop where
  returned : ∀ path, outcome.result = .ok path →
    ∃ data, outcome.system.readFile path = some data ∧ MatchesContract py metadata data
  raised : ∀ failure, outcome.result = .error failure →
    ∀ source place, sourcePath cacheDir metadata = .ok source →
      before.placeOf source = some place →
        outcome.system.entry place = before.entry place ∨ outcome.cleaned = false ∧
          ∃ data, outcome.system.entry place = some (.bytes data) ∧ MatchesContract py metadata data
  others : ∀ other, (∀ source, sourcePath cacheDir metadata = .ok source →
      before.placeOf source ≠ some other ∧ ∀ temporary, partPath source = some temporary →
        before.placeOf temporary ≠ some other) →
    outcome.system.entry other = before.entry other
  partGone : outcome.requests ≠ [] → ∀ source temporary, sourcePath cacheDir metadata = .ok source →
    partPath source = some temporary → outcome.system.lexists temporary = false
  quiet : (supplied ≠ none ∨ ∃ source, sourcePath cacheDir metadata = .ok source ∧
      sourceIsValid py before source metadata = .ok true) → outcome.requests = []

/-- What a call leaves behind that neither returned a path nor asked for one. -/
theorem sourceChecked_stops {cacheDir : List String} {supplied : Option (List String)}
    {failure : Failure} {after : FileSystem}
    (same : ∀ other, after.entry other = system.entry other) :
    SourceChecked py metadata cacheDir supplied system (stopsWith failure after) :=
  ⟨nofun, fun _ _ _ place _ _ => .inl (same place), fun other _ => same other,
    fun asked => absurd rfl asked, fun _ => rfl⟩

theorem sourceChecked_found {cacheDir : List String} {supplied : Option (List String)}
    {after : FileSystem} (same : ∀ other, after.entry other = system.entry other)
    (valid : sourceIsValid py after path metadata = .ok true) :
    SourceChecked py metadata cacheDir supplied system ⟨.ok path, [], after, true⟩ := by
  refine ⟨fun found returned => ?_, nofun, fun other _ => same other, fun asked => absurd rfl asked,
    fun _ => rfl⟩
  obtain rfl := Except.ok.inj returned
  exact sourceIsValid_true valid

/-- What is to be shown of a call that has asked for the source. -/
theorem sourceChecked_asked {cacheDir : List String} {outcome : Materialized}
    (located : sourcePath cacheDir metadata = .ok source)
    (invalid : sourceIsValid py system source metadata ≠ .ok true)
    (named : partPath source = some temporary)
    (returned : ∀ path, outcome.result = .ok path →
      ∃ data, outcome.system.readFile path = some data ∧ MatchesContract py metadata data)
    (raised : ∀ failure, outcome.result = .error failure → ∀ place,
      system.placeOf source = some place →
        outcome.system.entry place = system.entry place ∨ outcome.cleaned = false ∧
          ∃ data, outcome.system.entry place = some (.bytes data) ∧ MatchesContract py metadata data)
    (others : ∀ other, system.placeOf source ≠ some other → system.placeOf temporary ≠ some other →
      outcome.system.entry other = system.entry other)
    (gone : outcome.requests ≠ [] → outcome.system.lexists temporary = false) :
    SourceChecked py metadata cacheDir none system outcome := by
  refine ⟨returned, fun failure failed found place foundHere placed => ?_, fun other elsewhere => ?_,
    fun asked found part foundHere partHere => ?_, ?_⟩
  · obtain rfl := Except.ok.inj (located.symm.trans foundHere)
    exact raised failure failed place placed
  · obtain ⟨notSource, notPart⟩ := elsewhere source located
    exact others other notSource (notPart temporary named)
  · obtain rfl := Except.ok.inj (located.symm.trans foundHere)
    obtain rfl := Option.some.inj (named.symm.trans partHere)
    exact gone asked
  · rintro (given | ⟨found, foundHere, valid⟩)
    · exact absurd rfl given
    · obtain rfl := Except.ok.inj (located.symm.trans foundHere)
      exact absurd valid invalid

/-- What the `finally` leaves behind, after the old `.part` file has been removed. -/
theorem sourceChecked_finally {cacheDir : List String} {cleared : FileSystem} (url : String)
    (located : sourcePath cacheDir metadata = .ok source)
    (invalid : sourceIsValid py system source metadata ≠ .ok true)
    (named : partPath source = some temporary)
    (removed : system.unlinkIfThere temporary = .ok cleared) :
    SourceChecked py metadata cacheDir none system
      (downloadAndClean py faults network cleared temporary source metadata url) := by
  have siblings := partPath_eq_some named
  have clearedEntry := siblings.unlinkIfThere removed
  by_cases found : ∃ held, cleared.locate .isADirectory temporary = .ok held
  · obtain ⟨held, atPart⟩ := found
    obtain ⟨partBefore, absent⟩ := FileSystem.locate_of_unlinkIfThere removed atPart
    have heldBefore := FileSystem.placeOf_of_locate partBefore
    have placedBefore := siblings.placeOf partBefore
    have saved := @downloadAndReplace_saved py faults network cleared metadata temporary source held
      siblings atPart (FileSystem.unshared_of_absent absent)
    have others (other : Path) (notSource : system.placeOf source ≠ some other)
        (notPart : system.placeOf temporary ≠ some other) :
        other ≠ held ∧ other ≠ FileSystem.beside held source :=
      ⟨fun same => notPart (same ▸ heldBefore), fun same => notSource (same ▸ placedBefore)⟩
    unfold downloadAndClean
    generalize downloadAndReplace py faults network cleared temporary source metadata = attempt
      at saved
    obtain ⟨result, after⟩ := attempt
    dsimp only
    split
    · rename_i error failed
      refine sourceChecked_asked located invalid named nofun (fun failure raised place placed => ?_)
        (fun other notSource notPart => ?_) fun _ => ?_
      · obtain rfl := Option.some.inj (placedBefore.symm.trans placed)
        cases result with
        | error earlier =>
            exact .inl ((saved.raised earlier rfl).trans (clearedEntry _ (.inr placed)))
        | ok done => exact .inr ⟨rfl, (saved.returned rfl).2.2.imp fun data both => both.symm⟩
      · obtain ⟨notHeld, notPlace⟩ := others other notSource notPart
        exact (saved.others other notHeld notPlace).trans (clearedEntry other (.inl notPart))
      · -- Only a `.part` path that no longer leads anywhere is not removed.
        refine FileSystem.lexists_eq_false .isADirectory fun place atPlace => ?_
        rcases saved.located with same | ⟨missing, unlocated, -⟩
        · obtain ⟨cleaned, returns⟩ := FileSystem.unlinkIfThere_returns same
            (saved.notDirectory (by rw [absent]; nofun))
          rw [failed] at returns
          cases returns
        · rw [unlocated] at atPlace
          cases atPlace
    · rename_i cleaned cleanedUp
      have kept := saved.cleaned (siblings.apart partBefore) cleanedUp
      refine sourceChecked_asked located invalid named (fun path returned => ?_)
        (fun failure raised place placed => ?_) (fun other notSource notPart => ?_)
        fun _ => FileSystem.lexists_of_unlinkIfThere cleanedUp
      · cases result with
        | error => cases returned
        | ok done =>
            obtain rfl := Except.ok.inj returned
            obtain ⟨data, matching, -, read⟩ := kept.returned rfl
            exact ⟨data, read, matching⟩
      · obtain rfl := Option.some.inj (placedBefore.symm.trans placed)
        cases result with
        | error earlier =>
            exact .inl ((kept.raised earlier rfl).trans (clearedEntry _ (.inr placed)))
        | ok done => cases raised
      · obtain ⟨notHeld, notPlace⟩ := others other notSource notPart
        exact (kept.others other notHeld notPlace).trans (clearedEntry other (.inl notPart))
  · obtain ⟨failure, failed⟩ := @downloadAndReplace_unlocated py faults network cleared metadata
      temporary source siblings (not_exists.mp found)
    have stays {outcome : Materialized} (same : outcome.system = cleared)
        (raises : ∀ path, outcome.result ≠ .ok path) :
        SourceChecked py metadata cacheDir none system outcome := by
      refine sourceChecked_asked located invalid named
        (fun path returned => absurd returned (raises path)) (fun _ _ place placed => .inl ?_)
        (fun other _ notPart => ?_) fun _ => ?_
      · rw [same]
        exact clearedEntry place (.inr placed)
      · rw [same]
        exact clearedEntry other (.inl notPart)
      · rw [same]
        exact FileSystem.lexists_eq_false .isADirectory fun place atPlace =>
          absurd ⟨place, atPlace⟩ found
    unfold downloadAndClean
    rw [failed]
    dsimp only
    split
    · exact stays rfl nofun
    · rename_i cleaned cleanedUp
      rcases FileSystem.unlinkIfThere_ok cleanedUp with ⟨rfl, -⟩ | ⟨held, atPart, -⟩
      · exact stays rfl nofun
      · exact absurd ⟨held, atPart⟩ found

/-- A cached file that is not valid stays as it was or is replaced by a checked one. -/
theorem sourceChecked_fetchSource {cacheDir : List String}
    (located : sourcePath cacheDir metadata = .ok source)
    (invalid : sourceIsValid py system source metadata ≠ .ok true) :
    SourceChecked py metadata cacheDir none system
      (fetchSource py faults network system source metadata) := by
  unfold fetchSource
  split
  · exact sourceChecked_stops fun _ => rfl
  · rename_i temporary named
    split
    · exact sourceChecked_stops fun _ => rfl
    · rename_i cleared removed
      split
      · have clearedEntry := (partPath_eq_some named).unlinkIfThere removed
        exact sourceChecked_asked located invalid named nofun
          (fun _ _ place placed => .inl (clearedEntry place (.inr placed)))
          (fun other _ notPart => clearedEntry other (.inl notPart)) fun asked => absurd rfl asked
      · rename_i url requested
        exact sourceChecked_finally url located invalid named removed

end Steps

/-- For every state of the cache, every supplied path and every outcome of the network. -/
theorem source_cache_never_half_checked (py : StandardLibrary) (faults : Faults) (network : Network)
    (system : FileSystem) (supplied : Option (List String)) (metadata : Json)
    (cacheDir : List String) :
    SourceChecked py metadata cacheDir supplied system
      (materializeSourceAar py faults network system supplied metadata cacheDir) := by
  unfold materializeSourceAar
  cases supplied with
  | some path =>
      dsimp only
      split
      · exact sourceChecked_stops fun _ => rfl
      · split
        · exact sourceChecked_stops fun _ => rfl
        · exact sourceChecked_stops fun _ => rfl
        · exact sourceChecked_found (fun _ => rfl) ‹_›
  | none =>
      obtain ⟨made, -⟩ := FileSystem.makeDirectories_made faults.refuses system cacheDir
      dsimp only
      split
      · rename_i error after outcome
        rw [outcome] at made
        exact sourceChecked_stops made.entry
      · rename_i after outcome
        rw [outcome] at made
        split
        · exact sourceChecked_stops made.entry
        · rename_i source located
          split
          · exact sourceChecked_stops made.entry
          · exact sourceChecked_found made.entry ‹_›
          · rename_i invalid
            have fetched := @sourceChecked_fetchSource py faults network after metadata source
              cacheDir located (by rw [invalid]; nofun)
            refine ⟨fetched.returned, fun failure raised found place foundHere placed => ?_,
              fun other elsewhere => ?_, fetched.partGone, ?_⟩
            · rw [← made.placeOf] at placed
              rw [← made.entry]
              exact fetched.raised failure raised found place foundHere placed
            · rw [← made.entry]
              refine fetched.others other fun found foundHere => ?_
              simp only [made.placeOf]
              exact elsewhere found foundHere
            · rintro (given | ⟨found, foundHere, valid⟩)
              · exact absurd rfl given
              · exact fetched.quiet (.inr ⟨found, foundHere, sourceIsValid_made made valid⟩)

/-! ### A cached name that leads back to its directory -/

/-- A call that raises leaves the cached source as it was. -/
def CacheKept (metadata : Json) (cacheDir : List String) (before : FileSystem)
    (outcome : Materialized) : Prop :=
  ∀ failure, outcome.result = .error failure →
    ∀ source place, sourcePath cacheDir metadata = .ok source → before.placeOf source = some place →
      outcome.system.entry place = before.entry place

/-- The directory `cache` with a link `src.aar` to itself. -/
def loopedCache : FileSystem :=
  ((FileSystem.unplaced []).setNode ["cache"] (some .directory) (by decide)).setNode
    ["cache", "src.aar"] (some (.symlink ["cache"])) (by decide)

def oneByteSource : Json :=
  .obj [("byteSize", .int 1), ("fileName", .str "src.aar"),
    ("sha256", .str (concreteLibrary.hashlib.sha256 [1])), ("url", .str "file:///src.aar")]

def noFaults : Faults where
  refuses _ := false
  refusesOpen := false
  written := none
  refusesRename := false

/-- The rename replaces the link that the path of the `.part` file leads through. -/
theorem looped_cache_replaced :
    ¬ CacheKept oneByteSource ["cache", "src.aar"] loopedCache
      (materializeSourceAar concreteLibrary noFaults (.stream [1] false) loopedCache none
        oneByteSource ["cache", "src.aar"]) := by
  intro kept
  have replaced := kept (.script (.system .notADirectory)) (by decide +kernel)
    ["cache", "src.aar", "src.aar"] ["cache", "src.aar"] (by decide +kernel) (by decide +kernel)
  exact absurd replaced (by decide +kernel)

end BssLiteRt.Downloadable

import BssLiteRt.Library.JsonParser
import BssLiteRt.Python.Text
import BssLiteRt.Queue.Dispatch
import Mathlib.Data.List.Permutation

/-!
Owns the way of the two queue options from Kotlin to the delegate, as
`0002-gpu-options-api.patch` adds it: the map of `GpuOptions`, `PopulateGpuOptions`,
the C setters and getters, the TOML payload and its reader, and `CreateDelegate`.

The other options stay unset, and no pointer is null. What LiteRT itself does on this
way is a parameter.
-/

namespace BssLiteRt.Queue

open BssLiteRt.Library BssLiteRt.Python

/-! ### Kotlin -/

/-- The keys of `GpuOptions.Key` in `Model.kt` that the patch adds. -/
inductive Key where
  | KERNEL_BATCH_SIZE
  | COMMAND_QUEUE_WINDOW_SIZE
deriving DecidableEq

def Key.value : Key → Int
  | .KERNEL_BATCH_SIZE => 15
  | .COMMAND_QUEUE_WINDOW_SIZE => 16

/-- The fields of `GpuOptions` in `Model.kt` that the patch adds. -/
structure KotlinGpuOptions where
  kernelBatchSize : Option Int32 := none
  commandQueueWindowSize : Option Int32 := none

/-- The decimal text of an `int`: `toString()` in Kotlin, `<<` in C++. -/
def intText (number : Int32) : String :=
  String.ofList (Json.decimal number.toInt)

def KotlinGpuOptions.toMap (options : KotlinGpuOptions) : Dict Key String :=
  let map := Dict.empty
  let map := match options.kernelBatchSize with
    | some kernelBatchSize => map.set .KERNEL_BATCH_SIZE (intText kernelBatchSize)
    | none => map
  match options.commandQueueWindowSize with
  | some commandQueueWindowSize =>
      map.set .COMMAND_QUEUE_WINDOW_SIZE (intText commandQueueWindowSize)
  | none => map

/-! ### The C options -/

def kMaxCommandQueueWindowSize : Int32 := 1024

inductive LiteRtStatus where
  | ok
  | errorInvalidArgument
  | other (code : Int)
deriving DecidableEq

/-- The fields of `LrtGpuOptions` on this way. -/
structure LrtGpuOptions where
  kernelBatchSize : Option Int32 := none
  commandQueueWindowSize : Option Int32 := none
deriving DecidableEq

/-- `LrtSetGpuAcceleratorRuntimeOptionsCommandQueueWindowSize` -/
def setCommandQueueWindowSize (gpuOptions : LrtGpuOptions) (commandQueueWindowSize : Int32) :
    LiteRtStatus × LrtGpuOptions :=
  if commandQueueWindowSize < 0 ∨ commandQueueWindowSize > kMaxCommandQueueWindowSize then
    (.errorInvalidArgument, gpuOptions)
  else (.ok, { gpuOptions with commandQueueWindowSize := some commandQueueWindowSize })

/-- `LrtGetGpuAcceleratorRuntimeOptionsCommandQueueWindowSize` -/
def getCommandQueueWindowSize (options : LrtGpuOptions) : Int32 :=
  options.commandQueueWindowSize.getD 0

/-- What LiteRT does on the way of the options: the setter and getter of the kernel
batch size, the cases of the other keys, and the reader of TOML with the pairs of
texts that it visits. -/
structure Upstream where
  setKernelBatchSize : LrtGpuOptions → Int32 → LiteRtStatus × LrtGpuOptions
  getKernelBatchSize : LrtGpuOptions → Int32
  populateOther : LrtGpuOptions → Int → String → (LiteRtStatus × String) × LrtGpuOptions
  readToml : String → List (String × String)
  parseTomlInt : String → Option Int
  parseOther : LrtGpuOptions → String → String → LiteRtStatus × LrtGpuOptions

/-! ### JNI -/

inductive StdException where
  | invalidArgument
  | outOfRange
deriving DecidableEq

/-- The characters that `std::stoi` skips. -/
def isCSpace (char : Char) : Bool :=
  char ∈ [' ', '\t', '\n', '\x0b', '\x0c', '\r']

def splitSign : List Char → Bool × List Char
  | '-' :: rest => (true, rest)
  | '+' :: rest => (false, rest)
  | rest => (false, rest)

/-- `std::stoi` -/
def stoi (text : String) : Except StdException Int32 :=
  let (negative, unsigned) := splitSign (text.toList.dropWhile isCSpace)
  match Json.readNatural unsigned with
  | none => .error .invalidArgument
  | some (magnitude, _) =>
      let number : Int := if negative then -magnitude else magnitude
      if number < Int32.minValue.toInt ∨ number > Int32.maxValue.toInt then .error .outOfRange
      else .ok (Int32.ofInt number)

/-- Why `PopulateGpuOptions` stops. -/
inductive PopulateFailure where
  | unexpected (status : LiteRtStatus) (message : String)
  | thrown (exception : StdException)
deriving DecidableEq

/-- A setter with the text of a value, and the message when it fails. -/
def populateInt (setter : LrtGpuOptions → Int32 → LiteRtStatus × LrtGpuOptions)
    (message : String) (gpuOptions : LrtGpuOptions) (value : String) :
    Except PopulateFailure Unit × LrtGpuOptions :=
  match stoi value with
  | .error exception => (.error (.thrown exception), gpuOptions)
  | .ok number =>
      match setter gpuOptions number with
      | (.ok, gpuOptions) => (.ok (), gpuOptions)
      | (status, gpuOptions) => (.error (.unexpected status message), gpuOptions)

def kKernelBatchSize : Int := 15

def kCommandQueueWindowSize : Int := 16

def WINDOW_MESSAGE : String := "Failed to set GPU options commandQueueWindowSize."

/-- The `switch` of `PopulateGpuOptions`. -/
def populateOption (upstream : Upstream) (gpuOptions : LrtGpuOptions) (key : Int)
    (value : String) : Except PopulateFailure Unit × LrtGpuOptions :=
  if key = kKernelBatchSize then
    populateInt upstream.setKernelBatchSize "Failed to set GPU options kernelBatchSize."
      gpuOptions value
  else if key = kCommandQueueWindowSize then
    populateInt setCommandQueueWindowSize WINDOW_MESSAGE gpuOptions value
  else
    match upstream.populateOther gpuOptions key value with
    | ((.ok, _), gpuOptions) => (.ok (), gpuOptions)
    | ((status, message), gpuOptions) => (.error (.unexpected status message), gpuOptions)

/-- The loop of `PopulateGpuOptions` over the keys and values, and the options it
leaves behind. -/
def populateGpuOptions (upstream : Upstream) (gpuOptions : LrtGpuOptions) :
    List (Int × String) → Except PopulateFailure Unit × LrtGpuOptions
  | [] => (.ok (), gpuOptions)
  | (key, value) :: rest =>
      match populateOption upstream gpuOptions key value with
      | (.ok (), gpuOptions) => populateGpuOptions upstream gpuOptions rest
      | (.error failure, gpuOptions) => (.error failure, gpuOptions)

/-- The options populated from a Kotlin object. -/
def populated (upstream : Upstream) (options : KotlinGpuOptions) :
    Except PopulateFailure Unit × LrtGpuOptions :=
  populateGpuOptions upstream {} (options.toMap.items.map fun item => (item.1.value, item.2))

/-! ### The payload -/

def tomlLine (line : String × Int32) : String :=
  line.1 ++ " = " ++ intText line.2 ++ "\n"

/-- The lines of `LrtGetOpaqueGpuOptionsData`. -/
def tomlLines (options : LrtGpuOptions) : List (String × Int32) :=
  (options.kernelBatchSize.map fun value => ("kernel_batch_size", value)).toList ++
    (options.commandQueueWindowSize.map fun value => ("command_queue_window_size", value)).toList

/-- The payload of `LrtGetOpaqueGpuOptionsData`. -/
def opaqueGpuOptionsData (options : LrtGpuOptions) : String :=
  joinTexts ((tomlLines options).map tomlLine)

/-- What `LrtCreateGpuOptionsFromToml` does with a key and its value. -/
def parseOption (upstream : Upstream) (options : LrtGpuOptions) (key value : String) :
    LiteRtStatus × LrtGpuOptions :=
  if key = "kernel_batch_size" then
    match upstream.parseTomlInt value with
    | none => (.errorInvalidArgument, options)
    | some res => (.ok, { options with kernelBatchSize := some (Int32.ofInt res) })
  else if key = "command_queue_window_size" then
    match upstream.parseTomlInt value with
    | none => (.errorInvalidArgument, options)
    | some res =>
        if res < 0 ∨ res > kMaxCommandQueueWindowSize.toInt then (.errorInvalidArgument, options)
        else (.ok, { options with commandQueueWindowSize := some (Int32.ofInt res) })
  else upstream.parseOther options key value

/-- The visits of the reader, until one fails. -/
def parseOptions (upstream : Upstream) (options : LrtGpuOptions) :
    List (String × String) → Except LiteRtStatus LrtGpuOptions
  | [] => .ok options
  | (key, value) :: rest =>
      match parseOption upstream options key value with
      | (.ok, options) => parseOptions upstream options rest
      | (status, _) => .error status

/-- `LrtCreateGpuOptionsFromToml` -/
def createGpuOptionsFromToml (upstream : Upstream) (tomlString : String) :
    Except LiteRtStatus LrtGpuOptions :=
  parseOptions upstream {} (upstream.readToml tomlString)

/-! ### The delegate -/

/-- What `CreateDelegate` sets from the payload. -/
def createDelegate (upstream : Upstream) (gpuOptionsPayload : LrtGpuOptions) :
    MlDriftDelegateOptions where
  kernelBatchSize := (upstream.getKernelBatchSize gpuOptionsPayload).toInt
  commandQueueWindowSize := (getCommandQueueWindowSize gpuOptionsPayload).toInt

inductive TravelFailure where
  | populate (failure : PopulateFailure)
  | parse (status : LiteRtStatus)
deriving DecidableEq

/-- The whole way. -/
def travel (upstream : Upstream) (options : KotlinGpuOptions) :
    Except TravelFailure MlDriftDelegateOptions :=
  match populated upstream options with
  | (.error failure, _) => .error (.populate failure)
  | (.ok (), gpuOptions) =>
      match createGpuOptionsFromToml upstream (opaqueGpuOptionsData gpuOptions) with
      | .error status => .error (.parse status)
      | .ok payload => .ok (createDelegate upstream payload)

/-! ### Texts of numbers -/

theorem toInt_bounds (number : Int32) :
    Int32.minValue.toInt ≤ number.toInt ∧ number.toInt ≤ Int32.maxValue.toInt :=
  ⟨number.minValue_le_toInt, number.toInt_le⟩

theorem readNatural_digits (magnitude : Nat) :
    Json.readNatural (Nat.toDigits 10 magnitude) = some (magnitude, []) := by
  have noDigit : Json.NoDigit [] := nofun
  have back := Json.readNatural_toDigits magnitude noDigit
  rwa [List.append_nil] at back

/-- A digit is neither a space nor a sign. -/
theorem splitSign_digits (magnitude : Nat) :
    splitSign ((Nat.toDigits 10 magnitude).dropWhile isCSpace) =
      (false, Nat.toDigits 10 magnitude) := by
  obtain ⟨first, rest, shape, digit⟩ := Json.toDigits_head magnitude
  have plain : ∀ other ∈ [' ', '\t', '\n', '\x0b', '\x0c', '\r', '-', '+'], first ≠ other := by
    intro other member same
    have noDigit : ∀ other ∈ [' ', '\t', '\n', '\x0b', '\x0c', '\r', '-', '+'],
        other.isDigit = false := List.all_iff_forall_prop.mp (by decide)
    rw [same, noDigit other member] at digit
    cases digit
  have notSpace : isCSpace first = false := by
    apply decide_eq_false
    intro space
    exact plain first (List.mem_append_left ['-', '+'] space) rfl
  rw [shape, List.dropWhile_cons_of_neg (by rw [notSpace]; decide)]
  unfold splitSign
  split
  · rename_i minus
    exact absurd (List.cons.inj minus).1 (plain '-' (by decide))
  · rename_i plus
    exact absurd (List.cons.inj plus).1 (plain '+' (by decide))
  · rfl

/-- `std::stoi` inverts the decimal text. -/
theorem stoi_intText (number : Int32) : stoi (intText number) = .ok number := by
  have bounds := toInt_bounds number
  have inside : ¬ (number.toInt < Int32.minValue.toInt ∨ number.toInt > Int32.maxValue.toInt) := by
    omega
  have back : Int32.ofInt number.toInt = number := Int32.ofInt_toInt number
  rw [stoi, intText, String.toList_ofList]
  cases value : number.toInt with
  | ofNat magnitude =>
      rw [value] at inside back
      rw [Json.decimal, splitSign_digits]
      dsimp only
      rw [readNatural_digits]
      dsimp only
      rw [if_neg (by decide : ¬ (false = true))]
      exact (if_neg inside).trans (congrArg Except.ok back)
  | negSucc magnitude =>
      rw [value] at inside back
      rw [Json.decimal, List.dropWhile_cons_of_neg (by decide), splitSign]
      dsimp only
      rw [readNatural_digits]
      dsimp only
      rw [if_pos rfl]
      exact (if_neg inside).trans (congrArg Except.ok back)

/-! ### The setter and the parser -/

/-- The windows that the setter and the parser accept. -/
def InRange (window : Int32) : Prop :=
  0 ≤ window.toInt ∧ window.toInt ≤ 1024

instance (window : Int32) : Decidable (InRange window) :=
  inferInstanceAs (Decidable (_ ∧ _))

theorem outOfRange_iff (window : Int32) :
    (window < 0 ∨ window > kMaxCommandQueueWindowSize) ↔ ¬ InRange window := by
  have zero : (0 : Int32).toInt = 0 := rfl
  have greatest : kMaxCommandQueueWindowSize.toInt = 1024 := rfl
  rw [gt_iff_lt, Int32.lt_iff_toInt_lt, Int32.lt_iff_toInt_lt, zero, greatest, InRange]
  omega

theorem setCommandQueueWindowSize_of_inRange {window : Int32} (inRange : InRange window)
    (options : LrtGpuOptions) : setCommandQueueWindowSize options window =
      (.ok, { options with commandQueueWindowSize := some window }) :=
  if_neg (fun outside => (outOfRange_iff window).mp outside inRange)

/-- A rejected window leaves the options unchanged. -/
theorem setCommandQueueWindowSize_of_outOfRange {window : Int32} (outOfRange : ¬ InRange window)
    (options : LrtGpuOptions) :
    setCommandQueueWindowSize options window = (.errorInvalidArgument, options) :=
  if_pos ((outOfRange_iff window).mpr outOfRange)

/-! ### What the way relies on -/

/-- A key of a TOML line that needs no quotes. -/
def IsBareKey (key : String) : Prop :=
  key.toList ≠ [] ∧ ∀ char ∈ key.toList, char.isAlphanum = true ∨ char = '_' ∨ char = '-'

instance (key : String) : Decidable (IsBareKey key) :=
  inferInstanceAs (Decidable (_ ∧ _))

/-- The documented behaviour of LiteRT: the kernel batch size is stored and returned,
decimal texts are read back, and the TOML reader visits each written key once. -/
structure Upstream.Documented (upstream : Upstream) : Prop where
  stores : ∀ options value, upstream.setKernelBatchSize options value =
    (.ok, { options with kernelBatchSize := some value })
  returns : ∃ unset, ∀ options : LrtGpuOptions,
    upstream.getKernelBatchSize options = options.kernelBatchSize.getD unset
  parses : ∀ number : Int32, upstream.parseTomlInt (intText number) = some number.toInt
  visits : ∀ lines : List (String × Int32), (lines.map Prod.fst).Nodup →
    (∀ line ∈ lines, IsBareKey line.1) →
      (upstream.readToml (joinTexts (lines.map tomlLine))).Perm
        (lines.map fun line => (line.1, intText line.2))

section Way

variable {upstream : Upstream} {options : LrtGpuOptions} {window : Int32}

theorem populateOption_kernelBatchSize (documented : upstream.Documented) (value : Int32) :
    populateOption upstream options (Key.value .KERNEL_BATCH_SIZE) (intText value) =
      (.ok (), { options with kernelBatchSize := some value }) := by
  have isKey : Key.value .KERNEL_BATCH_SIZE = kKernelBatchSize := rfl
  rw [populateOption, if_pos isKey, populateInt, stoi_intText]
  dsimp only
  rw [documented.stores]

theorem populateOption_window (window : Int32) :
    populateOption upstream options (Key.value .COMMAND_QUEUE_WINDOW_SIZE) (intText window) =
      if InRange window then (.ok (), { options with commandQueueWindowSize := some window })
      else (.error (.unexpected .errorInvalidArgument WINDOW_MESSAGE), options) := by
  have isKey : Key.value .COMMAND_QUEUE_WINDOW_SIZE = kCommandQueueWindowSize := rfl
  have otherKey : Key.value .COMMAND_QUEUE_WINDOW_SIZE ≠ kKernelBatchSize := by decide
  rw [populateOption, if_neg otherKey, if_pos isKey, populateInt, stoi_intText]
  dsimp only
  by_cases inRange : InRange window
  · rw [setCommandQueueWindowSize_of_inRange inRange, if_pos inRange]
  · rw [setCommandQueueWindowSize_of_outOfRange inRange, if_neg inRange]

/-- The kernel batch size is stored first, and then the window is looked at. -/
theorem populated_kernelBatchSize (documented : upstream.Documented)
    (kernelBatchSize commandQueueWindowSize : Option Int32) :
    populated upstream ⟨kernelBatchSize, commandQueueWindowSize⟩ =
      populateGpuOptions upstream ⟨kernelBatchSize, none⟩
        (commandQueueWindowSize.map fun value =>
          (Key.value .COMMAND_QUEUE_WINDOW_SIZE, intText value)).toList := by
  have items : (KotlinGpuOptions.toMap ⟨kernelBatchSize, commandQueueWindowSize⟩).items.map
      (fun item => (item.1.value, item.2)) =
        (kernelBatchSize.map fun value => (Key.value .KERNEL_BATCH_SIZE, intText value)).toList ++
          (commandQueueWindowSize.map fun value =>
            (Key.value .COMMAND_QUEUE_WINDOW_SIZE, intText value)).toList := by
    cases kernelBatchSize <;> cases commandQueueWindowSize <;> rfl
  rw [populated, items]
  cases kernelBatchSize with
  | none => rfl
  | some value =>
      show populateGpuOptions upstream {} ((Key.value .KERNEL_BATCH_SIZE, intText value) :: _) = _
      rw [populateGpuOptions, populateOption_kernelBatchSize documented]
      rfl

theorem populated_of_inRange (documented : upstream.Documented) (kernelBatchSize : Option Int32)
    {commandQueueWindowSize : Option Int32}
    (inRange : ∀ window ∈ commandQueueWindowSize, InRange window) :
    populated upstream ⟨kernelBatchSize, commandQueueWindowSize⟩ =
      (.ok (), ⟨kernelBatchSize, commandQueueWindowSize⟩) := by
  rw [populated_kernelBatchSize documented]
  cases commandQueueWindowSize with
  | none => rfl
  | some window =>
      rw [Option.map_some, Option.toList_some, populateGpuOptions, populateOption_window,
        if_pos (inRange window rfl)]
      rfl

theorem populated_of_outOfRange (documented : upstream.Documented)
    (kernelBatchSize : Option Int32) (outOfRange : ¬ InRange window) :
    populated upstream ⟨kernelBatchSize, some window⟩ =
      (.error (.unexpected .errorInvalidArgument WINDOW_MESSAGE), ⟨kernelBatchSize, none⟩) := by
  rw [populated_kernelBatchSize documented, Option.map_some, Option.toList_some,
    populateGpuOptions, populateOption_window, if_neg outOfRange]

/-! ### The payload read back -/

theorem parseOption_kernelBatchSize (documented : upstream.Documented) (value : Int32) :
    parseOption upstream options "kernel_batch_size" (intText value) =
      (.ok, { options with kernelBatchSize := some value }) := by
  rw [parseOption, if_pos rfl, documented.parses]
  dsimp only
  rw [Int32.ofInt_toInt]

theorem parseOption_window (documented : upstream.Documented) (inRange : InRange window) :
    parseOption upstream options "command_queue_window_size" (intText window) =
      (.ok, { options with commandQueueWindowSize := some window }) := by
  have greatest : kMaxCommandQueueWindowSize.toInt = 1024 := rfl
  have accepted : ¬ (window.toInt < 0 ∨ window.toInt > kMaxCommandQueueWindowSize.toInt) := by
    rw [InRange] at inRange
    omega
  rw [parseOption, if_neg (by decide), if_pos rfl, documented.parses]
  dsimp only
  rw [if_neg accepted, Int32.ofInt_toInt]

theorem kernelBatchSize_bare : IsBareKey "kernel_batch_size" :=
  ⟨by decide, List.all_iff_forall_prop.mp (by decide)⟩

theorem commandQueueWindowSize_bare : IsBareKey "command_queue_window_size" :=
  ⟨by decide, List.all_iff_forall_prop.mp (by decide)⟩

/-- The keys that are written need no quotes. -/
theorem tomlLines_bare (options : LrtGpuOptions) : ∀ line ∈ tomlLines options, IsBareKey line.1 := by
  intro line member
  obtain ⟨kernelBatchSize, commandQueueWindowSize⟩ := options
  rcases List.mem_append.mp member with batch | window
  · cases kernelBatchSize with
    | none => contradiction
    | some value =>
        rw [List.mem_singleton.mp batch]
        exact kernelBatchSize_bare
  · cases commandQueueWindowSize with
    | none => contradiction
    | some value =>
        rw [List.mem_singleton.mp window]
        exact commandQueueWindowSize_bare

/-- The options that the payload carries, in whatever order its keys are visited. -/
theorem createGpuOptionsFromToml_payload (documented : upstream.Documented)
    (inRange : ∀ window ∈ options.commandQueueWindowSize, InRange window) :
    createGpuOptionsFromToml upstream (opaqueGpuOptionsData options) = .ok options := by
  obtain ⟨kernelBatchSize, commandQueueWindowSize⟩ := options
  have visited := documented.visits (tomlLines ⟨kernelBatchSize, commandQueueWindowSize⟩)
    (by cases kernelBatchSize <;> cases commandQueueWindowSize <;> simp [tomlLines])
    (tomlLines_bare _)
  rw [createGpuOptionsFromToml, opaqueGpuOptionsData]
  cases kernelBatchSize with
  | none =>
      cases commandQueueWindowSize with
      | none =>
          rw [List.Perm.eq_nil visited]
          rfl
      | some window =>
          rw [List.perm_singleton.mp visited]
          simp only [parseOptions, parseOption_window documented (inRange window rfl)]
  | some value =>
      cases commandQueueWindowSize with
      | none =>
          rw [List.perm_singleton.mp visited]
          simp only [parseOptions, parseOption_kernelBatchSize documented]
      | some window =>
          rcases List.perm_pair.mp visited with written | swapped
          · rw [written]
            simp only [parseOptions, parseOption_kernelBatchSize documented,
              parseOption_window documented (inRange window rfl)]
          · rw [swapped]
            simp only [parseOptions, parseOption_kernelBatchSize documented,
              parseOption_window documented (inRange window rfl)]

end Way

/-- The two options travel independently. Populating fails because of the window
exactly when it is out of range, and then leaves the options as they were without it.
Otherwise the delegate gets the window as given, or 0, and a kernel batch size that
only the given kernel batch size determines. -/
theorem queue_options_independent (upstream : Upstream) (documented : upstream.Documented) :
    (∀ kernelBatchSize commandQueueWindowSize,
      (populated upstream ⟨kernelBatchSize, commandQueueWindowSize⟩).1 =
          .error (.unexpected .errorInvalidArgument WINDOW_MESSAGE) ↔
        ∃ window, commandQueueWindowSize = some window ∧ ¬ InRange window) ∧
    (∀ window, ¬ InRange window →
      (∀ options, setCommandQueueWindowSize options window = (.errorInvalidArgument, options)) ∧
        ∀ kernelBatchSize, (populated upstream ⟨kernelBatchSize, some window⟩).2 =
          (populated upstream ⟨kernelBatchSize, none⟩).2) ∧
    ∃ delegateKernelBatchSize : Option Int32 → Int,
      (∀ value, delegateKernelBatchSize (some value) = value.toInt) ∧
      ∀ kernelBatchSize commandQueueWindowSize : Option Int32,
        (∀ window ∈ commandQueueWindowSize, InRange window) →
          travel upstream ⟨kernelBatchSize, commandQueueWindowSize⟩ =
            .ok ⟨delegateKernelBatchSize kernelBatchSize,
              (commandQueueWindowSize.map Int32.toInt).getD 0⟩ := by
  refine ⟨?_, ?_, ?_⟩
  · intro kernelBatchSize commandQueueWindowSize
    cases commandQueueWindowSize with
    | none =>
        rw [populated_of_inRange documented _ (fun _ absent => absurd absent (Option.not_mem_none _))]
        simp
    | some window =>
        by_cases inRange : InRange window
        · rw [populated_of_inRange documented _ fun _ same => Option.some.inj same ▸ inRange]
          simp [inRange]
        · rw [populated_of_outOfRange documented _ inRange]
          simp [inRange]
  · intro window outOfRange
    refine ⟨setCommandQueueWindowSize_of_outOfRange outOfRange, fun kernelBatchSize => ?_⟩
    rw [populated_of_outOfRange documented _ outOfRange, populated_of_inRange documented _
      fun _ absent => absurd absent (Option.not_mem_none _)]
  · obtain ⟨unset, returned⟩ := documented.returns
    refine ⟨fun kernelBatchSize => (kernelBatchSize.getD unset).toInt, fun _ => rfl, ?_⟩
    intro kernelBatchSize commandQueueWindowSize inRange
    have read := @createGpuOptionsFromToml_payload _ ⟨kernelBatchSize, commandQueueWindowSize⟩
      documented inRange
    rw [travel, populated_of_inRange documented _ inRange]
    dsimp only
    rw [read]
    dsimp only
    rw [createDelegate, returned, getCommandQueueWindowSize]
    cases commandQueueWindowSize <;> rfl

/-! ### A reader of plain lines -/

/-- The key and the value of a line. -/
def readTomlLine (line : List Char) : String × String :=
  (String.ofList (line.takeWhile (· ≠ ' ')), String.ofList ((line.dropWhile (· ≠ ' ')).drop 3))

def plainUpstream : Upstream where
  setKernelBatchSize options value := (.ok, { options with kernelBatchSize := some value })
  getKernelBatchSize options := options.kernelBatchSize.getD 0
  populateOther options _ _ := ((.errorInvalidArgument, "Unknown GPU options key: "), options)
  readToml text := (splitLines text.toList).map readTomlLine
  parseTomlInt text := (Json.readNumber text.toList).map Prod.fst
  parseOther options _ _ := (.errorInvalidArgument, options)

/-- The characters of keys and numbers neither end a line nor a key. -/
theorem plain_of_bare {char : Char}
    (bare : char.isAlphanum = true ∨ char = '_' ∨ char = '-') :
    isLineBreak char = false ∧ char ≠ ' ' := by
  have special : ∀ other ∈ ['\n', '\x0b', '\x0c', '\r', '\x1c', '\x1d', '\x1e', '\u0085',
      '\u2028', '\u2029', ' '], other.isAlphanum = false ∧ other ≠ '_' ∧ other ≠ '-' :=
    List.all_iff_forall_prop.mp (by decide)
  have different (other : Char) (member : other ∈ ['\n', '\x0b', '\x0c', '\r', '\x1c', '\x1d',
      '\x1e', '\u0085', '\u2028', '\u2029', ' ']) : char ≠ other := by
    rintro rfl
    obtain ⟨notAlphanum, notUnderscore, notDash⟩ := special char member
    rcases bare with alphanum | underscore | dash
    · rw [notAlphanum] at alphanum
      cases alphanum
    · exact notUnderscore underscore
    · exact notDash dash
  refine ⟨decide_eq_false fun breaks => ?_, different ' ' (by decide)⟩
  exact different char (List.mem_append_left [' '] breaks) rfl

theorem decimal_bare (number : Int) :
    ∀ char ∈ Json.decimal number, char.isAlphanum = true ∨ char = '_' ∨ char = '-' := by
  have digits (magnitude : Nat) :
      ∀ char ∈ Nat.toDigits 10 magnitude, char.isAlphanum = true ∨ char = '_' ∨ char = '-' := by
    intro char member
    have digit := Nat.isDigit_of_mem_toDigits (by decide) (by decide) member
    exact Or.inl (by rw [Char.isAlphanum, digit, Bool.or_true])
  cases number with
  | ofNat magnitude => exact digits magnitude
  | negSucc magnitude =>
      exact List.forall_mem_cons.mpr ⟨Or.inr (Or.inr rfl), digits (magnitude + 1)⟩

/-- The characters of a line without its line break. -/
def tomlChars (line : String × Int32) : List Char :=
  line.1.toList ++ ' ' :: '=' :: ' ' :: Json.decimal line.2.toInt

theorem toList_tomlLine (line : String × Int32) :
    (tomlLine line).toList = tomlChars line ++ ['\n'] := by
  have equals : " = ".toList = [' ', '=', ' '] := rfl
  have lineBreak : "\n".toList = ['\n'] := rfl
  simp [tomlLine, tomlChars, intText, String.toList_append, equals, lineBreak]

theorem readTomlLine_tomlChars {line : String × Int32} (bare : IsBareKey line.1) :
    readTomlLine (tomlChars line) = (line.1, intText line.2) := by
  have noSpace : ∀ char ∈ line.1.toList, decide (char ≠ ' ') = true := fun char member =>
    decide_eq_true (plain_of_bare (bare.2 char member)).2
  rw [readTomlLine, tomlChars, List.takeWhile_append_of_pos noSpace,
    List.dropWhile_append_of_pos noSpace, List.takeWhile_cons_of_neg (by decide),
    List.dropWhile_cons_of_neg (by decide), List.append_nil, String.ofList_toList, intText]
  rfl

theorem documented_plainUpstream : plainUpstream.Documented where
  stores _ _ := rfl
  returns := ⟨0, fun _ => rfl⟩
  parses number := by
    have noDigit : Json.NoDigit [] := nofun
    have back := Json.readNumber_decimal number.toInt noDigit
    rw [List.append_nil] at back
    show (Json.readNumber (intText number).toList).map Prod.fst = _
    rw [intText, String.toList_ofList, back]
    rfl
  visits lines _ bare := by
    have whole : ∀ chars ∈ lines.map tomlChars, ∀ char ∈ chars, isLineBreak char = false := by
      rw [List.forall_mem_map]
      intro line member
      rw [tomlChars, List.forall_mem_append]
      refine ⟨fun char inKey => (plain_of_bare ((bare line member).2 char inKey)).1, ?_⟩
      rw [List.forall_mem_cons, List.forall_mem_cons, List.forall_mem_cons]
      exact ⟨by decide, by decide, by decide,
        fun char inNumber => (plain_of_bare (decimal_bare _ char inNumber)).1⟩
    have text : (joinTexts (lines.map tomlLine)).toList =
        (lines.map tomlChars).flatMap fun chars => chars ++ ['\n'] := by
      rw [joinTexts, String.toList_ofList, List.flatMap_map, List.flatMap_map]
      exact List.flatMap_congr fun line _ => toList_tomlLine line
    show ((splitLines (joinTexts (lines.map tomlLine)).toList).map readTomlLine).Perm _
    rw [text, splitLines_flatMap whole, List.map_map]
    exact List.Perm.of_eq (List.map_congr_left fun line member =>
      readTomlLine_tomlChars (bare line member))

theorem queue_options_independent_plain :
    travel plainUpstream ⟨some 4, some 1⟩ = .ok ⟨4, 1⟩ ∧
      (populated plainUpstream ⟨some 4, some 1025⟩).1 =
        .error (.unexpected .errorInvalidArgument WINDOW_MESSAGE) := by
  obtain ⟨rejected, -, delegateKernelBatchSize, given, delivered⟩ :=
    queue_options_independent plainUpstream documented_plainUpstream
  refine ⟨?_, (rejected _ _).mpr ⟨1025, rfl, by decide⟩⟩
  have inRange : ∀ window ∈ some 1, InRange window := by
    intro window given
    cases given
    decide
  rw [delivered (some 4) (some 1) inRange, given]
  rfl

end BssLiteRt.Queue

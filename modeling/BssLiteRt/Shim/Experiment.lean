import BssLiteRt.Shim.Calls
import Mathlib.Logic.Function.Basic
import Mathlib.Data.List.FinRange

/-!
Owns the experimental shim: the window that it reads from a system property, its
table of 32 queue counters, and its calls, made one at a time. What follows the
decision whether to wait is the code of the bounded shim.
-/

namespace BssLiteRt.Shim

/-! ### The window -/

def BSS_MAX_TRACKED_QUEUES : Nat := 32

def BSS_MIN_WINDOW_SIZE : Nat := 1

def BSS_MAX_WINDOW_SIZE : Nat := 1024

/-- `isspace` in the C locale. -/
def isSpace (character : UInt8) : Bool :=
  character == 32 || (9 ≤ character && character ≤ 13)

def isDigit (character : UInt8) : Bool :=
  48 ≤ character && character ≤ 57

/-- `strtol` in base 10: the number and the text at `end`, or nothing where no digit
was read. A number that `long` does not hold stays itself; the shim rejects it either
way. -/
def strtol (value : List UInt8) : Option (Int × List UInt8) :=
  let (negative, unsigned) :=
    match value.dropWhile isSpace with
    | 45 :: rest => (true, rest)
    | 43 :: rest => (false, rest)
    | rest => (false, rest)
  let digits := unsigned.takeWhile isDigit
  let magnitude : Nat := digits.foldl (fun number digit => 10 * number + (digit.toNat - 48)) 0
  if digits.isEmpty then none
  else some (if negative then -magnitude else magnitude, unsigned.dropWhile isDigit)

/-- `read_window_size`, of the property's text; an unset property has none. -/
def readWindowSize (value : List UInt8) : Nat :=
  if value.isEmpty then 0
  else
    match strtol value with
    | none => 0
    | some (parsed, rest) =>
        if rest ≠ [] ∨ parsed < BSS_MIN_WINDOW_SIZE ∨ parsed > BSS_MAX_WINDOW_SIZE then 0
        else parsed.toNat

theorem readWindowSize_le (value : List UInt8) : readWindowSize value ≤ BSS_MAX_WINDOW_SIZE := by
  unfold readWindowSize
  split
  · exact Nat.zero_le _
  · split
    · exact Nat.zero_le _
    · split
      · exact Nat.zero_le _
      · omega

/-! ### The queue table -/

structure QueueCounter where
  queue : Handle
  dispatches : UInt64
deriving DecidableEq

abbrev Slot := Fin BSS_MAX_TRACKED_QUEUES

abbrev QueueCounters := Slot → QueueCounter

def QueueCounters.empty : QueueCounters := fun _ => ⟨NULL, 0⟩

/-- The loop over the slots: the slot of the queue, and the first empty slot seen. -/
def scanSlots (counters : QueueCounters) (queue : Handle) :
    List Slot → Option Slot → Option Slot × Option Slot
  | [], empty => (none, empty)
  | slot :: rest, empty =>
      if (counters slot).queue = queue then
        (some slot, empty)
      else if empty = none ∧ (counters slot).queue = NULL then
        scanSlots counters queue rest (some slot)
      else
        scanSlots counters queue rest empty

/-- Gives the queue a slot, when it has none. -/
def selectSlot (counters : QueueCounters) (queue : Handle) : Slot × QueueCounters :=
  match scanSlots counters queue (List.finRange BSS_MAX_TRACKED_QUEUES) none with
  | (some selected, _) => (selected, counters)
  | (none, empty) =>
      let selected := empty.getD ⟨0, by decide⟩
      (selected, Function.update counters selected ⟨queue, 0⟩)

/-- Counts one more dispatch of the queue. -/
def countDispatch (counters : QueueCounters) (queue : Handle) : UInt64 × QueueCounters :=
  let (selected, counters) := selectSlot counters queue
  let dispatches := (counters selected).dispatches + 1
  (dispatches, Function.update counters selected { counters selected with dispatches })

/-! ### Calls -/

/-- The globals of the experimental shim and the state of what is outside. -/
structure Experiment (ω : Type) extends Machine ω where
  windowSize : Nat
  queueCounters : QueueCounters

/-- What a call of the experimental `clEnqueueNDRangeKernel` leaves behind. -/
structure ExperimentReturned (ω : Type) where
  status : ClInt
  performed : List VendorCall
  machine : Experiment ω

def Returned.within {ω : Type} (returned : Returned ω) (machine : Experiment ω) :
    ExperimentReturned ω :=
  ⟨returned.status, returned.performed, { machine with toMachine := returned.machine }⟩

/-- The process starts. -/
def Experiment.initial {ω : Type} (world : ω) : Experiment ω where
  globals := .initial
  world := world
  windowSize := 0
  queueCounters := .empty

namespace Experimental

variable {ω : Type}

/-- `pthread_once(&g_init_once, initialize_shim)`, under the system property. -/
def pthreadOnce (vendor : Vendor ω) (windowProperty : List UInt8) (machine : Experiment ω) :
    Experiment ω :=
  if machine.globals.initOnce then machine
  else
    { machine with
      toMachine := machine.toMachine.pthreadOnce vendor
      windowSize := readWindowSize windowProperty }

def shouldWaitAfterDispatch (queue : Handle) (machine : Experiment ω) : Bool × Experiment ω :=
  if machine.windowSize = 0 ∨ machine.globals.inferenceEnabled = false then
    (false, machine)
  else
    let (dispatches, queueCounters) := countDispatch machine.queueCounters queue
    (dispatches % UInt64.ofNat machine.windowSize == 0,
      { machine with globals := machine.globals.addDispatch, queueCounters })

def clEnqueueNDRangeKernel (vendor : Vendor ω) (windowProperty : List UInt8) (args : EnqueueArgs)
    (machine : Experiment ω) : ExperimentReturned ω :=
  let machine := pthreadOnce vendor windowProperty machine
  if machine.globals.real.enqueue = false then
    ⟨CL_INVALID_OPERATION, [], machine⟩
  else
    let (waitAfterDispatch, machine) := shouldWaitAfterDispatch args.commandQueue machine
    (submitKernel vendor waitAfterDispatch args machine.toMachine).within machine

def nativeReset (vendor : Vendor ω) (windowProperty : List UInt8) (machine : Experiment ω) :
    Experiment ω :=
  let machine := pthreadOnce vendor windowProperty machine
  { machine with globals := machine.globals.resetCounters, queueCounters := .empty }

def nativeSetInferenceEnabled (vendor : Vendor ω) (windowProperty : List UInt8) (enabled : Bool)
    (machine : Experiment ω) : Experiment ω :=
  let machine := pthreadOnce vendor windowProperty machine
  { machine with globals := { machine.globals with inferenceEnabled := enabled } }

end Experimental

end BssLiteRt.Shim

import BssLiteRt.BoundedAar.Accelerator
import BssLiteRt.Library.A64

/-!
Owns `patch_runtime_kernel_batch.py`: the setter it rewrites, as bytes and as code that
runs, and the rest of the runtime, which the rewrite leaves alone.
-/

namespace BssLiteRt.Experiment

open BssLiteRt.Library BssLiteRt.Library.Occurrences BssLiteRt.Library.A64 BssLiteRt.Python
open BssLiteRt.BoundedAar (Redirection getElem?_window)

/-! ### The script -/

def OFFICIAL_RUNTIME_SHA256 : String :=
  "366e3e040b00692158f9f8f9105870672c93348a3d8e9024120b40045a074b0b"

def OLD_SETTER : Bytes := [
  0xe8, 0x03, 0x00, 0xaa,  -- mov x8, x0
  0x20, 0x00, 0x80, 0x52,  -- mov w0, #1
  0x88, 0x00, 0x00, 0xb4,  -- cbz x8, return
  0x00, 0x61, 0x02, 0x39,  -- strb w0, [x8, #0x98]
  0xe0, 0x03, 0x1f, 0x2a,  -- mov w0, wzr
  0x01, 0x95, 0x00, 0xb9,  -- str w1, [x8, #0x94]
  0xc0, 0x03, 0x5f, 0xd6]  -- ret

def NEW_SETTER : Bytes := [
  0xe8, 0x03, 0x00, 0xaa,
  0x20, 0x00, 0x80, 0x52,
  0x88, 0x00, 0x00, 0xb4,
  0x00, 0x41, 0x04, 0x39,  -- strb w0, [x8, #0x110]
  0xe0, 0x03, 0x1f, 0x2a,
  0x01, 0x0d, 0x01, 0xb9,  -- str w1, [x8, #0x10c]
  0xc0, 0x03, 0x5f, 0xd6]

def REWRITTEN_INSTRUCTION_BYTES : Nat := 8

/-- `sum(old != new for old, new in zip(data, patched))` -/
def changedBytes (data patched : Bytes) : Nat :=
  (data.zip patched).countP fun pair => pair.1 != pair.2

/-- `main`, with the test of the pinned hash as a parameter. -/
def redirectSetter (py : StandardLibrary) (isOfficial : Bytes → Bool) (data : Bytes) :
    Py Redirection := do
  raiseIf (!isOfficial data) .systemExit
    ("Official LiteRT runtime hash mismatch: expected " ++ OFFICIAL_RUNTIME_SHA256 ++
      ", got " ++ py.hashlib.sha256 data)
  let occurrences := countBytes OLD_SETTER data
  raiseIf (occurrences ≠ 1) .systemExit
    ("Expected one Kotlin GPU option setter, found " ++ toString occurrences)
  let offset ← indexBytes OLD_SETTER data
  let patched := data.take offset ++ NEW_SETTER ++ data.drop (offset + OLD_SETTER.length)
  raiseIf (patched.length ≠ data.length) .systemExit "Patched runtime size changed unexpectedly"
  return {
    patched
    printed := toString offset ++ ":" ++ py.hashlib.sha256 patched ++ ":" ++
      toString OLD_SETTER.length ++ ":" ++ toString REWRITTEN_INSTRUCTION_BYTES ++ ":" ++
      toString (changedBytes data patched) }

def patchRuntimeKernelBatch (py : StandardLibrary) (data : Bytes) : Py Redirection :=
  redirectSetter py (fun data => py.hashlib.sha256 data = OFFICIAL_RUNTIME_SHA256) data

/-! ### The setter as code -/

/-- An `optional<int>` of the GPU options. -/
structure OptionField where
  engaged : Pointer
  value : Pointer
deriving DecidableEq

def numStepsOfCommandBufferPreparations : OptionField := ⟨0x98, 0x94⟩

def kernelBatchSize : OptionField := ⟨0x110, 0x10c⟩

/-- What the serializer reads of an option. -/
def OptionField.get (field : OptionField) (memory : Pointer → UInt8) (options : Pointer) :
    Option (BitVec 32) :=
  if memory (options + field.engaged) = 0 then none
  else some (load32 memory (options + field.value))

/-- The setter of an option refuses null options. -/
def OptionField.set (field : OptionField) (machine : Machine) : Machine :=
  let options := machine.registers 0
  let saved := machine.write 8 options
  if options = 0 then { saved.write 0 1 with pc := machine.registers 30 }
  else
    { saved.write 0 0 with
      memory := store32 (store8 machine.memory (options + field.engaged) 1)
        (options + field.value) ((machine.registers 1).setWidth 32)
      pc := machine.registers 30 }

def optionSetter (engaged value : BitVec 12) : List Instruction := [
  .orr true 8 31 0,
  .movz 0 1,
  .cbz 8 4,
  .strb 0 8 engaged,
  .orr false 0 31 31,
  .str 1 8 value,
  .ret 30]

theorem disassemble_OLD_SETTER : disassemble OLD_SETTER = some (optionSetter 0x98 0x25) := by
  decide

theorem disassemble_NEW_SETTER : disassemble NEW_SETTER = some (optionSetter 0x110 0x43) := by
  decide

/-- A null test takes four instructions, a store seven. -/
def setterSteps (machine : Machine) : Nat :=
  if machine.registers 0 = 0 then 4 else 7

section Setter

variable {others : BitVec 32 → Machine → Option Machine} {code : List UInt8} {start : Pointer}
  {machine : Machine}

/-- The machine before the null test. -/
def entered (machine : Machine) : Machine :=
  { ((machine.write 8 (machine.registers 0)).write 0 1) with pc := machine.pc + 8 }

theorem run_entered {engaged value : BitVec 12}
    (located : Located code start (optionSetter engaged value)) (atStart : machine.pc = start)
    (steps : Nat) :
    run others code (steps + 2) machine = run others code steps (entered machine) := by
  subst atStart
  rw [run_step (located.step 0 rfl (BitVec.add_zero _).symm), run_step (located.step 1 rfl rfl)]
  congr 1
  simp [entered, Machine.execute, Machine.next, Machine.write, Machine.read, BitVec.add_assoc]

theorem read_entered_eight : (entered machine).read 8 = machine.registers 0 := by
  simp [entered, Machine.write, Machine.read]

theorem run_optionSetter {engaged value : BitVec 12}
    (located : Located code start (optionSetter engaged value)) (atStart : machine.pc = start) :
    run others code (setterSteps machine) machine =
      some (OptionField.set ⟨engaged.setWidth 64, (value ++ 0#2).setWidth 64⟩ machine) := by
  have test : (entered machine).pc = start + BitVec.ofNat 64 (4 * 2) := by
    rw [← atStart]
    rfl
  by_cases null : machine.registers 0 = 0
  · have taken : (entered machine).execute (.cbz 8 4) =
        { entered machine with pc := start + BitVec.ofNat 64 (4 * 6) } := by
      rw [Machine.execute, read_entered_eight, if_pos null, test, BitVec.add_assoc]
      rfl
    rw [setterSteps, if_pos null, run_entered located atStart,
      run_step (located.step 2 rfl test), taken, run_step (located.step 6 rfl rfl), run]
    simp only [OptionField.set, if_pos null]
    simp [Machine.execute, entered, Machine.write, Machine.read]
  · have passed : (entered machine).execute (.cbz 8 4) =
        { entered machine with pc := start + BitVec.ofNat 64 (4 * 3) } := by
      rw [Machine.execute, read_entered_eight, if_neg null, Machine.next, test, BitVec.add_assoc]
      rfl
    rw [setterSteps, if_neg null, run_entered located atStart,
      run_step (located.step 2 rfl test), passed, run_step (located.step 3 rfl rfl),
      run_step (located.step 4 rfl (BitVec.add_assoc _ _ _)),
      run_step (located.step 5 rfl ?_), run_step (located.step 6 rfl ?_), run]
    · simp only [OptionField.set, if_neg null]
      simp [Machine.execute, entered, Machine.write, Machine.read, Machine.next]
    · show start + 12#64 + 4#64 + 4#64 + 4#64 = start + 24#64
      bv_omega
    · show start + 12#64 + 4#64 + 4#64 = start + 20#64
      bv_omega

theorem run_OLD_SETTER (located : Located code start (optionSetter 0x98 0x25))
    (atStart : machine.pc = start) :
    run others code (setterSteps machine) machine =
      some (numStepsOfCommandBufferPreparations.set machine) := by
  have field : (⟨(0x98 : BitVec 12).setWidth 64, ((0x25 : BitVec 12) ++ 0#2).setWidth 64⟩ :
      OptionField) = numStepsOfCommandBufferPreparations := by decide
  rw [run_optionSetter located atStart, field]

theorem run_NEW_SETTER (located : Located code start (optionSetter 0x110 0x43))
    (atStart : machine.pc = start) :
    run others code (setterSteps machine) machine = some (kernelBatchSize.set machine) := by
  have field : (⟨(0x110 : BitVec 12).setWidth 64, ((0x43 : BitVec 12) ++ 0#2).setWidth 64⟩ :
      OptionField) = kernelBatchSize := by decide
  rw [run_optionSetter located atStart, field]

end Setter

/-! ### An option and the others -/

namespace OptionField

def bytes (field : OptionField) : List Pointer :=
  [field.engaged, field.value, field.value + 1, field.value + 2, field.value + 3]

variable {field other : OptionField} {machine : Machine}

theorem memory_set_null (null : machine.registers 0 = 0) :
    (field.set machine).memory = machine.memory := by
  simp only [set, if_pos null]
  rfl

theorem memory_set_other {place : Pointer} (outside : place ∉ field.bytes) :
    (field.set machine).memory (machine.registers 0 + place) =
      machine.memory (machine.registers 0 + place) := by
  by_cases null : machine.registers 0 = 0
  · rw [memory_set_null null]
  simp only [bytes, List.mem_cons, List.not_mem_nil, or_false, not_or] at outside
  simp only [set, if_neg null]
  rw [store32_other, store8_other]
  · exact fun same => outside.1 ((BitVec.add_right_inj _).mp same)
  · simp only [A64.Outside, BitVec.add_assoc, ne_eq, BitVec.add_right_inj]
    exact outside.2

theorem get_set (nonnull : machine.registers 0 ≠ 0)
    (apart : A64.Outside field.engaged field.value) :
    field.get (field.set machine).memory (machine.registers 0) =
      some ((machine.registers 1).setWidth 32) := by
  have engaged : (field.set machine).memory (machine.registers 0 + field.engaged) = 1 := by
    simp only [set, if_neg nonnull]
    rw [store32_other]
    · exact store8_self _
    · simpa only [A64.Outside, BitVec.add_assoc, ne_eq, BitVec.add_right_inj] using apart
  rw [get, engaged, if_neg (by decide)]
  simp only [set, if_neg nonnull]
  rw [load32_store32]

theorem get_set_other (apart : ∀ place ∈ other.bytes, place ∉ field.bytes) :
    other.get (field.set machine).memory (machine.registers 0) =
      other.get machine.memory (machine.registers 0) := by
  have same (place : Pointer) (member : place ∈ other.bytes) :=
    @memory_set_other field machine place (apart place member)
  have word : load32 (field.set machine).memory (machine.registers 0 + other.value) =
      load32 machine.memory (machine.registers 0 + other.value) := by
    apply load32_congr
    simp only [BitVec.add_assoc]
    exact ⟨same _ (by simp [bytes]), same _ (by simp [bytes]), same _ (by simp [bytes]),
      same _ (by simp [bytes])⟩
  rw [get, get, same _ (by simp [bytes]), word]

theorem outside_kernelBatchSize :
    A64.Outside kernelBatchSize.engaged kernelBatchSize.value := by decide

theorem apart_fields (place : Pointer)
    (member : place ∈ numStepsOfCommandBufferPreparations.bytes) :
    place ∉ kernelBatchSize.bytes := by
  simp only [bytes, numStepsOfCommandBufferPreparations, List.mem_cons, List.not_mem_nil,
    or_false] at member
  rcases member with rfl | rfl | rfl | rfl | rfl <;> simp [bytes, kernelBatchSize]

end OptionField

/-! ### The rewritten bytes -/

section Rewritten

variable {front back : Bytes} {place : Nat}

theorem unbordered_OLD_SETTER : Unbordered OLD_SETTER := by decide

theorem apart_OLD_NEW : Apart OLD_SETTER NEW_SETTER := by decide

theorem apart_NEW_OLD : Apart NEW_SETTER OLD_SETTER := by decide

theorem length_NEW_SETTER : NEW_SETTER.length = OLD_SETTER.length := by decide

theorem getElem?_setters (shift : Nat) :
    NEW_SETTER[shift]? ≠ OLD_SETTER[shift]? ↔ shift ∈ [13, 14, 21, 22] := by
  by_cases inside : shift < 28
  · have table : ∀ shift < 28, (NEW_SETTER[shift]? ≠ OLD_SETTER[shift]? ↔
        shift ∈ [13, 14, 21, 22]) := by decide
    exact table shift inside
  · have pastNew : NEW_SETTER.length ≤ shift := Nat.le_of_not_lt inside
    have pastOld : OLD_SETTER.length ≤ shift := Nat.le_of_not_lt inside
    rw [List.getElem?_eq_none pastNew, List.getElem?_eq_none pastOld]
    simp only [ne_eq, not_true_eq_false, List.mem_cons, List.not_mem_nil, or_false, false_iff]
    omega

/-- Two bytes of the one offset and two of the other change. -/
theorem getElem?_rewritten :
    (front ++ NEW_SETTER ++ back)[place]? ≠ (front ++ OLD_SETTER ++ back)[place]? ↔
      place ∈ [front.length + 13, front.length + 14, front.length + 21, front.length + 22] := by
  by_cases outside : place < front.length ∨ front.length + OLD_SETTER.length ≤ place
  · rw [getElem?_window length_NEW_SETTER outside]
    have long : OLD_SETTER.length = 28 := rfl
    simp only [ne_eq, not_true_eq_false, List.mem_cons, List.not_mem_nil, or_false, false_iff]
    omega
  · obtain ⟨shift, rfl⟩ : ∃ shift, place = front.length + shift :=
      ⟨place - front.length, by omega⟩
    have short : shift < OLD_SETTER.length := by omega
    have shown {window : Bytes} (sameLength : window.length = OLD_SETTER.length) :
        (front ++ window ++ back)[front.length + shift]? = window[shift]? := by
      rw [List.append_assoc, List.getElem?_append_right (Nat.le_add_right _ _),
        Nat.add_sub_cancel_left, List.getElem?_append_left (by omega)]
    rw [shown length_NEW_SETTER, shown rfl, getElem?_setters]
    simp only [List.mem_cons, List.not_mem_nil, Nat.add_left_cancel_iff]

theorem changedBytes_self (data : Bytes) : changedBytes data data = 0 := by
  induction data with
  | nil => rfl
  | cons byte rest hypothesis =>
      rw [changedBytes, List.zip_cons_cons, List.countP_cons_of_neg (by simp)]
      exact hypothesis

theorem changedBytes_append {old new rest other : Bytes} (sameLength : old.length = new.length) :
    changedBytes (old ++ rest) (new ++ other) = changedBytes old new + changedBytes rest other := by
  rw [changedBytes, List.zip_append sameLength, List.countP_append]
  rfl

theorem changedBytes_rewritten :
    changedBytes (front ++ OLD_SETTER ++ back) (front ++ NEW_SETTER ++ back) = 4 := by
  rw [List.append_assoc, List.append_assoc, changedBytes_append rfl,
    changedBytes_append length_NEW_SETTER.symm, changedBytes_self, changedBytes_self]
  decide

end Rewritten

/-- What the script has read and written when it completes. -/
theorem redirectSetter_eq_ok {py : StandardLibrary} {isOfficial : Bytes → Bool} {data : Bytes}
    {redirection : Redirection} (completed : redirectSetter py isOfficial data = .ok redirection) :
    ∃ front back, indexBytes OLD_SETTER data = .ok front.length ∧
      data = front ++ OLD_SETTER ++ back ∧
      redirection.patched = front ++ NEW_SETTER ++ back ∧
      redirection.printed = toString front.length ++ ":" ++
        py.hashlib.sha256 redirection.patched ++ ":28:8:4" ∧
      countBytes OLD_SETTER data = 1 := by
  simp only [redirectSetter, bind_eq_ok, exists_unit, raiseIf_eq_ok, pure_eq_ok,
    decide_eq_false_iff_not, not_not] at completed
  obtain ⟨-, countedOnce, offset, found, -, returned⟩ := completed
  cases returned
  have occurs := occursAt_indexBytes found
  have inside := occurs.lt_length (by decide)
  have start : (data.take offset).length = offset := by
    rw [List.length_take, Nat.min_eq_left inside.le]
  refine ⟨_, _, start.symm ▸ found, occurs.split, rfl, ?_, countedOnce⟩
  have changed := @changedBytes_rewritten (data.take offset)
    (data.drop (offset + OLD_SETTER.length))
  rw [← occurs.split] at changed
  simp only [changed, start, String.append_assoc]
  rfl

theorem redirectSetter_at {py : StandardLibrary} {isOfficial : Bytes → Bool} {data : Bytes}
    {redirection : Redirection} {offset : Nat}
    (completed : redirectSetter py isOfficial data = .ok redirection)
    (found : indexBytes OLD_SETTER data = .ok offset) :
    ∃ front back, data = front ++ OLD_SETTER ++ back ∧
      redirection.patched = front ++ NEW_SETTER ++ back ∧ front.length = offset := by
  obtain ⟨front, back, foundHere, shape, patched, -, -⟩ := redirectSetter_eq_ok completed
  exact ⟨front, back, shape, patched, Except.ok.inj (foundHere.symm.trans found)⟩

/-- The script changes four bytes of the setter and nothing else, says so, and cannot
be applied to what it wrote. -/
theorem kernel_batch_patch_exact (py : StandardLibrary) (isOfficial : Bytes → Bool)
    (data : Bytes) (redirection : Redirection)
    (completed : redirectSetter py isOfficial data = .ok redirection) :
    ∃ offset,
      redirection.printed =
        toString offset ++ ":" ++ py.hashlib.sha256 redirection.patched ++ ":28:8:4" ∧
      redirection.patched.length = data.length ∧
      (∀ place, redirection.patched[place]? ≠ data[place]? ↔
        place ∈ [offset + 13, offset + 14, offset + 21, offset + 22]) ∧
      (∀ place, ¬ OccursAt OLD_SETTER redirection.patched place) ∧
      ∀ isOfficial again, redirectSetter py isOfficial redirection.patched ≠ .ok again := by
  obtain ⟨front, back, -, rfl, patched, printed, once⟩ := redirectSetter_eq_ok completed
  have absent := absent_of_replaced (by decide) length_NEW_SETTER apart_NEW_OLD apart_OLD_NEW
    (existsUnique_of_countBytes unbordered_OLD_SETTER (by decide) once)
  refine ⟨front.length, printed, ?_, ?_, ?_, ?_⟩
  · simp only [patched, List.length_append, length_NEW_SETTER]
  · intro place
    rw [patched]
    exact getElem?_rewritten
  · rw [patched]
    exact absent
  · intro isOfficial again completedAgain
    obtain ⟨front', back', -, shape, -, -, -⟩ := redirectSetter_eq_ok completedAgain
    have occurs := occursAt_append front' OLD_SETTER back'
    rw [← shape, patched] at occurs
    exact absent _ occurs

theorem kernel_batch_patch_exact_sample :
    ∃ redirection : Redirection,
      redirectSetter concreteLibrary (fun _ => true) ([1, 2, 3, 4] ++ OLD_SETTER ++ [5]) =
        .ok redirection ∧
      ∀ again,
        redirectSetter concreteLibrary (fun _ => true) redirection.patched ≠ .ok again := by
  have completed : redirectSetter concreteLibrary (fun _ => true)
      ([1, 2, 3, 4] ++ OLD_SETTER ++ [5]) = .ok _ := rfl
  obtain ⟨_, _, _, _, _, refused⟩ := kernel_batch_patch_exact _ _ _ _ completed
  exact ⟨_, completed, refused _⟩

/-! ### The patched runtime -/

/-- Elsewhere both files hold the same words. -/
theorem fetch_rewritten {front back : Bytes} {pc : Pointer} (aligned : front.length % 4 = 0)
    (engagedStore : pc ≠ BitVec.ofNat 64 (front.length + 12))
    (valueStore : pc ≠ BitVec.ofNat 64 (front.length + 20)) :
    fetch (front ++ NEW_SETTER ++ back) pc = fetch (front ++ OLD_SETTER ++ back) pc := by
  by_cases word : pc.toNat % 4 = 0
  · apply fetch_congr
    intro place start before
    by_contra differs
    have changed := getElem?_rewritten.mp differs
    simp only [List.mem_cons, List.not_mem_nil, or_false] at changed
    have long : OLD_SETTER.length = 28 := rfl
    have notEngaged : pc.toNat ≠ front.length + 12 := fun same =>
      engagedStore (by rw [← same, BitVec.ofNat_toNat, BitVec.setWidth_eq])
    have notValue : pc.toNat ≠ front.length + 20 := fun same =>
      valueStore (by rw [← same, BitVec.ofNat_toNat, BitVec.setWidth_eq])
    omega
  · rw [fetch, fetch, if_neg word, if_neg word]

/-- Kotlin's setter, which set the unused option, sets the kernel batch size when the
serializer reads it, and leaves the other; and code that fetches neither of its two
stores runs as before, whatever its instructions do. -/
theorem kernel_batch_setter_redirected (py : StandardLibrary) (isOfficial : Bytes → Bool)
    (data : Bytes) (redirection : Redirection) (offset : Nat)
    (completed : redirectSetter py isOfficial data = .ok redirection)
    (found : indexBytes OLD_SETTER data = .ok offset) (aligned : offset % 4 = 0)
    (few : data.length ≤ 2 ^ 64) (others : BitVec 32 → Machine → Option Machine)
    (machine : Machine) :
    (machine.pc = BitVec.ofNat 64 offset →
      run others data (setterSteps machine) machine =
        some (numStepsOfCommandBufferPreparations.set machine) ∧
      ∃ returned, run others redirection.patched (setterSteps machine) machine = some returned ∧
        returned = kernelBatchSize.set machine ∧
        numStepsOfCommandBufferPreparations.get returned.memory (machine.registers 0) =
          numStepsOfCommandBufferPreparations.get machine.memory (machine.registers 0) ∧
        (machine.registers 0 ≠ 0 →
          kernelBatchSize.get returned.memory (machine.registers 0) =
            some ((machine.registers 1).setWidth 32))) ∧
    ∀ steps,
      (∀ earlier < steps, ∀ reached, run others data earlier machine = some reached →
        reached.pc ≠ BitVec.ofNat 64 (offset + 12) ∧
          reached.pc ≠ BitVec.ofNat 64 (offset + 20)) →
      run others redirection.patched steps machine = run others data steps machine := by
  obtain ⟨front, back, shape, patched, rfl⟩ := redirectSetter_at completed found
  have fits : front.length + OLD_SETTER.length ≤ 2 ^ 64 := by
    have total := few
    rw [shape, List.length_append, List.length_append] at total
    exact Nat.le_trans (Nat.le_add_right _ _) total
  subst shape
  refine ⟨fun atStart => ?_, ?_⟩
  · have old := @located_window front OLD_SETTER back _ aligned fits disassemble_OLD_SETTER
    have new := @located_window front NEW_SETTER back _ aligned fits disassemble_NEW_SETTER
    refine ⟨run_OLD_SETTER old atStart, _, ?_, rfl, ?_, ?_⟩
    · rw [patched]
      exact run_NEW_SETTER new atStart
    · exact OptionField.get_set_other OptionField.apart_fields
    · exact fun nonnull => OptionField.get_set nonnull OptionField.outside_kernelBatchSize
  · intro steps apart
    rw [patched]
    refine run_congr steps fun earlier before reached isReached => ?_
    obtain ⟨engagedStore, valueStore⟩ := apart earlier before reached isReached
    exact fetch_rewritten aligned engagedStore valueStore

theorem kernel_batch_setter_redirected_sample :
    ∃ redirection,
      redirectSetter concreteLibrary (fun _ => true) ([1, 2, 3, 4] ++ OLD_SETTER) =
        .ok redirection ∧
      ∀ machine : Machine, machine.pc = 4 → machine.registers 0 = 0x1000 →
        ∃ returned, run (fun _ _ => none) redirection.patched 7 machine = some returned ∧
          kernelBatchSize.get returned.memory 0x1000 =
            some ((machine.registers 1).setWidth 32) := by
  have completed : redirectSetter concreteLibrary (fun _ => true) ([1, 2, 3, 4] ++ OLD_SETTER) =
      .ok _ := rfl
  refine ⟨_, completed, fun machine atStart options => ?_⟩
  have redirected := kernel_batch_setter_redirected _ _ _ _ 4 completed rfl (by decide)
    (by decide) (fun _ _ => none) machine
  obtain ⟨-, returned, isReturned, -, -, read⟩ := redirected.1 atStart
  rw [options] at read
  refine ⟨returned, ?_, read (by decide)⟩
  rw [← isReturned, setterSteps, options]
  rfl

end BssLiteRt.Experiment

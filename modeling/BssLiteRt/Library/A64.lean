import Mathlib.Algebra.Order.Group.Nat
import Mathlib.Logic.Function.Basic

/-!
Owns the A64 instructions of a short leaf function, the words they are decoded from, and
runs of code in which only the fetched words count.
-/

namespace BssLiteRt.Library.A64

abbrev Register := BitVec 5

abbrev Pointer := BitVec 64

/-- Register 31 is the stack pointer where it is a base, and zero elsewhere. -/
@[ext]
structure Machine where
  registers : Register → BitVec 64
  memory : Pointer → UInt8
  pc : Pointer

namespace Machine

def read (machine : Machine) (register : Register) : BitVec 64 :=
  if register = 31 then 0 else machine.registers register

def write (machine : Machine) (register : Register) (value : BitVec 64) : Machine :=
  if register = 31 then machine
  else { machine with registers := Function.update machine.registers register value }

end Machine

/-! ### Memory -/

section Memory

variable (memory : Pointer → UInt8) (address : Pointer)

/-- A little-endian word. -/
def load32 : BitVec 32 :=
  (memory (address + 3)).toBitVec ++ (memory (address + 2)).toBitVec ++
    (memory (address + 1)).toBitVec ++ (memory address).toBitVec

def store8 (byte : BitVec 8) : Pointer → UInt8 :=
  Function.update memory address ⟨byte⟩

def store32 (word : BitVec 32) : Pointer → UInt8 :=
  store8 (store8 (store8 (store8 memory address (word.extractLsb' 0 8))
    (address + 1) (word.extractLsb' 8 8)) (address + 2) (word.extractLsb' 16 8))
    (address + 3) (word.extractLsb' 24 8)

variable {memory address}

@[simp] theorem store8_self (byte : BitVec 8) : store8 memory address byte address = ⟨byte⟩ :=
  Function.update_self _ _ _

theorem store8_other {other : Pointer} (byte : BitVec 8) (different : other ≠ address) :
    store8 memory address byte other = memory other :=
  Function.update_of_ne different _ _

/-- The address lies outside a word. -/
def Outside (other address : Pointer) : Prop :=
  other ≠ address ∧ other ≠ address + 1 ∧ other ≠ address + 2 ∧ other ≠ address + 3

instance (other address : Pointer) : Decidable (Outside other address) :=
  inferInstanceAs (Decidable (_ ∧ _))

theorem store32_other {other : Pointer} (word : BitVec 32) (outside : Outside other address) :
    store32 memory address word other = memory other := by
  obtain ⟨first, second, third, fourth⟩ := outside
  rw [store32, store8_other _ fourth, store8_other _ third, store8_other _ second,
    store8_other _ first]

theorem append_bytes (word : BitVec 32) :
    word.extractLsb' 24 8 ++ word.extractLsb' 16 8 ++ word.extractLsb' 8 8 ++
      word.extractLsb' 0 8 = word := by
  have upper : word.extractLsb' 24 8 ++ word.extractLsb' 16 8 = word.extractLsb' 16 16 :=
    BitVec.extractLsb'_append_extractLsb'_eq_extractLsb' rfl
  have most : word.extractLsb' 16 16 ++ word.extractLsb' 8 8 = word.extractLsb' 8 24 :=
    BitVec.extractLsb'_append_extractLsb'_eq_extractLsb' rfl
  rw [upper, most]
  exact BitVec.extractLsb'_append_extractLsb'

theorem load32_store32 (word : BitVec 32) :
    load32 (store32 memory address word) address = word := by
  have first : store32 memory address word address = ⟨word.extractLsb' 0 8⟩ := by
    rw [store32, store8_other _ (by bv_omega), store8_other _ (by bv_omega),
      store8_other _ (by bv_omega), store8_self]
  have second : store32 memory address word (address + 1) = ⟨word.extractLsb' 8 8⟩ := by
    rw [store32, store8_other _ (by bv_omega), store8_other _ (by bv_omega), store8_self]
  have third : store32 memory address word (address + 2) = ⟨word.extractLsb' 16 8⟩ := by
    rw [store32, store8_other _ (by bv_omega), store8_self]
  have fourth : store32 memory address word (address + 3) = ⟨word.extractLsb' 24 8⟩ := by
    rw [store32, store8_self]
  rw [load32, first, second, third, fourth]
  exact append_bytes word

theorem load32_congr {memory' : Pointer → UInt8}
    (same : memory' address = memory address ∧ memory' (address + 1) = memory (address + 1) ∧
      memory' (address + 2) = memory (address + 2) ∧
      memory' (address + 3) = memory (address + 3)) :
    load32 memory' address = load32 memory address := by
  obtain ⟨first, second, third, fourth⟩ := same
  rw [load32, first, second, third, fourth, ← load32]

end Memory

/-! ### Instructions -/

inductive Instruction where
  | orr (wide : Bool) (d n m : Register)
  | movz (d : Register) (value : BitVec 16)
  | cbz (t : Register) (offset : BitVec 19)
  | strb (t n : Register) (offset : BitVec 12)
  | str (t n : Register) (offset : BitVec 12)
  | ret (n : Register)
deriving DecidableEq, Repr

/-- `ORR` without a shift, `MOVZ` of the low half of a `W` register, `CBZ` of an `X`
register, and `STRB`, `STR` of `W` registers with an unsigned offset. -/
def decode (word : BitVec 32) : Option Instruction :=
  let d := word.extractLsb' 0 5
  let n := word.extractLsb' 5 5
  let m := word.extractLsb' 16 5
  if word.extractLsb' 21 10 = 0b0101010000 ∧ word.extractLsb' 10 6 = 0 then
    some (.orr word.msb d n m)
  else if word.extractLsb' 21 11 = 0b01010010100 then
    some (.movz d (word.extractLsb' 5 16))
  else if word.extractLsb' 24 8 = 0b10110100 then
    some (.cbz d (word.extractLsb' 5 19))
  else if word.extractLsb' 22 10 = 0b0011100100 then
    some (.strb d n (word.extractLsb' 10 12))
  else if word.extractLsb' 22 10 = 0b1011100100 then
    some (.str d n (word.extractLsb' 10 12))
  else if word.extractLsb' 10 22 = 0b1101011001011111000000 ∧ d = 0 then
    some (.ret n)
  else none

namespace Machine

def next (machine : Machine) : Machine :=
  { machine with pc := machine.pc + 4 }

def execute (machine : Machine) : Instruction → Machine
  | .orr wide d n m =>
      let value := machine.read n ||| machine.read m
      (machine.write d (if wide then value else (value.setWidth 32).setWidth 64)).next
  | .movz d value => (machine.write d (value.setWidth 64)).next
  | .cbz t offset =>
      if machine.read t = 0 then
        { machine with pc := machine.pc + (offset ++ 0#2).signExtend 64 }
      else machine.next
  | .strb t n offset =>
      let address := machine.registers n + offset.setWidth 64
      ({ machine with
          memory := store8 machine.memory address ((machine.read t).setWidth 8) } : Machine).next
  | .str t n offset =>
      let address := machine.registers n + (offset ++ 0#2).setWidth 64
      ({ machine with
          memory := store32 machine.memory address ((machine.read t).setWidth 32) } : Machine).next
  | .ret n => { machine with pc := machine.read n }

end Machine

/-! ### Runs -/

def word (first second third fourth : UInt8) : BitVec 32 :=
  fourth.toBitVec ++ third.toBitVec ++ second.toBitVec ++ first.toBitVec

/-- The aligned word at an address of the code. -/
def fetch (code : List UInt8) (pc : Pointer) : Option (BitVec 32) :=
  if pc.toNat % 4 = 0 then do
    let first ← code[pc.toNat]?
    let second ← code[pc.toNat + 1]?
    let third ← code[pc.toNat + 2]?
    let fourth ← code[pc.toNat + 3]?
    return word first second third fourth
  else none

section Runs

variable (others : BitVec 32 → Machine → Option Machine) (code : List UInt8)

/-- The instructions that are not decoded here do whatever `others` says. -/
def step (machine : Machine) : Option Machine :=
  (fetch code machine.pc).bind fun word =>
    match decode word with
    | some instruction => some (machine.execute instruction)
    | none => others word machine

def run : Nat → Machine → Option Machine
  | 0, machine => some machine
  | steps + 1, machine => (step others code machine).bind (run steps)

variable {others code} {machine : Machine}

theorem run_step {after : Machine} (stepped : step others code machine = some after)
    (steps : Nat) : run others code (steps + 1) machine = run others code steps after := by
  rw [run, stepped, Option.bind_some]

/-- A run sees nothing of its code but the words that it fetches. -/
theorem run_congr {code' : List UInt8} (steps : Nat)
    (same : ∀ earlier < steps, ∀ reached, run others code earlier machine = some reached →
      fetch code' reached.pc = fetch code reached.pc) :
    run others code' steps machine = run others code steps machine := by
  induction steps generalizing machine with
  | zero => rfl
  | succ steps hypothesis =>
      have first := same 0 (Nat.succ_pos steps) machine rfl
      have steppedSame : step others code' machine = step others code machine := by
        rw [step, first, ← step]
      rw [run, run, steppedSame]
      cases stepped : step others code machine with
      | none => rfl
      | some after =>
          refine hypothesis fun earlier before reached isReached => ?_
          refine same (earlier + 1) (Nat.succ_lt_succ before) reached ?_
          rw [run_step stepped, isReached]

end Runs

/-! ### Code at a place -/

def disassemble : List UInt8 → Option (List Instruction)
  | [] => some []
  | first :: second :: third :: fourth :: rest =>
      (decode (word first second third fourth)).bind fun instruction =>
        (disassemble rest).map (instruction :: ·)
  | _ => none

/-- The instructions stand in the code one after the other. -/
def Located (code : List UInt8) (start : Pointer) (instructions : List Instruction) : Prop :=
  ∀ (place : Nat) (instruction : Instruction), instructions[place]? = some instruction →
    (fetch code (start + BitVec.ofNat 64 (4 * place))).bind decode = some instruction

section Located

variable {others : BitVec 32 → Machine → Option Machine} {code front window back : List UInt8}
  {start : Pointer} {instructions : List Instruction} {instruction : Instruction}
  {machine : Machine}

theorem Located.step (located : Located code start instructions) (place : Nat)
    (found : instructions[place]? = some instruction)
    (here : machine.pc = start + BitVec.ofNat 64 (4 * place)) :
    step others code machine = some (machine.execute instruction) := by
  obtain ⟨fetched, isFetched, decoded⟩ := Option.bind_eq_some_iff.mp (located place _ found)
  rw [A64.step, here, isFetched, Option.bind_some, decoded]

theorem fetch_append {rest : List UInt8} {first second third fourth : UInt8}
    (aligned : front.length % 4 = 0) (few : front.length < 2 ^ 64) :
    fetch (front ++ first :: second :: third :: fourth :: rest)
      (BitVec.ofNat 64 front.length) = some (word first second third fourth) := by
  have byte (shift : Nat) :
      (front ++ first :: second :: third :: fourth :: rest)[front.length + shift]? =
        (first :: second :: third :: fourth :: rest)[shift]? := by
    rw [List.getElem?_append_right (Nat.le_add_right _ _), Nat.add_sub_cancel_left]
  have start := byte 0
  rw [Nat.add_zero] at start
  rw [fetch, BitVec.toNat_ofNat, Nat.mod_eq_of_lt few, if_pos aligned, start, byte 1, byte 2,
    byte 3]
  rfl

theorem located_window (aligned : front.length % 4 = 0)
    (few : front.length + window.length ≤ 2 ^ 64)
    (disassembled : disassemble window = some instructions) :
    Located (front ++ window ++ back) (BitVec.ofNat 64 front.length) instructions := by
  induction window using disassemble.induct generalizing front instructions with
  | case1 =>
      cases disassembled
      exact fun _ _ found => absurd found nofun
  | case2 first second third fourth rest hypothesis =>
      obtain ⟨instruction, decoded, moved⟩ := Option.bind_eq_some_iff.mp disassembled
      obtain ⟨later, laterDecoded, rfl⟩ := Option.map_eq_some_iff.mp moved
      simp only [List.length_cons] at few
      intro place found isFound
      rw [List.append_assoc]
      cases place with
      | zero =>
          cases isFound
          have start : BitVec.ofNat 64 front.length + BitVec.ofNat 64 (4 * 0) =
              BitVec.ofNat 64 front.length := BitVec.add_zero _
          rw [start, List.cons_append, List.cons_append, List.cons_append, List.cons_append,
            fetch_append aligned (by omega)]
          exact decoded
      | succ place =>
          have moved := @hypothesis (front ++ [first, second, third, fourth]) later
            (by rw [List.length_append]; simp only [List.length_cons, List.length_nil]; omega)
            (by rw [List.length_append]; simp only [List.length_cons, List.length_nil]; omega)
            laterDecoded place found isFound
          have same : BitVec.ofNat 64 (front ++ [first, second, third, fourth]).length +
              BitVec.ofNat 64 (4 * place) =
                BitVec.ofNat 64 front.length + BitVec.ofNat 64 (4 * (place + 1)) := by
            rw [← BitVec.ofNat_add, ← BitVec.ofNat_add, List.length_append]
            congr 1
            simp only [List.length_cons, List.length_nil]
            omega
          rw [same] at moved
          simpa using moved
  | case3 window notEmpty notWord =>
      rw [disassemble] at disassembled
      · cases disassembled
      · exact notEmpty
      · exact notWord

/-- The same bytes make the same word. -/
theorem fetch_congr {code' : List UInt8} {pc : Pointer}
    (same : ∀ place, pc.toNat ≤ place → place < pc.toNat + 4 →
      code'[place]? = code[place]?) :
    fetch code' pc = fetch code pc := by
  rw [fetch, fetch, same _ (Nat.le_refl _) (by omega), same (pc.toNat + 1) (by omega) (by omega),
    same (pc.toNat + 2) (by omega) (by omega), same (pc.toNat + 3) (by omega) (by omega)]

end Located

end BssLiteRt.Library.A64

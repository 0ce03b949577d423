import Ringos.Emulator.ByteInstructions
import Ringos.Emulator.IntegerHandlers

/-!
# The flags of byte instructions

The flag routines know two widths, 32 and 64 bits, and byte instructions use the
shorter one on zero-extended bytes. Zero and carry come out as they are for
bytes, but no zero-extended byte has a sign: the sign and the overflow flag are
always clear. That is right for exactly those operands whose result has neither.
-/

namespace Ringos.Emulator

open Ringos.Core
open Exec

variable {σ : Type}

section Flags

variable (flags : UInt64)

/-- A zero-extended byte has no sign bit at 32 bits. -/
theorem toUInt64_and_signMask (value : UInt8) : value.toUInt64 &&& signMask false = 0 := by
  have hvalue := value.toNat_lt
  apply UInt64.toNat_inj.mp
  rw [UInt64.toNat_and, UInt8.toNat_toUInt64]
  change value.toNat &&& 2 ^ 31 = 0
  rw [Nat.and_two_pow, Nat.testBit_lt_two_pow (by omega)]
  rfl

/-- Masking to 32 bits keeps a zero-extended byte. -/
theorem toUInt64_and_widthMask (value : UInt8) : value.toUInt64 &&& widthMask false =
    value.toUInt64 := by
  have hvalue := value.toNat_lt
  apply UInt64.toNat_inj.mp
  rw [UInt64.toNat_and, UInt8.toNat_toUInt64]
  exact (Nat.and_two_pow_sub_one_eq_mod value.toNat 32).trans (Nat.mod_eq_of_lt (by omega))

theorem toUInt64_eq_zero (value : UInt8) : (value.toUInt64 == 0) = (value.toBitVec == 0#8) := by
  rw [Bool.eq_iff_iff, beq_iff_eq, beq_iff_eq, ← UInt64.toNat_inj, UInt8.toNat_toUInt64,
    BitVec.toNat_eq, BitVec.toNat_zero]
  rfl

/-- `set_logic_flags` of a byte. -/
theorem statusFlags_logicByte (value : UInt8) :
    statusFlags (logicFlags flags value.toUInt64 false) =
      ⟨false, value.toBitVec == 0#8, false, false⟩ := by
  have hmasked : value.toUInt64.toUInt32.toUInt64 = value.toUInt64 := by
    have hvalue := value.toNat_lt
    apply UInt64.toNat_inj.mp
    rw [UInt32.toNat_toUInt64, UInt64.toNat_toUInt32, UInt8.toNat_toUInt64]
    exact Nat.mod_eq_of_lt (by omega)
  have hflags : logicFlags flags value.toUInt64 false =
      clearedFlags flags ||| flagIf (value.toUInt64 == 0) rflagsZero |||
        flagIf false rflagsSign ||| flagIf false rflagsCarry ||| flagIf false rflagsOverflow := by
    simp only [logicFlags, Bool.false_eq_true, if_false, hmasked, toUInt64_and_signMask]
    simp [flagIf]
  rw [hflags, statusFlags_cleared, toUInt64_eq_zero]

/-- `set_compare_flags` of bytes. -/
theorem statusFlags_compareByte (lhs rhs : UInt8) :
    statusFlags (compareFlags flags lhs.toUInt64 rhs.toUInt64 (lhs - rhs).toUInt64 false) =
      ⟨lhs.toBitVec.usubOverflow rhs.toBitVec, lhs.toBitVec - rhs.toBitVec == 0#8, false,
        false⟩ := by
  have hcarry : decide (lhs.toUInt64 < rhs.toUInt64) =
      lhs.toBitVec.usubOverflow rhs.toBitVec := by
    refine decide_eq_decide.mpr ?_
    rw [UInt64.lt_iff_toNat_lt, UInt8.toNat_toUInt64, UInt8.toNat_toUInt64]
    rfl
  simp only [compareFlags, toUInt64_and_widthMask, toUInt64_and_signMask, toUInt64_eq_zero]
  rw [UInt8.toBitVec_sub, ← hcarry]
  exact statusFlags_cleared flags _ _ _ _

end Flags

section Conditions

/-- Neither the result nor an overflow of the byte operation has a sign: no operand of an OR and
not both operands of a TEST are negative, and the difference of a CMP is a nonnegative byte. -/
def Unsigned : BinaryOperation → UInt8 → UInt8 → Prop
  | .or, lhs, rhs => lhs < 0x80 ∧ rhs < 0x80
  | .test, lhs, rhs => lhs < 0x80 ∨ rhs < 0x80
  | .cmp, lhs, rhs =>
    0 ≤ lhs.toInt8.toInt - rhs.toInt8.toInt ∧ lhs.toInt8.toInt - rhs.toInt8.toInt < 0x80
  | _, _, _ => False

/-- The sign bit of a byte. -/
theorem msb_eq_false_iff (value : UInt8) : value.toBitVec.msb = false ↔ value < 0x80 := by
  rw [BitVec.msb_eq_decide, decide_eq_false_iff_not, UInt8.lt_iff_toNat_lt]
  exact Nat.not_le

/-- A disjunction has a sign if an operand has one. -/
theorem or_lt_iff (lhs rhs : UInt8) : lhs ||| rhs < 0x80 ↔ lhs < 0x80 ∧ rhs < 0x80 := by
  rw [← msb_eq_false_iff, ← msb_eq_false_iff, ← msb_eq_false_iff, UInt8.toBitVec_or,
    BitVec.msb_or, Bool.or_eq_false_iff]

/-- A conjunction has a sign if both operands have one. -/
theorem and_lt_iff (lhs rhs : UInt8) : lhs &&& rhs < 0x80 ↔ lhs < 0x80 ∨ rhs < 0x80 := by
  rw [← msb_eq_false_iff, ← msb_eq_false_iff, ← msb_eq_false_iff, UInt8.toBitVec_and,
    BitVec.msb_and, Bool.and_eq_false_iff]

/-- The flags of a bitwise operation on bytes, without a sign. -/
theorem logic_iff (value : UInt8) :
    (⟨false, value.toBitVec == 0#8, false, false⟩ : StatusFlags) = .logic value.toBitVec ↔
      value < 0x80 := by
  rw [← msb_eq_false_iff, StatusFlags.logic, StatusFlags.ofResult, StatusFlags.mk.injEq]
  constructor
  · rintro ⟨-, -, h, -⟩
    exact h.symm
  · exact fun h => ⟨rfl, rfl, h.symm, rfl⟩

/-- The flags of a subtraction of bytes, without sign and overflow. -/
theorem sub_iff (lhs rhs : UInt8) :
    (⟨lhs.toBitVec.usubOverflow rhs.toBitVec, lhs.toBitVec - rhs.toBitVec == 0#8, false,
        false⟩ : StatusFlags) = .sub lhs.toBitVec rhs.toBitVec ↔
      0 ≤ lhs.toInt8.toInt - rhs.toInt8.toInt ∧
        lhs.toInt8.toInt - rhs.toInt8.toInt < 0x80 := by
  change _ ↔ 0 ≤ lhs.toBitVec.toInt - rhs.toBitVec.toInt ∧
    lhs.toBitVec.toInt - rhs.toBitVec.toInt < 0x80
  generalize lhs.toBitVec = x
  generalize rhs.toBitVec = y
  have hx := BitVec.le_toInt x
  have hy := BitVec.toInt_lt (x := y)
  rw [StatusFlags.sub, StatusFlags.ofResult, StatusFlags.mk.injEq]
  cases hoverflow : x.ssubOverflow y with
  | true =>
    simp only [BitVec.ssubOverflow, Bool.or_eq_true, decide_eq_true_eq] at hoverflow
    simp only [Bool.false_eq_true, and_false, false_iff]
    omega
  | false =>
    rw [BitVec.msb_eq_toInt, BitVec.toInt_sub_of_not_ssubOverflow (by rw [hoverflow]; decide)]
    simp only [BitVec.ssubOverflow, Bool.or_eq_false_iff, decide_eq_false_iff_not] at hoverflow
    simp only [true_and, and_true, Bool.false_eq, decide_eq_false_iff_not]
    omega

end Conditions

section Instructions

variable {machine next : Machine σ} {instruction : DecodedInstruction}

/-- The operation of a byte instruction that sets flags, with the operands that it loads. -/
def Machine.byteOperation (machine : Machine σ) (instruction : DecodedInstruction) :
    Option (BinaryOperation × UInt8 × UInt8) :=
  (machine.byteInstruction instruction).bind fun decoded =>
    match decoded.1 with
    | .or destination source =>
      some (.or, machine.byteRegister (lowByteRegister destination),
        machine.byteRegister (lowByteRegister source))
    | .compare operand immediate =>
      (machine.byteOperand lowByteRegister operand).map fun value => (.cmp, value, immediate)
    | .test operand immediate =>
      (machine.byteOperand lowByteRegister operand).map fun value => (.test, value, immediate)
    | _ => none

/-- The opcodes of the byte instructions that set flags stand for one of three operations. -/
theorem byteInstruction_flags {form : ByteInstruction} {behind : UInt64}
    (hopcode : instruction.opcode = 0x08 ∨ instruction.opcode = 0x80 ∨ instruction.opcode = 0xF6)
    (hform : machine.byteInstruction instruction = some (form, behind)) :
    (∃ destination source, form = .or destination source) ∨
      (∃ operand immediate, form = .compare operand immediate) ∨
      ∃ operand immediate, form = .test operand immediate := by
  have himmediate {operation : UInt8} {build : ByteOperand → UInt8 → ByteInstruction}
      (h : machine.byteImmediateInstruction instruction operation build = some (form, behind)) :
      ∃ operand immediate, form = build operand immediate := by
    obtain ⟨modrm, -, h⟩ := Option.bind_eq_some_iff.mp h
    obtain ⟨⟨operand, next⟩, -, h⟩ := Option.bind_eq_some_iff.mp h
    obtain ⟨immediate, -, h⟩ := Option.bind_eq_some_iff.mp h
    split at h
    · cases h
      exact ⟨operand, immediate, rfl⟩
    · cases h
  unfold Machine.byteInstruction at hform
  rcases hopcode with h | h | h
  · rw [if_pos h] at hform
    obtain ⟨modrm, -, hform⟩ := Option.bind_eq_some_iff.mp hform
    split at hform
    · cases hform
      exact .inl ⟨_, _, rfl⟩
    · cases hform
  · rw [if_neg (by rw [h]; decide), if_pos h] at hform
    exact .inr (.inl (himmediate hform))
  · rw [if_neg (by rw [h]; decide), if_neg (by rw [h]; decide), if_pos h] at hform
    exact .inr (.inr (himmediate hform))

/-- The flags of a byte instruction are those of its operation unless a sign is lost. -/
theorem afterByte_flags
    (hopcode : instruction.opcode = 0x08 ∨ instruction.opcode = 0x80 ∨ instruction.opcode = 0xF6)
    (hafter : machine.afterByte lowByteRegister instruction = some next) :
    ∃ operation lhs rhs, machine.byteOperation instruction = some (operation, lhs, rhs) ∧
      (statusFlags next.state.flags = operation.status lhs.toBitVec rhs.toBitVec ↔
        Unsigned operation lhs rhs) := by
  obtain ⟨⟨form, behind⟩, hform, hafter⟩ := Option.bind_eq_some_iff.mp hafter
  obtain ⟨performed, hperform, rfl⟩ := Option.map_eq_some_iff.mp hafter
  unfold Machine.byteOperation
  rw [hform, Option.bind_some]
  rcases byteInstruction_flags hopcode hform with ⟨destination, source, rfl⟩ |
    ⟨operand, immediate, rfl⟩ | ⟨operand, immediate, rfl⟩
  · cases hperform
    refine ⟨_, _, _, rfl, ?_⟩
    exact (iff_of_eq (congrArg (· = _) (statusFlags_logicByte _ _))).trans
      ((logic_iff _).trans (or_lt_iff _ _))
  · obtain ⟨value, hvalue, rfl⟩ := Option.map_eq_some_iff.mp hperform
    refine ⟨.cmp, value, immediate, congrArg (Option.map fun value => (BinaryOperation.cmp, value, immediate))
      hvalue, ?_⟩
    exact (iff_of_eq (congrArg (· = _) (statusFlags_compareByte _ _ _))).trans (sub_iff _ _)
  · obtain ⟨value, hvalue, rfl⟩ := Option.map_eq_some_iff.mp hperform
    refine ⟨.test, value, immediate, congrArg (Option.map fun value => (BinaryOperation.test, value, immediate))
      hvalue, ?_⟩
    exact (iff_of_eq (congrArg (· = _) (statusFlags_logicByte _ _))).trans
      ((logic_iff (value &&& immediate)).trans (and_lt_iff value immediate))

variable {callbacks : Callbacks σ} {start next : ExecutionContext σ}
  {outcome : InstructionOutcome}

/-- A byte instruction that retires leaves the flags of its operation on bytes exactly if neither
its result nor a signed overflow has a sign to lose. -/
theorem byteFlags_iff (hfetch : start.machine.fetchInstruction = some instruction)
    (hopcode : instruction.opcode = 0x08 ∨ instruction.opcode = 0x80 ∨ instruction.opcode = 0xF6)
    (hretired : interpretInstruction callbacks start = (some outcome, next)) :
    ∃ operation lhs rhs, start.machine.byteOperation instruction = some (operation, lhs, rhs) ∧
      (statusFlags next.machine.state.flags = operation.status lhs.toBitVec rhs.toBitVec ↔
        Unsigned operation lhs rhs) := by
  have hbyte : start.machine.IsByte instruction := by
    rcases hopcode with h | h | h
    · exact .inl h
    · exact .inr (.inl h)
    · exact .inr (.inr (.inl h))
  have hstep := interpretInstruction_byte callbacks
    (interpretInstruction_bytes hretired) hfetch hbyte
  exact afterByte_flags hopcode (hstep.returned hretired)

end Instructions

/-- `cmp al, 5` where AL is nine. -/
def compareByteSample : ExecutionContext Unit :=
  .start ((sampleMachine [0x80, 0xF8, 0x05] 0x1010).setRegister rax 9)

theorem compareByteSample_flags : ∃ operation lhs rhs,
    compareByteSample.machine.byteOperation
        { DecodedInstruction.initial 0x1000 with opcode := 0x80, nextAddress := 0x1001 } =
      some (operation, lhs, rhs) ∧
    (statusFlags (interpretInstruction exitingCallbacks compareByteSample).2.machine.state.flags =
        operation.status lhs.toBitVec rhs.toBitVec ↔ Unsigned operation lhs rhs) := by
  have hfetch : compareByteSample.machine.fetchInstruction =
      some { DecodedInstruction.initial 0x1000 with opcode := 0x80, nextAddress := 0x1001 } := by
    decide +kernel
  have hretires : (interpretInstruction exitingCallbacks compareByteSample).1 =
      some .continueRunning := by
    decide +kernel
  exact byteFlags_iff hfetch (.inr (.inl rfl)) (Prod.ext hretires rfl)

/-- `or al, al` where AL is `0x80`. -/
def orByteSample : ExecutionContext Unit :=
  .start ((sampleMachine [0x08, 0xC0] 0x1010).setRegister rax 0x80)

/-- The result has its sign bit set and the sign flag is clear. -/
theorem orByteSample_loses_sign :
    orByteSample.machine.fetchInstruction =
        some { DecodedInstruction.initial 0x1000 with opcode := 0x08, nextAddress := 0x1001 } ∧
      orByteSample.machine.byteOperation
          { DecodedInstruction.initial 0x1000 with opcode := 0x08, nextAddress := 0x1001 } =
        some (.or, 0x80, 0x80) ∧
      (interpretInstruction exitingCallbacks orByteSample).1 = some .continueRunning ∧
      statusFlags (interpretInstruction exitingCallbacks orByteSample).2.machine.state.flags ≠
        BinaryOperation.or.status (0x80 : UInt8).toBitVec (0x80 : UInt8).toBitVec := by
  decide +kernel

end Ringos.Emulator

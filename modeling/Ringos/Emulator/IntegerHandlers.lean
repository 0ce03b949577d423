import Mathlib.Tactic.IntervalCases
import Ringos.Emulator.IntegerEffects
import Ringos.Emulator.Faults

/-!
# The handlers carry out the integer instructions

Each handler is evaluated from a machine: it reads its operands, computes on a
64- or a 32-bit word, assigns the destination and sets the flags.
-/

namespace Ringos.Emulator

open Ringos.Core
open Exec

variable {σ : Type}

section Handlers

/-- The instruction stands for an integer instruction, which has been performed. -/
def Machine.Executed (machine : Machine σ) (instruction : DecodedInstruction)
    (next : Machine σ) : Prop :=
  ∃ integer, machine.integerInstruction instruction = some integer ∧
    integer.Performed instruction.rexW machine next

variable {machine : Machine σ} (hbytes : machine.memory.bytes ≠ 0)
  {instruction : DecodedInstruction}

include hbytes

theorem executeX64XorRegister_leads (hopcode : instruction.opcode = 0x31) :
    Leads machine (executeX64XorRegister instruction)
      (fun _ next => machine.Executed instruction next) True := by
  unfold executeX64XorRegister
  split
  · exact unsupported_leads trivial
  next hrex =>
  refine .bind (.orInvalidMemory (readU8_leads hbytes (fun modrm hmodrm => ?_) fun _ => trivial))
  split
  · exact unsupported_leads trivial
  next hmod =>
  obtain ⟨operand, hoperand, hplace, -, -⟩ := rmOperand_register hmodrm (not_not.mp hmod)
  refine .bind (getRegister32_leads (.bind (getRegister32_leads (.bind (assignRegister32_leads
    (.bind (changeFlags_leads (continueAt_leads ?_))))))))
  refine ⟨.binary .xor operand.place (.place (registerPlace instruction modrm)), ?_, ?_⟩
  · simp [Machine.integerInstruction, hopcode, withOperands_eq hmodrm hoperand]
  · rw [hplace, show instruction.rexW = false by simpa using hrex]
    exact IntegerInstruction.performed_binary _ rfl (valueAt_register32 _) (valueAt_register32 _)
      (rmIndex_lt modrm _) (statusFlags_logic32 _ _)

theorem executeX64OrRmToRegister_leads (hopcode : instruction.opcode = 0x0B) :
    Leads machine (executeX64OrRmToRegister instruction)
      (fun _ next => machine.Executed instruction next) True := by
  unfold executeX64OrRmToRegister
  refine .bind (.orInvalidMemory (readU8_leads hbytes (fun modrm hmodrm => ?_) fun _ => trivial))
  refine .bind (tryDecodeRmOperand_leads hbytes fun operand hoperand => ?_)
  have hinteger : machine.integerInstruction instruction =
      some (.binary .or (registerPlace instruction modrm) (.place operand.place)) := by
    simp [Machine.integerInstruction, hopcode, withOperands_eq hmodrm hoperand]
  have hreg := regIndex_lt modrm instruction.rexR
  split
  · next hrex =>
    refine .bind (loadRm64_leads hbytes fun rhs hrhs => .bind (getRegister64_leads
      (.bind (assignRegister64_leads (.bind (changeFlags_leads (continueAt_leads ?_)))))))
    refine ⟨_, hinteger, ?_⟩
    rw [hrex]
    exact IntegerInstruction.performed_binary _ rfl (valueAt_register64 _) hrhs hreg
      (statusFlags_logic64 _ _)
  · next hrex =>
    refine .bind (loadRm32_leads hbytes fun rhs hrhs => .bind (getRegister32_leads
      (.bind (assignRegister32_leads (.bind (changeFlags_leads (continueAt_leads ?_)))))))
    refine ⟨_, hinteger, ?_⟩
    rw [show instruction.rexW = false by simpa using hrex]
    exact IntegerInstruction.performed_binary _ rfl (valueAt_register32 _) hrhs hreg
      (statusFlags_logic32 _ _)

theorem executeX64TestRegister_leads (hopcode : instruction.opcode = 0x85) :
    Leads machine (executeX64TestRegister instruction)
      (fun _ next => machine.Executed instruction next) True := by
  unfold executeX64TestRegister
  refine .bind (.orInvalidMemory (readU8_leads hbytes (fun modrm hmodrm => ?_) fun _ => trivial))
  split
  · exact unsupported_leads trivial
  next hmod =>
  obtain ⟨operand, hoperand, hplace, -, -⟩ := rmOperand_register hmodrm (not_not.mp hmod)
  have hinteger : machine.integerInstruction instruction =
      some (.binary .test operand.place (.place (registerPlace instruction modrm))) := by
    simp [Machine.integerInstruction, hopcode, withOperands_eq hmodrm hoperand]
  split
  · next hrex =>
    refine .bind (getRegister64_leads (.bind (getRegister64_leads
      (.bind (changeFlags_leads (continueAt_leads ?_))))))
    refine ⟨_, hinteger, ?_⟩
    rw [hplace, hrex]
    exact IntegerInstruction.performed_flags _ rfl (valueAt_register64 _) (valueAt_register64 _)
      (statusFlags_logic64 _ _)
  · next hrex =>
    refine .bind (getRegister32_leads (.bind (getRegister32_leads
      (.bind (changeFlags_leads (continueAt_leads ?_))))))
    refine ⟨_, hinteger, ?_⟩
    rw [hplace, show instruction.rexW = false by simpa using hrex]
    exact IntegerInstruction.performed_flags _ rfl (valueAt_register32 _) (valueAt_register32 _)
      (statusFlags_logic32 _ _)

theorem executeX64TestAccumulatorImmediate_leads (hopcode : instruction.opcode = 0xA9) :
    Leads machine (executeX64TestAccumulatorImmediate instruction)
      (fun _ next => machine.Executed instruction next) True := by
  unfold executeX64TestAccumulatorImmediate
  refine .bind (.orInvalidMemory (readU32_leads hbytes (fun word hword => ?_) fun _ => trivial))
  have hinteger : machine.integerInstruction instruction =
      some (.binary .test (.register rax) (.immediate word.toInt32.toInt)) := by
    simp [Machine.integerInstruction, hopcode, Machine.immediate32At, hword]
  split
  · next hrex =>
    refine .bind (getRegister64_leads (.bind (changeFlags_leads (continueAt_leads ?_))))
    refine ⟨_, hinteger, ?_⟩
    rw [hrex]
    refine IntegerInstruction.performed_flags _ rfl (valueAt_register64 _)
      (congrArg some (displacement32_toBitVec word).symm) ?_
    exact statusFlags_logic64 _ _
  · next hrex =>
    refine .bind (getRegister32_leads (.bind (changeFlags_leads (continueAt_leads ?_))))
    refine ⟨_, hinteger, ?_⟩
    rw [show instruction.rexW = false by simpa using hrex]
    refine IntegerInstruction.performed_flags _ rfl (valueAt_register32 _)
      (congrArg some (immediate32_toBitVec word).symm) ?_
    exact statusFlags_logic32 _ _

theorem executeX64GroupF7_leads (hopcode : instruction.opcode = 0xF7) :
    Leads machine (executeX64GroupF7 instruction)
      (fun _ next => machine.Executed instruction next) True := by
  unfold executeX64GroupF7
  refine .bind (tryDecodeRmOperand_leads hbytes fun operand hoperand => ?_)
  obtain ⟨modrm, hmodrm, -⟩ := Option.bind_eq_some_iff.mp hoperand
  have hinteger : machine.integerInstruction instruction = some (.unary .neg operand.place) := by
    simp [Machine.integerInstruction, hopcode, withOperands_eq hmodrm hoperand]
  have hindex := rmOperand_index hoperand
  split
  · exact unsupported_leads trivial
  split
  · next hrex =>
    refine .bind (loadRm64_leads hbytes fun rhs hrhs => .bind (storeRm64_leads hbytes hindex
      fun hholds => .bind (changeFlags_leads (continueAt_leads ?_))))
    refine ⟨_, hinteger, ?_⟩
    rw [hrex]
    have hflags (flags : UInt64) : statusFlags (compareFlags flags 0 rhs (0 - rhs) true) =
        .neg rhs.toBitVec := by
      rw [statusFlags_compare64, StatusFlags.neg_eq_sub]
      rfl
    have hresult : (0 - rhs).toBitVec = -rhs.toBitVec := by
      rw [UInt64.toBitVec_sub]
      exact BitVec.zero_sub _
    rw [hresult]
    exact IntegerInstruction.performed_unary _ hrhs hholds (hflags _)
  · next hrex =>
    refine .bind (loadRm32_leads hbytes fun rhs hrhs => .bind (storeRm32_leads hbytes hindex
      fun hholds => .bind (changeFlags_leads (continueAt_leads ?_))))
    refine ⟨_, hinteger, ?_⟩
    rw [show instruction.rexW = false by simpa using hrex]
    have hflags (flags : UInt64) :
        statusFlags (compareFlags flags 0 rhs.toUInt64 (0 - rhs).toUInt64 false) =
          .neg rhs.toBitVec := by
      rw [StatusFlags.neg_eq_sub]
      exact statusFlags_compare32 flags 0 rhs
    have hresult : (0 - rhs).toBitVec = -rhs.toBitVec := by
      rw [UInt32.toBitVec_sub]
      exact BitVec.zero_sub _
    rw [hresult]
    exact IntegerInstruction.performed_unary _ hrhs hholds (hflags _)

theorem executeX64CompareRmWithRegister_leads (hopcode : instruction.opcode = 0x39) :
    Leads machine (executeX64CompareRmWithRegister instruction)
      (fun _ next => machine.Executed instruction next) True := by
  unfold executeX64CompareRmWithRegister
  refine .bind (.orInvalidMemory (readU8_leads hbytes (fun modrm hmodrm => ?_) fun _ => trivial))
  refine .bind (tryDecodeRmOperand_leads hbytes fun operand hoperand => ?_)
  have hinteger : machine.integerInstruction instruction =
      some (.binary .cmp operand.place (.place (registerPlace instruction modrm))) := by
    simp [Machine.integerInstruction, hopcode, withOperands_eq hmodrm hoperand]
  split
  · next hrex =>
    refine .bind (getRegister64_leads (.bind (loadRm64_leads hbytes fun lhs hlhs =>
      .bind (changeFlags_leads (continueAt_leads ?_)))))
    refine ⟨_, hinteger, ?_⟩
    rw [hrex]
    exact IntegerInstruction.performed_flags _ rfl hlhs (valueAt_register64 _)
      (statusFlags_compare64 _ _ _)
  · next hrex =>
    refine .bind (getRegister32_leads (.bind (loadRm32_leads hbytes fun lhs hlhs =>
      .bind (changeFlags_leads (continueAt_leads ?_)))))
    refine ⟨_, hinteger, ?_⟩
    rw [show instruction.rexW = false by simpa using hrex]
    exact IntegerInstruction.performed_flags _ rfl hlhs (valueAt_register32 _)
      (statusFlags_compare32 _ _ _)

/-- Opcodes `81` and `83` once their immediate is read. -/
theorem executeArithmeticImmediate_leads {operand : DecodedRmOperand}
    (hindex : operand.rmIndex < 16) {immediate : Int} {immediate64 : UInt64}
    {immediate32 : UInt32} (h64 : immediate64.toBitVec = BitVec.ofInt 64 immediate)
    (h32 : immediate32.toBitVec = BitVec.ofInt 32 immediate) (nextInstruction : UInt64) :
    Leads machine
      (executeArithmeticImmediate instruction operand immediate64 immediate32 nextInstruction)
      (fun _ next => ∃ operation, arithmeticOperation operand.operation = some operation ∧
        (IntegerInstruction.binary operation operand.place (.immediate immediate)).Performed
          instruction.rexW machine next) True := by
  unfold executeArithmeticImmediate
  have hsource64 : machine.sourceValue true (.immediate immediate) = some immediate64.toBitVec :=
    congrArg some h64.symm
  have hsource32 : machine.sourceValue false (.immediate immediate) = some immediate32.toBitVec :=
    congrArg some h32.symm
  split
  · next hrex =>
    rw [hrex]
    refine .bind (loadRm64_leads hbytes fun lhs hlhs => ?_)
    split
    · next hadd =>
      refine .bind (storeRm64_leads hbytes hindex fun hholds =>
        .bind (changeFlags_leads (continueAt_leads ?_)))
      exact ⟨.add, by rw [hadd]; rfl, IntegerInstruction.performed_binary _ rfl hlhs hsource64 hholds
        (statusFlags_add64 _ _ _)⟩
    split
    · next hsub =>
      refine .bind (storeRm64_leads hbytes hindex fun hholds =>
        .bind (changeFlags_leads (continueAt_leads ?_)))
      exact ⟨.sub, by rw [hsub]; rfl, IntegerInstruction.performed_binary _ rfl hlhs hsource64 hholds
        (statusFlags_compare64 _ _ _)⟩
    split
    · next hcmp =>
      refine .bind (changeFlags_leads (continueAt_leads ?_))
      exact ⟨.cmp, by rw [hcmp]; rfl, IntegerInstruction.performed_flags _ rfl hlhs hsource64
        (statusFlags_compare64 _ _ _)⟩
    · exact unsupported_leads trivial
  · next hrex =>
    rw [show instruction.rexW = false by simpa using hrex]
    refine .bind (loadRm32_leads hbytes fun lhs hlhs => ?_)
    split
    · next hadd =>
      refine .bind (storeRm32_leads hbytes hindex fun hholds =>
        .bind (changeFlags_leads (continueAt_leads ?_)))
      exact ⟨.add, by rw [hadd]; rfl, IntegerInstruction.performed_binary _ rfl hlhs hsource32 hholds
        (statusFlags_add32 _ _ _)⟩
    split
    · next hsub =>
      refine .bind (storeRm32_leads hbytes hindex fun hholds =>
        .bind (changeFlags_leads (continueAt_leads ?_)))
      exact ⟨.sub, by rw [hsub]; rfl, IntegerInstruction.performed_binary _ rfl hlhs hsource32 hholds
        (statusFlags_compare32 _ _ _)⟩
    split
    · next hcmp =>
      refine .bind (changeFlags_leads (continueAt_leads ?_))
      exact ⟨.cmp, by rw [hcmp]; rfl, IntegerInstruction.performed_flags _ rfl hlhs hsource32
        (statusFlags_compare32 _ _ _)⟩
    · exact unsupported_leads trivial

theorem executeX64Group81_leads (hopcode : instruction.opcode = 0x81) :
    Leads machine (executeX64Group81 instruction)
      (fun _ next => machine.Executed instruction next) True := by
  unfold executeX64Group81
  refine .bind (tryDecodeRmOperand_leads hbytes fun operand hoperand => ?_)
  refine .bind (.orInvalidMemory (readI32_leads hbytes (fun word hword => ?_) fun _ => trivial))
  refine (executeArithmeticImmediate_leads hbytes (rmOperand_index hoperand)
    (displacement32_toBitVec word) (immediate32_toBitVec word) _).mono ?_
  rintro - next ⟨operation, hoperation, hperformed⟩
  have himmediate : machine.immediate32At operand.nextInstruction = some word.toInt32.toInt := by
    rw [Machine.immediate32At, hword, Option.map_some]
  refine ⟨_, ?_, hperformed⟩
  simp [Machine.integerInstruction, hopcode, withImmediate_eq hoperand himmediate, hoperation]

theorem executeX64Group83_leads (hopcode : instruction.opcode = 0x83) :
    Leads machine (executeX64Group83 instruction)
      (fun _ next => machine.Executed instruction next) True := by
  unfold executeX64Group83
  refine .bind (tryDecodeRmOperand_leads hbytes fun operand hoperand => ?_)
  refine .bind (.orInvalidMemory (readI8_leads hbytes (fun byte hbyte => ?_) fun _ => trivial))
  refine (executeArithmeticImmediate_leads hbytes (rmOperand_index hoperand)
    (displacement8_toBitVec byte) (immediate8_toBitVec byte) _).mono ?_
  rintro - next ⟨operation, hoperation, hperformed⟩
  have himmediate : machine.immediate8At operand.nextInstruction = some byte.toInt8.toInt := by
    rw [Machine.immediate8At, hbyte, Option.map_some]
  refine ⟨_, ?_, hperformed⟩
  simp [Machine.integerInstruction, hopcode, withImmediate_eq hoperand himmediate, hoperation]

theorem executeX64MovImmediate32_leads (hlow : 0xB8 ≤ instruction.opcode)
    (hhigh : instruction.opcode ≤ 0xBF) :
    Leads machine (executeX64MovImmediate32 instruction)
      (fun _ next => machine.Executed instruction next) True := by
  have hindex := opcodeIndex_lt instruction.rexB hlow hhigh (by decide)
  unfold executeX64MovImmediate32 rejectRexW
  split
  · exact .bind (unsupported_leads trivial)
  next hrex =>
  refine .bind (.pure (.bind (.orInvalidMemory (readU32_leads hbytes (fun word hword => ?_)
    fun _ => trivial))))
  refine .bind (assignRegister32_leads (continueAt_leads ?_))
  refine ⟨.move (.register (instruction.opcode.toUInt32 - 0xB8 +
    if instruction.rexB then 8 else 0)) (.immediate word.toInt32.toInt), ?_, ?_⟩
  · rw [Machine.integerInstruction, if_pos ⟨hlow, hhigh⟩, Machine.immediate32At, hword]
    rfl
  · rw [show instruction.rexW = false by simpa using hrex]
    exact IntegerInstruction.performed_move _ (congrArg some (immediate32_toBitVec word).symm)
      hindex

theorem executeX64MovImmediateToRm_leads (hopcode : instruction.opcode = 0xC7) :
    Leads machine (executeX64MovImmediateToRm instruction)
      (fun _ next => machine.Executed instruction next) True := by
  unfold executeX64MovImmediateToRm
  refine .bind (.orInvalidMemory (readU8_leads hbytes (fun modrm hmodrm => ?_) fun _ => trivial))
  split
  · exact unsupported_leads trivial
  have hsource64 (word : UInt32) : machine.sourceValue true (.immediate word.toInt32.toInt) =
      some (displacement32 word.toInt32).toBitVec :=
    congrArg some (displacement32_toBitVec word).symm
  have hsource32 (word : UInt32) : machine.sourceValue false (.immediate word.toInt32.toInt) =
      some word.toBitVec :=
    congrArg some (immediate32_toBitVec word).symm
  have hinteger {operand : DecodedRmOperand} {word : UInt32}
      (hoperand : machine.rmOperand instruction instruction.nextAddress = some operand)
      (hword : machine.wordAt operand.nextInstruction = some word) :
      machine.integerInstruction instruction =
        some (.move operand.place (.immediate word.toInt32.toInt)) := by
    have himmediate : machine.immediate32At operand.nextInstruction = some word.toInt32.toInt := by
      rw [Machine.immediate32At, hword, Option.map_some]
    simp [Machine.integerInstruction, hopcode, withImmediate_eq hoperand himmediate]
  split
  · next hmod =>
    obtain ⟨operand, hoperand, hplace, -, hnext⟩ := rmOperand_register hmodrm hmod
    refine .bind (.orInvalidMemory (readU32_leads hbytes (fun word hword => ?_) fun _ => trivial))
    have hmove := hinteger hoperand (by rw [hnext]; exact hword)
    rw [hplace] at hmove
    refine .bind ?_
    split
    · next hrex =>
      refine assignRegister64_leads (continueAt_leads ⟨_, hmove, ?_⟩)
      rw [hrex]
      exact IntegerInstruction.performed_move _ (hsource64 word) (rmIndex_lt modrm _)
    · next hrex =>
      refine assignRegister32_leads (continueAt_leads ⟨_, hmove, ?_⟩)
      rw [show instruction.rexW = false by simpa using hrex]
      exact IntegerInstruction.performed_move _ (hsource32 word) (rmIndex_lt modrm _)
  · next hmod =>
    refine .bind (tryGetMemoryOperandAddress_leads hbytes hmod fun decoded hdecoded => ?_)
    obtain ⟨operand, hoperand, hplace, -, hnext⟩ := rmOperand_memory hmodrm hmod hdecoded
    refine .bind (.orInvalidMemory (readU32_leads hbytes (fun word hword => ?_) fun _ => trivial))
    have hmove := hinteger hoperand (by rw [hnext]; exact hword)
    rw [hplace] at hmove
    refine .bind ?_
    split
    · next hrex =>
      refine writeU64_leads hbytes fun hholds => continueAt_leads ⟨_, hmove, ?_⟩
      rw [hrex]
      exact IntegerInstruction.performed_move _ (hsource64 word) hholds
    · next hrex =>
      refine writeU32_leads hbytes fun hholds => continueAt_leads ⟨_, hmove, ?_⟩
      rw [show instruction.rexW = false by simpa using hrex]
      exact IntegerInstruction.performed_move _ (hsource32 word) hholds

theorem executeX64Lea_leads (hopcode : instruction.opcode = 0x8D) :
    Leads machine (executeX64Lea instruction)
      (fun _ next => machine.Executed instruction next) True := by
  unfold executeX64Lea
  refine .bind (.orInvalidMemory (readU8_leads hbytes (fun modrm hmodrm => ?_) fun _ => trivial))
  split
  · exact unsupported_leads trivial
  next hmod =>
  refine .bind (tryGetMemoryOperandAddress_leads hbytes hmod fun decoded hdecoded => ?_)
  obtain ⟨operand, hoperand, -, haddress, -⟩ := rmOperand_memory hmodrm hmod hdecoded
  have hinteger : machine.integerInstruction instruction =
      some (.loadAddress (registerPlace instruction modrm) decoded.1) := by
    simp [Machine.integerInstruction, hopcode, withOperands_eq hmodrm hoperand, haddress]
  have hreg := regIndex_lt modrm instruction.rexR
  refine .bind ?_
  split
  · next hrex =>
    refine assignRegister64_leads (continueAt_leads ⟨_, hinteger, ?_⟩)
    rw [hrex, show decoded.1.toBitVec = lowBits true decoded.1 from (BitVec.setWidth_eq _).symm]
    exact IntegerInstruction.performed_loadAddress _ hreg
  · next hrex =>
    refine assignRegister32_leads (continueAt_leads ⟨_, hinteger, ?_⟩)
    rw [show instruction.rexW = false by simpa using hrex, UInt64.toBitVec_toUInt32]
    exact IntegerInstruction.performed_loadAddress _ hreg

omit hbytes in
/-- A move between two registers, in either direction. -/
theorem movBetweenRegisters_leads {index rmIndex : UInt32} {Q : Unit → Machine σ → Prop}
    (h89 : instruction.opcode = 0x89 → ∀ value,
      machine.valueAt instruction.rexW (.register index) = some value →
        Q () (machine.assign (.register rmIndex) value))
    (h8B : instruction.opcode = 0x8B → ∀ value,
      machine.valueAt instruction.rexW (.register rmIndex) = some value →
        Q () (machine.assign (.register index) value)) :
    Leads machine (movBetweenRegisters instruction index rmIndex) Q True := by
  unfold movBetweenRegisters
  cases hrex : instruction.rexW <;> rw [hrex] at h89 h8B
  · split
    · next hopcode =>
      rw [if_neg Bool.false_ne_true]
      exact .bind (getRegister32_leads (assignRegister32_leads
        (h89 hopcode _ (valueAt_register32 _))))
    split
    · next hopcode =>
      rw [if_neg Bool.false_ne_true]
      exact .bind (getRegister32_leads (assignRegister32_leads
        (h8B hopcode _ (valueAt_register32 _))))
    · exact unsupported_leads trivial
  · split
    · next hopcode =>
      rw [if_pos rfl]
      exact .bind (getRegister64_leads (assignRegister64_leads
        (h89 hopcode _ (valueAt_register64 _))))
    split
    · next hopcode =>
      rw [if_pos rfl]
      exact .bind (getRegister64_leads (assignRegister64_leads
        (h8B hopcode _ (valueAt_register64 _))))
    · exact unsupported_leads trivial

/-- A move between a register and guest memory, in either direction. -/
theorem movWithMemory_leads {index : UInt32} {guestAddress : UInt64}
    {Q : Unit → Machine σ → Prop}
    (h89 : instruction.opcode = 0x89 → machine.Holds instruction.rexW (.memory guestAddress) →
      ∀ value, machine.valueAt instruction.rexW (.register index) = some value →
        Q () (machine.assign (.memory guestAddress) value))
    (h8B : instruction.opcode = 0x8B → ∀ value,
      machine.valueAt instruction.rexW (.memory guestAddress) = some value →
        Q () (machine.assign (.register index) value)) :
    Leads machine (movWithMemory instruction index guestAddress) Q True := by
  unfold movWithMemory
  cases hrex : instruction.rexW <;> rw [hrex] at h89 h8B
  · rw [if_neg Bool.false_ne_true]
    split
    · next hopcode =>
      exact .bind (getRegister32_leads (writeU32_leads hbytes fun hholds =>
        h89 hopcode hholds _ (valueAt_register32 _)))
    split
    · next hopcode =>
      refine .bind (.orInvalidMemory (readU32_leads hbytes (fun value hvalue =>
        assignRegister32_leads (h8B hopcode _ ?_)) fun _ => trivial))
      rw [valueAt_memory32, hvalue, Option.map_some]
    · exact unsupported_leads trivial
  · rw [if_pos rfl]
    split
    · next hopcode =>
      exact .bind (getRegister64_leads (writeU64_leads hbytes fun hholds =>
        h89 hopcode hholds _ (valueAt_register64 _)))
    split
    · next hopcode =>
      refine .bind (.orInvalidMemory (readU64_leads hbytes (fun value hvalue =>
        assignRegister64_leads (h8B hopcode _ ?_)) fun _ => trivial))
      rw [valueAt_memory64, hvalue, Option.map_some]
    · exact unsupported_leads trivial

theorem executeX64MovRegister_leads :
    Leads machine (executeX64MovRegister instruction)
      (fun _ next => machine.Executed instruction next) True := by
  unfold executeX64MovRegister
  refine .bind (.orInvalidMemory (readU8_leads hbytes (fun modrm hmodrm => ?_) fun _ => trivial))
  have hreg := regIndex_lt modrm instruction.rexR
  have hrm := rmIndex_lt modrm instruction.rexB
  have hstore {operand : DecodedRmOperand} (hopcode : instruction.opcode = 0x89)
      (hoperand : machine.rmOperand instruction instruction.nextAddress = some operand) :
      machine.integerInstruction instruction =
        some (.move operand.place (.place (registerPlace instruction modrm))) := by
    simp [Machine.integerInstruction, hopcode, withOperands_eq hmodrm hoperand]
  have hload {operand : DecodedRmOperand} (hopcode : instruction.opcode = 0x8B)
      (hoperand : machine.rmOperand instruction instruction.nextAddress = some operand) :
      machine.integerInstruction instruction =
        some (.move (registerPlace instruction modrm) (.place operand.place)) := by
    simp [Machine.integerInstruction, hopcode, withOperands_eq hmodrm hoperand]
  split
  · next hmod =>
    obtain ⟨operand, hoperand, hplace, -, -⟩ := rmOperand_register hmodrm hmod
    refine .bind (movBetweenRegisters_leads ?_ ?_)
    · intro hopcode value hvalue
      refine continueAt_leads ⟨_, hstore hopcode hoperand, ?_⟩
      rw [hplace]
      exact IntegerInstruction.performed_move _ hvalue hrm
    · intro hopcode value hvalue
      refine continueAt_leads ⟨_, hload hopcode hoperand, ?_⟩
      rw [hplace]
      exact IntegerInstruction.performed_move _ hvalue hreg
  · next hmod =>
    refine .bind (tryGetMemoryOperandAddress_leads hbytes hmod fun decoded hdecoded => ?_)
    obtain ⟨operand, hoperand, hplace, -, -⟩ := rmOperand_memory hmodrm hmod hdecoded
    refine .bind (movWithMemory_leads hbytes ?_ ?_)
    · intro hopcode hholds value hvalue
      refine continueAt_leads ⟨_, hstore hopcode hoperand, ?_⟩
      rw [hplace]
      exact IntegerInstruction.performed_move _ hvalue hholds
    · intro hopcode value hvalue
      refine continueAt_leads ⟨_, hload hopcode hoperand, ?_⟩
      rw [hplace]
      exact IntegerInstruction.performed_move _ hvalue hreg

omit hbytes in
/-- The increment and the decrement of a register. -/
theorem incDecRegister_leads {index : UInt32} (hindex : index < 16) (isDecrement : Bool) :
    Leads machine (incDecRegister instruction index isDecrement)
      (fun _ next => (IntegerInstruction.unary (if isDecrement then .dec else .inc)
        (.register index)).Performed instruction.rexW machine next) True := by
  unfold incDecRegister
  split
  · next hrex =>
    rw [hrex]
    refine .bind (getRegister64_leads (.bind (assignRegister64_leads
      (.bind (changeFlags_leads (continueAt_leads ?_))))))
    have hflags (flags value : UInt64) : statusFlags (incDecFlags flags value (value + 1) false true) =
        .inc (flagSet flags rflagsCarry) value.toBitVec ∧
        statusFlags (incDecFlags flags value (value - 1) true true) =
          .dec (flagSet flags rflagsCarry) value.toBitVec := by
      have hinc := @statusFlags_incFlags true flags value.toBitVec
      have hdec := @statusFlags_decFlags true flags value.toBitVec
      rw [zeroExtended_64] at hinc hdec
      exact ⟨(zeroExtended_64 (value + 1)) ▸ hinc, (zeroExtended_64 (value - 1)) ▸ hdec⟩
    cases isDecrement
    · exact IntegerInstruction.performed_unary _ (valueAt_register64 _) hindex (hflags _ _).1
    · exact IntegerInstruction.performed_unary _ (valueAt_register64 _) hindex (hflags _ _).2
  · next hrex =>
    rw [show instruction.rexW = false by simpa using hrex]
    refine .bind (getRegister32_leads (.bind (assignRegister32_leads
      (.bind (changeFlags_leads (continueAt_leads ?_))))))
    have hflags (flags : UInt64) (value : UInt32) :
        statusFlags (incDecFlags flags value.toUInt64 (value + 1).toUInt64 false false) =
          .inc (flagSet flags rflagsCarry) value.toBitVec ∧
        statusFlags (incDecFlags flags value.toUInt64 (value - 1).toUInt64 true false) =
          .dec (flagSet flags rflagsCarry) value.toBitVec := by
      have hinc := @statusFlags_incFlags false flags value.toBitVec
      have hdec := @statusFlags_decFlags false flags value.toBitVec
      rw [zeroExtended_32] at hinc hdec
      exact ⟨(zeroExtended_32 (value + 1)) ▸ hinc, (zeroExtended_32 (value - 1)) ▸ hdec⟩
    cases isDecrement
    · exact IntegerInstruction.performed_unary _ (valueAt_register32 _) hindex (hflags _ _).1
    · exact IntegerInstruction.performed_unary _ (valueAt_register32 _) hindex (hflags _ _).2

theorem executeX64GroupFf_leads (hopcode : instruction.opcode = 0xFF)
    (hoperation : ∃ modrm, machine.byteAt instruction.nextAddress = some modrm ∧
      (regField modrm = 0 ∨ regField modrm = 1)) :
    Leads machine (executeX64GroupFf instruction)
      (fun _ next => machine.Executed instruction next) True := by
  obtain ⟨modrm, hmodrm, hreg⟩ := hoperation
  unfold executeX64GroupFf
  refine .bind (.orInvalidMemory (readU8_leads hbytes (fun other hother => ?_) fun _ => trivial))
  obtain rfl : modrm = other := Option.some.inj (hmodrm.symm.trans hother)
  rw [if_pos hreg]
  split
  · exact unsupported_leads trivial
  next hmod =>
  obtain ⟨operand, hoperand, hplace, hfield, -⟩ := rmOperand_register hmodrm (not_not.mp hmod)
  refine (incDecRegister_leads (rmIndex_lt modrm _) _).mono fun _ next hperformed => ?_
  rw [← hplace] at hperformed
  refine ⟨_, ?_, hperformed⟩
  simp only [Machine.integerInstruction, hopcode, withOperands_eq hmodrm hoperand, hfield]
  rcases hreg with h | h <;> simp [h]

end Handlers

section Steps

variable {callbacks : Callbacks σ} {start next : ExecutionContext σ}
  {instruction : DecodedInstruction} {outcome : InstructionOutcome}

/-- An emulator without a guest region retires nothing. -/
theorem interpretInstruction_bytes
    (h : interpretInstruction callbacks start = (some outcome, next)) :
    start.machine.memory.bytes ≠ 0 := by
  intro hzero
  have htranslate (guestAddress : UInt64) (length : Nat) :
      Leads start.machine (translateGuestPointer guestAddress length) (fun _ _ => False) True := by
    refine .bind (Leads.read (g := Machine.memory) (.bind (.readAny fun opcode => ?_)))
    rw [if_pos hzero]
    exact .fail trivial
  have hfetch : Leads start.machine (decodeX64Instruction : Exec σ DecodedInstruction)
      (fun _ _ => False) True := by
    refine .bind (Leads.read (g := fun machine => machine.state.instructionPointer) (.bind
      (Leads.read (g := fun machine => machine.memory.size) (.bind (.onFailure (.bind
        (.bind ((htranslate _ _).mono fun _ _ h => h.elim))))))))
  have hstep : Leads start.machine (interpretInstruction callbacks) (fun _ _ => False) True :=
    .bind (hfetch.mono fun _ _ h => h.elim)
  exact hstep.returned h

/-- The opcodes that carry the register number of a move. -/
theorem primaryOpcodeHandler_mov {opcode : UInt8} (hlow : 0xB8 ≤ opcode) (hhigh : opcode ≤ 0xBF) :
    (primaryOpcodeHandler opcode : DecodedInstruction → Exec σ InstructionOutcome) =
      executeX64MovImmediate32 := by
  obtain ⟨index, hindex, rfl⟩ : ∃ index < 8, opcode = UInt8.ofNat (0xB8 + index) := by
    rw [UInt8.le_iff_toNat_le] at hlow hhigh
    change 0xB8 ≤ _ at hlow
    change _ ≤ 0xBF at hhigh
    refine ⟨opcode.toNat - 0xB8, by omega, ?_⟩
    rw [Nat.add_sub_cancel' hlow, UInt8.ofNat_toNat]
  interval_cases index <;> rfl

/-- The handler of an integer instruction executes it. -/
theorem primaryOpcodeHandler_leads {machine : Machine σ} (hbytes : machine.memory.bytes ≠ 0)
    (hinteger : machine.IsInteger instruction) :
    Leads machine (primaryOpcodeHandler instruction.opcode instruction)
      (fun _ next => machine.Executed instruction next) True := by
  obtain ⟨-, ⟨hlow, hhigh⟩ | hmem | ⟨hopcode, hoperation⟩⟩ := hinteger
  · rw [primaryOpcodeHandler_mov hlow hhigh]
    exact executeX64MovImmediate32_leads hbytes hlow hhigh
  · simp only [List.mem_cons, List.not_mem_nil, or_false] at hmem
    rcases hmem with h | h | h | h | h | h | h | h | h | h | h | h <;> rw [h]
    · exact executeX64Group81_leads hbytes h
    · exact executeX64Group83_leads hbytes h
    · exact executeX64CompareRmWithRegister_leads hbytes h
    · exact executeX64XorRegister_leads hbytes h
    · exact executeX64TestRegister_leads hbytes h
    · exact executeX64OrRmToRegister_leads hbytes h
    · exact executeX64TestAccumulatorImmediate_leads hbytes h
    · exact executeX64GroupF7_leads hbytes h
    · exact executeX64MovRegister_leads hbytes
    · exact executeX64MovRegister_leads hbytes
    · exact executeX64MovImmediateToRm_leads hbytes h
    · exact executeX64Lea_leads hbytes h
  · rw [hopcode]
    exact executeX64GroupFf_leads hbytes hopcode hoperation

/-- The integer opcodes are primary. -/
theorem Machine.IsInteger.primary {machine : Machine σ} (h : machine.IsInteger instruction) :
    instruction.opcode ≠ 0x0F := by
  intro hopcode
  obtain ⟨-, ⟨hlow, -⟩ | hmem | ⟨hff, -⟩⟩ := h
  · rw [hopcode] at hlow
    exact absurd hlow (by decide)
  · rw [hopcode] at hmem
    exact absurd hmem (by decide)
  · rw [hopcode] at hff
    exact absurd hff (by decide)

/-- Dispatch at an integer instruction executes it. -/
theorem dispatch_leads {machine : Machine σ} (hbytes : machine.memory.bytes ≠ 0)
    (hinteger : machine.IsInteger instruction) :
    Leads machine (dispatch callbacks instruction)
      (fun _ next => machine.Executed instruction next) True := by
  refine .bind (setResult_leads ?_)
  rw [if_neg hinteger.primary]
  exact primaryOpcodeHandler_leads hbytes hinteger

/-- An integer instruction that retires has been performed: the destination holds the result at the
operand width, the flags are those of the operation, and nothing else has changed. -/
theorem integerInstruction_performed
    (hfetch : start.machine.fetchInstruction = some instruction)
    (hinteger : start.machine.IsInteger instruction)
    (hretired : interpretInstruction callbacks start = (some outcome, next)) :
    ∃ integer, start.machine.integerInstruction instruction = some integer ∧
      integer.Performed instruction.rexW start.machine next.machine := by
  have hbytes := interpretInstruction_bytes hretired
  have hstep : Leads start.machine (interpretInstruction callbacks)
      (fun _ next => start.machine.Executed instruction next) True := by
    refine .bind (Denotes.leads (fun _ hstart => hstart ▸ decodeX64Instruction_denotes
      (hstart ▸ hbytes)) (fun decoded hdecoded => ?_) fun _ => trivial)
    obtain rfl : instruction = decoded := Option.some.inj (hfetch.symm.trans hdecoded)
    refine .bind ((dispatch_leads hbytes hinteger).mono fun _ next hexecuted => ?_)
    exact .bind (setResult_leads (.pure hexecuted))
  exact hstep.returned hretired

end Steps

/-- `add eax, -1` without prefixes. -/
def addEaxMinusOne : ExecutionContext Unit :=
  .start (sampleMachine [0x83, 0xC0, 0xFF] 0x1010)

/-- The decoded instruction. -/
def addEaxMinusOneDecoded : DecodedInstruction :=
  { DecodedInstruction.initial 0x1000 with opcode := 0x83, nextAddress := 0x1001 }

theorem addEaxMinusOne_performed :
    ∃ integer, addEaxMinusOne.machine.integerInstruction addEaxMinusOneDecoded = some integer ∧
      integer.Performed false addEaxMinusOne.machine
        (interpretInstruction exitingCallbacks addEaxMinusOne).2.machine := by
  have hfetch : addEaxMinusOne.machine.fetchInstruction = some addEaxMinusOneDecoded := by
    decide +kernel
  have hinteger : addEaxMinusOne.machine.IsInteger addEaxMinusOneDecoded :=
    ⟨rfl, .inr (.inl (by decide))⟩
  have hretires : (interpretInstruction exitingCallbacks addEaxMinusOne).1 =
      some .continueRunning := by
    decide +kernel
  exact integerInstruction_performed hfetch hinteger (Prod.ext hretires rfl)

end Ringos.Emulator

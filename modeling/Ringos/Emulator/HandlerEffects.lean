import Ringos.Emulator.DecoderEffects

/-!
# The effects of the instruction handlers

Every handler first inspects, then makes at most one store, then commits. The
exceptions are the handlers that push: the stack pointer moves before the store
is tried, and a store that is then refused leaves it moved.
-/

namespace Ringos.Emulator

open Ringos.Core
open Exec

variable {σ : Type}

/-- Stores of one of the operand widths at the operand address, or none at all. -/
structure Admits (machine : Machine σ) (instruction : DecodedInstruction) (modrmAddress : UInt64)
    (allowed : GuestStore → Prop) : Prop where
  none : allowed none
  operand : ∀ address bytes, machine.operandAddress instruction modrmAddress = some address →
    bytes.length = 4 ∨ bytes.length = 8 ∨ bytes.length = 16 → allowed (some (address, bytes))

section Operands

variable {start : ExecutionContext σ} {allowed : GuestStore → Prop}
  {instruction : DecodedInstruction} {modrmAddress : UInt64} {operand : DecodedRmOperand}

section Loads

variable (hbytes : start.machine.memory.bytes ≠ 0) (hindex : operand.rmIndex < 16)

include hbytes hindex

theorem loadRm64_denotes :
    Denotes start (loadRm64 operand)
      (if operand.rmIsRegister then some (start.machine.register operand.rmIndex)
        else start.machine.quadAt operand.rmAddress) := by
  unfold loadRm64
  split
  · exact getRegister64_denotes hindex
  · exact (readU64_denotes hbytes _).orInvalidMemory

theorem loadRm32_denotes :
    Denotes start (loadRm32 operand)
      (if operand.rmIsRegister then some (start.machine.register operand.rmIndex).toUInt32
        else start.machine.wordAt operand.rmAddress) := by
  unfold loadRm32
  split
  · exact getRegister32_denotes hindex
  · exact (readU32_denotes hbytes _).orInvalidMemory

theorem loadRm8_denotes :
    Denotes start (loadRm8 operand)
      (if operand.rmIsRegister then some (start.machine.register operand.rmIndex &&& 0xFF).toUInt8
        else start.machine.byteAt operand.rmAddress) := by
  unfold loadRm8
  split
  · exact getRegister8Low_denotes hindex
  · exact (readU8_denotes hbytes _).orInvalidMemory

end Loads

section Stores

variable (hbytes : start.machine.memory.bytes ≠ 0)
  (hadmits : Admits start.machine instruction modrmAddress allowed)
  (hoperand : start.machine.rmOperand instruction modrmAddress = some operand)

include hbytes hadmits hoperand

theorem storeRm64_stores (value : UInt64) :
    Stores start allowed start.machine (storeRm64 operand value) := by
  obtain ⟨hindex, haddress⟩ := rmOperand_spec hoperand
  unfold storeRm64
  split
  · exact (setRegister64_commits hindex value).stores hadmits.none
  · rename_i hmemory
    apply checkedWrite_stores hbytes
    exact hadmits.operand _ _ (haddress (by simpa using hmemory)) (by simp)

theorem storeRm32_stores (value : UInt32) :
    Stores start allowed start.machine (storeRm32 operand value) := by
  obtain ⟨hindex, haddress⟩ := rmOperand_spec hoperand
  unfold storeRm32
  split
  · exact (setRegister32_commits hindex value).stores hadmits.none
  · rename_i hmemory
    apply checkedWrite_stores hbytes
    exact hadmits.operand _ _ (haddress (by simpa using hmemory)) (by simp)

end Stores

end Operands

section Rules

variable {start : ExecutionContext σ} {machine : Machine σ} {instruction : DecodedInstruction}
  {β : Type} {Q : β → ExecutionContext σ → Prop} {f : Unit → Exec σ β}

/-- A handler that rejects REX.W goes on only without it. -/
theorem rejectRexW_then (hreject : instruction.rexW = true → machine = start.machine)
    (hf : instruction.rexW = false →
      Attempt.Triple (Untouched start) (f ()) Q (Faulted start machine)) :
    Attempt.Triple (Untouched start) (rejectRexW instruction >>= f) Q (Faulted start machine) := by
  unfold rejectRexW
  split
  · rename_i hrex
    rw [hreject hrex]
    exact Attempt.Triple.bind (Q := fun _ _ => False) (unsupported_triple _) fun _ _ h => h.elim
  · rename_i hrex
    exact hf (by simpa using hrex)

end Rules

section AluHandlers

variable {start : ExecutionContext σ} (hbytes : start.machine.memory.bytes ≠ 0)
  {allowed : GuestStore → Prop} {instruction : DecodedInstruction}

include hbytes

section Storeless

variable (hnone : allowed none)

include hnone

theorem executeX64XorRegister_completes :
    Completes start allowed start.machine (executeX64XorRegister instruction) := by
  unfold executeX64XorRegister
  split
  · exact unsupported_triple _
  refine (readU8_denotes hbytes _).orInvalidMemory.completes fun modrm _ => ?_
  split
  · exact unsupported_triple _
  have hrm := rmIndex_lt modrm instruction.rexB
  refine (getRegister32_denotes hrm).completes fun lhs _ => ?_
  refine (getRegister32_denotes (regIndex_lt modrm instruction.rexR)).completes fun rhs _ => ?_
  apply Finishes.completes _ hnone
  exact (setRegister32_commits hrm _).finishes fun _ =>
    (setLogicFlags_commits _ _).finishes fun _ => continueAt_finishes _

theorem executeX64OrRegisterByte_completes :
    Completes start allowed start.machine (executeX64OrRegisterByte instruction) := by
  unfold executeX64OrRegisterByte
  refine (readU8_denotes hbytes _).orInvalidMemory.completes fun modrm _ => ?_
  split
  · exact unsupported_triple _
  have hrm := rmIndex_lt modrm instruction.rexB
  refine (getRegister8Low_denotes hrm).completes fun lhs _ => ?_
  refine (getRegister8Low_denotes (regIndex_lt modrm instruction.rexR)).completes fun rhs _ => ?_
  apply Finishes.completes _ hnone
  exact (setRegister8Low_commits hrm _).finishes fun _ =>
    (setLogicFlags_commits _ _).finishes fun _ => continueAt_finishes _

theorem executeX64OrRmToRegister_completes :
    Completes start allowed start.machine (executeX64OrRmToRegister instruction) := by
  unfold executeX64OrRmToRegister
  refine (readU8_denotes hbytes _).orInvalidMemory.completes fun modrm _ => ?_
  refine (tryDecodeRmOperand_denotes hbytes _ _).orInvalidMemory.completes
    fun operand hoperand => ?_
  have hreg := regIndex_lt modrm instruction.rexR
  have hindex := (rmOperand_spec hoperand).1
  split
  · refine (loadRm64_denotes hbytes hindex).completes fun rhs _ => ?_
    refine (getRegister64_denotes hreg).completes fun lhs _ => ?_
    apply Finishes.completes _ hnone
    exact (setRegister64_commits hreg _).finishes fun _ =>
      (setLogicFlags_commits _ _).finishes fun _ => continueAt_finishes _
  · refine (loadRm32_denotes hbytes hindex).completes fun rhs _ => ?_
    refine (getRegister32_denotes hreg).completes fun lhs _ => ?_
    apply Finishes.completes _ hnone
    exact (setRegister32_commits hreg _).finishes fun _ =>
      (setLogicFlags_commits _ _).finishes fun _ => continueAt_finishes _

theorem executeX64TestRegister_completes :
    Completes start allowed start.machine (executeX64TestRegister instruction) := by
  unfold executeX64TestRegister
  refine (readU8_denotes hbytes _).orInvalidMemory.completes fun modrm _ => ?_
  have hrm := rmIndex_lt modrm instruction.rexB
  have hreg := regIndex_lt modrm instruction.rexR
  split
  · exact unsupported_triple _
  split
  · refine (getRegister64_denotes hrm).completes fun lhs _ => ?_
    refine (getRegister64_denotes hreg).completes fun rhs _ => ?_
    apply Finishes.completes _ hnone
    exact (setLogicFlags_commits _ _).finishes fun _ => continueAt_finishes _
  · refine (getRegister32_denotes hrm).completes fun lhs _ => ?_
    refine (getRegister32_denotes hreg).completes fun rhs _ => ?_
    apply Finishes.completes _ hnone
    exact (setLogicFlags_commits _ _).finishes fun _ => continueAt_finishes _

theorem executeX64TestAccumulatorImmediate_completes :
    Completes start allowed start.machine (executeX64TestAccumulatorImmediate instruction) := by
  have hrax : rax < 16 := by decide
  unfold executeX64TestAccumulatorImmediate
  refine (readU32_denotes hbytes _).orInvalidMemory.completes fun immediate _ => ?_
  split
  · refine (getRegister64_denotes hrax).completes fun value _ => ?_
    apply Finishes.completes _ hnone
    exact (setLogicFlags_commits _ _).finishes fun _ => continueAt_finishes _
  · refine (getRegister32_denotes hrax).completes fun value _ => ?_
    apply Finishes.completes _ hnone
    exact (setLogicFlags_commits _ _).finishes fun _ => continueAt_finishes _

theorem executeX64GroupF6_completes :
    Completes start allowed start.machine (executeX64GroupF6 instruction) := by
  unfold executeX64GroupF6
  refine (tryDecodeRmOperand_denotes hbytes _ _).orInvalidMemory.completes
    fun operand hoperand => ?_
  refine (readU8_denotes hbytes _).orInvalidMemory.completes fun immediate _ => ?_
  split
  · exact unsupported_triple _
  refine (loadRm8_denotes hbytes (rmOperand_spec hoperand).1).completes fun lhs _ => ?_
  apply Finishes.completes _ hnone
  exact (setLogicFlags_commits _ _).finishes fun _ => continueAt_finishes _

theorem executeX64CompareRmWithRegister_completes :
    Completes start allowed start.machine (executeX64CompareRmWithRegister instruction) := by
  unfold executeX64CompareRmWithRegister
  refine (readU8_denotes hbytes _).orInvalidMemory.completes fun modrm _ => ?_
  refine (tryDecodeRmOperand_denotes hbytes _ _).orInvalidMemory.completes
    fun operand hoperand => ?_
  have hreg := regIndex_lt modrm instruction.rexR
  have hindex := (rmOperand_spec hoperand).1
  split
  · refine (getRegister64_denotes hreg).completes fun rhs _ => ?_
    refine (loadRm64_denotes hbytes hindex).completes fun lhs _ => ?_
    apply Finishes.completes _ hnone
    exact (setCompareFlags_commits _ _ _ _).finishes fun _ => continueAt_finishes _
  · refine (getRegister32_denotes hreg).completes fun rhs _ => ?_
    refine (loadRm32_denotes hbytes hindex).completes fun lhs _ => ?_
    apply Finishes.completes _ hnone
    exact (setCompareFlags_commits _ _ _ _).finishes fun _ => continueAt_finishes _

end Storeless

variable (hadmits : Admits start.machine instruction instruction.nextAddress allowed)

include hadmits

theorem executeX64GroupF7_completes :
    Completes start allowed start.machine (executeX64GroupF7 instruction) := by
  unfold executeX64GroupF7
  refine (tryDecodeRmOperand_denotes hbytes _ _).orInvalidMemory.completes
    fun operand hoperand => ?_
  have hindex := (rmOperand_spec hoperand).1
  split
  · exact unsupported_triple _
  split
  · refine (loadRm64_denotes hbytes hindex).completes fun rhs _ => ?_
    exact (storeRm64_stores hbytes hadmits hoperand _).completes fun _ =>
      (setCompareFlags_commits _ _ _ _).finishes fun _ => continueAt_finishes _
  · refine (loadRm32_denotes hbytes hindex).completes fun rhs _ => ?_
    exact (storeRm32_stores hbytes hadmits hoperand _).completes fun _ =>
      (setCompareFlags_commits _ _ _ _).finishes fun _ => continueAt_finishes _

/-- Opcodes `81` and `83` once their immediate is read. -/
theorem executeArithmeticImmediate_completes {operand : DecodedRmOperand}
    (hoperand : start.machine.rmOperand instruction instruction.nextAddress = some operand)
    (immediate64 : UInt64) (immediate32 : UInt32) (nextInstruction : UInt64) :
    Completes start allowed start.machine
      (executeArithmeticImmediate instruction operand immediate64 immediate32
        nextInstruction) := by
  have hindex := (rmOperand_spec hoperand).1
  unfold executeArithmeticImmediate
  split
  · refine (loadRm64_denotes hbytes hindex).completes fun lhs _ => ?_
    split
    · exact (storeRm64_stores hbytes hadmits hoperand _).completes fun _ =>
        (setAddFlags_commits _ _ _ _).finishes fun _ => continueAt_finishes _
    split
    · exact (storeRm64_stores hbytes hadmits hoperand _).completes fun _ =>
        (setCompareFlags_commits _ _ _ _).finishes fun _ => continueAt_finishes _
    split
    · apply Finishes.completes _ hadmits.none
      exact (setCompareFlags_commits _ _ _ _).finishes fun _ => continueAt_finishes _
    · exact unsupported_triple _
  · refine (loadRm32_denotes hbytes hindex).completes fun lhs _ => ?_
    split
    · exact (storeRm32_stores hbytes hadmits hoperand _).completes fun _ =>
        (setAddFlags_commits _ _ _ _).finishes fun _ => continueAt_finishes _
    split
    · exact (storeRm32_stores hbytes hadmits hoperand _).completes fun _ =>
        (setCompareFlags_commits _ _ _ _).finishes fun _ => continueAt_finishes _
    split
    · apply Finishes.completes _ hadmits.none
      exact (setCompareFlags_commits _ _ _ _).finishes fun _ => continueAt_finishes _
    · exact unsupported_triple _

theorem executeX64Group83_completes :
    Completes start allowed start.machine (executeX64Group83 instruction) := by
  unfold executeX64Group83
  refine (tryDecodeRmOperand_denotes hbytes _ _).orInvalidMemory.completes
    fun operand hoperand => ?_
  refine (readI8_denotes hbytes _).orInvalidMemory.completes fun immediate _ => ?_
  exact executeArithmeticImmediate_completes hbytes hadmits hoperand _ _ _

theorem executeX64Group81_completes :
    Completes start allowed start.machine (executeX64Group81 instruction) := by
  unfold executeX64Group81
  refine (tryDecodeRmOperand_denotes hbytes _ _).orInvalidMemory.completes
    fun operand hoperand => ?_
  refine (readI32_denotes hbytes _).orInvalidMemory.completes fun immediate _ => ?_
  exact executeArithmeticImmediate_completes hbytes hadmits hoperand _ _ _

end AluHandlers

section DataMovementHandlers

variable {start : ExecutionContext σ} (hbytes : start.machine.memory.bytes ≠ 0)
  {allowed : GuestStore → Prop} {instruction : DecodedInstruction}

/-- The address a data movement handler decodes is the operand address. -/
theorem operandAddress_of_effectiveAddress {machine : Machine σ} {modrmAddress : UInt64}
    {modrm : UInt8} {decoded : UInt64 × UInt64} (hmodrm : machine.byteAt modrmAddress = some modrm)
    (hmod : modField modrm ≠ 3)
    (h : machine.effectiveAddress instruction modrmAddress modrm = some decoded) :
    machine.operandAddress instruction modrmAddress = some decoded.1 := by
  simp only [Machine.operandAddress, hmodrm, Option.bind_some, if_neg hmod, h, Option.map_some]

/-- An opcode that carries a register number in its low three bits. -/
theorem opcodeIndex_lt {opcode low : UInt8} (rex : Bool) (hlow : low ≤ opcode)
    (hhigh : opcode ≤ low + 7) (hfit : low.toNat + 7 < 256) :
    (opcode.toUInt32 - low.toUInt32) + (if rex then 8 else 0) < 16 := by
  rw [UInt8.le_iff_toNat_le] at hlow hhigh
  have hseven : (low + 7).toNat = low.toNat + 7 := by
    rw [UInt8.toNat_add, show (7 : UInt8).toNat = 7 from rfl, Nat.mod_eq_of_lt hfit]
  have hle : low.toUInt32 ≤ opcode.toUInt32 := by
    rw [UInt32.le_iff_toNat_le]
    exact hlow
  rw [UInt32.lt_iff_toNat_lt, UInt32.toNat_add, UInt32.toNat_sub_of_le _ _ hle]
  simp only [UInt8.toNat_toUInt32]
  have hrex : (if rex then 8 else 0 : UInt32).toNat ≤ 8 := by
    cases rex <;> decide
  show _ < 16
  omega

include hbytes

theorem loadByteOperand_denotes (modrmAddress : UInt64) (modrm faultOpcode : UInt8) :
    ∃ value, Denotes start (loadByteOperand instruction modrmAddress modrm faultOpcode) value := by
  unfold loadByteOperand
  split
  · exact ⟨_, (getRegister8Low_denotes (rmIndex_lt modrm _)).map _⟩
  · rename_i hmod
    exact ⟨_, ((tryGetMemoryOperandAddress_denotes hbytes instruction modrmAddress
      hmod).orUnsupported faultOpcode).bind fun decoded _ =>
        (readU8_denotes hbytes decoded.1).orInvalidMemory.map _⟩

section Storeless

variable (hnone : allowed none)

include hnone

theorem executeX64MovImmediate32_completes (hlow : 0xB8 ≤ instruction.opcode)
    (hhigh : instruction.opcode ≤ 0xBF) :
    Completes start allowed start.machine (executeX64MovImmediate32 instruction) := by
  have hindex := opcodeIndex_lt instruction.rexB hlow hhigh (by decide)
  refine rejectRexW_then (fun _ => rfl) fun _ => ?_
  refine (readU32_denotes hbytes _).orInvalidMemory.completes fun immediate _ => ?_
  apply Finishes.completes _ hnone
  exact (setRegister32_commits hindex _).finishes fun _ => continueAt_finishes _

theorem executeX64Lea_completes :
    Completes start allowed start.machine (executeX64Lea instruction) := by
  unfold executeX64Lea
  refine (readU8_denotes hbytes _).orInvalidMemory.completes fun modrm _ => ?_
  have hreg := regIndex_lt modrm instruction.rexR
  split
  · exact unsupported_triple _
  rename_i hmod
  refine ((tryGetMemoryOperandAddress_denotes hbytes instruction _ hmod).orUnsupported _).completes
    ?_
  rintro ⟨memoryAddress, nextInstruction⟩ -
  apply Finishes.completes _ hnone
  exact ((setRegister64_commits hreg _).ite (setRegister32_commits hreg _)).finishes fun _ =>
    continueAt_finishes _

theorem executeX64Group80_completes :
    Completes start allowed start.machine (executeX64Group80 instruction) := by
  unfold executeX64Group80
  refine (readU8_denotes hbytes _).orInvalidMemory.completes fun modrm _ => ?_
  split
  · exact unsupported_triple _
  obtain ⟨value, hvalue⟩ :=
    loadByteOperand_denotes hbytes instruction.nextAddress modrm instruction.opcode
  refine hvalue.completes ?_
  rintro ⟨lhs, nextInstruction⟩ -
  refine (readU8_denotes hbytes _).orInvalidMemory.completes fun immediate _ => ?_
  apply Finishes.completes _ hnone
  exact (setCompareFlags_commits _ _ _ _).finishes fun _ => continueAt_finishes _

theorem executeX64SecondarySetcc_completes :
    Completes start allowed start.machine (executeX64SecondarySetcc instruction) := by
  unfold executeX64SecondarySetcc
  refine (readU8_denotes hbytes _).orInvalidMemory.completes fun secondaryOpcode _ => ?_
  refine (readU8_denotes hbytes _).orInvalidMemory.completes fun modrm _ => ?_
  split
  · exact unsupported_triple _
  apply Finishes.completes _ hnone
  exact getFlags_commits.finishes fun _ =>
    (setRegister8Low_commits (rmIndex_lt modrm _) _).finishes fun _ => continueAt_finishes _

theorem executeX64SecondaryMovzxByte_completes :
    Completes start allowed start.machine (executeX64SecondaryMovzxByte instruction) := by
  unfold executeX64SecondaryMovzxByte
  refine (readU8_denotes hbytes _).orInvalidMemory.completes fun modrm _ => ?_
  obtain ⟨value, hvalue⟩ := loadByteOperand_denotes hbytes (instruction.nextAddress + 1) modrm 0xB6
  refine hvalue.completes ?_
  rintro ⟨byte, nextInstruction⟩ -
  apply Finishes.completes _ hnone
  exact (setRegister32_commits (regIndex_lt modrm _) _).finishes fun _ => continueAt_finishes _

omit hbytes

theorem executeX64Nop_completes :
    Completes start allowed start.machine (executeX64Nop instruction) :=
  rejectRexW_then (fun _ => rfl) fun _ => (continueAt_finishes _).completes hnone

end Storeless

variable (hadmits : Admits start.machine instruction instruction.nextAddress allowed)

include hadmits

theorem executeX64MovImmediateToRm_completes :
    Completes start allowed start.machine (executeX64MovImmediateToRm instruction) := by
  unfold executeX64MovImmediateToRm
  refine (readU8_denotes hbytes _).orInvalidMemory.completes fun modrm hmodrm => ?_
  have hrm := rmIndex_lt modrm instruction.rexB
  split
  · exact unsupported_triple _
  split
  · refine (readU32_denotes hbytes _).orInvalidMemory.completes fun immediate _ => ?_
    apply Finishes.completes _ hadmits.none
    exact ((setRegister64_commits hrm _).ite (setRegister32_commits hrm _)).finishes fun _ =>
      continueAt_finishes _
  · rename_i hmod
    refine ((tryGetMemoryOperandAddress_denotes hbytes instruction _
      hmod).orUnsupported _).completes ?_
    rintro ⟨memoryAddress, nextInstruction⟩ hdecoded
    have haddress := operandAddress_of_effectiveAddress hmodrm hmod hdecoded
    refine (readU32_denotes hbytes _).orInvalidMemory.completes fun immediate _ => ?_
    refine Stores.completes (Attempt.Triple.ite (fun _ => ?_) fun _ => ?_) fun _ =>
      continueAt_finishes _
    · exact checkedWrite_stores hbytes (hadmits.operand _ _ haddress (by simp))
    · exact checkedWrite_stores hbytes (hadmits.operand _ _ haddress (by simp))

omit hbytes in
theorem movBetweenRegisters_stores {index rmRegisterIndex : UInt32} (hreg : index < 16)
    (hrm : rmRegisterIndex < 16) :
    Stores start allowed start.machine
      (movBetweenRegisters instruction index rmRegisterIndex) := by
  unfold movBetweenRegisters
  split
  · split
    · exact (getRegister64_denotes hreg).stores fun _ _ =>
        (setRegister64_commits hrm _).stores hadmits.none
    · exact (getRegister32_denotes hreg).stores fun _ _ =>
        (setRegister32_commits hrm _).stores hadmits.none
  split
  · split
    · exact (getRegister64_denotes hrm).stores fun _ _ =>
        (setRegister64_commits hreg _).stores hadmits.none
    · exact (getRegister32_denotes hrm).stores fun _ _ =>
        (setRegister32_commits hreg _).stores hadmits.none
  · exact unsupported_triple _

theorem movWithMemory_stores {index : UInt32} {memoryAddress : UInt64} (hreg : index < 16)
    (haddress : start.machine.operandAddress instruction instruction.nextAddress =
      some memoryAddress) :
    Stores start allowed start.machine (movWithMemory instruction index memoryAddress) := by
  unfold movWithMemory
  split
  · split
    · exact (getRegister64_denotes hreg).stores fun _ _ =>
        checkedWrite_stores hbytes (hadmits.operand _ _ haddress (by simp))
    split
    · exact (readU64_denotes hbytes _).orInvalidMemory.stores fun _ _ =>
        (setRegister64_commits hreg _).stores hadmits.none
    · exact unsupported_triple _
  · split
    · exact (getRegister32_denotes hreg).stores fun _ _ =>
        checkedWrite_stores hbytes (hadmits.operand _ _ haddress (by simp))
    split
    · exact (readU32_denotes hbytes _).orInvalidMemory.stores fun _ _ =>
        (setRegister32_commits hreg _).stores hadmits.none
    · exact unsupported_triple _

theorem executeX64MovRegister_completes :
    Completes start allowed start.machine (executeX64MovRegister instruction) := by
  unfold executeX64MovRegister
  refine (readU8_denotes hbytes _).orInvalidMemory.completes fun modrm hmodrm => ?_
  have hreg := regIndex_lt modrm instruction.rexR
  split
  · exact (movBetweenRegisters_stores hadmits hreg (rmIndex_lt modrm _)).completes fun _ =>
      continueAt_finishes _
  · rename_i hmod
    refine ((tryGetMemoryOperandAddress_denotes hbytes instruction _
      hmod).orUnsupported _).completes ?_
    rintro ⟨memoryAddress, nextInstruction⟩ hdecoded
    have haddress := operandAddress_of_effectiveAddress hmodrm hmod hdecoded
    exact (movWithMemory_stores hbytes hadmits hreg haddress).completes fun _ =>
      continueAt_finishes _

end DataMovementHandlers

section SimdHandlers

variable {start : ExecutionContext σ} (hbytes : start.machine.memory.bytes ≠ 0)
  {allowed : GuestStore → Prop} {instruction : DecodedInstruction}

include hbytes

theorem tryReadSimdOperand_denotes {operand : DecodedModrmOperand} (hindex : operand.rmIndex < 16) :
    Denotes start (tryReadSimdOperand operand)
      (if operand.rmIsRegister then some (start.machine.simdRegister operand.rmIndex)
        else start.machine.simdAt operand.rmAddress) := by
  unfold tryReadSimdOperand
  split
  · exact getSimdRegister_denotes hindex
  · exact readU128_denotes hbytes _

theorem tryReadRm32Operand_denotes {operand : DecodedModrmOperand} (hindex : operand.rmIndex < 16) :
    Denotes start (tryReadRm32Operand operand)
      (if operand.rmIsRegister then some (start.machine.register operand.rmIndex).toUInt32
        else start.machine.wordAt operand.rmAddress) := by
  unfold tryReadRm32Operand
  split
  · exact getRegister32_denotes hindex
  · exact readU32_denotes hbytes _

section Storeless

variable (hnone : allowed none)

include hnone

theorem executeX64SecondaryMovXmm_completes :
    Completes start allowed start.machine (executeX64SecondaryMovXmm instruction) := by
  unfold executeX64SecondaryMovXmm
  split
  · exact unsupported_triple _
  refine (tryDecodeModrmOperand_denotes hbytes _ _).orInvalidMemory.completes
    fun operand hoperand => ?_
  obtain ⟨hreg, hrm, -⟩ := modrmOperand_spec hoperand
  refine (tryReadSimdOperand_denotes hbytes hrm).orInvalidMemory.completes fun source _ => ?_
  apply Finishes.completes _ hnone
  exact (setSimdRegister_commits hreg _).finishes fun _ => continueAt_finishes _

theorem executeX64SecondaryXorps_completes :
    Completes start allowed start.machine (executeX64SecondaryXorps instruction) := by
  unfold executeX64SecondaryXorps
  split
  · exact unsupported_triple _
  refine (tryDecodeModrmOperand_denotes hbytes _ _).orInvalidMemory.completes
    fun operand hoperand => ?_
  obtain ⟨hreg, hrm, -⟩ := modrmOperand_spec hoperand
  refine (tryReadSimdOperand_denotes hbytes hrm).orInvalidMemory.completes fun source _ => ?_
  refine (getSimdRegister_denotes hreg).completes fun destination _ => ?_
  apply Finishes.completes _ hnone
  exact (setSimdRegister_commits hreg _).finishes fun _ => continueAt_finishes _

theorem executeX64SecondaryMovd_completes :
    Completes start allowed start.machine (executeX64SecondaryMovd instruction) := by
  unfold executeX64SecondaryMovd
  split
  · exact unsupported_triple _
  refine (tryDecodeModrmOperand_denotes hbytes _ _).orInvalidMemory.completes
    fun operand hoperand => ?_
  obtain ⟨hreg, hrm, -⟩ := modrmOperand_spec hoperand
  refine (tryReadRm32Operand_denotes hbytes hrm).orInvalidMemory.completes fun source _ => ?_
  apply Finishes.completes _ hnone
  exact (setSimdRegister_commits hreg _).finishes fun _ => continueAt_finishes _

theorem executeX64SecondaryPunpcklbw_completes :
    Completes start allowed start.machine (executeX64SecondaryPunpcklbw instruction) := by
  unfold executeX64SecondaryPunpcklbw
  split
  · exact unsupported_triple _
  refine (tryDecodeModrmOperand_denotes hbytes _ _).orInvalidMemory.completes
    fun operand hoperand => ?_
  obtain ⟨hreg, hrm, -⟩ := modrmOperand_spec hoperand
  refine (tryReadSimdOperand_denotes hbytes hrm).orInvalidMemory.completes fun source _ => ?_
  refine (getSimdRegister_denotes hreg).completes fun destination _ => ?_
  apply Finishes.completes _ hnone
  exact (setSimdRegister_commits hreg _).finishes fun _ => continueAt_finishes _

theorem executeX64SecondaryShuffle_completes :
    Completes start allowed start.machine (executeX64SecondaryShuffle instruction) := by
  unfold executeX64SecondaryShuffle
  apply Attempt.Triple.ite
  · intro _
    exact unsupported_triple _
  intro _
  refine (tryDecodeModrmOperand_denotes hbytes _ _).orInvalidMemory.completes
    fun operand hoperand => ?_
  obtain ⟨hreg, hrm, -⟩ := modrmOperand_spec hoperand
  refine (readU8_denotes hbytes _).orInvalidMemory.completes fun immediate _ => ?_
  refine (tryReadSimdOperand_denotes hbytes hrm).orInvalidMemory.completes fun source _ => ?_
  apply Finishes.completes _ hnone
  exact (setSimdRegister_commits hreg _).finishes fun _ => continueAt_finishes _

end Storeless

variable (hadmits : Admits start.machine instruction (instruction.nextAddress + 1) allowed)

include hadmits

theorem storeSimdOperand_stores {operand : DecodedModrmOperand}
    (hoperand : start.machine.modrmOperand instruction (instruction.nextAddress + 1) =
      some operand) :
    Stores start allowed start.machine (storeSimdOperand operand) := by
  obtain ⟨hreg, hrm, haddress⟩ := modrmOperand_spec hoperand
  unfold storeSimdOperand
  split
  · exact (getSimdRegister_denotes hreg).stores fun _ _ =>
      (setSimdRegister_commits hrm _).stores hadmits.none
  · rename_i hmemory
    refine (getSimdRegister_denotes hreg).stores fun _ _ => checkedWrite_stores hbytes ?_
    exact hadmits.operand _ _ (haddress (by simpa using hmemory)) (by simp)

theorem executeX64SecondaryStoreXmm_completes :
    Completes start allowed start.machine (executeX64SecondaryStoreXmm instruction) := by
  unfold executeX64SecondaryStoreXmm
  refine (readU8_denotes hbytes _).orInvalidMemory.completes fun secondaryOpcode _ => ?_
  apply Attempt.Triple.ite
  · intro _
    exact unsupported_triple _
  intro _
  refine (tryDecodeModrmOperand_denotes hbytes _ _).orInvalidMemory.completes
    fun operand hoperand => ?_
  exact (storeSimdOperand_stores hbytes hadmits hoperand).completes fun _ =>
    continueAt_finishes _

theorem executeX64SecondaryMovqStore_completes :
    Completes start allowed start.machine (executeX64SecondaryMovqStore instruction) := by
  unfold executeX64SecondaryMovqStore
  split
  · exact unsupported_triple _
  refine (tryDecodeModrmOperand_denotes hbytes _ _).orInvalidMemory.completes
    fun operand hoperand => ?_
  obtain ⟨hreg, -, haddress⟩ := modrmOperand_spec hoperand
  split
  · exact unsupported_triple _
  rename_i hmemory
  refine (getSimdRegister_denotes hreg).completes fun value _ => ?_
  refine Stores.completes (checkedWrite_stores hbytes ?_) fun _ => continueAt_finishes _
  exact hadmits.operand _ _ (haddress (by simpa using hmemory)) (by simp)

end SimdHandlers

end Ringos.Emulator

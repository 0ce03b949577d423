import Ringos.Emulator.Decoder

/-!
# Data movement instructions

These handlers read the ModRM byte themselves and ask for the operand address
only when the operand is in memory.
-/

namespace Ringos.Emulator

open Ringos.Core
open Exec

variable {σ : Type}

/-- `execute_x64_mov_immediate32`. -/
def executeX64MovImmediate32 (instruction : DecodedInstruction) : Exec σ InstructionOutcome := do
  rejectRexW instruction
  let index := (instruction.opcode.toUInt32 - 0xB8) + if instruction.rexB then 8 else 0
  let immediate ← orInvalidMemory (readU32 instruction.nextAddress)
  setRegister32 index immediate
  continueAt (instruction.nextAddress + 4)

/-- `execute_x64_mov_immediate_to_rm`. -/
def executeX64MovImmediateToRm (instruction : DecodedInstruction) :
    Exec σ InstructionOutcome := do
  let modrm ← orInvalidMemory (readU8 instruction.nextAddress)
  let rmRegisterIndex := registerIndex (rmField modrm) instruction.rexB
  if regField modrm ≠ 0 then unsupported instruction.opcode
  else if modField modrm = 3 then do
    let immediate ← orInvalidMemory (readU32 (instruction.nextAddress + 1))
    (if instruction.rexW then setRegister64 rmRegisterIndex (displacement32 immediate.toInt32)
      else setRegister32 rmRegisterIndex immediate)
    continueAt (instruction.nextAddress + 1 + 4)
  else do
    let (memoryAddress, nextInstruction) ← orUnsupported instruction.opcode
      (tryGetMemoryOperandAddress instruction instruction.nextAddress modrm)
    let immediate ← orInvalidMemory (readU32 nextInstruction)
    (if instruction.rexW then
        orInvalidMemory (writeU64 memoryAddress (displacement32 immediate.toInt32))
      else orInvalidMemory (writeU32 memoryAddress immediate))
    continueAt (nextInstruction + 4)

/-- The register form of `execute_x64_mov_register`. -/
def movBetweenRegisters (instruction : DecodedInstruction) (index rmRegisterIndex : UInt32) :
    Exec σ Unit :=
  if instruction.opcode = 0x89 then
    if instruction.rexW then do
      let value ← getRegister64 index
      setRegister64 rmRegisterIndex value
    else do
      let value ← getRegister32 index
      setRegister32 rmRegisterIndex value
  else if instruction.opcode = 0x8B then
    if instruction.rexW then do
      let value ← getRegister64 rmRegisterIndex
      setRegister64 index value
    else do
      let value ← getRegister32 rmRegisterIndex
      setRegister32 index value
  else unsupported instruction.opcode

/-- The memory form of `execute_x64_mov_register`. -/
def movWithMemory (instruction : DecodedInstruction) (index : UInt32) (memoryAddress : UInt64) :
    Exec σ Unit :=
  if instruction.rexW then
    if instruction.opcode = 0x89 then do
      let value ← getRegister64 index
      orInvalidMemory (writeU64 memoryAddress value)
    else if instruction.opcode = 0x8B then do
      let value ← orInvalidMemory (readU64 memoryAddress)
      setRegister64 index value
    else unsupported instruction.opcode
  else
    if instruction.opcode = 0x89 then do
      let value ← getRegister32 index
      orInvalidMemory (writeU32 memoryAddress value)
    else if instruction.opcode = 0x8B then do
      let value ← orInvalidMemory (readU32 memoryAddress)
      setRegister32 index value
    else unsupported instruction.opcode

/-- `execute_x64_mov_register`. -/
def executeX64MovRegister (instruction : DecodedInstruction) : Exec σ InstructionOutcome := do
  let modrm ← orInvalidMemory (readU8 instruction.nextAddress)
  let index := registerIndex (regField modrm) instruction.rexR
  let rmRegisterIndex := registerIndex (rmField modrm) instruction.rexB
  if modField modrm = 3 then do
    movBetweenRegisters instruction index rmRegisterIndex
    continueAt (instruction.nextAddress + 1)
  else do
    let (memoryAddress, nextInstruction) ← orUnsupported instruction.opcode
      (tryGetMemoryOperandAddress instruction instruction.nextAddress modrm)
    movWithMemory instruction index memoryAddress
    continueAt nextInstruction

/-- `execute_x64_lea`. -/
def executeX64Lea (instruction : DecodedInstruction) : Exec σ InstructionOutcome := do
  let modrm ← orInvalidMemory (readU8 instruction.nextAddress)
  let index := registerIndex (regField modrm) instruction.rexR
  if modField modrm = 3 then unsupported instruction.opcode
  else do
    let (memoryAddress, nextInstruction) ← orUnsupported instruction.opcode
      (tryGetMemoryOperandAddress instruction instruction.nextAddress modrm)
    (if instruction.rexW then setRegister64 index memoryAddress
      else setRegister32 index memoryAddress.toUInt32)
    continueAt nextInstruction

/-- The byte operand of `execute_x64_group80` and `execute_x64_secondary_movzx_byte`, and the
address behind the operand bytes. -/
def loadByteOperand (instruction : DecodedInstruction) (modrmAddress : UInt64) (modrm : UInt8)
    (faultOpcode : UInt8) : Exec σ (UInt8 × UInt64) :=
  if modField modrm = 3 then do
    let value ← getRegister8Low (registerIndex (rmField modrm) instruction.rexB)
    pure (value, modrmAddress + 1)
  else do
    let (memoryAddress, nextInstruction) ← orUnsupported faultOpcode
      (tryGetMemoryOperandAddress instruction modrmAddress modrm)
    let value ← orInvalidMemory (readU8 memoryAddress)
    pure (value, nextInstruction)

/-- `execute_x64_group80`. -/
def executeX64Group80 (instruction : DecodedInstruction) : Exec σ InstructionOutcome := do
  let modrm ← orInvalidMemory (readU8 instruction.nextAddress)
  if regField modrm ≠ 7 then unsupported instruction.opcode
  else do
    let (lhs, nextInstruction) ←
      loadByteOperand instruction instruction.nextAddress modrm instruction.opcode
    let immediate ← orInvalidMemory (readU8 nextInstruction)
    setCompareFlags lhs.toUInt64 immediate.toUInt64 (lhs - immediate).toUInt64 false
    continueAt (nextInstruction + 1)

/-- `execute_x64_secondary_setcc`. -/
def executeX64SecondarySetcc (instruction : DecodedInstruction) : Exec σ InstructionOutcome := do
  let secondaryOpcode ← orInvalidMemory (readU8 instruction.nextAddress)
  let modrm ← orInvalidMemory (readU8 (instruction.nextAddress + 1))
  let destinationRegister := registerIndex (rmField modrm) instruction.rexB
  if modField modrm ≠ 3 ∨ (secondaryOpcode ≠ 0x94 ∧ secondaryOpcode ≠ 0x95) then
    unsupported secondaryOpcode
  else do
    let flags ← getFlags
    let zeroFlagSet : Bool := (flags &&& rflagsZero) != 0
    let setCondition := if secondaryOpcode = 0x94 then zeroFlagSet else !zeroFlagSet
    setRegister8Low destinationRegister (if setCondition then 1 else 0)
    continueAt (instruction.nextAddress + 2)

/-- `execute_x64_secondary_movzx_byte`. -/
def executeX64SecondaryMovzxByte (instruction : DecodedInstruction) :
    Exec σ InstructionOutcome := do
  let modrm ← orInvalidMemory (readU8 (instruction.nextAddress + 1))
  let destinationRegister := registerIndex (regField modrm) instruction.rexR
  let (value, nextInstruction) ←
    loadByteOperand instruction (instruction.nextAddress + 1) modrm 0xB6
  setRegister32 destinationRegister value.toUInt32
  continueAt nextInstruction

/-- `execute_x64_nop`. -/
def executeX64Nop (instruction : DecodedInstruction) : Exec σ InstructionOutcome := do
  rejectRexW instruction
  continueAt instruction.nextAddress

end Ringos.Emulator

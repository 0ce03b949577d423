import Ringos.Emulator.Decoder

/-!
# Arithmetic and logic instructions

The 32- and the 64-bit form of a read-modify-write instruction differ only in
the accessors they use. Opcodes `81` and `83` differ only in the immediate.
-/

namespace Ringos.Emulator

open Ringos.Core
open Exec

variable {σ : Type}

/-- The 64-bit value of an r/m operand. -/
def loadRm64 (operand : DecodedRmOperand) : Exec σ UInt64 :=
  if operand.rmIsRegister then getRegister64 operand.rmIndex
  else orInvalidMemory (readU64 operand.rmAddress)

/-- The 32-bit value of an r/m operand. -/
def loadRm32 (operand : DecodedRmOperand) : Exec σ UInt32 :=
  if operand.rmIsRegister then getRegister32 operand.rmIndex
  else orInvalidMemory (readU32 operand.rmAddress)

/-- The 8-bit value of an r/m operand. -/
def loadRm8 (operand : DecodedRmOperand) : Exec σ UInt8 :=
  if operand.rmIsRegister then getRegister8Low operand.rmIndex
  else orInvalidMemory (readU8 operand.rmAddress)

/-- Assign a 64-bit r/m operand. -/
def storeRm64 (operand : DecodedRmOperand) (value : UInt64) : Exec σ Unit :=
  if operand.rmIsRegister then setRegister64 operand.rmIndex value
  else orInvalidMemory (writeU64 operand.rmAddress value)

/-- Assign a 32-bit r/m operand. -/
def storeRm32 (operand : DecodedRmOperand) (value : UInt32) : Exec σ Unit :=
  if operand.rmIsRegister then setRegister32 operand.rmIndex value
  else orInvalidMemory (writeU32 operand.rmAddress value)

/-- `execute_x64_xor_register`. -/
def executeX64XorRegister (instruction : DecodedInstruction) : Exec σ InstructionOutcome :=
  if instruction.rexW then unsupported instruction.opcode
  else do
    let modrm ← orInvalidMemory (readU8 instruction.nextAddress)
    let sourceRegister := registerIndex (regField modrm) instruction.rexR
    let destinationRegister := registerIndex (rmField modrm) instruction.rexB
    if modField modrm ≠ 3 then unsupported instruction.opcode
    else do
      let lhs ← getRegister32 destinationRegister
      let rhs ← getRegister32 sourceRegister
      setRegister32 destinationRegister (lhs ^^^ rhs)
      setLogicFlags (lhs ^^^ rhs).toUInt64 false
      continueAt (instruction.nextAddress + 1)

/-- `execute_x64_or_register_byte`. -/
def executeX64OrRegisterByte (instruction : DecodedInstruction) : Exec σ InstructionOutcome := do
  let modrm ← orInvalidMemory (readU8 instruction.nextAddress)
  let sourceRegister := registerIndex (regField modrm) instruction.rexR
  let destinationRegister := registerIndex (rmField modrm) instruction.rexB
  if modField modrm ≠ 3 then unsupported instruction.opcode
  else do
    let lhs ← getRegister8Low destinationRegister
    let rhs ← getRegister8Low sourceRegister
    setRegister8Low destinationRegister (lhs ||| rhs)
    setLogicFlags (lhs ||| rhs).toUInt64 false
    continueAt (instruction.nextAddress + 1)

/-- `execute_x64_or_rm_to_register`. -/
def executeX64OrRmToRegister (instruction : DecodedInstruction) : Exec σ InstructionOutcome := do
  let modrm ← orInvalidMemory (readU8 instruction.nextAddress)
  let operand ← orInvalidMemory (tryDecodeRmOperand instruction instruction.nextAddress)
  let destinationRegister := registerIndex (regField modrm) instruction.rexR
  if instruction.rexW then do
    let rhs ← loadRm64 operand
    let lhs ← getRegister64 destinationRegister
    setRegister64 destinationRegister (lhs ||| rhs)
    setLogicFlags (lhs ||| rhs) true
    continueAt operand.nextInstruction
  else do
    let rhs ← loadRm32 operand
    let lhs ← getRegister32 destinationRegister
    setRegister32 destinationRegister (lhs ||| rhs)
    setLogicFlags (lhs ||| rhs).toUInt64 false
    continueAt operand.nextInstruction

/-- `execute_x64_test_register`. -/
def executeX64TestRegister (instruction : DecodedInstruction) : Exec σ InstructionOutcome := do
  let modrm ← orInvalidMemory (readU8 instruction.nextAddress)
  let sourceRegister := registerIndex (regField modrm) instruction.rexR
  let destinationRegister := registerIndex (rmField modrm) instruction.rexB
  if modField modrm ≠ 3 then unsupported instruction.opcode
  else if instruction.rexW then do
    let lhs ← getRegister64 destinationRegister
    let rhs ← getRegister64 sourceRegister
    setLogicFlags (lhs &&& rhs) true
    continueAt (instruction.nextAddress + 1)
  else do
    let lhs ← getRegister32 destinationRegister
    let rhs ← getRegister32 sourceRegister
    setLogicFlags (lhs &&& rhs).toUInt64 false
    continueAt (instruction.nextAddress + 1)

/-- `execute_x64_test_accumulator_immediate`. -/
def executeX64TestAccumulatorImmediate (instruction : DecodedInstruction) :
    Exec σ InstructionOutcome := do
  let immediate ← orInvalidMemory (readU32 instruction.nextAddress)
  if instruction.rexW then do
    let value ← getRegister64 rax
    setLogicFlags (value &&& displacement32 immediate.toInt32) true
    continueAt (instruction.nextAddress + 4)
  else do
    let value ← getRegister32 rax
    setLogicFlags (value &&& immediate).toUInt64 false
    continueAt (instruction.nextAddress + 4)

/-- `execute_x64_group_f6`. -/
def executeX64GroupF6 (instruction : DecodedInstruction) : Exec σ InstructionOutcome := do
  let operand ← orInvalidMemory (tryDecodeRmOperand instruction instruction.nextAddress)
  let immediate ← orInvalidMemory (readU8 operand.nextInstruction)
  if operand.operation ≠ 0 then unsupported instruction.opcode
  else do
    let lhs ← loadRm8 operand
    setLogicFlags (lhs &&& immediate).toUInt64 false
    continueAt (operand.nextInstruction + 1)

/-- `execute_x64_group_f7`. -/
def executeX64GroupF7 (instruction : DecodedInstruction) : Exec σ InstructionOutcome := do
  let operand ← orInvalidMemory (tryDecodeRmOperand instruction instruction.nextAddress)
  if operand.operation ≠ 3 then unsupported instruction.opcode
  else if instruction.rexW then do
    let rhs ← loadRm64 operand
    storeRm64 operand (0 - rhs)
    setCompareFlags 0 rhs (0 - rhs) true
    continueAt operand.nextInstruction
  else do
    let rhs ← loadRm32 operand
    storeRm32 operand (0 - rhs)
    setCompareFlags 0 rhs.toUInt64 (0 - rhs).toUInt64 false
    continueAt operand.nextInstruction

/-- What `execute_x64_group81` and `execute_x64_group83` do once the immediate is read. -/
def executeArithmeticImmediate (instruction : DecodedInstruction) (operand : DecodedRmOperand)
    (immediate64 : UInt64) (immediate32 : UInt32) (nextInstruction : UInt64) :
    Exec σ InstructionOutcome :=
  if instruction.rexW then do
    let lhs ← loadRm64 operand
    if operand.operation = 0 then do
      storeRm64 operand (lhs + immediate64)
      setAddFlags lhs immediate64 (lhs + immediate64) true
      continueAt nextInstruction
    else if operand.operation = 5 then do
      storeRm64 operand (lhs - immediate64)
      setCompareFlags lhs immediate64 (lhs - immediate64) true
      continueAt nextInstruction
    else if operand.operation = 7 then do
      setCompareFlags lhs immediate64 (lhs - immediate64) true
      continueAt nextInstruction
    else unsupported instruction.opcode
  else do
    let lhs ← loadRm32 operand
    if operand.operation = 0 then do
      storeRm32 operand (lhs + immediate32)
      setAddFlags lhs.toUInt64 immediate32.toUInt64 (lhs + immediate32).toUInt64 false
      continueAt nextInstruction
    else if operand.operation = 5 then do
      storeRm32 operand (lhs - immediate32)
      setCompareFlags lhs.toUInt64 immediate32.toUInt64 (lhs - immediate32).toUInt64 false
      continueAt nextInstruction
    else if operand.operation = 7 then do
      setCompareFlags lhs.toUInt64 immediate32.toUInt64 (lhs - immediate32).toUInt64 false
      continueAt nextInstruction
    else unsupported instruction.opcode

/-- `execute_x64_group83`. -/
def executeX64Group83 (instruction : DecodedInstruction) : Exec σ InstructionOutcome := do
  let operand ← orInvalidMemory (tryDecodeRmOperand instruction instruction.nextAddress)
  let immediate ← orInvalidMemory (readI8 operand.nextInstruction)
  executeArithmeticImmediate instruction operand (displacement8 immediate)
    immediate.toInt32.toUInt32 (operand.nextInstruction + 1)

/-- `execute_x64_group81`. -/
def executeX64Group81 (instruction : DecodedInstruction) : Exec σ InstructionOutcome := do
  let operand ← orInvalidMemory (tryDecodeRmOperand instruction instruction.nextAddress)
  let immediate ← orInvalidMemory (readI32 operand.nextInstruction)
  executeArithmeticImmediate instruction operand (displacement32 immediate)
    immediate.toUInt32 (operand.nextInstruction + 4)

/-- `execute_x64_compare_rm_with_register`. -/
def executeX64CompareRmWithRegister (instruction : DecodedInstruction) :
    Exec σ InstructionOutcome := do
  let modrm ← orInvalidMemory (readU8 instruction.nextAddress)
  let operand ← orInvalidMemory (tryDecodeRmOperand instruction instruction.nextAddress)
  let sourceRegister := registerIndex (regField modrm) instruction.rexR
  if instruction.rexW then do
    let rhs ← getRegister64 sourceRegister
    let lhs ← loadRm64 operand
    setCompareFlags lhs rhs (lhs - rhs) true
    continueAt operand.nextInstruction
  else do
    let rhs ← getRegister32 sourceRegister
    let lhs ← loadRm32 operand
    setCompareFlags lhs.toUInt64 rhs.toUInt64 (lhs - rhs).toUInt64 false
    continueAt operand.nextInstruction

end Ringos.Emulator

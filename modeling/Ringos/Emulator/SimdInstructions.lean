import Ringos.Emulator.Decoder

/-!
# SIMD instructions

The secondary opcodes that move and shuffle XMM registers. Mandatory prefixes
are checked before the operand is decoded.
-/

namespace Ringos.Emulator

open Ringos.Core
open Exec

variable {σ : Type}

/-- `try_read_simd_operand`. -/
def tryReadSimdOperand (operand : DecodedModrmOperand) : Exec σ SimdRegister :=
  if operand.rmIsRegister then getSimdRegister operand.rmIndex
  else readU128 operand.rmAddress

/-- `try_read_rm32_operand`. -/
def tryReadRm32Operand (operand : DecodedModrmOperand) : Exec σ UInt32 :=
  if operand.rmIsRegister then getRegister32 operand.rmIndex
  else readU32 operand.rmAddress

/-- No mandatory prefix is present. -/
def hasNoSimdPrefix (instruction : DecodedInstruction) : Bool :=
  !instruction.prefix66 && !instruction.prefixF2 && !instruction.prefixF3

/-- Only prefix `66` is present. -/
def hasOnlyPrefix66 (instruction : DecodedInstruction) : Bool :=
  instruction.prefix66 && !instruction.prefixF2 && !instruction.prefixF3

/-- `execute_x64_secondary_mov_xmm`. -/
def executeX64SecondaryMovXmm (instruction : DecodedInstruction) : Exec σ InstructionOutcome :=
  if !hasNoSimdPrefix instruction then unsupported 0x10
  else do
    let operand ← orInvalidMemory
      (tryDecodeModrmOperand instruction (instruction.nextAddress + 1))
    let source ← orInvalidMemory (tryReadSimdOperand operand)
    setSimdRegister operand.regIndex source
    continueAt operand.nextInstruction

/-- The store of `execute_x64_secondary_store_xmm`. -/
def storeSimdOperand (operand : DecodedModrmOperand) : Exec σ Unit :=
  if operand.rmIsRegister then do
    let value ← getSimdRegister operand.regIndex
    setSimdRegister operand.rmIndex value
  else do
    let value ← getSimdRegister operand.regIndex
    orInvalidMemory (writeU128 operand.rmAddress value)

/-- `execute_x64_secondary_store_xmm`. -/
def executeX64SecondaryStoreXmm (instruction : DecodedInstruction) :
    Exec σ InstructionOutcome := do
  let secondaryOpcode ← orInvalidMemory (readU8 instruction.nextAddress)
  let isMovups := secondaryOpcode == 0x11 && hasNoSimdPrefix instruction
  let isMovaps := secondaryOpcode == 0x29 && hasNoSimdPrefix instruction
  let isMovdqu := secondaryOpcode == 0x7F && instruction.prefixF3 && !instruction.prefix66 &&
    !instruction.prefixF2
  if !isMovups && !isMovaps && !isMovdqu then unsupported secondaryOpcode
  else do
    let operand ← orInvalidMemory
      (tryDecodeModrmOperand instruction (instruction.nextAddress + 1))
    storeSimdOperand operand
    continueAt operand.nextInstruction

/-- `execute_x64_secondary_xorps`. -/
def executeX64SecondaryXorps (instruction : DecodedInstruction) : Exec σ InstructionOutcome :=
  if !hasNoSimdPrefix instruction then unsupported 0x57
  else do
    let operand ← orInvalidMemory
      (tryDecodeModrmOperand instruction (instruction.nextAddress + 1))
    let source ← orInvalidMemory (tryReadSimdOperand operand)
    let destination ← getSimdRegister operand.regIndex
    setSimdRegister operand.regIndex (Vector.zipWith (· ^^^ ·) destination source)
    continueAt operand.nextInstruction

/-- The register of `execute_x64_secondary_movd`: a word below zeroes. -/
def movdValue (source : UInt32) : SimdRegister :=
  Vector.ofFn fun index : Fin 16 => (toLittleEndian 4 source.toUInt64).getD index.val 0

/-- `execute_x64_secondary_movd`. -/
def executeX64SecondaryMovd (instruction : DecodedInstruction) : Exec σ InstructionOutcome :=
  if !hasOnlyPrefix66 instruction then unsupported 0x6E
  else do
    let operand ← orInvalidMemory
      (tryDecodeModrmOperand instruction (instruction.nextAddress + 1))
    let source ← orInvalidMemory (tryReadRm32Operand operand)
    setSimdRegister operand.regIndex (movdValue source)
    continueAt operand.nextInstruction

/-- The interleaving of `execute_x64_secondary_punpcklbw`: the low halves alternate, the
destination first. -/
def punpcklbwValue (destination source : SimdRegister) : SimdRegister :=
  Vector.ofFn fun index : Fin 16 =>
    if index.val % 2 = 0 then destination[index.val / 2]?.getD 0
    else source[index.val / 2]?.getD 0

/-- `execute_x64_secondary_punpcklbw`. -/
def executeX64SecondaryPunpcklbw (instruction : DecodedInstruction) :
    Exec σ InstructionOutcome :=
  if !hasOnlyPrefix66 instruction then unsupported 0x60
  else do
    let operand ← orInvalidMemory
      (tryDecodeModrmOperand instruction (instruction.nextAddress + 1))
    let source ← orInvalidMemory (tryReadSimdOperand operand)
    let originalDestination ← getSimdRegister operand.regIndex
    setSimdRegister operand.regIndex (punpcklbwValue originalDestination source)
    continueAt operand.nextInstruction

/-- `(immediate >> (index * 2)) & 0x3`. -/
def shuffleSource (immediate : UInt8) (index : Nat) : Nat :=
  ((immediate >>> (index * 2).toUInt8) &&& 0x3).toNat

/-- The loops of `execute_x64_secondary_shuffle`: the first four lanes of `width` bytes are
chosen by the immediate, the rest is kept. -/
def shuffleValue (width : Nat) (immediate : UInt8) (source : SimdRegister) : SimdRegister :=
  Vector.ofFn fun index : Fin 16 =>
    if index.val < 4 * width then
      source[shuffleSource immediate (index.val / width) * width + index.val % width]?.getD 0
    else source[index.val]

/-- `execute_x64_secondary_shuffle`. -/
def executeX64SecondaryShuffle (instruction : DecodedInstruction) :
    Exec σ InstructionOutcome :=
  let isPshufd := hasOnlyPrefix66 instruction
  let isPshuflw := instruction.prefixF2 && !instruction.prefix66 && !instruction.prefixF3
  if !isPshufd && !isPshuflw then unsupported 0x70
  else do
    let operand ← orInvalidMemory
      (tryDecodeModrmOperand instruction (instruction.nextAddress + 1))
    let immediate ← orInvalidMemory (readU8 operand.nextInstruction)
    let source ← orInvalidMemory (tryReadSimdOperand operand)
    setSimdRegister operand.regIndex (shuffleValue (if isPshufd then 4 else 2) immediate source)
    continueAt (operand.nextInstruction + 1)

/-- `execute_x64_secondary_movq_store`. -/
def executeX64SecondaryMovqStore (instruction : DecodedInstruction) :
    Exec σ InstructionOutcome :=
  if !hasOnlyPrefix66 instruction then unsupported 0xD6
  else do
    let operand ← orInvalidMemory
      (tryDecodeModrmOperand instruction (instruction.nextAddress + 1))
    if operand.rmIsRegister then unsupported 0xD6
    else do
      let value ← getSimdRegister operand.regIndex
      orInvalidMemory (writeU64 operand.rmAddress (ofLittleEndian (value.toList.take 8)))
      continueAt operand.nextInstruction

end Ringos.Emulator

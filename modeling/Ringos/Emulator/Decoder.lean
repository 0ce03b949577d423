import Ringos.Emulator.Accessors

/-!
# Decoding instructions and their operands

`decodeX64Instruction` consumes prefix bytes up to the primary opcode. Each
prefix byte lies one byte further into the guest region, so its size bounds the
loop. The ModRM decoders come in three copies: one for the arithmetic and one
for the SIMD instructions, which return a record, and one for data movement,
which is given the ModRM byte and marks the completion itself when a read fails.
-/

namespace Ringos.Emulator

open Ringos.Core

variable {σ : Type}

namespace DecodedInstruction

/-- The record the decoder starts from. -/
def initial (instructionPointer : UInt64) : DecodedInstruction where
  address := instructionPointer
  opcodeAddress := instructionPointer
  nextAddress := instructionPointer
  opcode := 0
  prefix66 := false
  prefixF2 := false
  prefixF3 := false
  rexW := false
  rexR := false
  rexX := false
  rexB := false

/-- The `if` chain of the decoder's loop: the record after a prefix byte, or `none` when the
byte is no prefix. -/
def applyPrefix (instruction : DecodedInstruction) : Option DecodedInstruction :=
  if instruction.opcode = 0x66 then some { instruction with prefix66 := true }
  else if instruction.opcode = 0xF2 then some { instruction with prefixF2 := true }
  else if instruction.opcode = 0xF3 then some { instruction with prefixF3 := true }
  else if instruction.opcode = 0x2E then some instruction
  else if instruction.opcode &&& 0xF0 = 0x40 then
    some { instruction with
      rexW := instruction.opcode &&& 0x08 ≠ 0
      rexR := instruction.opcode &&& 0x04 ≠ 0
      rexX := instruction.opcode &&& 0x02 ≠ 0
      rexB := instruction.opcode &&& 0x01 ≠ 0 }
  else none

end DecodedInstruction

open Exec

/-- The `read_u8` of the decoder and of `dispatch_secondary_opcode`, which reports the fault
with opcode zero. -/
def readOpcode (opcodeAddress : UInt64) : Exec σ UInt8 :=
  Attempt.onFailure
    (ExecutionContext.mapResult (EmulatorResult.setInvalidMemoryAccess opcodeAddress 0))
    (readU8 opcodeAddress)

/-- The `while` loop of `decode_x64_instruction`. -/
def decodePrefixes : Nat → DecodedInstruction → Exec σ DecodedInstruction
  | 0, _ => Attempt.fail
  | fuel + 1, instruction =>
    match instruction.applyPrefix with
    | none => pure instruction
    | some prefixed => do
      let opcode ← readOpcode (prefixed.opcodeAddress + 1)
      decodePrefixes fuel
        { prefixed with opcodeAddress := prefixed.opcodeAddress + 1, opcode := opcode }

/-- `decode_x64_instruction`. -/
def decodeX64Instruction : Exec σ DecodedInstruction := do
  let instructionPointer ← Attempt.read fun context =>
    context.machine.state.instructionPointer
  let size ← Attempt.read fun context => context.machine.memory.size
  let opcode ← readOpcode instructionPointer
  let instruction ←
    decodePrefixes size.toNat { DecodedInstruction.initial instructionPointer with opcode := opcode }
  pure { instruction with nextAddress := instruction.opcodeAddress + 1 }

/-- `(modrm >> 6) & 0x3`. -/
def modField (modrm : UInt8) : UInt8 := (modrm >>> 6) &&& 0x3

/-- `(modrm >> 3) & 0x7`. -/
def regField (modrm : UInt8) : UInt8 := (modrm >>> 3) &&& 0x7

/-- `modrm & 0x7`. -/
def rmField (modrm : UInt8) : UInt8 := modrm &&& 0x7

/-- A three-bit register field with its REX bit: `field + (rex ? 8U : 0U)`. -/
def registerIndex (field : UInt8) (rex : Bool) : UInt32 :=
  field.toUInt32 + if rex then 8 else 0

/-- A signed byte displacement as it is added to an address. -/
def displacement8 (displacement : Int8) : UInt64 := displacement.toInt64.toUInt64

/-- A signed word displacement as it is added to an address. -/
def displacement32 (displacement : Int32) : UInt64 := displacement.toInt64.toUInt64

/-- The index register of a SIB byte; field 4 without REX.X means none. -/
def sibIndexValue (instruction : DecodedInstruction) (indexField : UInt8) : Exec σ UInt64 :=
  if indexField ≠ 4 ∨ instruction.rexX then
    getRegister64 (registerIndex indexField instruction.rexX)
  else pure 0

/-- What the three copies of the SIB decoder share; `guarded` is what a copy does around its
reads. The result is the operand address and the address behind the operand bytes. -/
def readSibOperand (guarded : ∀ {α : Type}, Exec σ α → Exec σ α)
    (instruction : DecodedInstruction) (modrmAddress : UInt64) (mod : UInt8) :
    Exec σ (UInt64 × UInt64) := do
  let sib ← guarded (readU8 (modrmAddress + 1))
  let scale := (1 : UInt64) <<< (modField sib).toUInt64
  let indexField := regField sib
  let baseField := rmField sib
  let displacementAddress := modrmAddress + 2
  let indexValue ← sibIndexValue instruction indexField
  if mod = 0 then
    if baseField = 5 ∧ !instruction.rexB then do
      let displacement ← guarded (readI32 displacementAddress)
      pure (indexValue * scale + displacement32 displacement, displacementAddress + 4)
    else do
      let baseValue ← getRegister64 (registerIndex baseField instruction.rexB)
      pure (baseValue + indexValue * scale, displacementAddress)
  else if mod = 1 then do
    let displacement ← guarded (readI8 displacementAddress)
    let baseValue ← getRegister64 (registerIndex baseField instruction.rexB)
    pure (baseValue + indexValue * scale + displacement8 displacement, displacementAddress + 1)
  else if mod = 2 then do
    let displacement ← guarded (readI32 displacementAddress)
    let baseValue ← getRegister64 (registerIndex baseField instruction.rexB)
    pure (baseValue + indexValue * scale + displacement32 displacement, displacementAddress + 4)
  else Attempt.fail

/-- `try_read_sib_operand_address` of the arithmetic and of the SIMD instructions. -/
def tryReadSibOperandAddress (instruction : DecodedInstruction) (modrmAddress : UInt64)
    (mod : UInt8) : Exec σ (UInt64 × UInt64) :=
  readSibOperand (fun x => x) instruction modrmAddress mod

/-- `try_read_sib_address` of the data movement instructions. -/
def tryReadSibAddress (instruction : DecodedInstruction) (modrmAddress : UInt64)
    (mod : UInt8) : Exec σ (UInt64 × UInt64) :=
  readSibOperand orInvalidMemory instruction modrmAddress mod

/-- The address part of a ModRM operand that the arithmetic and the SIMD decoder share: the
operand address and the address behind the operand bytes. -/
def decodeModrmAddress (instruction : DecodedInstruction) (modrmAddress : UInt64)
    (modrm : UInt8) : Exec σ (UInt64 × UInt64) :=
  let mod := modField modrm
  let rm := rmField modrm
  let rmIndex := registerIndex rm instruction.rexB
  if mod = 3 then pure (0, modrmAddress + 1)
  else if rm = 4 then tryReadSibOperandAddress instruction modrmAddress mod
  else if mod = 0 then
    if rm = 5 ∧ !instruction.rexB then do
      let displacement ← readI32 (modrmAddress + 1)
      pure (modrmAddress + 5 + displacement32 displacement, modrmAddress + 5)
    else do
      let base ← getRegister64 rmIndex
      pure (base, modrmAddress + 1)
  else if mod = 1 then do
    let displacement ← readI8 (modrmAddress + 1)
    let base ← getRegister64 rmIndex
    pure (base + displacement8 displacement, modrmAddress + 2)
  else if mod = 2 then do
    let displacement ← readI32 (modrmAddress + 1)
    let base ← getRegister64 rmIndex
    pure (base + displacement32 displacement, modrmAddress + 5)
  else Attempt.fail

/-- `x64_decoded_rm_operand` of the arithmetic instructions. -/
structure DecodedRmOperand where
  mod : UInt8
  operation : UInt8
  rmIndex : UInt32
  rmIsRegister : Bool
  rmAddress : UInt64
  nextInstruction : UInt64

/-- `try_decode_rm_operand`. -/
def tryDecodeRmOperand (instruction : DecodedInstruction) (modrmAddress : UInt64) :
    Exec σ DecodedRmOperand := do
  let modrm ← readU8 modrmAddress
  let (rmAddress, nextInstruction) ← decodeModrmAddress instruction modrmAddress modrm
  pure
    { mod := modField modrm
      operation := regField modrm
      rmIndex := registerIndex (rmField modrm) instruction.rexB
      rmIsRegister := modField modrm = 3
      rmAddress := rmAddress
      nextInstruction := nextInstruction }

/-- `x64_decoded_modrm_operand` of the SIMD instructions. -/
structure DecodedModrmOperand where
  mod : UInt8
  regIndex : UInt32
  rmIndex : UInt32
  rmIsRegister : Bool
  rmAddress : UInt64
  nextInstruction : UInt64

/-- `try_decode_modrm_operand`. -/
def tryDecodeModrmOperand (instruction : DecodedInstruction) (modrmAddress : UInt64) :
    Exec σ DecodedModrmOperand := do
  let modrm ← readU8 modrmAddress
  let (rmAddress, nextInstruction) ← decodeModrmAddress instruction modrmAddress modrm
  pure
    { mod := modField modrm
      regIndex := registerIndex (regField modrm) instruction.rexR
      rmIndex := registerIndex (rmField modrm) instruction.rexB
      rmIsRegister := modField modrm = 3
      rmAddress := rmAddress
      nextInstruction := nextInstruction }

/-- `try_get_memory_operand_address` of the data movement instructions. -/
def tryGetMemoryOperandAddress (instruction : DecodedInstruction) (modrmAddress : UInt64)
    (modrm : UInt8) : Exec σ (UInt64 × UInt64) :=
  let mod := modField modrm
  let rm := rmField modrm
  let baseRegisterIndex := registerIndex rm instruction.rexB
  if mod = 0 then
    if rm = 4 then tryReadSibAddress instruction modrmAddress mod
    else if rm = 5 ∧ !instruction.rexB then do
      let displacement ← orInvalidMemory (readI32 (modrmAddress + 1))
      pure (modrmAddress + 5 + displacement32 displacement, modrmAddress + 5)
    else do
      let base ← getRegister64 baseRegisterIndex
      pure (base, modrmAddress + 1)
  else if mod = 1 then
    if rm = 4 then tryReadSibAddress instruction modrmAddress mod
    else do
      let displacement ← orInvalidMemory (readI8 (modrmAddress + 1))
      let base ← getRegister64 baseRegisterIndex
      pure (base + displacement8 displacement, modrmAddress + 2)
  else if mod = 2 then
    if rm = 4 then tryReadSibAddress instruction modrmAddress mod
    else do
      let displacement ← orInvalidMemory (readI32 (modrmAddress + 1))
      let base ← getRegister64 baseRegisterIndex
      pure (base + displacement32 displacement, modrmAddress + 5)
  else Attempt.fail

/-- What a data movement handler does when its operand decoder fails: a failed read has
already been reported, anything else is an unsupported encoding. -/
def orUnsupported {α : Type} (faultOpcode : UInt8) (x : Exec σ α) : Exec σ α :=
  Attempt.onFailure
    (fun context =>
      if context.result.completion = .invalidMemoryAccess then context
      else context.mapResult (EmulatorResult.setUnsupportedInstruction faultOpcode)) x

end Ringos.Emulator

import Ringos.Emulator.State

/-!
# Register, memory and flag accessors of the execution context

Every guest access goes through `translateGuestPointer`, which reports a fault
in the result record when it refuses. The fixed-width accessors are one read and
one write of a byte string. Hosts of the emulator are little-endian.
-/

namespace Ringos.Emulator

open Ringos.Core

variable {σ : Type}

namespace EmulatorMemory

/-- The checks of `translate_guest_pointer`, which wrap nowhere. -/
def contains (memory : EmulatorMemory) (guestAddress : UInt64) (length : Nat) : Bool :=
  !(guestAddress < memory.baseAddress) &&
    !(memory.size < guestAddress - memory.baseAddress) &&
    !((memory.size - (guestAddress - memory.baseAddress)).toNat < length)

/-- The offset of an admitted access into the guest region. -/
def offsetOf (memory : EmulatorMemory) (guestAddress : UInt64) (length : Nat) : Option UInt64 :=
  if memory.contains guestAddress length then some (guestAddress - memory.baseAddress) else none

end EmulatorMemory

/-- The guest bytes at an address, where they all lie in the guest region. -/
def Machine.bytesAt (machine : Machine σ) (guestAddress : UInt64) (length : Nat) :
    Option (List UInt8) :=
  (machine.memory.offsetOf guestAddress length).map fun offset =>
    loadBytes machine.host (machine.memory.bytes + offset) length

namespace Exec

/-- Update the result record. -/
def setResult (f : EmulatorResult → EmulatorResult) : Exec σ Unit :=
  Attempt.update (ExecutionContext.mapResult f)

/-- Update the guest state. -/
def setMachine (f : Machine σ → Machine σ) : Exec σ Unit :=
  Attempt.update (ExecutionContext.mapMachine f)

/-- Record an access. -/
def note (access : Access) : Exec σ Unit := Attempt.update (ExecutionContext.note access)

/-- `translate_guest_pointer`: the offset of the host pointer from `bytes`. -/
def translateGuestPointer (guestAddress : UInt64) (length : Nat) : Exec σ UInt64 := do
  let memory ← Attempt.read fun context => context.machine.memory
  let opcode ← Attempt.read fun context => context.result.fault.opcode
  if memory.bytes = 0 then Attempt.fail
  else if memory.contains guestAddress length then
    pure (guestAddress - memory.baseAddress)
  else do
    setResult (EmulatorResult.setInvalidMemoryAccess guestAddress opcode)
    Attempt.fail

/-- The body the `read_*` accessors share. -/
def readGuest (guestAddress : UInt64) (length : Nat) : Exec σ (List UInt8) := do
  let offset ← translateGuestPointer guestAddress length
  note (.guestRead offset length)
  Attempt.read fun context =>
    loadBytes context.machine.host (context.machine.memory.bytes + offset) length

/-- The body the `write_*` accessors share. -/
def writeGuest (guestAddress : UInt64) (bytes : List UInt8) : Exec σ Unit := do
  let offset ← translateGuestPointer guestAddress bytes.length
  note (.guestWrite offset bytes.length)
  setMachine fun machine =>
    { machine with host := storeBytes machine.host (machine.memory.bytes + offset) bytes }

/-- `read_u8`. -/
def readU8 (guestAddress : UInt64) : Exec σ UInt8 := do
  let bytes ← readGuest guestAddress 1
  pure (bytes.getD 0 0)

/-- `read_i8`. -/
def readI8 (guestAddress : UInt64) : Exec σ Int8 := do
  let byteValue ← readU8 guestAddress
  pure byteValue.toInt8

/-- `read_u32`. -/
def readU32 (guestAddress : UInt64) : Exec σ UInt32 := do
  let bytes ← readGuest guestAddress 4
  pure (ofLittleEndian bytes).toUInt32

/-- `read_i32`. -/
def readI32 (guestAddress : UInt64) : Exec σ Int32 := do
  let wordValue ← readU32 guestAddress
  pure wordValue.toInt32

/-- `read_u64`. -/
def readU64 (guestAddress : UInt64) : Exec σ UInt64 := do
  let bytes ← readGuest guestAddress 8
  pure (ofLittleEndian bytes)

/-- `read_u128`. -/
def readU128 (guestAddress : UInt64) : Exec σ SimdRegister := do
  let bytes ← readGuest guestAddress 16
  pure (Vector.ofFn fun index : Fin 16 => bytes.getD index.val 0)

/-- `write_u32`. -/
def writeU32 (guestAddress : UInt64) (value : UInt32) : Exec σ Unit :=
  writeGuest guestAddress (toLittleEndian 4 value.toUInt64)

/-- `write_u64`. -/
def writeU64 (guestAddress : UInt64) (value : UInt64) : Exec σ Unit :=
  writeGuest guestAddress (toLittleEndian 8 value)

/-- `write_u128`. -/
def writeU128 (guestAddress : UInt64) (value : SimdRegister) : Exec σ Unit :=
  writeGuest guestAddress value.toList

/-- `get_register64`, read through the reference it returns. -/
def getRegister64 (registerIndex : UInt32) : Exec σ UInt64 := do
  note (.generalRegister registerIndex)
  Attempt.read fun context => context.machine.register registerIndex

/-- `get_register64`, assigned through the reference it returns. -/
def setRegister64 (registerIndex : UInt32) (value : UInt64) : Exec σ Unit := do
  note (.generalRegister registerIndex)
  setMachine fun machine => machine.setRegister registerIndex value

/-- `get_register32`. -/
def getRegister32 (registerIndex : UInt32) : Exec σ UInt32 := do
  let value ← getRegister64 registerIndex
  pure value.toUInt32

/-- `get_register8_low`. -/
def getRegister8Low (registerIndex : UInt32) : Exec σ UInt8 := do
  let value ← getRegister64 registerIndex
  pure (value &&& 0xFF).toUInt8

/-- `set_register8_low`. -/
def setRegister8Low (registerIndex : UInt32) (value : UInt8) : Exec σ Unit := do
  let previous ← getRegister64 registerIndex
  setRegister64 registerIndex ((previous &&& ~~~0xFF) ||| value.toUInt64)

/-- `set_register32`: the upper half is cleared. -/
def setRegister32 (registerIndex : UInt32) (value : UInt32) : Exec σ Unit :=
  setRegister64 registerIndex value.toUInt64

/-- `get_simd_register`, read through the reference it returns. -/
def getSimdRegister (registerIndex : UInt32) : Exec σ SimdRegister := do
  note (.simdRegister registerIndex)
  Attempt.read fun context => context.machine.simdRegister registerIndex

/-- `get_simd_register`, assigned through the reference it returns. -/
def setSimdRegister (registerIndex : UInt32) (value : SimdRegister) : Exec σ Unit := do
  note (.simdRegister registerIndex)
  setMachine fun machine => machine.setSimdRegister registerIndex value

/-- Read `flags`. -/
def getFlags : Exec σ UInt64 := Attempt.read fun context => context.machine.state.flags

/-- Assign `flags`. -/
def setFlags (flags : UInt64) : Exec σ Unit :=
  setMachine fun machine => machine.mapState fun state => { state with flags := flags }

/-- Assign `instruction_pointer`. -/
def setInstructionPointer (instructionPointer : UInt64) : Exec σ Unit :=
  setMachine fun machine =>
    machine.mapState fun state => { state with instructionPointer := instructionPointer }

end Exec

/-- `is_64_bit ? (1ULL << 63) : (1ULL << 31)`. -/
def signMask (is64Bit : Bool) : UInt64 :=
  if is64Bit then (1 : UInt64) <<< 63 else (1 : UInt64) <<< 31

/-- `is_64_bit ? UINT64_MAX : UINT32_MAX`. -/
def widthMask (is64Bit : Bool) : UInt64 :=
  if is64Bit then 0xFFFFFFFFFFFFFFFF else 0xFFFFFFFF

/-- `if (condition) flags |= flag`. -/
def flagIf (condition : Bool) (flag : UInt64) : UInt64 := if condition then flag else 0

/-- The flags the arithmetic instructions clear before they set their own. -/
def clearedFlags (flags : UInt64) : UInt64 :=
  (flags &&& ~~~(rflagsCarry ||| rflagsZero ||| rflagsSign ||| rflagsOverflow)) ||| rflagsReserved

/-- The flags `set_logic_flags` leaves. -/
def logicFlags (flags value : UInt64) (is64Bit : Bool) : UInt64 :=
  let maskedValue := if is64Bit then value else value.toUInt32.toUInt64
  clearedFlags flags ||| flagIf (maskedValue == 0) rflagsZero |||
    flagIf ((maskedValue &&& signMask is64Bit) != 0) rflagsSign

/-- The flags `set_compare_flags` leaves. -/
def compareFlags (flags lhs rhs result : UInt64) (is64Bit : Bool) : UInt64 :=
  let maskedLhs := lhs &&& widthMask is64Bit
  let maskedRhs := rhs &&& widthMask is64Bit
  let maskedResult := result &&& widthMask is64Bit
  let lhsSign := (maskedLhs &&& signMask is64Bit) != 0
  let rhsSign := (maskedRhs &&& signMask is64Bit) != 0
  let resultSign := (maskedResult &&& signMask is64Bit) != 0
  clearedFlags flags ||| flagIf (maskedResult == 0) rflagsZero |||
    flagIf ((maskedResult &&& signMask is64Bit) != 0) rflagsSign |||
    flagIf (maskedLhs < maskedRhs) rflagsCarry |||
    flagIf (lhsSign != rhsSign && lhsSign != resultSign) rflagsOverflow

/-- The flags `set_add_flags` leaves. -/
def addFlags (flags lhs rhs result : UInt64) (is64Bit : Bool) : UInt64 :=
  let maskedLhs := lhs &&& widthMask is64Bit
  let maskedRhs := rhs &&& widthMask is64Bit
  let maskedResult := result &&& widthMask is64Bit
  let lhsSign := (maskedLhs &&& signMask is64Bit) != 0
  let rhsSign := (maskedRhs &&& signMask is64Bit) != 0
  let resultSign := (maskedResult &&& signMask is64Bit) != 0
  clearedFlags flags ||| flagIf (maskedResult == 0) rflagsZero |||
    flagIf ((maskedResult &&& signMask is64Bit) != 0) rflagsSign |||
    flagIf (maskedResult < maskedLhs) rflagsCarry |||
    flagIf (lhsSign == rhsSign && lhsSign != resultSign) rflagsOverflow

namespace Exec

/-- `set_logic_flags`. -/
def setLogicFlags (value : UInt64) (is64Bit : Bool) : Exec σ Unit := do
  let flags ← getFlags
  setFlags (logicFlags flags value is64Bit)

/-- `set_compare_flags`. -/
def setCompareFlags (lhs rhs result : UInt64) (is64Bit : Bool) : Exec σ Unit := do
  let flags ← getFlags
  setFlags (compareFlags flags lhs rhs result is64Bit)

/-- `set_add_flags`. -/
def setAddFlags (lhs rhs result : UInt64) (is64Bit : Bool) : Exec σ Unit := do
  let flags ← getFlags
  setFlags (addFlags flags lhs rhs result is64Bit)

/-- `push_u64`: the stack pointer is decremented before the write is tried. -/
def pushU64 (value : UInt64) : Exec σ Unit := do
  let stackPointer ← getRegister64 rsp
  let baseAddress ← Attempt.read fun context => context.machine.memory.baseAddress
  let opcode ← Attempt.read fun context => context.result.fault.opcode
  if stackPointer < baseAddress + 8 then do
    setResult (EmulatorResult.setInvalidMemoryAccess stackPointer opcode)
    Attempt.fail
  else do
    setRegister64 rsp (stackPointer - 8)
    writeU64 (stackPointer - 8) value

/-- `pop_u64`. -/
def popU64 : Exec σ UInt64 := do
  let stackPointer ← getRegister64 rsp
  let value ← readU64 stackPointer
  setRegister64 rsp (stackPointer + 8)
  pure value

/-- `if (!x) { completion = INVALID_MEMORY_ACCESS; return STOP_RUNNING; }`. -/
def orInvalidMemory {α : Type} (x : Exec σ α) : Exec σ α :=
  Attempt.onFailure (ExecutionContext.mapResult EmulatorResult.markInvalidMemoryAccess) x

/-- `set_unsupported_instruction(opcode); return STOP_RUNNING;`. -/
def unsupported {α : Type} (faultOpcode : UInt8) : Exec σ α := do
  setResult (EmulatorResult.setUnsupportedInstruction faultOpcode)
  Attempt.fail

/-- `reject_rex_w`. -/
def rejectRexW (instruction : DecodedInstruction) : Exec σ Unit :=
  if instruction.rexW then unsupported instruction.opcode else pure ()

/-- Assign `instruction_pointer` and return `CONTINUE_RUNNING`. -/
def continueAt (instructionPointer : UInt64) : Exec σ InstructionOutcome := do
  setInstructionPointer instructionPointer
  pure .continueRunning

end Exec

end Ringos.Emulator

import Ringos.Emulator.Decoder

/-!
# Stack, control flow and system instructions

The syscall handler moves the instruction pointer past the instruction before
it runs the callback, which sees the guest state read-only.
-/

namespace Ringos.Emulator

open Ringos.Core
open Exec

variable {σ : Type}

/-- `execute_x64_push_register`. -/
def executeX64PushRegister (instruction : DecodedInstruction) : Exec σ InstructionOutcome := do
  rejectRexW instruction
  let index := (instruction.opcode.toUInt32 - 0x50) + if instruction.rexB then 8 else 0
  let value ← getRegister64 index
  orInvalidMemory (pushU64 value)
  continueAt instruction.nextAddress

/-- `execute_x64_pop_register`. -/
def executeX64PopRegister (instruction : DecodedInstruction) : Exec σ InstructionOutcome := do
  rejectRexW instruction
  let index := (instruction.opcode.toUInt32 - 0x58) + if instruction.rexB then 8 else 0
  let value ← orInvalidMemory popU64
  setRegister64 index value
  continueAt instruction.nextAddress

/-- `execute_x64_return`. -/
def executeX64Return (instruction : DecodedInstruction) : Exec σ InstructionOutcome := do
  rejectRexW instruction
  let returnAddress ← orInvalidMemory popU64
  continueAt returnAddress

/-- `execute_x64_call_relative`. -/
def executeX64CallRelative (instruction : DecodedInstruction) : Exec σ InstructionOutcome := do
  rejectRexW instruction
  let displacement ← orInvalidMemory (readI32 instruction.nextAddress)
  let returnAddress := instruction.nextAddress + 4
  orInvalidMemory (pushU64 returnAddress)
  continueAt (returnAddress + displacement32 displacement)

/-- The flags `set_inc_dec_flags` leaves: all but carry are rebuilt. -/
def incDecFlags (flags lhs result : UInt64) (isDecrement is64Bit : Bool) : UInt64 :=
  let maskedLhs := lhs &&& widthMask is64Bit
  let maskedResult := result &&& widthMask is64Bit
  let lhsSign := (maskedLhs &&& signMask is64Bit) != 0
  let resultSign := (maskedResult &&& signMask is64Bit) != 0
  let overflow := if isDecrement then lhsSign && !resultSign else !lhsSign && resultSign
  ((flags &&& rflagsCarry) ||| rflagsReserved) ||| flagIf (maskedResult == 0) rflagsZero |||
    flagIf ((maskedResult &&& signMask is64Bit) != 0) rflagsSign |||
    flagIf overflow rflagsOverflow

/-- `set_inc_dec_flags`. -/
def setIncDecFlags (lhs result : UInt64) (isDecrement is64Bit : Bool) : Exec σ Unit := do
  let flags ← getFlags
  setFlags (incDecFlags flags lhs result isDecrement is64Bit)

/-- The increment and decrement of `execute_x64_group_ff`. -/
def incDecRegister (instruction : DecodedInstruction) (rmRegisterIndex : UInt32)
    (isDecrement : Bool) : Exec σ InstructionOutcome :=
  if instruction.rexW then do
    let lhs ← getRegister64 rmRegisterIndex
    let result := if isDecrement then lhs - 1 else lhs + 1
    setRegister64 rmRegisterIndex result
    setIncDecFlags lhs result isDecrement true
    continueAt (instruction.nextAddress + 1)
  else do
    let lhs ← getRegister32 rmRegisterIndex
    let result := if isDecrement then lhs - 1 else lhs + 1
    setRegister32 rmRegisterIndex result
    setIncDecFlags lhs.toUInt64 result.toUInt64 isDecrement false
    continueAt (instruction.nextAddress + 1)

/-- The target and the return address of the indirect call of `execute_x64_group_ff`. -/
def indirectCallTarget (instruction : DecodedInstruction) (modrm : UInt8) :
    Exec σ (UInt64 × UInt64) :=
  if modField modrm = 3 then do
    let target ← getRegister64 (registerIndex (rmField modrm) instruction.rexB)
    pure (target, instruction.nextAddress + 1)
  else if modField modrm = 0 ∧ rmField modrm = 5 ∧ !instruction.rexB then do
    let displacement ← orInvalidMemory (readI32 (instruction.nextAddress + 1))
    let target ← orInvalidMemory
      (readU64 (instruction.nextAddress + 5 + displacement32 displacement))
    pure (target, instruction.nextAddress + 5)
  else unsupported instruction.opcode

/-- `execute_x64_group_ff`. -/
def executeX64GroupFf (instruction : DecodedInstruction) : Exec σ InstructionOutcome := do
  let modrm ← orInvalidMemory (readU8 instruction.nextAddress)
  let operation := regField modrm
  if operation = 0 ∨ operation = 1 then
    if modField modrm ≠ 3 then unsupported instruction.opcode
    else
      incDecRegister instruction (registerIndex (rmField modrm) instruction.rexB)
        (operation = 1)
  else if operation ≠ 2 then unsupported instruction.opcode
  else do
    let (targetAddress, returnAddress) ← indirectCallTarget instruction modrm
    orInvalidMemory (pushU64 returnAddress)
    continueAt targetAddress

/-- `execute_x64_jump_relative_near`. -/
def executeX64JumpRelativeNear (instruction : DecodedInstruction) :
    Exec σ InstructionOutcome := do
  rejectRexW instruction
  let displacement ← orInvalidMemory (readI32 instruction.nextAddress)
  continueAt (instruction.nextAddress + 4 + displacement32 displacement)

/-- `execute_x64_jump_relative_short`. -/
def executeX64JumpRelativeShort (instruction : DecodedInstruction) :
    Exec σ InstructionOutcome := do
  rejectRexW instruction
  let displacement ← orInvalidMemory (readI8 instruction.nextAddress)
  continueAt (instruction.nextAddress + 1 + displacement8 displacement)

/-- `execute_x64_jump_short_condition`. -/
def executeX64JumpShortCondition (instruction : DecodedInstruction) :
    Exec σ InstructionOutcome := do
  rejectRexW instruction
  let displacement ← orInvalidMemory (readI8 instruction.nextAddress)
  let flags ← getFlags
  let zeroFlagSet : Bool := (flags &&& rflagsZero) != 0
  let takeBranch := if instruction.opcode = 0x74 then zeroFlagSet else !zeroFlagSet
  continueAt
    (if takeBranch then instruction.nextAddress + 1 + displacement8 displacement
      else instruction.nextAddress + 1)

/-- `execute_x64_jump_near_condition`. -/
def executeX64JumpNearCondition (instruction : DecodedInstruction) :
    Exec σ InstructionOutcome := do
  let secondaryOpcode ← orInvalidMemory (readU8 instruction.nextAddress)
  let displacement ← orInvalidMemory (readI32 (instruction.nextAddress + 1))
  let flags ← getFlags
  let zeroFlagSet : Bool := (flags &&& rflagsZero) != 0
  let takeBranch := if secondaryOpcode = 0x84 then zeroFlagSet else !zeroFlagSet
  continueAt
    (if takeBranch then instruction.nextAddress + 1 + 4 + displacement32 displacement
      else instruction.nextAddress + 1 + 4)

/-- The SIB and no-base displacement bytes that `try_skip_modrm_operand` skips. -/
def skipBaseBytes (instruction : DecodedInstruction) (mod rm : UInt8)
    (nextInstruction : UInt64) : Exec σ UInt64 :=
  if rm = 4 then do
    let sib ← readU8 nextInstruction
    if mod = 0 ∧ rmField sib = 5 ∧ !instruction.rexB then do
      let _ ← readU32 (nextInstruction + 1)
      pure (nextInstruction + 1 + 4)
    else pure (nextInstruction + 1)
  else if mod = 0 ∧ rm = 5 ∧ !instruction.rexB then do
    let _ ← readU32 nextInstruction
    pure (nextInstruction + 4)
  else pure nextInstruction

/-- `try_skip_modrm_operand`. -/
def trySkipModrmOperand (instruction : DecodedInstruction) (modrmAddress : UInt64) :
    Exec σ UInt64 := do
  let modrm ← readU8 modrmAddress
  if regField modrm ≠ 0 then Attempt.fail
  else if modField modrm = 3 then pure (modrmAddress + 1)
  else do
    let nextInstruction ←
      skipBaseBytes instruction (modField modrm) (rmField modrm) (modrmAddress + 1)
    if modField modrm = 1 then do
      let _ ← readU8 nextInstruction
      pure (nextInstruction + 1)
    else if modField modrm = 2 then do
      let _ ← readU32 nextInstruction
      pure (nextInstruction + 4)
    else pure nextInstruction

/-- `execute_x64_unsupported`. -/
def executeX64Unsupported (instruction : DecodedInstruction) : Exec σ InstructionOutcome :=
  unsupported instruction.opcode

/-- The call of `handle_syscall`. A run with a null handler is refused before it starts. -/
def callHandler (callbacks : Callbacks σ) : Exec σ SyscallResult := fun context =>
  match callbacks.handleSyscall with
  | none => (none, context)
  | some handleSyscall =>
    let machine := context.machine
    let (syscallResult, host, world) := handleSyscall machine.state machine.host machine.world
    (some syscallResult, { context with machine := { machine with host := host, world := world } })

/-- `execute_x64_syscall`. -/
def executeX64Syscall (callbacks : Callbacks σ) (instruction : DecodedInstruction) :
    Exec σ InstructionOutcome := do
  setInstructionPointer (instruction.nextAddress + 1)
  let syscallResult ← callHandler callbacks
  setRegister64 rax syscallResult.status.toInt64.toUInt64
  match syscallResult.action with
  | .exitThread => do
    setResult EmulatorResult.setThreadExited
    pure .retireAndStop
  | .yield => do
    setResult EmulatorResult.setYielded
    pure .retireAndStop
  | .continueRun => pure .continueRunning

/-- `execute_x64_secondary_nop`: any failure is reported as unsupported. -/
def executeX64SecondaryNop (instruction : DecodedInstruction) : Exec σ InstructionOutcome := do
  let nextInstruction ←
    Attempt.onFailure (ExecutionContext.mapResult (EmulatorResult.setUnsupportedInstruction 0x1F))
      (trySkipModrmOperand instruction (instruction.nextAddress + 1))
  continueAt nextInstruction

end Ringos.Emulator

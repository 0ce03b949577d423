import Ringos.Emulator.AluInstructions
import Ringos.Emulator.DataMovementInstructions
import Ringos.Emulator.SimdInstructions
import Ringos.Emulator.ControlFlowInstructions

/-!
# Dispatch and the interpreter loop

The two handler tables are functions of the opcode byte; an opcode no line of
`initialize_opcode_handlers` names has the unsupported handler. The loop counts
retired instructions against the budget, which therefore bounds it.
-/

namespace Ringos.Emulator

open Ringos.Core
open Exec

variable {σ : Type}

/-- `m_primary_opcode_handlers`. -/
def primaryOpcodeHandler (opcode : UInt8) : DecodedInstruction → Exec σ InstructionOutcome :=
  if opcode = 0x80 then executeX64Group80
  else if opcode = 0x81 then executeX64Group81
  else if opcode = 0x08 then executeX64OrRegisterByte
  else if opcode = 0x0B then executeX64OrRmToRegister
  else if opcode = 0x89 then executeX64MovRegister
  else if opcode = 0x8B then executeX64MovRegister
  else if opcode = 0x39 then executeX64CompareRmWithRegister
  else if opcode = 0x31 then executeX64XorRegister
  else if opcode = 0x85 then executeX64TestRegister
  else if opcode = 0xA9 then executeX64TestAccumulatorImmediate
  else if opcode = 0x83 then executeX64Group83
  else if opcode = 0x8D then executeX64Lea
  else if opcode = 0x90 then executeX64Nop
  else if opcode = 0xC7 then executeX64MovImmediateToRm
  else if opcode = 0xF6 then executeX64GroupF6
  else if opcode = 0xF7 then executeX64GroupF7
  else if opcode = 0xC3 then executeX64Return
  else if opcode = 0xE8 then executeX64CallRelative
  else if opcode = 0xE9 then executeX64JumpRelativeNear
  else if opcode = 0xEB then executeX64JumpRelativeShort
  else if opcode = 0x74 then executeX64JumpShortCondition
  else if opcode = 0x75 then executeX64JumpShortCondition
  else if opcode = 0xFF then executeX64GroupFf
  else if 0x50 ≤ opcode ∧ opcode ≤ 0x57 then executeX64PushRegister
  else if 0x58 ≤ opcode ∧ opcode ≤ 0x5F then executeX64PopRegister
  else if 0xB8 ≤ opcode ∧ opcode ≤ 0xBF then executeX64MovImmediate32
  else executeX64Unsupported

/-- `m_secondary_opcode_handlers`. -/
def secondaryOpcodeHandler (callbacks : Callbacks σ) (opcode : UInt8) :
    DecodedInstruction → Exec σ InstructionOutcome :=
  if opcode = 0x10 then executeX64SecondaryMovXmm
  else if opcode = 0x11 then executeX64SecondaryStoreXmm
  else if opcode = 0x05 then executeX64Syscall callbacks
  else if opcode = 0x29 then executeX64SecondaryStoreXmm
  else if opcode = 0x84 then executeX64JumpNearCondition
  else if opcode = 0x85 then executeX64JumpNearCondition
  else if opcode = 0x94 then executeX64SecondarySetcc
  else if opcode = 0x95 then executeX64SecondarySetcc
  else if opcode = 0xB6 then executeX64SecondaryMovzxByte
  else if opcode = 0x57 then executeX64SecondaryXorps
  else if opcode = 0x60 then executeX64SecondaryPunpcklbw
  else if opcode = 0x6E then executeX64SecondaryMovd
  else if opcode = 0x70 then executeX64SecondaryShuffle
  else if opcode = 0x7F then executeX64SecondaryStoreXmm
  else if opcode = 0xD6 then executeX64SecondaryMovqStore
  else if opcode = 0x1F then executeX64SecondaryNop
  else executeX64Unsupported

/-- `dispatch_secondary_opcode`. -/
def dispatchSecondaryOpcode (callbacks : Callbacks σ) (instruction : DecodedInstruction) :
    Exec σ InstructionOutcome :=
  if instruction.rexW then unsupported instruction.opcode
  else do
    let secondaryOpcode ← readOpcode instruction.nextAddress
    setResult (EmulatorResult.setFaultOpcode secondaryOpcode)
    secondaryOpcodeHandler callbacks secondaryOpcode instruction

/-- `x64_instruction_dispatch::dispatch`. -/
def dispatch (callbacks : Callbacks σ) (instruction : DecodedInstruction) :
    Exec σ InstructionOutcome := do
  setResult (EmulatorResult.setFault instruction)
  if instruction.opcode = 0x0F then dispatchSecondaryOpcode callbacks instruction
  else primaryOpcodeHandler instruction.opcode instruction

/-- `++retired_instructions`. -/
def EmulatorResult.countRetired (result : EmulatorResult) : EmulatorResult :=
  { result with retiredInstructions := result.retiredInstructions + 1 }

/-- The body of the loop of `x64_interpreter::run`; giving up is a return without retiring. -/
def interpretInstruction (callbacks : Callbacks σ) : Exec σ InstructionOutcome := do
  let instruction ← decodeX64Instruction
  let outcome ← dispatch callbacks instruction
  setResult EmulatorResult.countRetired
  pure outcome

/-- The loop of `x64_interpreter::run`. Every iteration that does not return retires an
instruction, so `fuel` iterations are enough when the budget exceeds the count by `fuel`. -/
def interpretLoop (callbacks : Callbacks σ) (instructionBudget : UInt64) :
    Nat → ExecutionContext σ → ExecutionContext σ
  | 0, context =>
    context.mapResult (EmulatorResult.setBackendFailure .instructionLimitReached)
  | fuel + 1, context =>
    if context.result.retiredInstructions < instructionBudget then
      match interpretInstruction callbacks context with
      | (some .continueRunning, next) => interpretLoop callbacks instructionBudget fuel next
      | (some .retireAndStop, next) => next
      | (none, next) => next
    else context.mapResult (EmulatorResult.setBackendFailure .instructionLimitReached)

/-- The constructor and `initialize_result`. -/
def ExecutionContext.start (machine : Machine σ) : ExecutionContext σ where
  machine := machine.mapState fun state => { state with flags := state.flags ||| rflagsReserved }
  result :=
    .initial .instructionLimitReached .instructionLimitReached machine.state.instructionPointer
  accesses := []

/-- `is_valid_invocation`. -/
def isValidInvocation (memory : EmulatorMemory) (callbacks : Callbacks σ) (options : Options) :
    Bool :=
  callbacks.handleSyscall.isSome && memory.bytes != 0 && options.instructionBudget != 0

/-- `x64_interpreter::run`. -/
def runInterpreter (machine : Machine σ) (callbacks : Callbacks σ) (options : Options) :
    ExecutionContext σ :=
  let context := ExecutionContext.start machine
  if !isValidInvocation machine.memory callbacks options then
    context.mapResult (EmulatorResult.setBackendFailure .invalidArgument)
  else
    interpretLoop callbacks options.instructionBudget options.instructionBudget.toNat context

/-- `run_x64_emulator` with a result pointer; a null one is refused before anything happens. -/
def runX64Emulator (machine : Machine σ) (callbacks : Callbacks σ) (options : Options) :
    ExecutionContext σ :=
  if options.engine ≠ .interpreter then
    { machine := machine
      result :=
        .initial .unsupportedEngine .unsupportedEngine machine.state.instructionPointer
      accesses := [] }
  else runInterpreter machine callbacks options

end Ringos.Emulator

import Ringos.Core.Attempt
import Ringos.Core.ByteMemory

/-!
# Guest state, emulator results and the execution context

The records of the emulator's public interface, in the source's field order.
The guest region is a window of host memory. What an execution context works on
is split in three: the machine (guest state, host memory and the state behind
the syscall callback), the result record, and a log of every guest byte range
and register index that was used, which no function reads.
-/

namespace Ringos.Emulator

open Ringos.Core

/-- `X64_GENERAL_REGISTER_RAX`. -/
def rax : UInt32 := 0
/-- `X64_GENERAL_REGISTER_RDX`. -/
def rdx : UInt32 := 2
/-- `X64_GENERAL_REGISTER_RBX`. -/
def rbx : UInt32 := 3
/-- `X64_GENERAL_REGISTER_RSP`. -/
def rsp : UInt32 := 4
/-- `X64_GENERAL_REGISTER_RBP`. -/
def rbp : UInt32 := 5
/-- `X64_GENERAL_REGISTER_RSI`. -/
def rsi : UInt32 := 6
/-- `X64_GENERAL_REGISTER_RDI`. -/
def rdi : UInt32 := 7

/-- `x64_emulator_engine`. -/
inductive Engine where
  | interpreter
  | jit
  deriving DecidableEq, Repr

/-- `x64_emulator_completion`. -/
inductive Completion where
  | threadExited
  | yielded
  | instructionLimitReached
  | invalidMemoryAccess
  | unsupportedInstruction
  | invalidArgument
  | unsupportedEngine
  deriving DecidableEq, Repr

/-- `x64_emulator_guest_stop_reason`. -/
inductive GuestStopReason where
  | none
  | threadExited
  | yielded
  | invalidMemoryAccess
  | unsupportedInstruction
  deriving DecidableEq, Repr

/-- `x64_emulator_syscall_action`. -/
inductive SyscallAction where
  | continueRun
  | yield
  | exitThread
  deriving DecidableEq, Repr

/-- `x64_emulator_syscall_result`. -/
structure SyscallResult where
  status : Int32
  action : SyscallAction
  deriving DecidableEq

/-- `x64_emulator_backend_failure`. -/
inductive BackendFailure where
  | none
  | instructionLimitReached
  | invalidArgument
  | unsupportedEngine
  deriving DecidableEq, Repr

/-- `x64_simd_register`. -/
abbrev SimdRegister := Vector UInt8 16

/-- `x64_emulator_state`. -/
structure EmulatorState where
  generalRegisters : Vector UInt64 16
  simdRegisters : Vector SimdRegister 16
  instructionPointer : UInt64
  flags : UInt64
  deriving DecidableEq

/-- `x64_emulator_memory`; `bytes` is a host address and zero is the null pointer. -/
structure EmulatorMemory where
  baseAddress : UInt64
  bytes : UInt64
  size : UInt64
  deriving DecidableEq

/-- `x64_emulator_callbacks`: the handler is given the guest state read-only, and acts on
host memory and on the state behind its context pointer. -/
structure Callbacks (σ : Type) where
  handleSyscall : Option (EmulatorState → ByteMemory → σ → SyscallResult × ByteMemory × σ)

/-- `x64_emulator_options`. -/
structure Options where
  engine : Engine
  instructionBudget : UInt64
  deriving DecidableEq

/-- `x64_emulator_fault`. -/
structure EmulatorFault where
  instructionPointer : UInt64
  memoryAddress : UInt64
  opcode : UInt8
  deriving DecidableEq

/-- `x64_emulator_result`. -/
structure EmulatorResult where
  completion : Completion
  guestStopReason : GuestStopReason
  backendFailure : BackendFailure
  retiredInstructions : UInt64
  faultAddress : UInt64
  faultOpcode : UInt8
  fault : EmulatorFault
  deriving DecidableEq

/-- `x64_instruction_outcome` of an instruction that retires. `STOP_RUNNING` is the handler
giving up. -/
inductive InstructionOutcome where
  | continueRunning
  | retireAndStop
  deriving DecidableEq, Repr

/-- `x64_decoded_instruction`. -/
structure DecodedInstruction where
  address : UInt64
  opcodeAddress : UInt64
  nextAddress : UInt64
  opcode : UInt8
  prefix66 : Bool
  prefixF2 : Bool
  prefixF3 : Bool
  rexW : Bool
  rexR : Bool
  rexX : Bool
  rexB : Bool
  deriving DecidableEq

/-- One use of guest memory, as an offset into the guest region, or of a register file. -/
inductive Access where
  | guestRead (offset : UInt64) (length : Nat)
  | guestWrite (offset : UInt64) (length : Nat)
  | generalRegister (index : UInt32)
  | simdRegister (index : UInt32)
  deriving DecidableEq

/-- The guest: its memory window, its state, the host memory the window lies in and the
state behind the syscall callback. -/
structure Machine (σ : Type) where
  memory : EmulatorMemory
  state : EmulatorState
  host : ByteMemory
  world : σ

/-- `x64_execution_context`, with the most recent access first in its log. -/
structure ExecutionContext (σ : Type) where
  machine : Machine σ
  result : EmulatorResult
  accesses : List Access

/-- `RFLAGS_CARRY`. -/
def rflagsCarry : UInt64 := (1 : UInt64) <<< 0
/-- `RFLAGS_RESERVED`. -/
def rflagsReserved : UInt64 := (1 : UInt64) <<< 1
/-- `RFLAGS_ZERO`. -/
def rflagsZero : UInt64 := (1 : UInt64) <<< 6
/-- `RFLAGS_SIGN`. -/
def rflagsSign : UInt64 := (1 : UInt64) <<< 7
/-- `RFLAGS_OVERFLOW`. -/
def rflagsOverflow : UInt64 := (1 : UInt64) <<< 11

namespace Machine

variable {σ : Type}

/-- Update the guest state. -/
def mapState (machine : Machine σ) (f : EmulatorState → EmulatorState) : Machine σ :=
  { machine with state := f machine.state }

/-- A general register; an index beyond the file reads as zero. -/
def register (machine : Machine σ) (index : UInt32) : UInt64 :=
  machine.state.generalRegisters[index.toNat]?.getD 0

/-- Write a general register. -/
def setRegister (machine : Machine σ) (index : UInt32) (value : UInt64) : Machine σ :=
  machine.mapState fun state =>
    { state with
      generalRegisters := state.generalRegisters.setIfInBounds index.toNat value }

/-- A SIMD register; an index beyond the file reads as zero. -/
def simdRegister (machine : Machine σ) (index : UInt32) : SimdRegister :=
  machine.state.simdRegisters[index.toNat]?.getD (Vector.replicate 16 0)

/-- Write a SIMD register. -/
def setSimdRegister (machine : Machine σ) (index : UInt32) (value : SimdRegister) : Machine σ :=
  machine.mapState fun state =>
    { state with simdRegisters := state.simdRegisters.setIfInBounds index.toNat value }

end Machine

namespace EmulatorResult

/-- `set_fault`. -/
def setFault (instruction : DecodedInstruction) (result : EmulatorResult) : EmulatorResult :=
  { result with
    fault :=
      { instructionPointer := instruction.address
        memoryAddress := 0
        opcode := instruction.opcode }
    faultAddress := instruction.address
    faultOpcode := instruction.opcode }

/-- `set_fault_opcode`. -/
def setFaultOpcode (faultOpcode : UInt8) (result : EmulatorResult) : EmulatorResult :=
  { result with
    fault := { result.fault with opcode := faultOpcode }
    faultOpcode := faultOpcode }

/-- `set_invalid_memory_access`. -/
def setInvalidMemoryAccess (faultAddress : UInt64) (faultOpcode : UInt8)
    (result : EmulatorResult) : EmulatorResult :=
  { result with
    completion := .invalidMemoryAccess
    guestStopReason := .invalidMemoryAccess
    backendFailure := .none
    fault := { result.fault with memoryAddress := faultAddress, opcode := faultOpcode }
    faultAddress := faultAddress
    faultOpcode := faultOpcode }

/-- `set_unsupported_instruction`. -/
def setUnsupportedInstruction (faultOpcode : UInt8) (result : EmulatorResult) :
    EmulatorResult :=
  { result with
    completion := .unsupportedInstruction
    guestStopReason := .unsupportedInstruction
    backendFailure := .none
    fault := { result.fault with memoryAddress := 0, opcode := faultOpcode }
    faultOpcode := faultOpcode }

/-- `set_thread_exited`. -/
def setThreadExited (result : EmulatorResult) : EmulatorResult :=
  { result with
    completion := .threadExited
    guestStopReason := .threadExited
    backendFailure := .none }

/-- `set_yielded`. -/
def setYielded (result : EmulatorResult) : EmulatorResult :=
  { result with
    completion := .yielded
    guestStopReason := .yielded
    backendFailure := .none }

/-- `set_backend_failure`. -/
def setBackendFailure (failure : BackendFailure) (result : EmulatorResult) : EmulatorResult :=
  { result with
    guestStopReason := .none
    backendFailure := failure
    completion :=
      match failure with
      | .instructionLimitReached => .instructionLimitReached
      | .invalidArgument => .invalidArgument
      | .unsupportedEngine => .unsupportedEngine
      | .none => result.completion }

/-- The assignment `completion = X64_EMULATOR_COMPLETION_INVALID_MEMORY_ACCESS`. -/
def markInvalidMemoryAccess (result : EmulatorResult) : EmulatorResult :=
  { result with completion := .invalidMemoryAccess }

/-- The record that `initialize_result` and `initialize_backend_failure_result` build. -/
def initial (completion : Completion) (backendFailure : BackendFailure)
    (instructionPointer : UInt64) : EmulatorResult where
  completion := completion
  guestStopReason := .none
  backendFailure := backendFailure
  retiredInstructions := 0
  faultAddress := instructionPointer
  faultOpcode := 0
  fault :=
    { instructionPointer := instructionPointer
      memoryAddress := 0
      opcode := 0 }

end EmulatorResult

namespace ExecutionContext

variable {σ : Type}

/-- Update the result record. -/
def mapResult (f : EmulatorResult → EmulatorResult) (context : ExecutionContext σ) :
    ExecutionContext σ :=
  { context with result := f context.result }

/-- Update the machine. -/
def mapMachine (f : Machine σ → Machine σ) (context : ExecutionContext σ) :
    ExecutionContext σ :=
  { context with machine := f context.machine }

/-- Record an access. -/
def note (access : Access) (context : ExecutionContext σ) : ExecutionContext σ :=
  { context with accesses := access :: context.accesses }

end ExecutionContext

/-- Code that runs in an execution context and may return `false` or stop the run. -/
abbrev Exec (σ α : Type) := Attempt (ExecutionContext σ) α

end Ringos.Emulator

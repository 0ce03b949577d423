import Mathlib.Algebra.GroupWithZero.Nat
import Mathlib.Data.Fintype.Basic

/-!
# Status codes, syscall numbers and the records that cross the trap boundary

`uintptr_t`, `size_t`, `handle_t` and the syscall arguments are 64-bit words,
status codes are signed 32-bit words. The records keep the field order of the
source. Pool capacities and array lengths are the source's constants.
-/

namespace Ringos.Kernel

/-- The instruction set the kernel was compiled for; it selects the `#if` branches. -/
inductive Arch where
  | x64
  | arm64
  deriving DecidableEq, Repr

/-- `USER_RUNTIME_MAX_PROCESSES`. -/
abbrev maxProcesses : Nat := 4
/-- `USER_RUNTIME_MAX_THREADS`. -/
abbrev maxThreads : Nat := 4
/-- `USER_RUNTIME_MAX_DEVICE_MEMORY_OBJECTS`. -/
abbrev maxDeviceMemoryObjects : Nat := 4
/-- `USER_RUNTIME_MAX_RPC_ENDPOINTS`. -/
abbrev maxRpcEndpoints : Nat := 8
/-- `USER_RUNTIME_MAX_RPC_CHANNELS`. -/
abbrev maxRpcChannels : Nat := 8
/-- `USER_RUNTIME_MAX_SHARED_MEMORY_OBJECTS`. -/
abbrev maxSharedMemoryObjects : Nat := 4
/-- `USER_RUNTIME_MAX_ADDRESS_SPACE_MAPPINGS`. -/
abbrev maxAddressSpaceMappings : Nat := 8
/-- `USER_THREAD_ARCH_PRESERVED_REGISTER_COUNT`. -/
abbrev archPreservedRegisterCount : Nat := 12
/-- `USER_THREAD_ARCH_PRESERVED_SIMD_QWORD_COUNT`. -/
abbrev archPreservedSimdQwordCount : Nat := 20

-- Literals index the tables and the saved registers.
instance : NeZero maxProcesses := ⟨by decide⟩
instance : NeZero maxThreads := ⟨by decide⟩
instance : NeZero maxRpcEndpoints := ⟨by decide⟩
instance : NeZero maxRpcChannels := ⟨by decide⟩
instance : NeZero archPreservedRegisterCount := ⟨by decide⟩

/-- Pointers into the object pools are slot indices. -/
abbrev ProcessRef := Fin maxProcesses
/-- A `thread*`. -/
abbrev ThreadRef := Fin maxThreads
/-- An `rpc_endpoint*` into the endpoint table. -/
abbrev EndpointRef := Fin maxRpcEndpoints
/-- An `rpc_channel*` into the channel pool. -/
abbrev ChannelRef := Fin maxRpcChannels
/-- `handle_t`. -/
abbrev Handle := UInt64

namespace Status

/-- `STATUS_OK`. -/
def ok : Int32 := 0
/-- `STATUS_INVALID_ARGUMENT`. -/
def invalidArgument : Int32 := -1
/-- `STATUS_BAD_HANDLE`. -/
def badHandle : Int32 := -2
/-- `STATUS_WRONG_TYPE`. -/
def wrongType : Int32 := -3
/-- `STATUS_BUFFER_TOO_SMALL`. -/
def bufferTooSmall : Int32 := -4
/-- `STATUS_PEER_CLOSED`. -/
def peerClosed : Int32 := -5
/-- `STATUS_WOULD_BLOCK`. -/
def wouldBlock : Int32 := -6
/-- `STATUS_NO_MEMORY`. -/
def noMemory : Int32 := -8
/-- `STATUS_FAULT`. -/
def fault : Int32 := -9
/-- `STATUS_NOT_SUPPORTED`. -/
def notSupported : Int32 := -10
/-- `STATUS_BAD_STATE`. -/
def badState : Int32 := -11
/-- `STATUS_NOT_FOUND`. -/
def notFound : Int32 := -12

end Status

/-- The syscalls the kernel knows. -/
inductive Syscall where
  | debugLog
  | threadExit
  | rpcRegister
  | rpcOpen
  | rpcCall
  | deviceMemoryMap
  | rpcClose
  | rpcComplete
  deriving DecidableEq, Repr

/-- The `switch` on `syscall_number`; every other number takes the default branch. -/
def Syscall.ofNumber (number : UInt64) : Option Syscall :=
  if number = 1 then some .debugLog
  else if number = 2 then some .threadExit
  else if number = 3 then some .rpcRegister
  else if number = 4 then some .rpcOpen
  else if number = 5 then some .rpcCall
  else if number = 6 then some .deviceMemoryMap
  else if number = 7 then some .rpcClose
  else if number = 8 then some .rpcComplete
  else none

/-- `user_thread_state`. -/
inductive UserThreadState where
  | empty
  | ready
  | running
  | blocked
  | exited
  deriving DecidableEq, Repr, Inhabited

/-- `user_thread_resume_kind`. -/
inductive UserThreadResumeKind where
  | syscall
  | rpc
  deriving DecidableEq, Repr, Inhabited

/-- `process_guest_architecture`. -/
inductive ProcessGuestArchitecture where
  | unknown
  | x64
  | arm64
  deriving DecidableEq, Repr, Inhabited

/-- `process_personality`. -/
inductive ProcessPersonality where
  | unknown
  | ringos
  | windows
  deriving DecidableEq, Repr, Inhabited

/-- `process_execution_backend`. -/
inductive ProcessExecutionBackend where
  | unknown
  | native
  | x64Emulator
  deriving DecidableEq, Repr, Inhabited

/-- `process_metadata`. -/
structure ProcessMetadata where
  guestArchitecture : ProcessGuestArchitecture
  personality : ProcessPersonality
  executionBackend : ProcessExecutionBackend
  deriving DecidableEq, Repr, Inhabited

/-- `thread_context`. -/
structure ThreadContext where
  instructionPointer : UInt64
  stackPointer : UInt64
  flags : UInt64
  argument0 : UInt64
  deriving DecidableEq, Repr, Inhabited

/-- `user_thread_resume`. -/
structure UserThreadResume where
  kind : UserThreadResumeKind
  instructionPointer : UInt64
  stackPointer : UInt64
  flags : UInt64
  argument0 : UInt64
  argument1 : UInt64
  statusCode : Int32
  rpcCompletionAddress : UInt64
  deriving DecidableEq, Repr, Inhabited

/-- `user_syscall_context`. -/
structure UserSyscallContext where
  syscallNumber : UInt64
  trapInstructionPointer : UInt64
  stackPointer : UInt64
  trapFlags : UInt64
  argument0 : UInt64
  argument1 : UInt64
  argument2 : UInt64
  argument3 : UInt64
  argument4 : UInt64
  argument5 : UInt64
  deriving DecidableEq, Repr, Inhabited

/-- `make_thread_context_from_syscall`. -/
def makeThreadContextFromSyscall (context : UserSyscallContext) : ThreadContext where
  instructionPointer := context.trapInstructionPointer
  stackPointer := context.stackPointer
  flags := context.trapFlags
  argument0 := context.argument0

/-- `static_cast<uint64_t>(static_cast<int64_t>(status))`: the sign-extended return value. -/
def signExtendStatus (status : Int32) : UInt64 := status.toInt64.toUInt64

/-- `static_cast<int32_t>(argument)`: the low word of a register read as a status. -/
def statusOfArgument (argument : UInt64) : Int32 := argument.toUInt32.toInt32

/-- The callee-saved general registers a thread keeps across a trap. -/
abbrev PreservedRegisters := Fin archPreservedRegisterCount → UInt64
/-- The callee-saved SIMD quadwords a thread keeps across a trap. -/
abbrev PreservedSimdQwords := Fin archPreservedSimdQwordCount → UInt64

end Ringos.Kernel

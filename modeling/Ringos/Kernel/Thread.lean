import Ringos.Kernel.ObjectPool
import Ringos.Kernel.AddressSpace

/-!
# Processes and threads

A thread keeps the context of its last trap, the record its next frame is
loaded from, and the status of the syscall it is returning from, in separate
fields that the functions below keep more or less in step. The kernel stack
and the initial argument are read by no modelled function and are left out.
-/

namespace Ringos.Kernel

/-- `process`. -/
structure Process where
  id : UInt32
  handle : Handle
  metadata : ProcessMetadata
  addressSpaceInfo : AddressSpace
  deriving Inhabited

instance : KernelObject Process := ⟨Process.handle⟩

/-- `thread`. The process is a reference, so its null checks have no counterpart. -/
structure Thread where
  id : UInt32
  handle : Handle
  process : ProcessRef
  state : UserThreadState
  userContext : ThreadContext
  resumeState : UserThreadResume
  exitStatus : UInt64
  pendingSyscallStatus : Int32
  archPreservedRegisters : PreservedRegisters
  archPreservedSimdQwords : PreservedSimdQwords
  deriving Inhabited

instance : KernelObject Thread := ⟨Thread.handle⟩

namespace Thread

/-- The constructor `thread::thread`. -/
def create (process : ProcessRef) (initialContext : ThreadContext) (id : UInt32)
    (handle : Handle) : Thread where
  id := id
  handle := handle
  process := process
  state := .ready
  userContext := initialContext
  resumeState :=
    { kind := .syscall
      instructionPointer := initialContext.instructionPointer
      stackPointer := initialContext.stackPointer
      flags := initialContext.flags
      argument0 := initialContext.argument0
      argument1 := 0
      statusCode := 0
      rpcCompletionAddress := 0 }
  exitStatus := 0
  pendingSyscallStatus := Status.ok
  archPreservedRegisters := fun _ => 0
  archPreservedSimdQwords := fun _ => 0

/-- `thread::sync_resume_to_user_context`. -/
def syncResumeToUserContext (thread : Thread) : Thread :=
  { thread with
    resumeState :=
      { kind := .syscall
        instructionPointer := thread.userContext.instructionPointer
        stackPointer := thread.userContext.stackPointer
        flags := thread.userContext.flags
        argument0 := thread.userContext.argument0
        argument1 := 0
        statusCode := thread.pendingSyscallStatus
        rpcCompletionAddress := 0 } }

/-- `thread::set_user_context`. -/
def setUserContext (userContext : ThreadContext) (thread : Thread) : Thread :=
  { thread with userContext := userContext }.syncResumeToUserContext

/-- `thread::set_state`. -/
def setState (state : UserThreadState) (thread : Thread) : Thread :=
  { thread with state := state }

/-- `thread::set_exit_status`. -/
def setExitStatus (exitStatus : UInt64) (thread : Thread) : Thread :=
  { thread with exitStatus := exitStatus }

/-- `thread::prepare_syscall_resume`; only the arm64 build puts the status in `argument0`. -/
def prepareSyscallResume (arch : Arch) (status : Int32) (thread : Thread) : Thread :=
  let synced := { thread with pendingSyscallStatus := status }.syncResumeToUserContext
  { synced with
    resumeState :=
      { synced.resumeState with
        statusCode := status
        argument0 :=
          match arch with
          | .x64 => synced.resumeState.argument0
          | .arm64 => signExtendStatus status } }

/-- `thread::prepare_rpc_resume`. -/
def prepareRpcResume (callbackAddress completionAddress argument0 argument1 stackPointer : UInt64)
    (thread : Thread) : Thread :=
  { thread with
    resumeState :=
      { kind := .rpc
        instructionPointer := callbackAddress
        stackPointer := stackPointer
        flags := thread.userContext.flags
        argument0 := argument0
        argument1 := argument1
        statusCode := 0
        rpcCompletionAddress := completionAddress } }

/-- The `memcpy`s into `get_arch_preserved_registers` and `get_arch_preserved_simd_qwords`. -/
def setArchPreserved (registers : PreservedRegisters) (simdQwords : PreservedSimdQwords)
    (thread : Thread) : Thread :=
  { thread with
    archPreservedRegisters := registers
    archPreservedSimdQwords := simdQwords }

end Thread

end Ringos.Kernel

import Ringos.Kernel.Syscall

/-!
# The native arm64 syscall path

Unlike on x64, the return value of a syscall and the first argument of a
callback share the register X0, so both are taken from `argument0` of the
resume record.
-/

namespace Ringos.Arch

open Ringos.Kernel

/-- `arm64_syscall_frame`. -/
structure Arm64SyscallFrame where
  x0 : UInt64
  x1 : UInt64
  x2 : UInt64
  x3 : UInt64
  x4 : UInt64
  x5 : UInt64
  x6 : UInt64
  x7 : UInt64
  x8 : UInt64
  elr : UInt64
  spsr : UInt64
  spEl0 : UInt64
  esr : UInt64
  x19 : UInt64
  x20 : UInt64
  x21 : UInt64
  x22 : UInt64
  x23 : UInt64
  x24 : UInt64
  x25 : UInt64
  x26 : UInt64
  x27 : UInt64
  x28 : UInt64
  x29 : UInt64
  x30 : UInt64
  deriving DecidableEq

/-- `load_arm64_syscall_frame`. -/
def loadArm64SyscallFrame (currentThread : Thread) : Arm64SyscallFrame :=
  let resumeState := currentThread.resumeState
  let preserved := currentThread.archPreservedRegisters
  { x0 := resumeState.argument0
    x1 := if resumeState.kind = .rpc then resumeState.argument1 else 0
    x2 := 0
    x3 := 0
    x4 := 0
    x5 := 0
    x6 := 0
    x7 := 0
    x8 := 0
    elr := resumeState.instructionPointer
    spsr := resumeState.flags
    spEl0 := resumeState.stackPointer
    esr := 0
    x19 := preserved 0
    x20 := preserved 1
    x21 := preserved 2
    x22 := preserved 3
    x23 := preserved 4
    x24 := preserved 5
    x25 := preserved 6
    x26 := preserved 7
    x27 := preserved 8
    x28 := preserved 9
    x29 := preserved 10
    x30 := if resumeState.kind = .rpc then resumeState.rpcCompletionAddress else preserved 11 }

/-- The preserved slots that a trap fills. -/
def Arm64SyscallFrame.preservedRegisters (frame : Arm64SyscallFrame) : PreservedRegisters
  | 0 => frame.x19
  | 1 => frame.x20
  | 2 => frame.x21
  | 3 => frame.x22
  | 4 => frame.x23
  | 5 => frame.x24
  | 6 => frame.x25
  | 7 => frame.x26
  | 8 => frame.x27
  | 9 => frame.x28
  | 10 => frame.x29
  | 11 => frame.x30

/-- The `make_user_syscall_context` call of `arm64_handle_syscall`. -/
def Arm64SyscallFrame.context (frame : Arm64SyscallFrame) : UserSyscallContext where
  syscallNumber := frame.x8
  trapInstructionPointer := frame.elr
  stackPointer := frame.spEl0
  trapFlags := frame.spsr
  argument0 := frame.x0
  argument1 := frame.x1
  argument2 := frame.x2
  argument3 := frame.x3
  argument4 := frame.x4
  argument5 := frame.x5

/-- The part of `arm64_handle_syscall` that saves the preserved registers. -/
def Arm64SyscallFrame.saveTo (frame : Arm64SyscallFrame) (currentThread : Thread) : Thread :=
  currentThread.setArchPreserved frame.preservedRegisters currentThread.archPreservedSimdQwords

/-- `ESR_EXCEPTION_CLASS_SVC64`. -/
def esrExceptionClassSvc64 : UInt64 := 0x15

/-- `get_process_execution_backend` of the process of a thread. -/
def executionBackendOf (runtime : UserRuntime) (ref : ThreadRef) : ProcessExecutionBackend :=
  (runtime.process (runtime.thread ref).process).metadata.executionBackend

/-- The part of `arm64_handle_syscall` behind the dispatch. `none` is the `false` that leaves the
hardware path: to halt, or to enter the emulator. -/
def arm64Resume (currentThread : ThreadRef) (syscallStatus : Int32) (runtime : UserRuntime) :
    Option Arm64SyscallFrame × UserRuntime :=
  if !runtime.hasRunnableThread then (none, runtime)
  else
    match runtime.currentThread with
    | none => (none, runtime)
    | some resumeThread =>
      let prepared :=
        if resumeThread = currentThread then
          runtime.modifyThread resumeThread (Thread.prepareSyscallResume .arm64 syscallStatus)
        else runtime
      if executionBackendOf prepared resumeThread ≠ .native then (none, prepared)
      else
        (if prepared.hasRunnableThread then
            some (loadArm64SyscallFrame (prepared.thread resumeThread))
          else none, prepared)

/-- `arm64_handle_syscall`; a panic is an error with its text. -/
def arm64HandleSyscall (frame : Arm64SyscallFrame) (runtime : UserRuntime) :
    Except String (Option Arm64SyscallFrame × UserRuntime) :=
  if (frame.esr >>> 26) &&& 0x3F ≠ esrExceptionClassSvc64 then
    .error "arm64 lower-el sync was not an svc64 syscall"
  else
    match runtime.currentThread with
    | none => .error "arm64 syscall without current thread"
    | some currentThread =>
      if executionBackendOf runtime currentThread = .x64Emulator then
        .error "arm64 hardware syscall path is disabled while an emulated user thread is active"
      else if executionBackendOf runtime currentThread ≠ .native then
        .error "arm64 syscall path was entered without a native arm64 user thread"
      else
        let (syscallStatus, after) :=
          (runtime.modifyThread currentThread frame.saveTo).dispatchSyscall .arm64 frame.context
        .ok (arm64Resume currentThread syscallStatus after)

end Ringos.Arch

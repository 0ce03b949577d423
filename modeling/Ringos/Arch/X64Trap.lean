import Ringos.Kernel.Syscall

/-!
# The x64 syscall path

The trap stub hands the user registers to the kernel in one frame and restores
them from the same frame, which by then may be another thread's.
-/

namespace Ringos.Arch

open Ringos.Kernel

/-- `x64_syscall_frame`. RCX holds the user instruction pointer and R11 the flags. -/
structure X64SyscallFrame where
  r9 : UInt64
  r8 : UInt64
  r10 : UInt64
  rdx : UInt64
  rsi : UInt64
  rdi : UInt64
  rax : UInt64
  rcx : UInt64
  r11 : UInt64
  userRsp : UInt64
  r15 : UInt64
  r14 : UInt64
  r13 : UInt64
  r12 : UInt64
  rbp : UInt64
  rbx : UInt64
  preservedXmmQwords : PreservedSimdQwords

/-- `load_user_thread_frame`. -/
def loadUserThreadFrame (currentThread : Thread) : X64SyscallFrame :=
  let resumeState := currentThread.resumeState
  let preserved := currentThread.archPreservedRegisters
  { r9 := 0
    r8 := 0
    r10 := 0
    rdx := 0
    rsi := if resumeState.kind = .rpc then resumeState.argument1 else preserved 0
    rdi := if resumeState.kind = .rpc then resumeState.argument0 else preserved 1
    rax := signExtendStatus resumeState.statusCode
    rcx := resumeState.instructionPointer
    r11 := resumeState.flags
    userRsp := resumeState.stackPointer
    r15 := preserved 7
    r14 := preserved 6
    r13 := preserved 5
    r12 := preserved 4
    rbp := preserved 3
    rbx := preserved 2
    preservedXmmQwords := currentThread.archPreservedSimdQwords }

/-- The preserved slots that a trap fills; the last four are not used. -/
def X64SyscallFrame.preservedRegisters (frame : X64SyscallFrame) (previous : PreservedRegisters) :
    PreservedRegisters
  | 0 => frame.rsi
  | 1 => frame.rdi
  | 2 => frame.rbx
  | 3 => frame.rbp
  | 4 => frame.r12
  | 5 => frame.r13
  | 6 => frame.r14
  | 7 => frame.r15
  | slot => previous slot

/-- The `make_user_syscall_context` call of `x64_handle_syscall`. -/
def X64SyscallFrame.context (frame : X64SyscallFrame) : UserSyscallContext where
  syscallNumber := frame.rax
  trapInstructionPointer := frame.rcx
  stackPointer := frame.userRsp
  trapFlags := frame.r11
  argument0 := frame.rdi
  argument1 := frame.rsi
  argument2 := frame.rdx
  argument3 := frame.r10
  argument4 := frame.r8
  argument5 := frame.r9

/-- The part of `x64_handle_syscall` that saves the preserved registers. -/
def X64SyscallFrame.saveTo (frame : X64SyscallFrame) (currentThread : Thread) : Thread :=
  currentThread.setArchPreserved (frame.preservedRegisters currentThread.archPreservedRegisters)
    frame.preservedXmmQwords

/-- The part of `x64_handle_syscall` behind the dispatch: the frame to return to, or `none` for
the `false` that halts the machine. -/
def x64Resume (currentThread : ThreadRef) (syscallStatus : Int32) (runtime : UserRuntime) :
    Option X64SyscallFrame × UserRuntime :=
  if !runtime.hasRunnableThread then (none, runtime)
  else
    match runtime.currentThread with
    | none => (none, runtime)
    | some resumeThread =>
      let prepared :=
        if resumeThread = currentThread then
          runtime.modifyThread resumeThread (Thread.prepareSyscallResume .x64 syscallStatus)
        else runtime
      (if prepared.hasRunnableThread then some (loadUserThreadFrame (prepared.thread resumeThread))
        else none, prepared)

/-- `x64_handle_syscall`; a panic is an error with its text. -/
def x64HandleSyscall (frame : X64SyscallFrame) (runtime : UserRuntime) :
    Except String (Option X64SyscallFrame × UserRuntime) :=
  match runtime.currentThread with
  | none => .error "x64 syscall without current thread"
  | some currentThread =>
    let (syscallStatus, after) :=
      (runtime.modifyThread currentThread frame.saveTo).dispatchSyscall .x64 frame.context
    .ok (x64Resume currentThread syscallStatus after)

end Ringos.Arch

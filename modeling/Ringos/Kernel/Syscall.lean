import Ringos.Core.Transition
import Ringos.Kernel.Rpc

/-!
# Syscall dispatch and the runs of the runtime

`dispatchSyscall` and `terminateCurrentThread` are the kernel's two entry
points. Between them user code may rewrite memory, and the trap handlers save
the current thread's preserved registers on entry and rebuild its resume record
on exit; both are actions of their own, so that every trap path is a run.
-/

namespace Ringos.Kernel

open Ringos.Core

namespace UserRuntime

/-- `terminate_current_thread`. -/
def terminateCurrentThread (arch : Arch) (runtime : UserRuntime) (exitStatus : UInt64)
    (peerFailureStatus : Int32) : Bool × UserRuntime :=
  match runtime.currentThread with
  | none => (false, runtime)
  | some activeThread =>
    ((runtime.handleThreadExit arch activeThread peerFailureStatus).modifyThread activeThread
      fun thread => (thread.setState .exited).setExitStatus exitStatus).scheduleNextReadyThread

/-- The size of the message buffer of `SYSCALL_DEBUG_LOG`. -/
def debugMessageBufferSize : Nat := 96

/-- `SYSCALL_DEBUG_LOG`. -/
def debugLogSyscall (runtime : UserRuntime) (activeThread : ThreadRef)
    (context : UserSyscallContext) : Int32 × UserRuntime :=
  if context.argument0 = 0 then (Status.invalidArgument, runtime)
  else
    let (copyStatus, message) :=
      copyUserString (runtime.process (runtime.thread activeThread).process).addressSpaceInfo
        runtime.memory context.argument0 debugMessageBufferSize
    if copyStatus ≠ Status.ok then (copyStatus, runtime)
    else
      (Status.ok, { runtime with
        debugLog := runtime.debugLog ++ [message.takeWhile (· ≠ 0)] })

/-- The `switch` of `user_runtime::dispatch_syscall` on the syscall of the active thread. -/
def dispatchActive (arch : Arch) (runtime : UserRuntime) (activeThread : ThreadRef)
    (context : UserSyscallContext) : Int32 × UserRuntime :=
  match Syscall.ofNumber context.syscallNumber with
  | some .debugLog => runtime.debugLogSyscall activeThread context
  | some .threadExit =>
    (Status.ok, (runtime.terminateCurrentThread arch context.argument0 Status.peerClosed).2)
  | some .rpcRegister => runtime.rpcRegister arch activeThread context
  | some .rpcOpen => runtime.rpcOpen activeThread context
  | some .rpcCall => runtime.rpcCall arch activeThread context
  | some .rpcClose => runtime.rpcClose activeThread context
  | some .rpcComplete => runtime.rpcComplete arch activeThread context
  | some .deviceMemoryMap =>
    if context.argument0 = 0 ∨ context.argument1 = 0 then (Status.invalidArgument, runtime)
    else (Status.notFound, runtime)
  | none => (Status.notSupported, runtime)

/-- The write of the trap context that precedes the `switch`. -/
def enterSyscall (runtime : UserRuntime) (activeThread : ThreadRef)
    (context : UserSyscallContext) : UserRuntime :=
  runtime.modifyThread activeThread
    (Thread.setUserContext (makeThreadContextFromSyscall context))

/-- `user_runtime::dispatch_syscall`. -/
def dispatchSyscall (arch : Arch) (runtime : UserRuntime) (context : UserSyscallContext) :
    Int32 × UserRuntime :=
  match runtime.currentThread with
  | none => (Status.badState, runtime)
  | some activeThread =>
    (runtime.enterSyscall activeThread context).dispatchActive arch activeThread context

/-- The runtimes that boot code can build before it starts a thread. -/
inductive Created : UserRuntime → Prop
  | reset (memory : ByteMemory) : Created (reset memory)
  | process {runtime : UserRuntime} (metadata : ProcessMetadata)
      (addressSpaceInfo : AddressSpace) :
      Created runtime → Created (runtime.createProcess metadata addressSpaceInfo).2
  | thread {runtime : UserRuntime} {processContext : ProcessRef}
      (initialContext : ThreadContext) :
      Created runtime → (runtime.processes.items processContext).isSome →
      Created (runtime.createThread processContext initialContext).2
  | deviceMemory {runtime : UserRuntime} (userAddress hostAddress size : UInt64) :
      Created runtime → Created (runtime.createDeviceMemoryObject userAddress hostAddress size)
  | sharedMemory {runtime : UserRuntime} (userAddress size : UInt64) :
      Created runtime → Created (runtime.createSharedMemoryObject userAddress size)

/-- A created runtime with one of its threads made current. -/
def Started (runtime : UserRuntime) : Prop :=
  ∃ created thread, Created created ∧ (created.threads.items thread).isSome ∧
    runtime = created.setCurrentThread (some thread)

end UserRuntime

/-- What can happen to a started runtime. -/
inductive Action where
  /-- `dispatch_syscall` by the current thread. -/
  | syscall (context : UserSyscallContext)
  /-- `terminate_current_thread`. -/
  | terminate (exitStatus : UInt64) (peerFailureStatus : Int32)
  /-- User code rewrites memory. -/
  | userStores (memory : ByteMemory)
  /-- A trap handler saves the preserved registers of the current thread. -/
  | saveRegisters (registers : PreservedRegisters) (simdQwords : PreservedSimdQwords)
  /-- A trap handler rebuilds the resume record of the current thread. -/
  | prepareResume (status : Int32)

namespace UserRuntime

/-- A write to the current thread, if there is one. -/
def modifyCurrentThread (runtime : UserRuntime) (f : Thread → Thread) : UserRuntime :=
  match runtime.currentThread with
  | none => runtime
  | some ref => runtime.modifyThread ref f

/-- The effect of an action. -/
def act (arch : Arch) (runtime : UserRuntime) : Action → UserRuntime
  | .syscall context => (runtime.dispatchSyscall arch context).2
  | .terminate exitStatus peerFailureStatus =>
    (runtime.terminateCurrentThread arch exitStatus peerFailureStatus).2
  | .userStores memory => { runtime with memory := memory }
  | .saveRegisters registers simdQwords =>
    runtime.modifyCurrentThread (Thread.setArchPreserved registers simdQwords)
  | .prepareResume status => runtime.modifyCurrentThread (Thread.prepareSyscallResume arch status)

/-- Syscalls are taken only while a thread is runnable; the trap handlers see to that. -/
def mayAct (runtime : UserRuntime) : Action → Bool
  | .syscall _ => runtime.hasRunnableThread
  | _ => true

end UserRuntime

/-- The runtime as a transition system. -/
def runtimeSystem (arch : Arch) : TransitionSystem UserRuntime Action where
  init := UserRuntime.Started
  enabled runtime action := runtime.mayAct action = true
  next := UserRuntime.act arch

end Ringos.Kernel

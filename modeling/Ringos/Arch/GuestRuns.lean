import Ringos.Arch.GuestEndings
import Ringos.Arch.OwnStatus
import Ringos.Emulator.ImportStubs

/-!
# The run of an emulated guest within the runs of the kernel

A syscall that lets the guest continue is a trap of the arm64 machine, and it
leaves the thread running. So the runtime behind every instruction that a guest
retires is one that the kernel can reach, with the thread still on the CPU.
-/

namespace Ringos.Arch

open Ringos.Core Ringos.Kernel Ringos.Emulator Ringos.Scheduler UserRuntime

/-- The loop of `enter_user_thread` may run the thread: it is on the CPU and runnable. -/
structure MayRun (runtime : UserRuntime) (active : ThreadRef) : Prop where
  reachable : (runtimeSystem .arm64).Reachable TransitionSystem.anyStep runtime
  current : runtime.currentThread = some active
  runnable : runtime.hasRunnableThread = true

section Traps

variable {runtime after : UserRuntime} {active : ThreadRef}

/-- A trap that leaves its thread on the CPU leaves it running. -/
theorem TrapPath.next_runnable (P : TrapPath) {guard : UserRuntime → Action → Prop}
    (hguard : ∀ s action, s.hasRunnableThread = true → guard s action)
    (h : (runtimeSystem P.arch).Reachable guard runtime)
    (hcurrent : runtime.currentThread = some active)
    (hrunnable : runtime.hasRunnableThread = true) (trap : P.Trap)
    (hstays : (P.next runtime (.trap trap)).currentThread = some active) :
    (P.next runtime (.trap trap)).hasRunnableThread = true := by
  have hsaved : (runtimeSystem P.arch).Reachable guard
      (runtime.modifyThread active (P.saveTo trap)) :=
    saveTo_reachable h (fun action => hguard _ action hrunnable) hcurrent rfl
  have hmay : (runtime.modifyThread active (P.saveTo trap)).mayAct
      (.syscall (P.context trap)) = true := P.runnable_saveTo trap hcurrent hrunnable
  have hrunning := running_of_mayAct (reachable_tidy hsaved) hcurrent hmay
  have hstep := act_anyStep hsaved hmay
  simp only [TrapPath.next, hcurrent] at hstays ⊢
  rw [P.resume_currentThread] at hstays
  have hdispatched : ((P.dispatch trap active runtime).2.thread active).state = .running :=
    hstep.running_of_current hcurrent hrunning hstays
  have hresumed : ((P.resume active (P.dispatch trap active runtime)).thread active).state =
      .running := by
    unfold TrapPath.resume
    split
    · have hkept : ∀ thread : Thread, (thread.prepareSyscallResume P.arch
          (P.dispatch trap active runtime).1).state = thread.state := fun _ => rfl
      rw [thread_modifyThread_keeps Thread.state hkept, hdispatched]
    · exact hdispatched
  simp [hasRunnableThread, P.resume_currentThread, hstays, hresumed]

/-- A syscall that lets the guest continue is a trap of the machine, after which the thread may
run. -/
theorem MayRun.continues (h : MayRun runtime active) {state : EmulatorState}
    {answer : SyscallResult} (hdispatch : dispatchX64Syscall state runtime = (answer, after))
    (hcontinues : answer.action = .continueRun) :
    after = arm64Path.next runtime (.trap (.inr state)) ∧ MayRun after active := by
  have hstays : after.currentThread = some active := by
    have hspec := dispatchX64Syscall_spec h.current hdispatch
    rwa [hcontinues] at hspec
  have hnext : (arm64Path.next runtime (.trap (.inr state))).currentThread = some active := by
    simp only [TrapPath.next, h.current, TrapPath.resume_currentThread]
    simp only [dispatchX64Syscall, h.current] at hdispatch
    split at hdispatch
    · rename_i hkept
      exact hkept
    · split at hdispatch
      · cases hdispatch
        cases hcontinues
      · cases hdispatch
        cases hcontinues
  have hrunnable := arm64Path.next_runnable (fun _ _ _ => trivial) h.reachable h.current h.runnable
    (.inr state) hnext
  have heq : after = arm64Path.next runtime (.trap (.inr state)) := by
    rw [← dispatchX64Syscall_next h.current hrunnable, hdispatch]
  have hreach := arm64Path.next_reachable (fun _ _ _ => trivial) h.reachable h.runnable
    (.trap (.inr state))
  exact ⟨heq, heq ▸ hreach, hstays, heq ▸ hrunnable⟩

/-- The guest's own stores change nothing else. -/
theorem MayRun.withMemory (h : MayRun runtime active) (host : ByteMemory) :
    MayRun (withMemory runtime host) active := by
  have hmay : runtime.mayAct (.userStores host) = true := rfl
  exact ⟨h.reachable.step hmay trivial, h.current, h.runnable⟩

/-- The thread may run behind every instruction that its guest retires, by induction on their
number. -/
theorem MayRun.retire (h : MayRun runtime active) {storage : ProcessStorage} {count : Nat}
    {last : ExecutionContext UserRuntime}
    (hretired : retire emulatorCallbacks count
      (ExecutionContext.start (guestMachine runtime storage active)) = some last) :
    MayRun last.machine.world active := by
  refine retire_world (P := fun world => MayRun world active) rfl (getUserRegion_ne_zero storage)
    ?_ hretired h
  intro handleSyscall state host world answer host' world' hhandle hcall hcontinues hworld
  obtain rfl := Option.some.inj hhandle
  obtain ⟨rfl, -, rfl⟩ := Prod.mk.inj hcall
  exact ((hworld.withMemory host).continues rfl hcontinues).2

end Traps

/-- Within the budget the guest comes to a syscall. -/
structure RunsTo (start last : ExecutionContext UserRuntime)
    (instruction : DecodedInstruction) : Prop where
  reached : ∃ count, retire emulatorCallbacks count start = some last
  within : last.result.retiredInstructions < emulatorOptions.instructionBudget
  fetched : last.machine.fetchInstruction = some instruction
  syscall : last.machine.isSyscall instruction = true

/-- How an emulated thread goes on in user mode. The guest runs on behind its instruction; or
`run_x64_emulator_thread` returns, and the loop of `enter_user_thread` starts it again from the
thread's resume record if the thread still has the CPU. -/
def nextEntry (storage : ProcessStorage) (active : ThreadRef)
    (context : ExecutionContext UserRuntime) : Option (ExecutionContext UserRuntime) :=
  match interpretInstruction emulatorCallbacks context with
  | (some .continueRunning, next) => some next
  | (some .retireAndStop, next) =>
    match finishX64EmulatorThread storage next with
    | .ok (left, after) =>
      if after.currentThread = some active ∧ after.hasRunnableThread = true then
        some (ExecutionContext.start (guestMachine after left active))
      else none
    | .error _ => none
  | (none, _) => none

/-- The guest state as the syscall handler sees it. -/
def trapped (instruction : DecodedInstruction) (state : EmulatorState) : EmulatorState :=
  { state with instructionPointer := instruction.nextAddress + 1 }

section Entries

variable {storage : ProcessStorage} {active : ThreadRef} {context : ExecutionContext UserRuntime}
  {instruction : DecodedInstruction} {answer : SyscallResult} {after : UserRuntime}

/-- What a syscall of a guest leaves: the callback's memory and runtime, and its status in RAX. -/
theorem guestSyscall_leaves (hbytes : context.machine.memory.bytes ≠ 0)
    (hfetch : context.machine.fetchInstruction = some instruction)
    (hsyscall : context.machine.isSyscall instruction = true)
    (hdispatch : dispatchX64Syscall (trapped instruction context.machine.state)
      (withMemory context.machine.world context.machine.host) = (answer, after)) :
    ∃ next, interpretInstruction emulatorCallbacks context =
        (some (if answer.action = .continueRun then .continueRunning else .retireAndStop), next) ∧
      next.machine = { context.machine.jumpTo (instruction.nextAddress + 1) with
        host := after.memory, world := after }.setRegister rax (signExtendStatus answer.status) := by
  have hhandle : emulatorCallbacks.handleSyscall = some fun state host runtime =>
      ((dispatchX64Syscall state (withMemory runtime host)).1,
        (dispatchX64Syscall state (withMemory runtime host)).2.memory,
        (dispatchX64Syscall state (withMemory runtime host)).2) := rfl
  change dispatchX64Syscall (context.machine.jumpTo (instruction.nextAddress + 1)).state _ = _
    at hdispatch
  obtain ⟨outcome, next, hrun, houtcome, hmachine⟩ :=
    (syscall_leads hbytes hfetch hsyscall hhandle rfl).returns
  simp only [hdispatch] at houtcome hmachine
  exact ⟨next, houtcome ▸ hrun, hmachine⟩

variable (storage active) in
/-- A syscall that lets the guest continue enters it behind the instruction. -/
theorem nextEntry_continues (hbytes : context.machine.memory.bytes ≠ 0)
    (hfetch : context.machine.fetchInstruction = some instruction)
    (hsyscall : context.machine.isSyscall instruction = true)
    (hdispatch : dispatchX64Syscall (trapped instruction context.machine.state)
      (withMemory context.machine.world context.machine.host) = (answer, after))
    (hcontinues : answer.action = .continueRun) :
    ∃ next, nextEntry storage active context = some next ∧
      next.machine = { context.machine.jumpTo (instruction.nextAddress + 1) with
        host := after.memory, world := after }.setRegister rax (signExtendStatus answer.status) := by
  obtain ⟨next, hrun, hmachine⟩ := guestSyscall_leaves hbytes hfetch hsyscall hdispatch
  rw [if_pos hcontinues] at hrun
  exact ⟨next, by rw [nextEntry, hrun], hmachine⟩

/-- A syscall that takes the thread off the CPU does not enter its guest. -/
theorem nextEntry_switches (hbytes : context.machine.memory.bytes ≠ 0)
    (hfetch : context.machine.fetchInstruction = some instruction)
    (hsyscall : context.machine.isSyscall instruction = true)
    (hdispatch : dispatchX64Syscall (trapped instruction context.machine.state)
      (withMemory context.machine.world context.machine.host) = (answer, after))
    (hstops : answer.action ≠ .continueRun) (hswitched : after.currentThread ≠ some active) :
    nextEntry storage active context = none := by
  obtain ⟨next, hrun, hmachine⟩ := guestSyscall_leaves hbytes hfetch hsyscall hdispatch
  rw [if_neg hstops] at hrun
  obtain ⟨_, _, _, _, _, hanswered⟩ := (interpretInstruction_stepped rfl hbytes hrun).stopped
  have hleft : (withMemory next.machine.world next.machine.host).currentThread ≠ some active := by
    rw [hmachine]
    exact hswitched
  rw [nextEntry, hrun]
  simp only [finishX64EmulatorThread_answered hanswered]
  exact if_neg fun hs => hleft hs.1

end Entries

end Ringos.Arch

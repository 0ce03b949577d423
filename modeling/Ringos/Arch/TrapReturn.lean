import Ringos.Arch.X64Trap
import Ringos.Arch.Arm64Trap
import Ringos.Scheduler.Runs

/-!
# Traps and the frames they return to

A trap that returns to its own thread loads the frame it came with, except for
the return register and the registers that a syscall may clobber. The trap
handlers are made of steps of the runtime, so the states they leave are
reachable.
-/

namespace Ringos.Arch

open Ringos.Core Ringos.Kernel

/-- The frame with which a trap returns a status. -/
def X64SyscallFrame.returning (frame : X64SyscallFrame) (status : Int32) : X64SyscallFrame :=
  { frame with
    r9 := 0
    r8 := 0
    r10 := 0
    rdx := 0
    rax := signExtendStatus status }

/-- The frame with which a trap returns a status. -/
def Arm64SyscallFrame.returning (frame : Arm64SyscallFrame) (status : Int32) :
    Arm64SyscallFrame :=
  { frame with
    x0 := signExtendStatus status
    x1 := 0
    x2 := 0
    x3 := 0
    x4 := 0
    x5 := 0
    x6 := 0
    x7 := 0
    x8 := 0
    esr := 0 }

/-- A thread that keeps what a trap captured returns to the trap's frame. -/
theorem loadUserThreadFrame_returning {frame : X64SyscallFrame} {thread : Thread}
    {previous : PreservedRegisters}
    (hcontext : thread.userContext = makeThreadContextFromSyscall frame.context)
    (hregisters : thread.archPreservedRegisters = frame.preservedRegisters previous)
    (hsimd : thread.archPreservedSimdQwords = frame.preservedXmmQwords) (status : Int32) :
    loadUserThreadFrame (thread.prepareSyscallResume .x64 status) = frame.returning status := by
  simp only [loadUserThreadFrame, Thread.prepareSyscallResume, Thread.syncResumeToUserContext,
    hcontext, hregisters, hsimd, X64SyscallFrame.returning]
  rfl

/-- A trap that stays on its thread returns to it. -/
theorem x64Resume_same {runtime : UserRuntime} {active : ThreadRef}
    (hcurrent : runtime.currentThread = some active) (hlive : runtime.LiveThread active)
    (hrunnable : runtime.hasRunnableThread = true) (status : Int32) :
    x64Resume active status runtime =
      (some (loadUserThreadFrame ((runtime.thread active).prepareSyscallResume .x64 status)),
        runtime.modifyThread active (Thread.prepareSyscallResume .x64 status)) := by
  have hkept : (runtime.modifyThread active
      (Thread.prepareSyscallResume .x64 status)).hasRunnableThread = true := by
    simp only [UserRuntime.hasRunnableThread, UserRuntime.modifyThread_currentThread,
      hcurrent] at hrunnable ⊢
    rw [UserRuntime.thread_modifyThread_self hlive]
    exact hrunnable
  simp only [x64Resume, hrunnable, Bool.not_true, Bool.false_eq_true, if_false, hcurrent, if_true,
    hkept, UserRuntime.thread_modifyThread_self hlive]

/-- Resuming changes no thread but the one on the CPU, and not which one that is. -/
theorem x64Resume_currentThread (active : ThreadRef) (status : Int32) (runtime : UserRuntime) :
    (x64Resume active status runtime).2.currentThread = runtime.currentThread := by
  unfold x64Resume
  split
  · rfl
  split
  · rfl
  dsimp only
  split <;> rfl

/-- The frame that an arm64 trap loads when it stays on its thread. -/
theorem arm64Resume_same {runtime after : UserRuntime} {active : ThreadRef}
    (hcurrent : runtime.currentThread = some active) (hlive : runtime.LiveThread active)
    {status : Int32} {loaded : Arm64SyscallFrame}
    (h : arm64Resume active status runtime = (some loaded, after)) :
    loaded = loadArm64SyscallFrame ((runtime.thread active).prepareSyscallResume .arm64 status) ∧
      after = runtime.modifyThread active (Thread.prepareSyscallResume .arm64 status) := by
  unfold arm64Resume at h
  split at h
  · cases h
  simp only [hcurrent, if_true] at h
  split at h
  · cases h
  simp only [Prod.mk.injEq] at h
  obtain ⟨hloaded, rfl⟩ := h
  split at hloaded
  · rw [UserRuntime.thread_modifyThread_self hlive] at hloaded
    exact ⟨(Option.some.inj hloaded).symm, rfl⟩
  · cases hloaded

/-- An arm64 trap that does not panic dispatches the syscall and resumes. -/
theorem arm64HandleSyscall_ok {runtime after : UserRuntime} {active : ThreadRef}
    {frame : Arm64SyscallFrame} {loaded : Option Arm64SyscallFrame}
    (hcurrent : runtime.currentThread = some active)
    (h : arm64HandleSyscall frame runtime = .ok (loaded, after)) :
    arm64Resume active
      ((runtime.modifyThread active frame.saveTo).dispatchSyscall .arm64 frame.context).1
      ((runtime.modifyThread active frame.saveTo).dispatchSyscall .arm64 frame.context).2 =
        (loaded, after) := by
  unfold arm64HandleSyscall at h
  split at h
  · cases h
  simp only [hcurrent] at h
  split at h
  · cases h
  split at h
  · cases h
  exact Except.ok.inj h

section Reachability

variable {arch : Arch} {runtime : UserRuntime} {guard : UserRuntime → Action → Prop}

/-- Saving registers is a step of the runtime. -/
theorem saveTo_reachable (h : (runtimeSystem arch).Reachable guard runtime)
    (hguard : ∀ action, guard runtime action) {active : ThreadRef} (hcurrent : runtime.currentThread = some active)
    {save : Thread → Thread} {registers : PreservedRegisters} {simdQwords : PreservedSimdQwords}
    (hsave : save (runtime.thread active) =
      (runtime.thread active).setArchPreserved registers simdQwords) :
    (runtimeSystem arch).Reachable guard (runtime.modifyThread active save) := by
  have hmay : runtime.mayAct (.saveRegisters registers simdQwords) = true := rfl
  have hstep := h.step hmay (hguard _)
  have heq : (runtimeSystem arch).next runtime (.saveRegisters registers simdQwords) =
      runtime.modifyThread active save := by
    simp only [runtimeSystem, UserRuntime.act, UserRuntime.modifyCurrentThread, hcurrent,
      UserRuntime.modifyThread, KernelObjectPool.modify]
    congr 3
    unfold UserRuntime.thread KernelObjectPool.get at hsave
    cases hitem : runtime.threads.items active with
    | none => rfl
    | some thread =>
      rw [hitem] at hsave
      exact congrArg some hsave.symm
  exact heq ▸ hstep

/-- Rebuilding the resume record of the thread on the CPU is a step of the runtime. -/
theorem prepareResume_reachable (h : (runtimeSystem arch).Reachable guard runtime)
    (hguard : ∀ action, guard runtime action) {active : ThreadRef}
    (hcurrent : runtime.currentThread = some active) (status : Int32) :
    (runtimeSystem arch).Reachable guard
      (runtime.modifyThread active (Thread.prepareSyscallResume arch status)) := by
  have hmay : runtime.mayAct (.prepareResume status) = true := rfl
  have hstep := h.step hmay (hguard _)
  simp only [runtimeSystem, UserRuntime.act, UserRuntime.modifyCurrentThread, hcurrent] at hstep
  exact hstep

/-- Saving registers does not stop a thread. -/
theorem hasRunnableThread_saveTo {active : ThreadRef}
    (hcurrent : runtime.currentThread = some active) {save : Thread → Thread}
    (hsave : ∀ thread, (save thread).state = thread.state) :
    (runtime.modifyThread active save).hasRunnableThread = runtime.hasRunnableThread := by
  simp only [UserRuntime.hasRunnableThread, UserRuntime.modifyThread_currentThread, hcurrent]
  rw [UserRuntime.thread_modifyThread_keeps Thread.state hsave active]

/-- The x64 trap handler leaves a reachable state. -/
theorem x64HandleSyscall_reachable
    (h : (runtimeSystem .x64).Reachable TransitionSystem.anyStep runtime)
    (hrunnable : runtime.hasRunnableThread = true) {frame : X64SyscallFrame}
    {loaded : Option X64SyscallFrame} {after : UserRuntime}
    (hok : x64HandleSyscall frame runtime = .ok (loaded, after)) :
    (runtimeSystem .x64).Reachable TransitionSystem.anyStep after := by
  unfold x64HandleSyscall at hok
  split at hok
  · cases hok
  rename_i active hcurrent
  have hsave : ∀ thread, (frame.saveTo thread).state = thread.state := fun _ => rfl
  have hsaved : (runtimeSystem .x64).Reachable TransitionSystem.anyStep
      (runtime.modifyThread active frame.saveTo) := saveTo_reachable h (fun _ => trivial) hcurrent rfl
  have hmay : (runtime.modifyThread active frame.saveTo).mayAct (.syscall frame.context) = true :=
    (hasRunnableThread_saveTo hcurrent hsave).trans hrunnable
  have hdispatched := hsaved.step hmay trivial
  change (runtimeSystem .x64).Reachable _ ((runtime.modifyThread active
    frame.saveTo).dispatchSyscall .x64 frame.context).2 at hdispatched
  simp only [Except.ok.injEq] at hok
  generalize ((runtime.modifyThread active frame.saveTo).dispatchSyscall .x64 frame.context) =
    result at hok hdispatched
  unfold x64Resume at hok
  split at hok
  · cases hok
    exact hdispatched
  split at hok
  · cases hok
    exact hdispatched
  rename_i resumed hresumed
  cases hok
  split
  · exact prepareResume_reachable hdispatched (fun _ => trivial) hresumed result.1
  · exact hdispatched

end Reachability

end Ringos.Arch

import Ringos.Calls.Ownership

/-!
# Failed RPC syscalls leave the kernel alone

Every failure exit of an RPC syscall comes before its first change to a table,
except for the out-handle write of `RPC_OPEN`, which erases the channel it has
allocated. Erasing is by handle, so it undoes the allocation as long as no
other channel carries the handle.
-/

namespace Ringos.Kernel

open Ringos.Core

namespace UserRuntime

variable {arch : Arch} {runtime : UserRuntime}

/-- The completion of a thread's call to itself, which passes on the callback's status. -/
def CompletesOwnCall (runtime : UserRuntime) (active : ThreadRef)
    (context : UserSyscallContext) : Prop :=
  Syscall.ofNumber context.syscallNumber = some .rpcComplete ∧
    ∃ c call, runtime.findPendingChannelByServerThread active = some c ∧
      runtime.pending c = some call ∧ call.clientThread = active

/-- Endpoints, channels, the current thread, the states of all threads and the whole records of
the threads other than the caller are as before. -/
structure KernelKept (before after : UserRuntime) (caller : ThreadRef) : Prop where
  endpoints : after.endpoints = before.endpoints
  channels : after.channels.items = before.channels.items
  currentThread : after.currentThread = before.currentThread
  states : ∀ t, (after.thread t).state = (before.thread t).state
  others : ∀ t, t ≠ caller → after.thread t = before.thread t

/-- What a failed syscall leaves of the kernel's tables and threads. -/
theorem outcome_failed {active : ThreadRef} {context : UserSyscallContext}
    {result : Int32 × UserRuntime} (h : SyscallOutcome arch runtime active context result)
    (hfailed : result.1 < 0) (hown : ¬ runtime.CompletesOwnCall active context)
    (hunused : ∀ c, runtime.channels.handleAt c ≠ some runtime.nextHandleValue) :
    KernelKept runtime result.2 active := by
  have hok : ¬ Status.ok < 0 := by decide
  cases h with
  | kept status memory debugLog _ _ _ => exact ⟨rfl, rfl, rfl, fun _ => rfl, fun _ _ => rfl⟩
  | exited _ => exact absurd hfailed hok
  | registered ref endpointName _ _ => exact absurd hfailed hok
  | yielded ref endpointName nextThread _ _ _ _ => exact absurd hfailed hok
  | opened ref endpoint endpointName serverThread channels next memory _ _ _ _ _ =>
    exact absurd hfailed hok
  | openFailed status ref endpoint channels next memory _ _ hemplace =>
    refine ⟨rfl, ?_, rfl, fun _ => rfl, fun _ _ => rfl⟩
    dsimp only
    rw [KernelObjectPool.eraseByHandle_emplace (fun _ _ => rfl) hemplace hunused]
  | called ref serverThread memory requestAddress stackPointer _ _ _ => exact absurd hfailed hok
  | calledSelf ref memory requestAddress stackPointer _ _ => exact absurd hfailed hok
  | closed ref _ _ _ => exact absurd hfailed hok
  | completed ref call _ _ _ _ => exact absurd hfailed hok
  | completedSelf ref call hsyscall hfind hcall hself =>
    exact absurd ⟨hsyscall, ref, call, hfind, hcall, hself⟩ hown

/-- Until the counter comes round, a syscall that fails by a check of the kernel's own leaves the
kernel alone. -/
theorem failed_kernelKept (arch : Arch) {s : UserRuntime × HandleLog}
    (h : (handleSystem arch).Reachable TransitionSystem.anyStep s)
    (hcount : s.2.allocated < 2 ^ 64) {active : ThreadRef}
    (hcurrent : s.1.currentThread = some active) {context : UserSyscallContext}
    (hfailed : (s.1.dispatchSyscall arch context).1 < 0)
    (hown : ¬ s.1.CompletesOwnCall active context) :
    KernelKept s.1 (s.1.dispatchSyscall arch context).2 active := by
  have htracked := reachable_tracked h
  have hunused := fun c => htracked.unused hcount (.channel c)
  have houtcome := dispatchActive_outcome arch (s.1.enterSyscall active context) active context
  simp only [dispatchSyscall, hcurrent] at hfailed ⊢
  obtain ⟨hendpoints, hchannels, hcurrent', hstates, hothers⟩ :=
    outcome_failed houtcome hfailed hown hunused
  refine ⟨hendpoints, hchannels, hcurrent', fun t => ?_, fun t ht => ?_⟩
  · exact (hstates t).trans (thread_enterSyscall_keeps Thread.state (fun _ _ => rfl) t)
  · exact (hothers t ht).trans (thread_modifyThread_of_ne ht _)

/-- Once the counter has come round to the handle of a channel, a failed open erases that channel
and leaves its own. -/
theorem wrappedOpen_not_kernelKept :
    ∃ runtime, (runtimeSystem .x64).Reachable TransitionSystem.anyStep runtime ∧
      runtime.currentThread = some 0 ∧
      Syscall.ofNumber unmappedOpen.syscallNumber = some .rpcOpen ∧
      (runtime.dispatchSyscall .x64 unmappedOpen).1 < 0 ∧
      ¬ runtime.CompletesOwnCall 0 unmappedOpen ∧
      ¬ KernelKept runtime (runtime.dispatchSyscall .x64 unmappedOpen).2 0 := by
  refine ⟨wrapped 3, wrapped_reachable (show 3 ≤ 3 by decide), by decide +kernel,
    rfl, by decide +kernel, fun hcompletes => ?_, fun hkept => ?_⟩
  · exact absurd hcompletes.1 (by decide)
  · have hbefore : ((wrapped 3).channels.items 0).isSome = true := by decide +kernel
    have hafter : (((wrapped 3).dispatchSyscall .x64 unmappedOpen).2.channels.items 0).isSome =
        false := by
      decide +kernel
    rw [hkept.channels, hbefore] at hafter
    cases hafter

/-- A failed open in a booted system. -/
theorem unmappedOpen_kernelKept :
    ∃ s : UserRuntime × HandleLog,
      (handleSystem .x64).Reachable TransitionSystem.anyStep s ∧
      (s.1.dispatchSyscall .x64 unmappedOpen).1 = Status.fault ∧
      KernelKept s.1 (s.1.dispatchSyscall .x64 unmappedOpen).2 0 := by
  obtain ⟨s, hreach, hcurrent, hcount, hfault⟩ := boot_reachable_history .x64
    (fun runtime => HandleLog.mk runtime.liveObjects []) (recordHandles .x64)
    TransitionSystem.anyStep 1 [trap 3 0x1100 0x1200 0x1210 0x1800]
    (fun s => s.1.currentThread = some 0 ∧ s.2.allocated < 2 ^ 64 ∧
      (s.1.dispatchSyscall .x64 unmappedOpen).1 = Status.fault)
    rfl (by decide +kernel)
  refine ⟨s, hreach, hfault, failed_kernelKept .x64 hreach hcount hcurrent ?_
    fun hcompletes => absurd hcompletes.1 (by decide)⟩
  rw [hfault]
  decide

end UserRuntime

end Ringos.Kernel

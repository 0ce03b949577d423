import Ringos.Kernel.Handles
import Ringos.Scheduler.Runs
import Mathlib.Tactic.MkIffOfInductiveProp

/-!
# Coming round the handle counter

An `RPC_OPEN` that fails at the write of its handle allocates a channel and
erases it again, so all it changes is the shared counter and the object ids. A
thread that repeats it walks the counter through all its values, and comes back
to handles that live objects still carry.
-/

namespace Ringos.Kernel

open Ringos.Core

namespace KernelObjectPool

variable {α : Type} {capacity : Nat} [KernelObject α]

/-- An allocation that is erased by a handle no other object carries leaves the slots as they
were. -/
theorem eraseByHandle_emplace {pool pool' : KernelObjectPool α capacity} {next next' : Handle}
    {construct : UInt32 → Handle → α}
    (hconstruct : ∀ id handle, KernelObject.getHandle (construct id handle) = handle)
    {index : Fin capacity} (h : pool.emplace next construct = some (index, pool', next'))
    (hunused : ∀ other, pool.handleAt other ≠ some next) :
    (pool'.eraseByHandle next).2 = { pool with nextObjectId := pool'.nextObjectId } := by
  obtain ⟨hfree, hitems, _⟩ := emplace_eq_some h
  obtain ⟨_, hhandles, _⟩ := handleAt_emplace hconstruct h
  have hfind : pool'.findByHandle next = some index := by
    refine findByHandle_of_handleAt (by rw [hhandles, Function.update_self]) fun other hother => ?_
    by_contra hne
    rw [hhandles, Function.update_of_ne hne] at hother
    exact hunused other hother
  simp only [eraseByHandle, hfind, hitems, Function.update_idem, ← hfree, Function.update_eq_self]

end KernelObjectPool

namespace UserRuntime

variable {runtime : UserRuntime}

/-- The `RPC_OPEN` of an endpoint named at `0x1100` into an unmapped address. -/
def unmappedOpen : UserSyscallContext := ⟨4, 0x1010, 0x1800, 0x202, 0x1100, 0x9000, 0, 0, 0, 0⟩

/-- The thread on the CPU can make that call, and it fails at the write of the handle. -/
@[mk_iff] structure Spins (runtime : UserRuntime) : Prop where
  current : runtime.currentThread = some 0
  runnable : runtime.hasRunnableThread = true
  /-- The name is read and its endpoint has an owner that has not exited. -/
  read : (copyUserString (runtime.process (runtime.thread 0).process).addressSpaceInfo
    runtime.memory 0x1100 rpcEndpointNameBufferSize).1 = Status.ok
  found : (runtime.findEndpointByName (copyUserString
    (runtime.process (runtime.thread 0).process).addressSpaceInfo runtime.memory 0x1100
      rpcEndpointNameBufferSize).2).any (fun endpoint =>
        (runtime.endpoints endpoint).ownerThread.any fun server =>
          decide ((runtime.thread server).state ≠ .exited)) = true
  /-- A channel slot is free. -/
  slot : (firstIndex fun index => (runtime.channels.items index).isNone).isSome = true
  unmapped : tryTranslateAddressSpaceChunk
    (runtime.process (runtime.thread 0).process).addressSpaceInfo 0x9000 8 = none

instance (runtime : UserRuntime) : Decidable runtime.Spins :=
  decidable_of_iff' _ (spins_iff runtime)

/-- The runtime after some repetitions. -/
def spun (runtime : UserRuntime) (count : Nat) : UserRuntime :=
  { runtime with
    channels :=
      { runtime.channels with nextObjectId := runtime.channels.nextObjectId + UInt32.ofNat count }
    nextHandleValue := runtime.nextHandleValue + UInt64.ofNat count }

theorem spun_succ (runtime : UserRuntime) (count : Nat) :
    runtime.spun (count + 1) = (runtime.spun count).spun 1 := by
  simp [spun, UInt32.ofNat_add, UInt64.ofNat_add, UInt32.add_assoc, UInt64.add_assoc]

/-- The counter and the object ids are not read by what lets the thread make its call. -/
theorem Spins.spun (h : Spins runtime) (count : Nat) : Spins (runtime.spun count) :=
  ⟨h.current, h.runnable, h.read, h.found, h.slot, h.unmapped⟩

/-- Trapping twice in the same place is trapping once. -/
theorem enterSyscall_idem (runtime : UserRuntime) (active : ThreadRef)
    (context : UserSyscallContext) :
    (runtime.enterSyscall active context).enterSyscall active context =
      runtime.enterSyscall active context := by
  unfold enterSyscall modifyThread KernelObjectPool.modify
  simp only [Function.update_self, Function.update_idem, Option.map_map]
  rfl

/-- The trap leaves what the call reads alone. -/
theorem Spins.enterSyscall (h : Spins runtime) :
    Spins (runtime.enterSyscall 0 unmappedOpen) := by
  have hprocess : ((runtime.enterSyscall 0 unmappedOpen).thread 0).process =
      (runtime.thread 0).process := thread_enterSyscall_keeps Thread.process (fun _ _ => rfl) 0
  have hstate : ∀ t, ((runtime.enterSyscall 0 unmappedOpen).thread t).state =
      (runtime.thread t).state := thread_enterSyscall_keeps Thread.state fun _ _ => rfl
  obtain ⟨hcurrent, hrunnable, hread, hfound, hslot, hunmapped⟩ := h
  refine ⟨hcurrent, ?_, ?_, ?_, hslot, ?_⟩
  · have hentered : (runtime.enterSyscall 0 unmappedOpen).currentThread = some 0 := hcurrent
    simp only [hasRunnableThread, hentered, hcurrent, hstate] at hrunnable ⊢
    exact hrunnable
  · rw [hprocess]
    exact hread
  · simp only [hprocess, hstate]
    exact hfound
  · rw [hprocess]
    exact hunmapped

/-- The write of a handle to the unmapped address fails and changes nothing. -/
theorem Spins.write (h : Spins runtime) (handle : Handle) :
    writeUserBytes (runtime.process (runtime.thread 0).process).addressSpaceInfo runtime.memory
      0x9000 (toLittleEndian 8 handle) = (Status.fault, runtime.memory) := by
  have hlength := length_toLittleEndian 8 handle
  have hunmapped := h.unmapped
  unfold writeUserBytes
  rw [hlength]
  generalize toLittleEndian 8 handle = bytes at hlength
  cases bytes with
  | nil => cases hlength
  | cons byte rest =>
    simp only [writeUserBytesLoop, hlength]
    rw [show (8 : Nat).toUInt64 = 8 from rfl, hunmapped]

/-- The call advances the counter and the object ids, if no channel carries the next handle. -/
theorem Spins.rpcOpen (h : Spins runtime)
    (hunused : ∀ c, runtime.channels.handleAt c ≠ some runtime.nextHandleValue) :
    runtime.rpcOpen 0 unmappedOpen = (Status.fault, runtime.spun 1) := by
  obtain ⟨endpoint, hfound, howned⟩ := (Option.any_eq_true _ _).mp h.found
  obtain ⟨server, howner, halive⟩ := (Option.any_eq_true _ _).mp howned
  have halive := of_decide_eq_true halive
  obtain ⟨index, hslot⟩ := Option.isSome_iff_exists.mp h.slot
  obtain ⟨channels, next, hemplace⟩ : ∃ channels next, runtime.channels.emplace
      runtime.nextHandleValue (RpcChannel.create (runtime.thread 0).process endpoint) =
        some (index, channels, next) := by
    simp only [KernelObjectPool.emplace, hslot]
    exact ⟨_, _, rfl⟩
  obtain ⟨_, _, hnext⟩ := KernelObjectPool.emplace_eq_some hemplace
  have hids : channels.nextObjectId = runtime.channels.nextObjectId + 1 := by
    simp only [KernelObjectPool.emplace, hslot, Option.some.injEq, Prod.mk.injEq] at hemplace
    rw [← hemplace.2.1]
  have herased := KernelObjectPool.eraseByHandle_emplace (fun _ _ => rfl) hemplace hunused
  have hhandle := emplaced_handle hemplace
  subst hnext
  have harguments : ¬ (unmappedOpen.argument0 = 0 ∨ unmappedOpen.argument1 = 0) := by decide
  have hfault : Status.fault ≠ Status.ok := by decide
  unfold UserRuntime.rpcOpen
  rw [if_neg harguments]
  simp only [show unmappedOpen.argument0 = 0x1100 from rfl,
    show unmappedOpen.argument1 = 0x9000 from rfl, h.read, hfound, howner, if_neg halive, hemplace,
    hhandle, h.write, ne_eq, not_true_eq_false, if_false, if_pos hfault, herased, hids]
  rfl

/-- The call of a thread that has trapped there before. -/
theorem Spins.act (h : Spins runtime)
    (hunused : ∀ c, runtime.channels.handleAt c ≠ some runtime.nextHandleValue) :
    runtime.act .x64 (.syscall unmappedOpen) = (runtime.enterSyscall 0 unmappedOpen).spun 1 := by
  have hsyscall : Syscall.ofNumber unmappedOpen.syscallNumber = some .rpcOpen := rfl
  simp only [UserRuntime.act, dispatchSyscall, h.current, dispatchActive, hsyscall]
  rw [h.enterSyscall.rpcOpen hunused]

/-- The counter can be walked to every value that lies before the next handle of a channel. -/
theorem Spins.reachable (h : Spins runtime)
    (hreach : (runtimeSystem .x64).Reachable TransitionSystem.anyStep runtime) (count : Nat)
    (hunused : ∀ i ≤ count, ∀ c,
      runtime.channels.handleAt c ≠ some (runtime.nextHandleValue + UInt64.ofNat i)) :
    (runtimeSystem .x64).Reachable TransitionSystem.anyStep
      ((runtime.enterSyscall 0 unmappedOpen).spun (count + 1)) := by
  induction count with
  | zero =>
    have hzero : ∀ c, runtime.channels.handleAt c ≠ some runtime.nextHandleValue := by
      simpa using hunused 0 le_rfl
    have hmay : runtime.mayAct (.syscall unmappedOpen) = true := h.runnable
    rw [Nat.zero_add, ← h.act hzero]
    exact hreach.step hmay trivial
  | succ count ih =>
    have hbefore := ih fun i hi => hunused i (hi.trans (Nat.le_succ count))
    have hspins := h.enterSyscall.spun (count + 1)
    have hnext := hspins.act (hunused (count + 1) le_rfl)
    have hentered : ((runtime.enterSyscall 0 unmappedOpen).spun (count + 1)).enterSyscall 0
        unmappedOpen = (runtime.enterSyscall 0 unmappedOpen).spun (count + 1) :=
      congrArg (fun entered => UserRuntime.spun entered (count + 1))
        (enterSyscall_idem runtime 0 unmappedOpen)
    have hmay : ((runtime.enterSyscall 0 unmappedOpen).spun (count + 1)).mayAct
        (.syscall unmappedOpen) = true := hspins.runnable
    rw [hentered, ← spun_succ] at hnext
    rw [← hnext]
    exact hbefore.step hmay trivial

/-- A booted process, handle 1, has a thread, handle 2, that has registered an endpoint and
opened a channel to it, handle 3, in slot 0. -/
def spinStart : UserRuntime :=
  ((bootStarted 1).act .x64 (trap 3 0x1100 0x1200 0x1210 0x1800)).act .x64
    (trap 4 0x1100 0x1300 0 0x1800)

/-- The same once the thread has brought the counter back to `value`. -/
def wrapped (value : Nat) : UserRuntime :=
  (spinStart.enterSyscall 0 unmappedOpen).spun (2 ^ 64 + value - 5 + 1)

theorem spinStart_reachable :
    (runtimeSystem .x64).Reachable TransitionSystem.anyStep spinStart := by
  have hbooted : (runtimeSystem .x64).Reachable TransitionSystem.anyStep (bootStarted 1) :=
    .init (bootStarted_started rfl)
  have hregister : (bootStarted 1).mayAct (trap 3 0x1100 0x1200 0x1210 0x1800) = true := by
    decide +kernel
  have hopen : ((bootStarted 1).act .x64 (trap 3 0x1100 0x1200 0x1210 0x1800)).mayAct
      (trap 4 0x1100 0x1300 0 0x1800) = true := by
    decide +kernel
  exact (hbooted.step hregister trivial).step hopen trivial

/-- The counter comes back to the handles of the process, the thread and the channel. -/
theorem wrapped_reachable {value : Nat} (hvalue : value ≤ 3) :
    (runtimeSystem .x64).Reachable TransitionSystem.anyStep (wrapped value) := by
  have hspins : spinStart.Spins := by decide +kernel
  have hnext : spinStart.nextHandleValue = 4 := by decide +kernel
  have hchannels : ∀ c, spinStart.channels.handleAt c = if c = 0 then some 3 else none := by
    decide +kernel
  refine hspins.reachable spinStart_reachable _ fun i hi c => ?_
  rw [hchannels, hnext]
  split
  · intro heq
    have hvalues := congrArg UInt64.toNat (Option.some.inj heq)
    simp only [UInt64.toNat_add, UInt64.toNat_ofNat] at hvalues
    change 3 = (4 + i % 2 ^ 64) % 2 ^ 64 at hvalues
    omega
  · simp

end UserRuntime

end Ringos.Kernel

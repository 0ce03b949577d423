import Ringos.Core.Naming
import Ringos.Kernel.WellFormed
import Mathlib.Data.Fintype.Sum
import Mathlib.Tactic.DeriveFintype

/-!
# Handles

The five pools draw their handles from one counter. The handle a slot carries
is the name of the slot; what one kernel entry does to these names is one step
of a naming, whatever else it does.
-/

namespace Ringos.Kernel

open Ringos.Core

/-- The five pools that share `m_next_handle_value`. -/
inductive Pool where
  | processes
  | threads
  | deviceMemoryObjects
  | channels
  | sharedMemoryObjects
  deriving DecidableEq, Repr

/-- A slot of one of the pools. -/
inductive ObjectRef where
  | process (ref : ProcessRef)
  | thread (ref : ThreadRef)
  | deviceMemoryObject (ref : Fin maxDeviceMemoryObjects)
  | channel (ref : ChannelRef)
  | sharedMemoryObject (ref : Fin maxSharedMemoryObjects)
  deriving DecidableEq, Repr, Fintype

/-- The pool a slot belongs to. -/
def ObjectRef.pool : ObjectRef → Pool
  | .process _ => .processes
  | .thread _ => .threads
  | .deviceMemoryObject _ => .deviceMemoryObjects
  | .channel _ => .channels
  | .sharedMemoryObject _ => .sharedMemoryObjects

namespace KernelObjectPool

variable {α : Type} {capacity : Nat} [KernelObject α]

/-- The handle of the object in a slot. -/
def handleAt (pool : KernelObjectPool α capacity) (index : Fin capacity) : Option Handle :=
  (pool.items index).map KernelObject.getHandle

/-- A handle resolves to a slot that carries it. -/
theorem handleAt_of_findByHandle {pool : KernelObjectPool α capacity} {handleValue : Handle}
    {index : Fin capacity} (h : pool.findByHandle handleValue = some index) :
    pool.handleAt index = some handleValue := by
  obtain ⟨object, hitem, hhandle⟩ := findByHandle_eq_some h
  rw [handleAt, hitem, Option.map_some, hhandle]

/-- A handle that one slot alone carries resolves to it. -/
theorem findByHandle_of_handleAt {pool : KernelObjectPool α capacity} {handleValue : Handle}
    {index : Fin capacity} (h : pool.handleAt index = some handleValue)
    (hunique : ∀ other, pool.handleAt other = some handleValue → other = index) :
    pool.findByHandle handleValue = some index := by
  unfold handleAt at h hunique
  refine firstIndex_eq_some ?_ fun other hother => (hunique other ?_).ge
  · cases hitem : pool.items index with
    | none => simp [hitem] at h
    | some object => simpa [hitem] using h
  · cases hitem : pool.items other with
    | none => simp [hitem] at hother
    | some object => simpa [hitem] using hother

/-- A handle that no slot carries does not resolve. -/
theorem findByHandle_eq_none_iff {pool : KernelObjectPool α capacity} {handleValue : Handle} :
    pool.findByHandle handleValue = none ↔
      ∀ index, pool.handleAt index ≠ some handleValue := by
  constructor
  · intro h index hindex
    obtain ⟨object, hitem, hhandle⟩ := Option.map_eq_some_iff.mp hindex
    exact findByHandle_eq_none h hitem hhandle
  · intro h
    cases hfind : pool.findByHandle handleValue with
    | none => rfl
    | some index => exact absurd (handleAt_of_findByHandle hfind) (h index)

/-- A write that keeps handles. -/
theorem handleAt_modify (pool : KernelObjectPool α capacity) (index : Fin capacity) {f : α → α}
    (hf : ∀ object, KernelObject.getHandle (f object) = KernelObject.getHandle object) :
    (pool.modify index f).handleAt = pool.handleAt := by
  ext1 other
  unfold handleAt
  by_cases h : other = index
  · subst h
    simp only [modify_items_self, Option.map_map, Function.comp_def, hf]
  · rw [modify_items_of_ne pool h]

/-- An allocation names its slot with the counter's value. -/
theorem handleAt_emplace {pool pool' : KernelObjectPool α capacity} {next next' : Handle}
    {construct : UInt32 → Handle → α}
    (hconstruct : ∀ id handle, KernelObject.getHandle (construct id handle) = handle)
    {index : Fin capacity} (h : pool.emplace next construct = some (index, pool', next')) :
    pool.handleAt index = none ∧ pool'.handleAt = Function.update pool.handleAt index (some next) ∧
      next' = next + 1 := by
  obtain ⟨hfree, hitems, hnext⟩ := emplace_eq_some h
  refine ⟨by rw [handleAt, hfree, Option.map_none], ?_, hnext⟩
  ext1 other
  rw [handleAt, hitems, Function.update_apply, Function.update_apply]
  split
  · rw [Option.map_some, hconstruct]
  · rfl

/-- Erasing takes a name away and gives none. -/
theorem handleAt_eraseByHandle {pool : KernelObjectPool α capacity} {handleValue : Handle}
    {index : Fin capacity} {other : Handle}
    (h : (pool.eraseByHandle handleValue).2.handleAt index = some other) :
    pool.handleAt index = some other := by
  unfold eraseByHandle at h
  split at h
  · exact h
  · rename_i found _
    simp only [handleAt, Function.update_apply] at h
    split at h
    · cases h
    · exact h

end KernelObjectPool

namespace UserRuntime

variable {arch : Arch} {runtime : UserRuntime}

/-- The handle of the object in a slot of any pool. -/
def handleAt (runtime : UserRuntime) : ObjectRef → Option Handle
  | .process ref => runtime.processes.handleAt ref
  | .thread ref => runtime.threads.handleAt ref
  | .deviceMemoryObject ref => runtime.deviceMemoryObjects.handleAt ref
  | .channel ref => runtime.channels.handleAt ref
  | .sharedMemoryObject ref => runtime.sharedMemoryObjects.handleAt ref

/-- `find_by_handle` of one of the pools. -/
def findIn (runtime : UserRuntime) (handleValue : Handle) : Pool → Option ObjectRef
  | .processes => (runtime.processes.findByHandle handleValue).map .process
  | .threads => (runtime.threads.findByHandle handleValue).map .thread
  | .deviceMemoryObjects =>
    (runtime.deviceMemoryObjects.findByHandle handleValue).map .deviceMemoryObject
  | .channels => (runtime.channels.findByHandle handleValue).map .channel
  | .sharedMemoryObjects =>
    (runtime.sharedMemoryObjects.findByHandle handleValue).map .sharedMemoryObject

/-- What a pool finds carries the handle and is a slot of that pool. -/
theorem findIn_eq_some {handleValue : Handle} {pool : Pool} {ref : ObjectRef}
    (h : runtime.findIn handleValue pool = some ref) :
    runtime.handleAt ref = some handleValue ∧ ref.pool = pool := by
  cases pool with
  | processes =>
    obtain ⟨index, hfind, rfl⟩ := Option.map_eq_some_iff.mp h
    exact ⟨KernelObjectPool.handleAt_of_findByHandle hfind, rfl⟩
  | threads =>
    obtain ⟨index, hfind, rfl⟩ := Option.map_eq_some_iff.mp h
    exact ⟨KernelObjectPool.handleAt_of_findByHandle hfind, rfl⟩
  | deviceMemoryObjects =>
    obtain ⟨index, hfind, rfl⟩ := Option.map_eq_some_iff.mp h
    exact ⟨KernelObjectPool.handleAt_of_findByHandle hfind, rfl⟩
  | channels =>
    obtain ⟨index, hfind, rfl⟩ := Option.map_eq_some_iff.mp h
    exact ⟨KernelObjectPool.handleAt_of_findByHandle hfind, rfl⟩
  | sharedMemoryObjects =>
    obtain ⟨index, hfind, rfl⟩ := Option.map_eq_some_iff.mp h
    exact ⟨KernelObjectPool.handleAt_of_findByHandle hfind, rfl⟩

/-- An object whose handle no other object carries is found by it in its own pool. -/
theorem findIn_of_handleAt {handleValue : Handle} {ref : ObjectRef}
    (h : runtime.handleAt ref = some handleValue)
    (hunique : ∀ other, runtime.handleAt other = some handleValue → other = ref) :
    runtime.findIn handleValue ref.pool = some ref := by
  cases ref with
  | process index =>
    refine Option.map_eq_some_iff.mpr ⟨index, ?_, rfl⟩
    exact KernelObjectPool.findByHandle_of_handleAt h fun other hother =>
      ObjectRef.process.inj (hunique (.process other) hother)
  | thread index =>
    refine Option.map_eq_some_iff.mpr ⟨index, ?_, rfl⟩
    exact KernelObjectPool.findByHandle_of_handleAt h fun other hother =>
      ObjectRef.thread.inj (hunique (.thread other) hother)
  | deviceMemoryObject index =>
    refine Option.map_eq_some_iff.mpr ⟨index, ?_, rfl⟩
    exact KernelObjectPool.findByHandle_of_handleAt h fun other hother =>
      ObjectRef.deviceMemoryObject.inj (hunique (.deviceMemoryObject other) hother)
  | channel index =>
    refine Option.map_eq_some_iff.mpr ⟨index, ?_, rfl⟩
    exact KernelObjectPool.findByHandle_of_handleAt h fun other hother =>
      ObjectRef.channel.inj (hunique (.channel other) hother)
  | sharedMemoryObject index =>
    refine Option.map_eq_some_iff.mpr ⟨index, ?_, rfl⟩
    exact KernelObjectPool.findByHandle_of_handleAt h fun other hother =>
      ObjectRef.sharedMemoryObject.inj (hunique (.sharedMemoryObject other) hother)

/-- Only what changes the pools changes the names. -/
theorem handleAt_congr {before after : UserRuntime} (hprocesses : after.processes = before.processes)
    (hthreads : after.threads.handleAt = before.threads.handleAt)
    (hdevices : after.deviceMemoryObjects = before.deviceMemoryObjects)
    (hchannels : after.channels.handleAt = before.channels.handleAt)
    (hshared : after.sharedMemoryObjects = before.sharedMemoryObjects) :
    after.handleAt = before.handleAt := by
  ext1 ref
  cases ref with
  | process index => rw [handleAt, handleAt, hprocesses]
  | thread index => rw [handleAt, handleAt, hthreads]
  | deviceMemoryObject index => rw [handleAt, handleAt, hdevices]
  | channel index => rw [handleAt, handleAt, hchannels]
  | sharedMemoryObject index => rw [handleAt, handleAt, hshared]

/-- A write to a thread that keeps its handle. -/
theorem handleAt_modifyThread {ref : ThreadRef} {f : Thread → Thread}
    (hf : ∀ thread, (f thread).handle = thread.handle) :
    (runtime.modifyThread ref f).handleAt = runtime.handleAt :=
  handleAt_congr rfl (KernelObjectPool.handleAt_modify _ ref hf) rfl rfl rfl

theorem handleAt_setCurrentThread (next : Option ThreadRef) :
    (runtime.setCurrentThread next).handleAt = runtime.handleAt := by
  have hpromoted : ∀ before : UserRuntime,
      before.promoteCurrentThread.handleAt = before.handleAt := by
    intro before
    unfold promoteCurrentThread
    split
    · rfl
    · split
      · exact handleAt_modifyThread fun _ => rfl
      · rfl
  have hdemoted : (runtime.demoteCurrentThread next).handleAt = runtime.handleAt := by
    unfold demoteCurrentThread
    split
    · rfl
    · split
      · exact handleAt_modifyThread fun _ => rfl
      · rfl
  exact (hpromoted _).trans hdemoted

theorem handleAt_beginCall (ref : ChannelRef) (client server : ThreadRef) :
    (runtime.beginCall ref client server).handleAt = runtime.handleAt := by
  refine handleAt_congr rfl rfl rfl ?_ rfl
  exact KernelObjectPool.handleAt_modify _ ref fun _ => rfl

theorem handleAt_cancelCall (ref : ChannelRef) :
    (runtime.cancelCall ref).handleAt = runtime.handleAt := by
  refine handleAt_congr rfl rfl rfl ?_ rfl
  exact KernelObjectPool.handleAt_modify _ ref fun _ => rfl

theorem handleAt_finishCall (ref : ChannelRef) (call : PendingCall) :
    (runtime.finishCall ref call).handleAt = runtime.handleAt := by
  refine (handleAt_cancelCall ref).trans (handleAt_modifyThread ?_)
  exact fun _ => rfl

theorem handleAt_wakeClient (client : ThreadRef) (status : Int32) :
    (runtime.wakeClient arch client status).handleAt = runtime.handleAt := by
  refine handleAt_modifyThread ?_
  exact fun _ => rfl

theorem handleAt_serverPrepared (memory : ByteMemory) (endpoint : RpcEndpoint)
    (serverThread : ThreadRef) (requestAddress requestSize stackPointer : UInt64) :
    (runtime.serverPrepared memory endpoint serverThread requestAddress requestSize
      stackPointer).handleAt = runtime.handleAt := by
  refine (handleAt_modifyThread ?_).trans rfl
  exact fun _ => rfl

/-- What a kernel entry does to the names: it gives none, or gives the counter's value. -/
inductive HandleEffect (before after : UserRuntime) : Prop
  | kept : after.nextHandleValue = before.nextHandleValue →
      (∀ ref handle, after.handleAt ref = some handle → before.handleAt ref = some handle) →
      HandleEffect before after
  | gave (slot : ObjectRef) : after.nextHandleValue = before.nextHandleValue + 1 →
      (∀ ref handle, after.handleAt ref = some handle →
        before.handleAt ref = some handle ∨ ref = slot ∧ handle = before.nextHandleValue) →
      HandleEffect before after

/-- A step that changes no name and leaves the counter alone. -/
theorem HandleEffect.of_eq {before after : UserRuntime} (hhandles : after.handleAt = before.handleAt)
    (hnext : after.nextHandleValue = before.nextHandleValue) : HandleEffect before after :=
  .kept hnext fun _ _ h => hhandles ▸ h

/-- The exit of a thread keeps all names. -/
theorem handleAt_terminateCurrentThread (arch : Arch) (runtime : UserRuntime)
    (exitStatus : UInt64) (peerFailureStatus : Int32) :
    (runtime.terminateCurrentThread arch exitStatus peerFailureStatus).2.handleAt =
      runtime.handleAt ∧
    (runtime.terminateCurrentThread arch exitStatus peerFailureStatus).2.nextHandleValue =
      runtime.nextHandleValue := by
  unfold terminateCurrentThread
  split
  · exact ⟨rfl, rfl⟩
  rename_i active _
  constructor
  · refine (scheduleNextReadyThread_keeps handleAt _ handleAt_setCurrentThread rfl).trans ?_
    refine (handleAt_modifyThread ?_).trans ?_
    · exact fun _ => rfl
    · exact failPendingCall_keeps handleAt arch runtime active peerFailureStatus
        handleAt_cancelCall fun _ _ => handleAt_wakeClient _ _
  · refine (scheduleNextReadyThread_keeps nextHandleValue _
      (setCurrentThread_nextHandleValue _) rfl).trans ?_
    exact failPendingCall_keeps nextHandleValue arch runtime active peerFailureStatus
      (fun _ => rfl) fun _ _ => rfl

/-- What a syscall does to the names. -/
theorem outcome_handles {active : ThreadRef} {context : UserSyscallContext}
    {result : Int32 × UserRuntime} (h : SyscallOutcome arch runtime active context result) :
    HandleEffect runtime result.2 := by
  cases h with
  | kept status memory debugLog _ _ _ => exact .of_eq rfl rfl
  | exited _ =>
    obtain ⟨hhandles, hnext⟩ := handleAt_terminateCurrentThread arch runtime
      context.argument0 Status.peerClosed
    exact .of_eq hhandles hnext
  | registered ref endpointName _ _ => exact .of_eq rfl rfl
  | yielded ref endpointName nextThread _ _ _ _ =>
    refine .of_eq ((handleAt_setCurrentThread _).trans ?_) (setCurrentThread_nextHandleValue _ _)
    refine handleAt_modifyThread ?_
    exact fun _ => rfl
  | opened ref endpoint endpointName serverThread channels next memory _ _ _ _ hemplace =>
    obtain ⟨_, hhandles, hnext⟩ := KernelObjectPool.handleAt_emplace (fun _ _ => rfl) hemplace
    refine .gave (.channel ref) hnext fun other handle hother => ?_
    cases other with
    | channel index =>
      simp only [handleAt, hhandles, Function.update_apply] at hother
      split at hother
      · rename_i heq
        exact .inr ⟨heq ▸ rfl, (Option.some.inj hother).symm⟩
      · exact .inl hother
    | _ => exact .inl hother
  | openFailed status ref endpoint channels next memory _ _ hemplace =>
    obtain ⟨_, hhandles, hnext⟩ := KernelObjectPool.handleAt_emplace (fun _ _ => rfl) hemplace
    refine .gave (.channel ref) hnext fun other handle hother => ?_
    cases other with
    | channel index =>
      have hbefore := KernelObjectPool.handleAt_eraseByHandle hother
      rw [hhandles, Function.update_apply] at hbefore
      split at hbefore
      · rename_i heq
        exact .inr ⟨heq ▸ rfl, (Option.some.inj hbefore).symm⟩
      · exact .inl hbefore
    | _ => exact .inl hother
  | called ref serverThread memory requestAddress stackPointer _ _ _ =>
    refine .of_eq ((handleAt_setCurrentThread _).trans ?_) (setCurrentThread_nextHandleValue _ _)
    refine (handleAt_modifyThread ?_).trans ((handleAt_beginCall _ _ _).trans
      (handleAt_serverPrepared _ _ _ _ _ _))
    exact fun _ => rfl
  | calledSelf ref memory requestAddress stackPointer _ _ =>
    exact .of_eq ((handleAt_beginCall _ _ _).trans (handleAt_serverPrepared _ _ _ _ _ _)) rfl
  | closed ref _ _ _ =>
    refine .kept rfl fun other handle hother => ?_
    cases other with
    | channel index => exact KernelObjectPool.handleAt_eraseByHandle hother
    | _ => exact hother
  | completed ref call _ _ _ _ =>
    refine .of_eq ((handleAt_setCurrentThread _).trans ?_) (setCurrentThread_nextHandleValue _ _)
    exact (handleAt_wakeClient _ _).trans (handleAt_finishCall ref call)
  | completedSelf ref call _ _ _ _ => exact .of_eq (handleAt_finishCall ref call) rfl

/-- What an action does to the names. -/
theorem act_handles (arch : Arch) (runtime : UserRuntime) (action : Action) :
    HandleEffect runtime (runtime.act arch action) := by
  have hmodified : ∀ f : Thread → Thread, (∀ thread, (f thread).handle = thread.handle) →
      HandleEffect runtime (runtime.modifyCurrentThread f) := by
    intro f hf
    unfold modifyCurrentThread
    split
    · exact .of_eq rfl rfl
    · exact .of_eq (handleAt_modifyThread hf) rfl
  cases action with
  | syscall context =>
    simp only [act, dispatchSyscall]
    cases runtime.currentThread with
    | none => exact .of_eq rfl rfl
    | some active =>
      have hentered : (runtime.enterSyscall active context).handleAt = runtime.handleAt :=
        handleAt_modifyThread fun _ => rfl
      cases outcome_handles (dispatchActive_outcome arch (runtime.enterSyscall active context)
        active context) with
      | kept hnext hsub => exact .kept hnext (hentered ▸ hsub)
      | gave slot hnext hsub => exact .gave slot hnext (hentered ▸ hsub)
  | terminate exitStatus peerFailureStatus =>
    obtain ⟨hhandles, hnext⟩ := handleAt_terminateCurrentThread arch runtime
      exitStatus peerFailureStatus
    exact .of_eq hhandles hnext
  | userStores memory => exact .of_eq rfl rfl
  | saveRegisters registers simdQwords => exact hmodified _ fun _ => rfl
  | prepareResume status => exact hmodified _ fun _ => rfl

end UserRuntime

end Ringos.Kernel

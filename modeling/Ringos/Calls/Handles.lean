import Ringos.Kernel.Handles
import Ringos.Scheduler.Runs

/-!
# Handles are never reused

From a reset, objects may be created, threads started and any action taken, in
any order. The handles issued are the values the shared counter has had. Until
the counter comes round they are distinct and nonzero, every object is found by
its handle and by no other, and the handle of an erased object stays dead.
-/

namespace Ringos.Kernel

open Ringos.Core

/-- What can happen to the pools after a reset. -/
inductive PoolAction where
  | createProcess (metadata : ProcessMetadata) (addressSpaceInfo : AddressSpace)
  | createThread (processContext : ProcessRef) (initialContext : ThreadContext)
  | createDeviceMemoryObject (userAddress hostAddress size : UInt64)
  | createSharedMemoryObject (userAddress size : UInt64)
  /-- `set_current_thread` on a thread. -/
  | start (thread : ThreadRef)
  /-- A kernel entry or what user code and the trap handlers do between two of them. -/
  | run (action : Action)

namespace UserRuntime

variable {arch : Arch} {runtime : UserRuntime}

/-- The effect of an action on the pools. -/
def poolAct (arch : Arch) (runtime : UserRuntime) : PoolAction → UserRuntime
  | .createProcess metadata addressSpaceInfo =>
    (runtime.createProcess metadata addressSpaceInfo).2
  | .createThread processContext initialContext =>
    (runtime.createThread processContext initialContext).2
  | .createDeviceMemoryObject userAddress hostAddress size =>
    runtime.createDeviceMemoryObject userAddress hostAddress size
  | .createSharedMemoryObject userAddress size => runtime.createSharedMemoryObject userAddress size
  | .start thread => runtime.setCurrentThread (some thread)
  | .run action => runtime.act arch action

/-- The handles issued, oldest first: `allocate_handle_value` returns the value the counter had
before it was advanced. -/
def recordIssued (arch : Arch) (runtime : UserRuntime) (action : PoolAction)
    (issued : List Handle) : List Handle :=
  if (runtime.poolAct arch action).nextHandleValue = runtime.nextHandleValue then issued
  else issued ++ [runtime.nextHandleValue]

/-- The pools after a reset, with the handles issued so far. -/
def poolSystem (arch : Arch) : TransitionSystem (UserRuntime × List Handle) PoolAction :=
  TransitionSystem.withHistory
    { init := fun runtime => ∃ memory, runtime = reset memory
      enabled := fun _ _ => True
      next := poolAct arch } (fun _ => []) (recordIssued arch)

/-- The handles issued are nonzero and distinct, and handles and live objects determine each
other. -/
structure NamesUniquely (s : UserRuntime × List Handle) : Prop where
  nonzero : ∀ handle ∈ s.2, handle ≠ 0
  distinct : s.2.Nodup
  wasIssued : ∀ ref handle, s.1.handleAt ref = some handle → handle ∈ s.2
  foundInOwnPool : ∀ ref handle, s.1.handleAt ref = some handle →
    s.1.findIn handle ref.pool = some ref
  foundByNoOther : ∀ ref handle, s.1.handleAt ref = some handle →
    ∀ other pool, s.1.findIn other pool = some ref → other = handle
  namesNoOther : ∀ ref handle, s.1.handleAt ref = some handle →
    ∀ pool found, s.1.findIn handle pool = some found → found = ref

/-- The values of the counter. -/
def handleStamp (count : Nat) : Handle := UInt64.ofNat (count + 1)

theorem handleStamp_toNat (count : Nat) : (handleStamp count).toNat = (count + 1) % 2 ^ 64 :=
  UInt64.toNat_ofNat

theorem handleStamp_injOn : Set.InjOn handleStamp (Set.Iio (2 ^ 64)) := by
  intro i hi j hj heq
  have hvalues := congrArg UInt64.toNat heq
  simp only [handleStamp_toNat, Set.mem_Iio] at hvalues hi hj
  omega

theorem handleStamp_succ (count : Nat) : handleStamp (count + 1) = handleStamp count + 1 := by
  simp only [handleStamp, UInt64.ofNat_add]
  rfl

/-- The names of the slots and the number of handles issued. -/
def naming (s : UserRuntime × List Handle) : Naming ObjectRef Handle := ⟨s.1.handleAt, s.2.length⟩

/-- A creation finds its pool full, or names a free slot with the counter's value. -/
inductive Allocation (before after : UserRuntime) : Prop
  | full : after.handleAt = before.handleAt →
      after.nextHandleValue = before.nextHandleValue → Allocation before after
  | took (slot : ObjectRef) : before.handleAt slot = none →
      after.handleAt = Function.update before.handleAt slot (some before.nextHandleValue) →
      after.nextHandleValue = before.nextHandleValue + 1 → Allocation before after

/-- A creation gives at most one handle. -/
theorem Allocation.effect {before after : UserRuntime} (h : Allocation before after) :
    HandleEffect before after := by
  cases h with
  | full hhandles hnext => exact .of_eq hhandles hnext
  | took slot _ hhandles hnext =>
    refine .gave slot hnext fun ref handle href => ?_
    rw [hhandles, Function.update_apply] at href
    split at href
    · rename_i heq
      exact .inr ⟨heq, (Option.some.inj href).symm⟩
    · exact .inl href

theorem createProcess_allocation (metadata : ProcessMetadata) (addressSpaceInfo : AddressSpace) :
    Allocation runtime (runtime.createProcess metadata addressSpaceInfo).2 := by
  unfold createProcess
  split
  · exact .full rfl rfl
  · rename_i index processes next hemplace
    obtain ⟨hfree, hhandles, hnext⟩ := KernelObjectPool.handleAt_emplace (fun _ _ => rfl) hemplace
    refine .took (.process index) hfree ?_ hnext
    ext1 ref
    cases ref <;> simp [handleAt, hhandles, Function.update_apply]

theorem createThread_allocation (processContext : ProcessRef) (initialContext : ThreadContext) :
    Allocation runtime (runtime.createThread processContext initialContext).2 := by
  unfold createThread
  split
  · exact .full rfl rfl
  · rename_i index threads next hemplace
    obtain ⟨hfree, hhandles, hnext⟩ := KernelObjectPool.handleAt_emplace (fun _ _ => rfl) hemplace
    refine .took (.thread index) hfree ?_ hnext
    ext1 ref
    cases ref <;> simp [handleAt, hhandles, Function.update_apply]

theorem createDeviceMemoryObject_allocation (userAddress hostAddress size : UInt64) :
    Allocation runtime (runtime.createDeviceMemoryObject userAddress hostAddress size) := by
  unfold createDeviceMemoryObject
  split
  · exact .full rfl rfl
  · rename_i index objects next hemplace
    obtain ⟨hfree, hhandles, hnext⟩ := KernelObjectPool.handleAt_emplace (fun _ _ => rfl) hemplace
    refine .took (.deviceMemoryObject index) hfree ?_ hnext
    ext1 ref
    cases ref <;> simp [handleAt, hhandles, Function.update_apply]

theorem createSharedMemoryObject_allocation (userAddress size : UInt64) :
    Allocation runtime (runtime.createSharedMemoryObject userAddress size) := by
  unfold createSharedMemoryObject
  split
  · exact .full rfl rfl
  · rename_i index objects next hemplace
    obtain ⟨hfree, hhandles, hnext⟩ := KernelObjectPool.handleAt_emplace (fun _ _ => rfl) hemplace
    refine .took (.sharedMemoryObject index) hfree ?_ hnext
    ext1 ref
    cases ref <;> simp [handleAt, hhandles, Function.update_apply]

/-- What an action does to the names. -/
theorem poolAct_handles (arch : Arch) (runtime : UserRuntime) (action : PoolAction) :
    HandleEffect runtime (runtime.poolAct arch action) := by
  cases action with
  | createProcess metadata addressSpaceInfo => exact (createProcess_allocation _ _).effect
  | createThread processContext initialContext => exact (createThread_allocation _ _).effect
  | createDeviceMemoryObject userAddress hostAddress size =>
    exact (createDeviceMemoryObject_allocation _ _ _).effect
  | createSharedMemoryObject userAddress size =>
    exact (createSharedMemoryObject_allocation _ _).effect
  | start thread =>
    exact .of_eq (handleAt_setCurrentThread _) (setCurrentThread_nextHandleValue _ _)
  | run action => exact act_handles arch runtime action

/-- The handles issued are the first values of the counter, and the names are valid until it
comes round. -/
structure Issued (s : UserRuntime × List Handle) : Prop where
  counter : s.1.nextHandleValue = handleStamp s.2.length
  values : s.2 = Naming.given handleStamp s.2.length
  valid : s.2.length ≤ 2 ^ 64 → (naming s).Valid handleStamp

/-- The number of handles given, kept in step with the counter. -/
def countGiven (before after : UserRuntime) (count : Nat) : Nat :=
  if after.nextHandleValue = before.nextHandleValue then count else count + 1

/-- What a kernel entry does to the names is a step of the naming. -/
theorem HandleEffect.step {before after : UserRuntime} (heffect : HandleEffect before after)
    {count : Nat} (h : before.nextHandleValue = handleStamp count) :
    Naming.Step handleStamp ⟨before.handleAt, count⟩
        ⟨after.handleAt, countGiven before after count⟩ ∧
      after.nextHandleValue = handleStamp (countGiven before after count) := by
  unfold countGiven
  cases heffect with
  | kept hnext hsub =>
    rw [if_pos hnext]
    exact ⟨.kept rfl hsub, hnext.trans h⟩
  | gave slot hnext hsub =>
    have hmoved : after.nextHandleValue ≠ before.nextHandleValue := by
      rw [hnext]
      simp
    rw [if_neg hmoved]
    rw [h] at hsub hnext
    exact ⟨.gave slot rfl hsub, hnext.trans (handleStamp_succ count).symm⟩

/-- The list of issued handles grows with their number. -/
theorem recordIssued_length (arch : Arch) (runtime : UserRuntime) (action : PoolAction)
    (issued : List Handle) : (recordIssued arch runtime action issued).length =
      countGiven runtime (runtime.poolAct arch action) issued.length := by
  unfold recordIssued countGiven
  split
  · rfl
  · rw [List.length_append, List.length_singleton]

/-- A recorded action is a step of the naming. -/
theorem poolAct_naming (arch : Arch) {s : UserRuntime × List Handle}
    (h : s.1.nextHandleValue = handleStamp s.2.length) (action : PoolAction) :
    Naming.Step handleStamp (naming s)
      (naming (s.1.poolAct arch action, recordIssued arch s.1 action s.2)) ∧
    (s.1.poolAct arch action).nextHandleValue =
      handleStamp (recordIssued arch s.1 action s.2).length := by
  have hstep := (poolAct_handles arch s.1 action).step h
  rw [← recordIssued_length] at hstep
  exact hstep

theorem Issued.act {s : UserRuntime × List Handle} (h : Issued s) (arch : Arch)
    (action : PoolAction) :
    Issued (s.1.poolAct arch action, recordIssued arch s.1 action s.2) := by
  obtain ⟨hstep, hcounter⟩ := poolAct_naming arch h.counter action
  refine ⟨hcounter, ?_, fun hbound => ?_⟩
  · dsimp only [recordIssued]
    split
    · exact h.values
    · rw [List.length_append, List.length_singleton, Naming.given_succ, ← h.values, h.counter]
  · exact hstep.valid handleStamp_injOn (h.valid (hstep.count_le.trans hbound)) hbound

theorem reachable_issued {guard : UserRuntime × List Handle → PoolAction → Prop}
    {s : UserRuntime × List Handle} (h : (poolSystem arch).Reachable guard s) : Issued s := by
  refine h.invariant (P := Issued) ?_ fun s action _ hs _ _ => hs.act arch action
  rintro ⟨runtime, issued⟩ ⟨⟨memory, rfl⟩, hissued⟩
  obtain rfl : issued = [] := hissued
  refine ⟨rfl, rfl, fun _ => ⟨fun ref handle href => ?_, fun ref _ handle href => ?_⟩⟩
  · cases ref <;> cases href
  · cases ref <;> cases href

/-- Valid names are unique names. -/
theorem Issued.namesUniquely {s : UserRuntime × List Handle} (h : Issued s)
    (hcount : s.2.length < 2 ^ 64 - 1) : NamesUniquely s := by
  have hbound : s.2.length ≤ 2 ^ 64 := by omega
  obtain ⟨hgiven, hunique⟩ := h.valid hbound
  refine ⟨fun handle hmem hzero => ?_, ?_, fun ref handle href => ?_, fun ref handle href => ?_,
    fun ref handle href other pool hfound => ?_, fun ref handle href pool found hfound => ?_⟩
  · rw [h.values] at hmem
    obtain ⟨i, hi, rfl⟩ := List.mem_map.mp hmem
    have hvalue := handleStamp_toNat i
    rw [List.mem_range] at hi
    rw [hzero, Nat.mod_eq_of_lt (by omega)] at hvalue
    cases hvalue
  · rw [h.values]
    exact Naming.given_nodup handleStamp_injOn hbound
  · rw [h.values]
    exact hgiven ref handle href
  · exact findIn_of_handleAt href fun other hother => hunique other ref handle hother href
  · exact Option.some.inj ((findIn_eq_some hfound).1.symm.trans href)
  · exact hunique found ref handle (findIn_eq_some hfound).1 href

/-- Nothing carries a handle that no pool resolves. -/
theorem handleAt_ne_of_findIn {handleValue : Handle}
    (h : ∀ pool, runtime.findIn handleValue pool = none) (ref : ObjectRef) :
    runtime.handleAt ref ≠ some handleValue := by
  have hnone := h ref.pool
  cases ref with
  | process index =>
    refine KernelObjectPool.findByHandle_eq_none_iff.mp ?_ index
    exact Option.map_eq_none_iff.mp hnone
  | thread index =>
    refine KernelObjectPool.findByHandle_eq_none_iff.mp ?_ index
    exact Option.map_eq_none_iff.mp hnone
  | deviceMemoryObject index =>
    refine KernelObjectPool.findByHandle_eq_none_iff.mp ?_ index
    exact Option.map_eq_none_iff.mp hnone
  | channel index =>
    refine KernelObjectPool.findByHandle_eq_none_iff.mp ?_ index
    exact Option.map_eq_none_iff.mp hnone
  | sharedMemoryObject index =>
    refine KernelObjectPool.findByHandle_eq_none_iff.mp ?_ index
    exact Option.map_eq_none_iff.mp hnone

/-- Until the counter comes round, handles name live objects uniquely, and a handle that was
issued and resolves in no pool resolves in none in any later state. -/
theorem handles_never_reused (arch : Arch) {s later : UserRuntime × List Handle}
    (h : (poolSystem arch).Reachable TransitionSystem.anyStep s)
    (hlater : (poolSystem arch).Later TransitionSystem.anyStep s later)
    (hcount : later.2.length < 2 ^ 64 - 1) :
    NamesUniquely later ∧
      ∀ handle ∈ s.2, (∀ pool, s.1.findIn handle pool = none) →
        ∀ pool, later.1.findIn handle pool = none := by
  refine ⟨(reachable_issued (h.later hlater)).namesUniquely hcount, fun handle hissued hdead => ?_⟩
  -- Going back along the run the count only falls, so the bound holds at every step.
  have hstays : later.2.length ≤ 2 ^ 64 →
      handle ∈ later.2 ∧ ∀ ref, later.1.handleAt ref ≠ some handle := by
    refine hlater.stable (P := fun s => s.2.length ≤ 2 ^ 64 →
      handle ∈ s.2 ∧ ∀ ref, s.1.handleAt ref ≠ some handle) ?_ h
      fun _ => ⟨hissued, handleAt_ne_of_findIn hdead⟩
    intro s action hreach ih _ _ hbound
    have hissuedBefore := reachable_issued hreach
    obtain ⟨hstep, _⟩ := poolAct_naming arch hissuedBefore.counter action
    obtain ⟨hmem, hunused⟩ := ih (hstep.count_le.trans hbound)
    refine ⟨?_, ?_⟩
    · change handle ∈ recordIssued arch s.1 action s.2
      unfold recordIssued
      split
      · exact hmem
      · exact List.mem_append_left _ hmem
    · exact hstep.stays_unused handleStamp_injOn hbound (hissuedBefore.values ▸ hmem) hunused
  intro pool
  obtain ⟨_, hunused⟩ := hstays (by omega)
  cases hfound : later.1.findIn handle pool with
  | none => rfl
  | some ref => exact absurd (findIn_eq_some hfound).1 (hunused ref)

/-- A process and a thread that registers an endpoint, opens a channel to it and closes it. -/
def closedChannel : List PoolAction :=
  [.createProcess ⟨.x64, .ringos, .native⟩
      (addAddressSpaceMapping ⟨0, []⟩ 0x1000 0x1000 0x1000).2,
    .createThread 0 ⟨0x1000, 0x1800, 0x202, 0⟩, .start 0,
    .run (trap 3 0x1100 0x1200 0x1210 0x1800), .run (trap 4 0x1100 0x1300 0 0x1800),
    .run (trap 7 3 0 0 0x1800)]

/-- A second open takes the slot of the closed channel, and the first handle stays dead. -/
theorem closedChannel_handle_dead :
    ∃ later, ((poolSystem .x64).Reachable TransitionSystem.anyStep later) ∧
      later.1.handleAt (.channel 0) = some 4 ∧ NamesUniquely later ∧
      ∀ pool, later.1.findIn 3 pool = none := by
  have hok : ∀ (s : UserRuntime × List Handle) (a : PoolAction), true = true →
      (poolSystem .x64).enabled s a ∧ TransitionSystem.anyStep s a := fun _ _ _ => ⟨trivial, trivial⟩
  obtain ⟨s, hreach, hissued, hdead, hrun⟩ :
      ∃ s, (poolSystem .x64).Reachable TransitionSystem.anyStep s ∧ 3 ∈ s.2 ∧
        (∀ pool ∈ [Pool.processes, .threads, .deviceMemoryObjects, .channels,
          .sharedMemoryObjects], s.1.findIn 3 pool = none) ∧
        ((poolSystem .x64).runs (fun _ _ => true) s [.run (trap 4 0x1100 0x1300 0 0x1800)]).any
          (fun s => decide (s.1.handleAt (.channel 0) = some 4 ∧ s.2.length = 4)) = true := by
    have hinit : (poolSystem .x64).init (reset bootMemory, []) := ⟨⟨bootMemory, rfl⟩, rfl⟩
    exact TransitionSystem.exists_reachable closedChannel hok hinit (by decide +kernel)
  obtain ⟨later, hlater, hslot⟩ := (Option.any_eq_true _ _).mp hrun
  obtain ⟨hslot, hcount⟩ := of_decide_eq_true hslot
  have hlater := TransitionSystem.runs_later hok hlater
  obtain ⟨hnames, hnever⟩ := handles_never_reused .x64 hreach hlater (by rw [hcount]; decide)
  refine ⟨later, hreach.later hlater, hslot, hnames, hnever 3 hissued fun pool => hdead pool ?_⟩
  cases pool <;> decide

end UserRuntime

end Ringos.Kernel

import Ringos.Calls.Handles
import Ringos.Calls.Wraparound
import Mathlib.Data.Finset.Card

/-!
# Channel handles belong to their opener

A log beside the run keeps the number of handles allocated and, for each
process, the handles that its `RPC_OPEN`s have returned and no `RPC_CLOSE` of
its has closed. Until the counter comes round, the log is exactly the table of
channels, so the handle checks admit a handle for its opener alone.
-/

namespace Ringos.Kernel

open Ringos.Core

/-- The handles allocated, by number, and those open, with the process that opened them. -/
structure HandleLog where
  allocated : Nat
  opened : List (ProcessRef × Handle)

namespace UserRuntime

variable {arch : Arch} {runtime : UserRuntime}

/-- The number of live objects; boot code erases none, so this many handles it has been given. -/
def liveObjects (runtime : UserRuntime) : Nat :=
  (Finset.univ.filter fun ref => (runtime.handleAt ref).isSome = true).card

/-- A successful `RPC_OPEN` returns the counter's value; a successful `RPC_CLOSE` closes its
argument. -/
def recordOpened (runtime : UserRuntime) (ownerProcess : ProcessRef)
    (context : UserSyscallContext) (opened : List (ProcessRef × Handle)) :
    List (ProcessRef × Handle) :=
  match Syscall.ofNumber context.syscallNumber with
  | some .rpcOpen => (ownerProcess, runtime.nextHandleValue) :: opened
  | some .rpcClose => opened.filter (· ≠ (ownerProcess, context.argument0))
  | _ => opened

/-- The log after an action. -/
def recordHandles (arch : Arch) (runtime : UserRuntime) (action : Action) (log : HandleLog) :
    HandleLog where
  allocated := countGiven runtime (runtime.act arch action) log.allocated
  opened :=
    match action, runtime.currentThread with
    | .syscall context, some active =>
      if (runtime.dispatchSyscall arch context).1 = Status.ok then
        runtime.recordOpened (runtime.thread active).process context log.opened
      else log.opened
    | _, _ => log.opened

/-- The runtime with its log of handles. -/
def handleSystem (arch : Arch) : TransitionSystem (UserRuntime × HandleLog) Action :=
  (runtimeSystem arch).withHistory (fun runtime => ⟨runtime.liveObjects, []⟩) (recordHandles arch)

/-- The opener and the handle of the channel in a slot. -/
def channelOwner (runtime : UserRuntime) (c : ChannelRef) : Option (ProcessRef × Handle) :=
  (runtime.channels.items c).map fun channel => (channel.clientProcess, channel.handle)

/-- What a syscall does to the owners of channels, when the next handle is unused. -/
inductive OwnerEffect (before : UserRuntime) (active : ThreadRef) (context : UserSyscallContext)
    (result : Int32 × UserRuntime) : Prop
  | kept : result.2.channelOwner = before.channelOwner →
      (result.1 = Status.ok → Syscall.ofNumber context.syscallNumber ≠ some .rpcOpen ∧
        Syscall.ofNumber context.syscallNumber ≠ some .rpcClose) →
      OwnerEffect before active context result
  | opened (c : ChannelRef) : Syscall.ofNumber context.syscallNumber = some .rpcOpen →
      result.1 = Status.ok → before.channelOwner c = none →
      result.2.channelOwner = Function.update before.channelOwner c
        (some ((before.thread active).process, before.nextHandleValue)) →
      OwnerEffect before active context result
  | closed (c : ChannelRef) : Syscall.ofNumber context.syscallNumber = some .rpcClose →
      result.1 = Status.ok →
      before.channelOwner c = some ((before.thread active).process, context.argument0) →
      result.2.channelOwner = Function.update before.channelOwner c none →
      OwnerEffect before active context result

/-- A write to a channel that keeps its opener and its handle. -/
theorem channelOwner_modifyChannel (ref : ChannelRef) {f : RpcChannel → RpcChannel}
    (hf : ∀ channel, (f channel).clientProcess = channel.clientProcess ∧
      (f channel).handle = channel.handle) :
    (runtime.modifyChannel ref f).channelOwner = runtime.channelOwner := by
  ext1 c
  unfold channelOwner modifyChannel
  by_cases hc : c = ref
  · subst hc
    simp only [KernelObjectPool.modify_items_self, Option.map_map, Function.comp_def, hf]
  · rw [KernelObjectPool.modify_items_of_ne _ hc]

theorem channelOwner_beginCall (ref : ChannelRef) (client server : ThreadRef) :
    (runtime.beginCall ref client server).channelOwner = runtime.channelOwner :=
  channelOwner_modifyChannel ref fun _ => ⟨rfl, rfl⟩

theorem channelOwner_cancelCall (ref : ChannelRef) :
    (runtime.cancelCall ref).channelOwner = runtime.channelOwner :=
  channelOwner_modifyChannel ref fun _ => ⟨rfl, rfl⟩

theorem channelOwner_setCurrentThread (next : Option ThreadRef) :
    (runtime.setCurrentThread next).channelOwner = runtime.channelOwner := by
  ext1 c
  simp only [channelOwner, setCurrentThread_channels]

theorem channelOwner_terminateCurrentThread (arch : Arch) (runtime : UserRuntime)
    (exitStatus : UInt64) (peerFailureStatus : Int32) :
    (runtime.terminateCurrentThread arch exitStatus peerFailureStatus).2.channelOwner =
      runtime.channelOwner := by
  unfold terminateCurrentThread
  split
  · rfl
  rename_i active _
  refine (scheduleNextReadyThread_keeps channelOwner _ channelOwner_setCurrentThread rfl).trans ?_
  exact failPendingCall_keeps channelOwner arch runtime active peerFailureStatus
    channelOwner_cancelCall fun _ _ => rfl

/-- A successful `RPC_CLOSE` has passed the handle checks. -/
theorem rpcClose_ok {active : ThreadRef} {context : UserSyscallContext}
    (h : (runtime.rpcClose active context).1 = Status.ok) :
    ∃ c, runtime.resolveChannel (runtime.thread active).process context.argument0 = .ok c := by
  unfold rpcClose at h
  split at h
  · cases h
  split at h
  · rename_i hresolve
    exact absurd h (resolveChannel_error hresolve)
  · rename_i c hresolve
    exact ⟨c, hresolve⟩

/-- A channel that passes the handle checks carries the handle and is the process's own. -/
theorem channelOwner_of_resolveChannel {ownerProcess : ProcessRef} {handle : Handle}
    {c : ChannelRef} (h : runtime.resolveChannel ownerProcess handle = .ok c) :
    runtime.channels.findByHandle handle = some c ∧
      runtime.channelOwner c = some (ownerProcess, handle) := by
  unfold resolveChannel at h
  split at h
  · cases h
  rename_i found hfind
  split at h
  · rename_i hprocess
    obtain rfl := Except.ok.inj h
    obtain ⟨channel, hitem, hhandle⟩ := KernelObjectPool.findByHandle_eq_some hfind
    have hchannel : runtime.channel found = channel := KernelObjectPool.get_of_items hitem
    refine ⟨hfind, ?_⟩
    rw [channelOwner, hitem, Option.map_some, ← hprocess, hchannel, ← hhandle]
    rfl
  · cases h

/-- What a syscall does to the owners of channels. -/
theorem dispatchActive_owners {active : ThreadRef} {context : UserSyscallContext}
    (hunused : (runtime.dispatchActive arch active context).2.nextHandleValue ≠
        runtime.nextHandleValue →
      ∀ c, runtime.channels.handleAt c ≠ some runtime.nextHandleValue) :
    OwnerEffect runtime active context (runtime.dispatchActive arch active context) := by
  have hclose : Syscall.ofNumber context.syscallNumber = some .rpcClose →
      (runtime.dispatchActive arch active context).1 = Status.ok →
      ∃ c, runtime.resolveChannel (runtime.thread active).process context.argument0 = .ok c := by
    intro hsyscall hok
    simp only [dispatchActive, hsyscall] at hok
    exact rpcClose_ok hok
  have houtcome := dispatchActive_outcome arch runtime active context
  generalize runtime.dispatchActive arch active context = result at hclose houtcome hunused
  have hother : ∀ {syscall}, Syscall.ofNumber context.syscallNumber = some syscall →
      syscall ≠ .rpcOpen → syscall ≠ .rpcClose →
      Syscall.ofNumber context.syscallNumber ≠ some .rpcOpen ∧
        Syscall.ofNumber context.syscallNumber ≠ some .rpcClose := by
    intro syscall hsyscall hopen hclose
    rw [hsyscall]
    exact ⟨fun h => hopen (Option.some.inj h), fun h => hclose (Option.some.inj h)⟩
  cases houtcome with
  | kept status memory debugLog hsyscall _ _ =>
    refine .kept rfl fun hok => ⟨fun hs => ?_, fun hs => ?_⟩
    · exact (hsyscall _ hs).2 (by decide) hok
    · exact (hsyscall _ hs).2 (by decide) hok
  | exited hs =>
    exact .kept (channelOwner_terminateCurrentThread arch runtime _ _)
      fun _ => hother hs (by decide) (by decide)
  | registered ref endpointName hs _ => exact .kept rfl fun _ => hother hs (by decide) (by decide)
  | yielded ref endpointName nextThread hs _ _ _ =>
    exact .kept (channelOwner_setCurrentThread _) fun _ => hother hs (by decide) (by decide)
  | opened ref endpoint endpointName serverThread channels next memory hs _ _ _ hemplace =>
    obtain ⟨hfree, hitems, _⟩ := KernelObjectPool.emplace_eq_some hemplace
    refine .opened ref hs rfl (by rw [channelOwner, hfree, Option.map_none]) ?_
    ext1 c
    simp only [channelOwner, hitems, Function.update_apply]
    split
    · rfl
    · rfl
  | openFailed status ref endpoint channels next memory hs hstatus hemplace =>
    obtain ⟨_, _, hnext⟩ := KernelObjectPool.emplace_eq_some hemplace
    have hmoved : next ≠ runtime.nextHandleValue := by
      rw [hnext]
      simp
    refine .kept ?_ fun hok => absurd hok hstatus
    ext1 c
    simp only [channelOwner,
      KernelObjectPool.eraseByHandle_emplace (fun _ _ => rfl) hemplace (hunused hmoved)]
  | called ref serverThread memory requestAddress stackPointer hs _ _ =>
    refine .kept ((channelOwner_setCurrentThread _).trans ?_)
      fun _ => hother hs (by decide) (by decide)
    exact channelOwner_beginCall ref active serverThread
  | calledSelf ref memory requestAddress stackPointer hs _ =>
    exact .kept (channelOwner_beginCall ref active active)
      fun _ => hother hs (by decide) (by decide)
  | closed ref hs hfind _ =>
    obtain ⟨c, hresolve⟩ := hclose hs rfl
    obtain ⟨hfound, howner⟩ := channelOwner_of_resolveChannel hresolve
    refine .closed c hs rfl howner ?_
    ext1 other
    simp only [channelOwner, KernelObjectPool.eraseByHandle, hfound, Function.update_apply]
    split
    · rfl
    · rfl
  | completed ref call hs _ _ _ =>
    refine .kept ((channelOwner_setCurrentThread _).trans ?_)
      fun _ => hother hs (by decide) (by decide)
    exact channelOwner_cancelCall ref
  | completedSelf ref call hs _ _ _ =>
    exact .kept (channelOwner_cancelCall ref) fun _ => hother hs (by decide) (by decide)

/-- The log is right: its count is that of the counter and, until the counter comes round,
handles are unique and the open ones are those that channels carry for their openers. -/
structure Tracked (s : UserRuntime × HandleLog) : Prop where
  counter : s.1.nextHandleValue = handleStamp s.2.allocated
  valid : s.2.allocated ≤ 2 ^ 64 → Naming.Valid handleStamp ⟨s.1.handleAt, s.2.allocated⟩
  logged : s.2.allocated ≤ 2 ^ 64 → ∀ entry,
    entry ∈ s.2.opened ↔ ∃ c, s.1.channelOwner c = some entry

/-- Until the counter comes round, no object carries its value. -/
theorem Tracked.unused {s : UserRuntime × HandleLog} (h : Tracked s)
    (hcount : s.2.allocated < 2 ^ 64) (ref : ObjectRef) :
    s.1.handleAt ref ≠ some s.1.nextHandleValue := by
  intro hcarried
  rw [h.counter] at hcarried
  exact Naming.stamp_not_given handleStamp_injOn hcount ((h.valid hcount.le).wasGiven ref _ hcarried)

/-- A creation adds one live object, or none. -/
theorem Allocation.liveObjects {before after : UserRuntime} (h : Allocation before after) :
    after.liveObjects = countGiven before after before.liveObjects := by
  unfold countGiven UserRuntime.liveObjects
  cases h with
  | full hhandles hnext => rw [if_pos hnext, hhandles]
  | took slot hfree hhandles hnext =>
    have hmoved : after.nextHandleValue ≠ before.nextHandleValue := by
      rw [hnext]
      simp
    rw [if_neg hmoved, ← Finset.card_insert_of_notMem (a := slot) (by simp [hfree])]
    congr 1
    ext ref
    simp only [hhandles, Function.update_apply, Finset.mem_filter, Finset.mem_univ, true_and,
      Finset.mem_insert]
    split <;> simp_all

/-- The counter and the names of a runtime that boot code has built. -/
theorem Created.tracked (h : Created runtime) :
    runtime.nextHandleValue = handleStamp runtime.liveObjects ∧
      Naming.Valid handleStamp ⟨runtime.handleAt, runtime.liveObjects⟩ := by
  have hlive : ∀ runtime : UserRuntime, runtime.liveObjects ≤ 2 ^ 64 := by
    intro runtime
    refine (Finset.card_le_univ _).trans ?_
    decide
  have hallocated : ∀ {before after : UserRuntime}, Allocation before after →
      (before.nextHandleValue = handleStamp before.liveObjects ∧
        Naming.Valid handleStamp ⟨before.handleAt, before.liveObjects⟩) →
      after.nextHandleValue = handleStamp after.liveObjects ∧
        Naming.Valid handleStamp ⟨after.handleAt, after.liveObjects⟩ := by
    intro before after hallocation ⟨hcounter, hvalid⟩
    obtain ⟨hstep, hnext⟩ := hallocation.effect.step hcounter
    rw [← hallocation.liveObjects] at hstep hnext
    exact ⟨hnext, hstep.valid handleStamp_injOn hvalid (hlive after)⟩
  induction h with
  | reset memory =>
    refine ⟨rfl, fun ref handle href => ?_, fun ref _ handle href => ?_⟩
    · cases ref <;> cases href
    · cases ref <;> cases href
  | process metadata addressSpaceInfo _ ih => exact hallocated (createProcess_allocation _ _) ih
  | thread initialContext _ _ ih => exact hallocated (createThread_allocation _ _) ih
  | deviceMemory userAddress hostAddress size _ ih =>
    exact hallocated (createDeviceMemoryObject_allocation _ _ _) ih
  | sharedMemory userAddress size _ ih =>
    exact hallocated (createSharedMemoryObject_allocation _ _) ih

theorem Started.tracked (h : Started runtime) : Tracked (runtime, ⟨runtime.liveObjects, []⟩) := by
  obtain ⟨created, active, hcreated, _, rfl⟩ := h
  obtain ⟨hcounter, hvalid⟩ := hcreated.tracked
  have hhandles : (created.setCurrentThread (some active)).handleAt = created.handleAt :=
    handleAt_setCurrentThread _
  have hlive : (created.setCurrentThread (some active)).liveObjects = created.liveObjects := by
    simp only [liveObjects, hhandles]
  refine ⟨?_, fun _ => ?_, fun _ entry => ?_⟩
  · rw [hlive, setCurrentThread_nextHandleValue]
    exact hcounter
  · rw [hlive, hhandles]
    exact hvalid
  · simp [channelOwner, hcreated.unstarted.noChannel]

/-- The effect of a syscall on the owners of channels, seen from before the trap. -/
theorem dispatchSyscall_owners (arch : Arch) {active : ThreadRef} {context : UserSyscallContext}
    (hcurrent : runtime.currentThread = some active)
    (hunused : (runtime.dispatchSyscall arch context).2.nextHandleValue ≠
        runtime.nextHandleValue →
      ∀ c, runtime.channels.handleAt c ≠ some runtime.nextHandleValue) :
    OwnerEffect runtime active context (runtime.dispatchSyscall arch context) := by
  have hprocess : ((runtime.enterSyscall active context).thread active).process =
      (runtime.thread active).process :=
    thread_enterSyscall_keeps Thread.process (fun _ _ => rfl) active
  simp only [dispatchSyscall, hcurrent] at hunused ⊢
  have hentered : ((runtime.enterSyscall active context).dispatchActive arch active
      context).2.nextHandleValue ≠ (runtime.enterSyscall active context).nextHandleValue →
      ∀ c, (runtime.enterSyscall active context).channels.handleAt c ≠
        some (runtime.enterSyscall active context).nextHandleValue := hunused
  cases dispatchActive_owners hentered with
  | kept howners hstatus => exact .kept howners hstatus
  | opened c hs hok hfree howners =>
    rw [hprocess] at howners
    exact .opened c hs hok hfree howners
  | closed c hs hok howner howners =>
    rw [hprocess] at howner
    exact .closed c hs hok howner howners

/-- Actions other than syscalls leave the channels alone. -/
theorem act_owners {action : Action} (h : ∀ context, action ≠ .syscall context) :
    (runtime.act arch action).channelOwner = runtime.channelOwner := by
  have hmodified : ∀ f, (runtime.modifyCurrentThread f).channelOwner = runtime.channelOwner := by
    intro f
    unfold modifyCurrentThread
    split
    · rfl
    · rfl
  cases action with
  | syscall context => exact absurd rfl (h context)
  | terminate exitStatus peerFailureStatus =>
    exact channelOwner_terminateCurrentThread arch runtime _ _
  | userStores memory => rfl
  | saveRegisters registers simdQwords => exact hmodified _
  | prepareResume status => exact hmodified _

/-- A step that gives a handle has not yet come round before. -/
theorem Tracked.unused_of_moved {s : UserRuntime × HandleLog} (h : Tracked s)
    {after : UserRuntime} (hbound : countGiven s.1 after s.2.allocated ≤ 2 ^ 64)
    (hmoved : after.nextHandleValue ≠ s.1.nextHandleValue) (c : ChannelRef) :
    s.1.channels.handleAt c ≠ some s.1.nextHandleValue := by
  rw [countGiven, if_neg hmoved] at hbound
  exact h.unused hbound (.channel c)

/-- A channel's owner carries the channel's handle. -/
theorem handleAt_of_channelOwner {c : ChannelRef} {entry : ProcessRef × Handle}
    (h : runtime.channelOwner c = some entry) : runtime.handleAt (.channel c) = some entry.2 := by
  obtain ⟨channel, hitem, rfl⟩ := Option.map_eq_some_iff.mp h
  simp only [handleAt, KernelObjectPool.handleAt, hitem, Option.map_some]
  rfl

/-- A syscall keeps the log of open handles right. -/
theorem Tracked.syscall {s : UserRuntime × HandleLog} (h : Tracked s) (arch : Arch)
    {active : ThreadRef} (context : UserSyscallContext)
    (hcurrent : s.1.currentThread = some active)
    (hbound : countGiven s.1 (s.1.dispatchSyscall arch context).2 s.2.allocated ≤ 2 ^ 64)
    (entry : ProcessRef × Handle) :
    (entry ∈ if (s.1.dispatchSyscall arch context).1 = Status.ok then
        s.1.recordOpened (s.1.thread active).process context s.2.opened else s.2.opened) ↔
      ∃ c, (s.1.dispatchSyscall arch context).2.channelOwner c = some entry := by
  have hbefore : s.2.allocated ≤ 2 ^ 64 := by
    unfold countGiven at hbound
    split at hbound
    · exact hbound
    · omega
  have hlogged := h.logged hbefore
  cases dispatchSyscall_owners arch hcurrent (h.unused_of_moved hbound) with
  | kept howners hstatus =>
    rw [howners, ← hlogged]
    split
    · rename_i hok
      obtain ⟨hopen, hclose⟩ := hstatus hok
      unfold recordOpened
      split <;> simp_all
    · rfl
  | opened c hs hok hfree howners =>
    rw [if_pos hok, howners]
    simp only [recordOpened, hs, List.mem_cons, hlogged, Function.update_apply]
    constructor
    · rintro (rfl | ⟨c', hc'⟩)
      · exact ⟨c, if_pos rfl⟩
      · have hother : c' ≠ c := by
          rintro rfl
          rw [hfree] at hc'
          cases hc'
        exact ⟨c', (if_neg hother).trans hc'⟩
    · rintro ⟨c', hc'⟩
      split at hc'
      · exact .inl (Option.some.inj hc').symm
      · exact .inr ⟨c', hc'⟩
  | closed c hs hok howner howners =>
    rw [if_pos hok, howners]
    simp only [recordOpened, hs, List.mem_filter, hlogged, Function.update_apply,
      decide_eq_true_eq]
    constructor
    · rintro ⟨⟨c', hc'⟩, hne⟩
      have hother : c' ≠ c := by
        rintro rfl
        exact hne (Option.some.inj (hc'.symm.trans howner))
      exact ⟨c', (if_neg hother).trans hc'⟩
    · rintro ⟨c', hc'⟩
      split at hc'
      · cases hc'
      · rename_i hother
        refine ⟨⟨c', hc'⟩, fun heq => hother ?_⟩
        -- Two channels with the closed handle would share a name.
        have hcarried := handleAt_of_channelOwner hc'
        rw [heq] at hcarried
        exact ObjectRef.channel.inj ((h.valid hbefore).unique _ _ _ hcarried
          (handleAt_of_channelOwner howner))

/-- Every action keeps the log right. -/
theorem Tracked.act {s : UserRuntime × HandleLog} (h : Tracked s) (arch : Arch)
    (action : Action) : Tracked (s.1.act arch action, recordHandles arch s.1 action s.2) := by
  obtain ⟨hstep, hcounter⟩ := (act_handles arch s.1 action).step h.counter
  refine ⟨hcounter, fun hbound => ?_, fun hbound entry => ?_⟩
  · exact hstep.valid handleStamp_injOn (h.valid (hstep.count_le.trans hbound)) hbound
  · have hlogged := h.logged (hstep.count_le.trans hbound) entry
    have hother : (∀ context, action ≠ .syscall context) →
        (entry ∈ s.2.opened ↔ ∃ c, (s.1.act arch action).channelOwner c = some entry) := by
      intro hnot
      rw [act_owners hnot]
      exact hlogged
    cases action with
    | syscall context =>
      cases hcurrent : s.1.currentThread with
      | none =>
        simp only [recordHandles, hcurrent, UserRuntime.act, dispatchSyscall]
        exact hlogged
      | some active =>
        simp only [recordHandles, hcurrent]
        exact h.syscall arch context hcurrent hbound entry
    | terminate _ _ => exact hother fun _ => Action.noConfusion
    | userStores _ => exact hother fun _ => Action.noConfusion
    | saveRegisters _ _ => exact hother fun _ => Action.noConfusion
    | prepareResume _ => exact hother fun _ => Action.noConfusion

/-- The log is right along every run. -/
theorem reachable_tracked {guard : UserRuntime × HandleLog → Action → Prop}
    {s : UserRuntime × HandleLog} (h : (handleSystem arch).Reachable guard s) : Tracked s := by
  refine h.invariant (P := Tracked) ?_ fun s action _ hs _ _ => hs.act arch action
  rintro ⟨runtime, log⟩ ⟨hstarted, hlog⟩
  obtain rfl : log = ⟨runtime.liveObjects, []⟩ := hlog
  exact Started.tracked hstarted

/-- The statuses with which handle resolution fails. -/
def ResolutionStatus (status : Int32) : Prop :=
  status = Status.wrongType ∨ status = Status.badHandle

instance (status : Int32) : Decidable (ResolutionStatus status) :=
  inferInstanceAs (Decidable (_ ∨ _))

/-- `prepare_server_thread` reports no fault of the handle. -/
theorem prepareServerThread_status (arch : Arch) (runtime : UserRuntime) (endpoint : RpcEndpoint)
    (serverThread : ThreadRef) (clientProcess : ProcessRef)
    (clientRequestAddress requestSize : UInt64) :
    ¬ ResolutionStatus (runtime.prepareServerThread arch endpoint serverThread clientProcess
      clientRequestAddress requestSize).1 := by
  have hstate : ¬ ResolutionStatus Status.badState := by decide
  have hargument : ¬ ResolutionStatus Status.invalidArgument := by decide
  have hfault : ¬ ResolutionStatus Status.fault := by decide
  have hok : ¬ ResolutionStatus Status.ok := by decide
  unfold prepareServerThread
  split
  · exact hstate
  split
  · exact hargument
  split
  · exact hfault
  dsimp only
  split
  · exact hstate
  split
  · rcases deliverRequest_status arch _ _ _ _ _ _ _ with hstatus | hstatus
    · rw [hstatus]
      exact hok
    · rw [hstatus]
      exact hfault
  · exact hok

/-- An `RPC_CLOSE`, or an `RPC_CALL` with nonzero arguments and an admissible request size, on a
nonzero handle. -/
def UsesHandle (context : UserSyscallContext) : Prop :=
  context.argument0 ≠ 0 ∧
    (Syscall.ofNumber context.syscallNumber = some .rpcClose ∨
      Syscall.ofNumber context.syscallNumber = some .rpcCall ∧ context.argument1 ≠ 0 ∧
        context.argument2 ≠ 0 ∧ context.argument2 ≤ rpcMaxRequestSize)

/-- The handle names a live process, thread, device-memory or shared-memory object. -/
def NamesOther (runtime : UserRuntime) (handle : Handle) : Prop :=
  ∃ ref : ObjectRef, ref.pool ≠ .channels ∧ runtime.handleAt ref = some handle

/-- An `RPC_CLOSE` that gets past resolution reports no fault of the handle. -/
theorem rpcClose_status (runtime : UserRuntime) (active : ThreadRef)
    {context : UserSyscallContext} (hargument : context.argument0 ≠ 0) :
    match runtime.resolveChannel (runtime.thread active).process context.argument0 with
    | .error status => (runtime.rpcClose active context).1 = status
    | .ok _ => ¬ ResolutionStatus (runtime.rpcClose active context).1 := by
  have hstate : ¬ ResolutionStatus Status.badState := by decide
  have hok : ¬ ResolutionStatus Status.ok := by decide
  unfold rpcClose
  rw [if_neg hargument]
  cases runtime.resolveChannel (runtime.thread active).process context.argument0 with
  | error status => rfl
  | ok c =>
    dsimp only
    split
    · exact hstate
    · dsimp only
      split
      · exact hok
      · exact hstate

/-- The checks of a call after resolution report no fault of the handle. -/
theorem resolveCall_status (runtime : UserRuntime) (active : ThreadRef)
    {context : UserSyscallContext}
    (harguments : ¬ (context.argument0 = 0 ∨ context.argument1 = 0 ∨ context.argument2 = 0))
    (hsize : ¬ context.argument2 > rpcMaxRequestSize) :
    match runtime.resolveChannel (runtime.thread active).process context.argument0 with
    | .error status => runtime.resolveCall active context = .error status
    | .ok _ => ∀ status, runtime.resolveCall active context = .error status →
      ¬ ResolutionStatus status := by
  unfold resolveCall
  rw [if_neg harguments, if_neg hsize]
  cases runtime.resolveChannel (runtime.thread active).process context.argument0 with
  | error status => rfl
  | ok c =>
    dsimp only
    intro status herror
    split at herror
    · obtain rfl := Except.error.inj herror
      decide
    split at herror
    · obtain rfl := Except.error.inj herror
      decide
    split at herror
    · obtain rfl := Except.error.inj herror
      decide
    · cases herror

/-- An `RPC_CALL` that gets past resolution reports no fault of the handle. -/
theorem rpcCall_status (arch : Arch) (runtime : UserRuntime) (active : ThreadRef)
    {context : UserSyscallContext}
    (harguments : ¬ (context.argument0 = 0 ∨ context.argument1 = 0 ∨ context.argument2 = 0))
    (hsize : ¬ context.argument2 > rpcMaxRequestSize) :
    match runtime.resolveChannel (runtime.thread active).process context.argument0 with
    | .error status => (runtime.rpcCall arch active context).1 = status
    | .ok _ => ¬ ResolutionStatus (runtime.rpcCall arch active context).1 := by
  have hok : ¬ ResolutionStatus Status.ok := by decide
  have hresolve := runtime.resolveCall_status active harguments hsize
  unfold rpcCall
  cases hchannel : runtime.resolveChannel (runtime.thread active).process context.argument0 with
  | error status =>
    rw [hchannel] at hresolve
    dsimp only at hresolve ⊢
    rw [hresolve]
  | ok c =>
    rw [hchannel] at hresolve
    dsimp only at hresolve ⊢
    cases hcall : runtime.resolveCall active context with
    | error status => exact hresolve status hcall
    | ok target =>
      dsimp only
      split
      · exact prepareServerThread_status arch runtime _ _ _ _ _
      · split
        · exact hok
        · exact hok

/-- A syscall on a handle returns what resolution reports, or gets past resolution and reports
something else. -/
theorem usesHandle_status (arch : Arch) {active : ThreadRef} {context : UserSyscallContext}
    (hcurrent : runtime.currentThread = some active) (huses : UsesHandle context) :
    match runtime.resolveChannel (runtime.thread active).process context.argument0 with
    | .error status => (runtime.dispatchSyscall arch context).1 = status
    | .ok _ => ¬ ResolutionStatus (runtime.dispatchSyscall arch context).1 := by
  have hprocess : ((runtime.enterSyscall active context).thread active).process =
      (runtime.thread active).process :=
    thread_enterSyscall_keeps Thread.process (fun _ _ => rfl) active
  obtain ⟨hhandle, hclose | ⟨hcall, hrequest, hsize, hbound⟩⟩ := huses
  · have hstatus := (runtime.enterSyscall active context).rpcClose_status active hhandle
    rw [hprocess, resolveChannel_enterSyscall] at hstatus
    simpa only [dispatchSyscall, hcurrent, dispatchActive, hclose] using hstatus
  · have harguments : ¬ (context.argument0 = 0 ∨ context.argument1 = 0 ∨
        context.argument2 = 0) := by simp [hhandle, hrequest, hsize]
    have hadmissible : ¬ context.argument2 > rpcMaxRequestSize := UInt64.not_lt.mpr hbound
    have hstatus := (runtime.enterSyscall active context).rpcCall_status arch active harguments
      hadmissible
    rw [hprocess, resolveChannel_enterSyscall] at hstatus
    simpa only [dispatchSyscall, hcurrent, dispatchActive, hcall] using hstatus

/-- The checks find an object in the other pools exactly when the handle names one. -/
theorem hasObjectWithHandle_iff {handle : Handle} :
    runtime.hasObjectWithHandle handle = true ↔ runtime.NamesOther handle := by
  have hpool : ∀ {α : Type} {capacity : Nat} [KernelObject α]
      (pool : KernelObjectPool α capacity),
      (pool.findByHandle handle).isSome = true ↔ ∃ index, pool.handleAt index = some handle := by
    intro α capacity _ pool
    rw [← not_iff_not, Bool.not_eq_true, Option.isSome_eq_false_iff, Option.isNone_iff_eq_none,
      KernelObjectPool.findByHandle_eq_none_iff, not_exists]
  simp only [hasObjectWithHandle, Bool.or_eq_true, hpool]
  constructor
  · rintro (((⟨index, h⟩ | ⟨index, h⟩) | ⟨index, h⟩) | ⟨index, h⟩)
    · exact ⟨.process index, by simp [ObjectRef.pool], h⟩
    · exact ⟨.thread index, by simp [ObjectRef.pool], h⟩
    · exact ⟨.deviceMemoryObject index, by simp [ObjectRef.pool], h⟩
    · exact ⟨.sharedMemoryObject index, by simp [ObjectRef.pool], h⟩
  · rintro ⟨ref, hpool, h⟩
    cases ref with
    | process index => exact .inl (.inl (.inl ⟨index, h⟩))
    | thread index => exact .inl (.inl (.inr ⟨index, h⟩))
    | deviceMemoryObject index => exact .inl (.inr ⟨index, h⟩)
    | channel index => exact absurd rfl hpool
    | sharedMemoryObject index => exact .inr ⟨index, h⟩

/-- The handle checks of a process's syscalls, against the log. -/
structure OpenersOnly (arch : Arch) (s : UserRuntime × HandleLog) (active : ThreadRef) : Prop where
  /-- What gets past resolution is open and was returned to a thread of the process. -/
  admitted : ∀ context, UsesHandle context →
    ∀ c, s.1.resolveChannel (s.1.thread active).process context.argument0 = .ok c →
      ((s.1.thread active).process, context.argument0) ∈ s.2.opened
  wrongType : ∀ context, UsesHandle context →
    ((s.1.dispatchSyscall arch context).1 = Status.wrongType ↔ s.1.NamesOther context.argument0)
  badHandle : ∀ context, UsesHandle context →
    ((s.1.dispatchSyscall arch context).1 = Status.badHandle ↔
      ¬ s.1.NamesOther context.argument0 ∧
        ((s.1.thread active).process, context.argument0) ∉ s.2.opened)
  /-- No syscall removes a channel that another process has opened. -/
  othersKept : ∀ context c owner, s.1.channelOwner c = some owner →
    owner.1 ≠ (s.1.thread active).process →
      (s.1.dispatchSyscall arch context).2.channelOwner c = some owner

/-- How resolution ends, in terms of the log. -/
theorem Tracked.resolveChannel {s : UserRuntime × HandleLog} (h : Tracked s)
    (hcount : s.2.allocated ≤ 2 ^ 64) (ownerProcess : ProcessRef) (handle : Handle) :
    (∃ c, s.1.resolveChannel ownerProcess handle = .ok c ∧ ¬ s.1.NamesOther handle ∧
      (ownerProcess, handle) ∈ s.2.opened) ∨
    (s.1.resolveChannel ownerProcess handle = .error Status.wrongType ∧
      s.1.NamesOther handle) ∨
    s.1.resolveChannel ownerProcess handle = .error Status.badHandle ∧
      ¬ s.1.NamesOther handle ∧ (ownerProcess, handle) ∉ s.2.opened := by
  have hunique : ∀ ref ref' handle, s.1.handleAt ref = some handle →
      s.1.handleAt ref' = some handle → ref = ref' := (h.valid hcount).unique
  have hlogged := h.logged hcount
  unfold UserRuntime.resolveChannel
  cases hfind : s.1.channels.findByHandle handle with
  | none =>
    have hnone := KernelObjectPool.findByHandle_eq_none_iff.mp hfind
    have hclosed : (ownerProcess, handle) ∉ s.2.opened := by
      intro hopen
      obtain ⟨c, howner⟩ := (hlogged _).mp hopen
      exact hnone c (handleAt_of_channelOwner howner)
    by_cases hother : s.1.hasObjectWithHandle handle = true
    · exact .inr (.inl ⟨by simp only [if_pos hother], hasObjectWithHandle_iff.mp hother⟩)
    · refine .inr (.inr ⟨by simp only [if_neg hother], ?_, hclosed⟩)
      exact fun hnames => hother (hasObjectWithHandle_iff.mpr hnames)
  | some c =>
    have hcarried : s.1.handleAt (.channel c) = some handle :=
      KernelObjectPool.handleAt_of_findByHandle hfind
    have hnotOther : ¬ s.1.NamesOther handle := by
      rintro ⟨ref, hpool, href⟩
      rw [hunique ref _ handle href hcarried] at hpool
      exact hpool rfl
    obtain ⟨channel, hitem, hhandle⟩ := KernelObjectPool.findByHandle_eq_some hfind
    have hchannel : s.1.channel c = channel := KernelObjectPool.get_of_items hitem
    have howner : s.1.channelOwner c = some (channel.clientProcess, handle) := by
      rw [channelOwner, hitem, Option.map_some, ← hhandle]
      rfl
    dsimp only
    rw [hchannel]
    by_cases hprocess : channel.clientProcess = ownerProcess
    · refine .inl ⟨c, if_pos hprocess, hnotOther, (hlogged _).mpr ⟨c, ?_⟩⟩
      rw [howner, hprocess]
    · refine .inr (.inr ⟨if_neg hprocess, hnotOther, fun hopen => hprocess ?_⟩)
      -- The process's own channel with this handle would be the one found.
      obtain ⟨own, hown⟩ := (hlogged _).mp hopen
      obtain rfl := ObjectRef.channel.inj
        (hunique _ _ handle (handleAt_of_channelOwner hown) hcarried)
      exact congrArg Prod.fst (Option.some.inj (howner.symm.trans hown))

/-- Until the counter comes round, every process's handle checks admit the handles it has opened
and not closed, and these alone. -/
theorem reachable_openersOnly (arch : Arch) {s : UserRuntime × HandleLog}
    (h : (handleSystem arch).Reachable TransitionSystem.anyStep s)
    (hcount : s.2.allocated < 2 ^ 64) {active : ThreadRef}
    (hcurrent : s.1.currentThread = some active) : OpenersOnly arch s active := by
  have htracked := reachable_tracked h
  have hresolve := htracked.resolveChannel hcount.le (s.1.thread active).process
  refine ⟨fun context _ c hc => ?_, fun context huses => ?_, fun context huses => ?_,
    fun context c owner howner hother => ?_⟩
  · rcases hresolve context.argument0 with ⟨_, _, _, hopen⟩ | ⟨herror, _⟩ | ⟨herror, _⟩
    · exact hopen
    · rw [herror] at hc
      cases hc
    · rw [herror] at hc
      cases hc
  · have hstatus := usesHandle_status arch hcurrent huses
    rcases hresolve context.argument0 with ⟨c, hok, hnot, _⟩ | ⟨herror, hnames⟩ | ⟨herror, hnot, _⟩
    · rw [hok] at hstatus
      exact iff_of_false (fun hwrong => hstatus (.inl hwrong)) hnot
    · rw [herror] at hstatus
      exact iff_of_true hstatus hnames
    · rw [herror] at hstatus
      refine iff_of_false (fun hwrong => ?_) hnot
      exact absurd (hstatus.symm.trans hwrong) (by decide)
  · have hstatus := usesHandle_status arch hcurrent huses
    rcases hresolve context.argument0 with
      ⟨c, hok, _, hopen⟩ | ⟨herror, hnames⟩ | ⟨herror, hnot, hclosed⟩
    · rw [hok] at hstatus
      exact iff_of_false (fun hbad => hstatus (.inr hbad)) fun hnone => hnone.2 hopen
    · rw [herror] at hstatus
      refine iff_of_false (fun hbad => ?_) fun hnone => hnone.1 hnames
      exact absurd (hstatus.symm.trans hbad) (by decide)
    · rw [herror] at hstatus
      exact iff_of_true hstatus ⟨hnot, hclosed⟩
  · cases dispatchSyscall_owners arch hcurrent fun _ c => htracked.unused hcount (.channel c) with
    | kept howners _ => rw [howners, howner]
    | opened free _ _ hfree howners =>
      have hne : c ≠ free := by
        rintro rfl
        rw [hfree] at howner
        cases howner
      rw [howners, Function.update_of_ne hne, howner]
    | closed found _ _ hfound howners =>
      have hne : c ≠ found := by
        rintro rfl
        exact hother (congrArg Prod.fst (Option.some.inj (howner.symm.trans hfound)))
      rw [howners, Function.update_of_ne hne, howner]

/-- The `RPC_CLOSE` of handle 1. -/
def closeFirstHandle : UserSyscallContext := ⟨7, 0x1010, 0x1800, 0x202, 1, 0, 0, 0, 0, 0⟩

/-- An opened channel has the handle of its process once the counter has come round, and the
process closes it although the handle names the process. -/
theorem wrappedHandle_not_openersOnly :
    ∃ s, (handleSystem .x64).Reachable TransitionSystem.anyStep s ∧
      s.1.currentThread = some 0 ∧ ¬ OpenersOnly .x64 s 0 := by
  have hmay : (wrapped 1).mayAct (trap 4 0x1100 0x1300 0 0x1800) = true := by decide +kernel
  have hreach := (wrapped_reachable (show 1 ≤ 3 by decide)).step hmay trivial
  obtain ⟨log, hrecorded⟩ := hreach.record (fun runtime => HandleLog.mk runtime.liveObjects [])
    (recordHandles .x64)
  have hnames : ((wrapped 1).act .x64 (trap 4 0x1100 0x1300 0 0x1800)).NamesOther 1 :=
    ⟨.process 0, by decide, by decide +kernel⟩
  have hclosed : (((wrapped 1).act .x64 (trap 4 0x1100 0x1300 0 0x1800)).dispatchSyscall .x64
      closeFirstHandle).1 = Status.ok := by
    decide +kernel
  have hcurrent : ((wrapped 1).act .x64 (trap 4 0x1100 0x1300 0 0x1800)).currentThread =
      some 0 := by
    decide +kernel
  refine ⟨_, hrecorded, hcurrent, fun hopeners => ?_⟩
  have hwrong := (hopeners.wrongType closeFirstHandle ⟨by decide, .inl rfl⟩).mpr hnames
  exact absurd (hclosed.symm.trans hwrong) (by decide)

/-- The first open of a booted thread gives it handle 3, which its process may use. -/
theorem openedHandle_openersOnly :
    ∃ s, (handleSystem .x64).Reachable TransitionSystem.anyStep s ∧
      s.2.allocated < 2 ^ 64 ∧ (0, 3) ∈ s.2.opened ∧ OpenersOnly .x64 s 0 := by
  obtain ⟨s, hreach, hcurrent, hcount, hopened⟩ := boot_reachable_history .x64
    (fun runtime => HandleLog.mk runtime.liveObjects []) (recordHandles .x64)
    TransitionSystem.anyStep 1
    [trap 3 0x1100 0x1200 0x1210 0x1800, trap 4 0x1100 0x1300 0 0x1800]
    (fun s => s.1.currentThread = some 0 ∧ s.2.allocated < 2 ^ 64 ∧ (0, 3) ∈ s.2.opened)
    rfl (by decide +kernel)
  exact ⟨s, hreach, hcount, hopened, reachable_openersOnly .x64 hreach hcount hcurrent⟩

end UserRuntime

end Ringos.Kernel

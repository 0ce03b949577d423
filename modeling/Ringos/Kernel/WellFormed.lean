import Ringos.Kernel.Outcome

/-!
# References that stay valid

Threads are never destroyed, so every thread the runtime refers to stays live:
the current thread, endpoint owners, and the clients and servers of pending
calls. No live thread is ever in state `empty`. This holds along every run and
is shown one primitive write at a time.
-/

namespace Ringos.Kernel

open Ringos.Core

namespace UserRuntime

variable {runtime : UserRuntime}

/-- The call pending on a channel slot; an empty slot has none. -/
def pending (runtime : UserRuntime) (ref : ChannelRef) : Option PendingCall :=
  (runtime.channel ref).pendingCall

theorem pending_eq_some {ref : ChannelRef} {call : PendingCall} :
    runtime.pending ref = some call ↔
      ∃ channel, runtime.channels.items ref = some channel ∧ channel.pendingCall = some call := by
  unfold pending channel KernelObjectPool.get
  cases runtime.channels.items ref with
  | none => simp [default, instInhabitedRpcChannel.default]
  | some channel => simp

/-- The scan for a server's pending channel finds one of its pending calls. -/
theorem isPendingOn_iff {serverThread : ThreadRef} {ref : ChannelRef} :
    runtime.isPendingOn serverThread ref = true ↔
      ∃ call, runtime.pending ref = some call ∧ call.serverThread = serverThread := by
  simp only [pending_eq_some, isPendingOn]
  cases runtime.channels.items ref with
  | none => simp
  | some channel => cases hc : channel.pendingCall <;> simp [hc]

theorem findPendingChannel_some {serverThread : ThreadRef} {ref : ChannelRef}
    (h : runtime.findPendingChannelByServerThread serverThread = some ref) :
    ∃ call, runtime.pending ref = some call ∧ call.serverThread = serverThread :=
  isPendingOn_iff.mp (firstIndex_some h)

theorem findPendingChannel_none {serverThread : ThreadRef}
    (h : runtime.findPendingChannelByServerThread serverThread = none) {ref : ChannelRef}
    {call : PendingCall} (hp : runtime.pending ref = some call) :
    call.serverThread ≠ serverThread := by
  intro hs
  have := firstIndex_eq_none.mp h ref
  rw [isPendingOn_iff.mpr ⟨call, hp, hs⟩] at this
  cases this

/-- A pending call follows a write to its channel's slot. -/
theorem pending_modifyChannel {ref : ChannelRef} {f : RpcChannel → RpcChannel}
    {call : Option PendingCall} (hf : ∀ channel, (f channel).pendingCall = call)
    (h : (runtime.channels.items ref).isSome ∨ call = none) :
    (runtime.modifyChannel ref f).pending = Function.update runtime.pending ref call := by
  funext other
  unfold pending channel modifyChannel
  by_cases ho : other = ref
  · subst ho
    rw [Function.update_self]
    cases hi : runtime.channels.items other with
    | none =>
      simp only [hi, Option.isSome_none, Bool.false_eq_true, false_or] at h
      subst h
      simp only [KernelObjectPool.get, KernelObjectPool.modify_items_self, hi, Option.map_none]
      rfl
    | some channel =>
      rw [KernelObjectPool.get_modify_self (by simp [hi]), hf]
  · rw [Function.update_of_ne ho, KernelObjectPool.get_modify_of_ne _ ho]

theorem pending_beginCall {ref : ChannelRef} {clientThread serverThread : ThreadRef}
    (h : (runtime.channels.items ref).isSome) :
    (runtime.beginCall ref clientThread serverThread).pending =
      Function.update runtime.pending ref
        (some (PendingCall.save clientThread serverThread (runtime.thread serverThread))) :=
  pending_modifyChannel (fun _ => rfl) (.inl h)

theorem pending_cancelCall {ref : ChannelRef} :
    (runtime.cancelCall ref).pending = Function.update runtime.pending ref none :=
  pending_modifyChannel (fun _ => rfl) (.inr rfl)

theorem pending_finishCall {ref : ChannelRef} {call : PendingCall} :
    (runtime.finishCall ref call).pending = Function.update runtime.pending ref none :=
  pending_cancelCall

@[simp] theorem pending_setCurrentThread (next : Option ThreadRef) :
    (runtime.setCurrentThread next).pending = runtime.pending := by
  funext c
  simp only [pending, channel, setCurrentThread_channels]

/-- A new channel has no pending call. -/
theorem pending_emplace {channels : KernelObjectPool RpcChannel maxRpcChannels}
    {next nextHandle : Handle} {memory : ByteMemory} {clientProcess : ProcessRef}
    {endpoint : EndpointRef} {ref : ChannelRef}
    (h : runtime.channels.emplace next (RpcChannel.create clientProcess endpoint) =
      some (ref, channels, nextHandle)) :
    UserRuntime.pending { runtime with
      channels := channels, nextHandleValue := nextHandle, memory := memory } =
        runtime.pending := by
  obtain ⟨hfree, hitems, -⟩ := KernelObjectPool.emplace_eq_some h
  funext other
  unfold pending channel KernelObjectPool.get
  simp only [hitems]
  by_cases ho : other = ref
  · subst ho
    simp only [Function.update_self, hfree]
    rfl
  · rw [Function.update_of_ne ho]

/-- Erasing a channel drops the call pending on it, if any. -/
theorem pending_eraseByHandle (runtime : UserRuntime) {handleValue : Handle} {ref : ChannelRef}
    (h : runtime.channels.findByHandle handleValue = some ref) :
    UserRuntime.pending { runtime with
      channels := (runtime.channels.eraseByHandle handleValue).2 } =
        Function.update runtime.pending ref none := by
  funext other
  unfold pending channel KernelObjectPool.get KernelObjectPool.eraseByHandle
  simp only [h]
  by_cases ho : other = ref
  · subst ho
    simp only [Function.update_self]
    rfl
  · rw [Function.update_of_ne ho, Function.update_of_ne ho]

/-- What the runtime refers to is live. -/
structure WellFormed (runtime : UserRuntime) : Prop where
  currentLive : ∀ t, runtime.currentThread = some t → runtime.LiveThread t
  ownerLive : ∀ e t, (runtime.endpoints e).ownerThread = some t → runtime.LiveThread t
  clientLive : ∀ c call, runtime.pending c = some call → runtime.LiveThread call.clientThread
  serverLive : ∀ c call, runtime.pending c = some call → runtime.LiveThread call.serverThread
  savedState : ∀ c call, runtime.pending c = some call → call.savedServerState ≠ .empty
  threadState : ∀ t, runtime.LiveThread t → (runtime.thread t).state ≠ .empty

namespace WellFormed

/-- Memory and the debug log hold no reference. -/
theorem withMemory (h : WellFormed runtime) (memory : ByteMemory)
    (debugLog : List (List UInt8)) :
    WellFormed { runtime with memory := memory, debugLog := debugLog } :=
  ⟨h.currentLive, h.ownerLive, h.clientLive, h.serverLive, h.savedState, h.threadState⟩

/-- A write to a thread keeps references valid when it keeps the state non-empty. -/
theorem modifyThread (h : WellFormed runtime) (ref : ThreadRef) {f : Thread → Thread}
    (hf : ∀ thread, thread.state ≠ .empty → (f thread).state ≠ .empty) :
    WellFormed (runtime.modifyThread ref f) where
  currentLive t ht := liveThread_modifyThread.mpr (h.currentLive t ht)
  ownerLive e t ht := liveThread_modifyThread.mpr (h.ownerLive e t ht)
  clientLive c call hc := liveThread_modifyThread.mpr (h.clientLive c call hc)
  serverLive c call hc := liveThread_modifyThread.mpr (h.serverLive c call hc)
  savedState := h.savedState
  threadState t ht := by
    have hlive := liveThread_modifyThread.mp ht
    by_cases he : t = ref
    · subst he
      rw [thread_modifyThread_self hlive]
      exact hf _ (h.threadState t hlive)
    · rw [thread_modifyThread_of_ne he]
      exact h.threadState t hlive

/-- An endpoint may be given to a live thread or keep its owner. -/
theorem modifyEndpoint (h : WellFormed runtime) (ref : EndpointRef)
    {f : RpcEndpoint → RpcEndpoint}
    (hf : ∀ t, (f (runtime.endpoints ref)).ownerThread = some t → runtime.LiveThread t) :
    WellFormed (runtime.modifyEndpoint ref f) where
  currentLive := h.currentLive
  ownerLive e t ht := by
    by_cases he : e = ref
    · subst he
      exact hf t (by simpa [UserRuntime.modifyEndpoint] using ht)
    · exact h.ownerLive e t (by simpa [UserRuntime.modifyEndpoint, he] using ht)
  clientLive := h.clientLive
  serverLive := h.serverLive
  savedState := h.savedState
  threadState := h.threadState

/-- Channels may lose pending calls and gain those of live threads. -/
theorem withChannels (h : WellFormed runtime)
    (channels : KernelObjectPool RpcChannel maxRpcChannels) (next : Handle) (memory : ByteMemory)
    (hp : ∀ c call, UserRuntime.pending { runtime with
        channels := channels, nextHandleValue := next, memory := memory } c = some call →
      runtime.LiveThread call.clientThread ∧ runtime.LiveThread call.serverThread ∧
        call.savedServerState ≠ .empty) :
    WellFormed { runtime with
      channels := channels, nextHandleValue := next, memory := memory } where
  currentLive := h.currentLive
  ownerLive := h.ownerLive
  clientLive c call hc := (hp c call hc).1
  serverLive c call hc := (hp c call hc).2.1
  savedState c call hc := (hp c call hc).2.2
  threadState := h.threadState

/-- The calls of a table from which one is dropped are those of live threads. -/
theorem pending_update_none (h : WellFormed runtime) (ref c : ChannelRef) (call : PendingCall)
    (hc : Function.update runtime.pending ref none c = some call) :
    runtime.LiveThread call.clientThread ∧ runtime.LiveThread call.serverThread ∧
      call.savedServerState ≠ .empty := by
  rw [Function.update_apply] at hc
  split at hc
  · cases hc
  · exact ⟨h.clientLive c call hc, h.serverLive c call hc, h.savedState c call hc⟩

theorem beginCall (h : WellFormed runtime) {ref : ChannelRef}
    {clientThread serverThread : ThreadRef} (hclient : runtime.LiveThread clientThread)
    (hserver : runtime.LiveThread serverThread) (href : (runtime.channels.items ref).isSome) :
    WellFormed (runtime.beginCall ref clientThread serverThread) := by
  have hcalls : ∀ c call, (runtime.beginCall ref clientThread serverThread).pending c = some call →
      runtime.LiveThread call.clientThread ∧ runtime.LiveThread call.serverThread ∧
        call.savedServerState ≠ .empty := by
    intro c call hc
    rw [pending_beginCall href, Function.update_apply] at hc
    split at hc
    · obtain rfl := Option.some.inj hc
      exact ⟨hclient, hserver, h.threadState serverThread hserver⟩
    · exact ⟨h.clientLive c call hc, h.serverLive c call hc, h.savedState c call hc⟩
  exact (h.withChannels _ runtime.nextHandleValue runtime.memory hcalls).modifyEndpoint _
    fun t ht => h.ownerLive _ t ht

theorem cancelCall (h : WellFormed runtime) (ref : ChannelRef) :
    WellFormed (runtime.cancelCall ref) := by
  have hendpoint := h.modifyEndpoint (runtime.channel ref).endpoint
    (f := RpcEndpoint.setBusy false) fun t ht => h.ownerLive _ t ht
  refine hendpoint.withChannels _ _ _ fun c call hc => ?_
  refine h.pending_update_none ref c call ?_
  rw [← pending_cancelCall]
  exact hc

theorem finishCall (h : WellFormed runtime) {ref : ChannelRef} {call : PendingCall}
    (hc : runtime.pending ref = some call) : WellFormed (runtime.finishCall ref call) :=
  (h.modifyThread call.serverThread fun _ _ => h.savedState ref call hc).cancelCall ref

theorem setCurrentThread (h : WellFormed runtime) {next : Option ThreadRef}
    (hn : ∀ t, next = some t → runtime.LiveThread t) :
    WellFormed (runtime.setCurrentThread next) where
  currentLive t ht := by
    rw [liveThread_setCurrentThread]
    exact hn t (by simpa using ht)
  ownerLive e t ht := by
    rw [liveThread_setCurrentThread]
    exact h.ownerLive e t (by simpa using ht)
  clientLive c call hc := by
    rw [liveThread_setCurrentThread]
    exact h.clientLive c call (by simpa using hc)
  serverLive c call hc := by
    rw [liveThread_setCurrentThread]
    exact h.serverLive c call (by simpa using hc)
  savedState c call hc := h.savedState c call (by simpa using hc)
  threadState t ht := by
    rw [liveThread_setCurrentThread] at ht
    have hstate := h.threadState t ht
    rw [thread_setCurrentThread]
    simp only [Thread.setState, switchedState, demotedState]
    split_ifs <;> simp_all

/-- Giving the CPU to a live thread. -/
theorem setCurrentThread_some (h : WellFormed runtime) {next : ThreadRef}
    (hn : runtime.LiveThread next) : WellFormed (runtime.setCurrentThread (some next)) :=
  h.setCurrentThread fun _ ht => Option.some.inj ht ▸ hn

theorem registerEndpoint (h : WellFormed runtime) {activeThread : ThreadRef}
    (hactive : runtime.LiveThread activeThread) (ref : EndpointRef) (endpointName : List UInt8)
    (callbackAddress completionAddress : UInt64) :
    WellFormed (runtime.registerEndpoint ref activeThread endpointName callbackAddress
      completionAddress) :=
  h.modifyEndpoint ref fun _ ht => Option.some.inj ht ▸ hactive

theorem serverPrepared (h : WellFormed runtime) (memory : ByteMemory) (endpoint : RpcEndpoint)
    (serverThread : ThreadRef) (requestAddress requestSize stackPointer : UInt64) :
    WellFormed (runtime.serverPrepared memory endpoint serverThread requestAddress requestSize
      stackPointer) :=
  (h.withMemory memory runtime.debugLog).modifyThread serverThread fun _ hs => hs

theorem clearEndpointsOwnedBy (h : WellFormed runtime) (ownerThread : ThreadRef) :
    WellFormed (runtime.clearEndpointsOwnedBy ownerThread) where
  currentLive := h.currentLive
  ownerLive e t ht := by
    simp only [UserRuntime.clearEndpointsOwnedBy] at ht
    split at ht
    · cases ht
    · exact h.ownerLive e t ht
  clientLive := h.clientLive
  serverLive := h.serverLive
  savedState := h.savedState
  threadState := h.threadState

theorem wakeClient (h : WellFormed runtime) (arch : Arch) (client : ThreadRef) (status : Int32) :
    WellFormed (runtime.wakeClient arch client status) :=
  h.modifyThread client fun _ _ => by
    simp [Thread.prepareSyscallResume, Thread.syncResumeToUserContext, Thread.setState]

end WellFormed

/-- The exit of a thread fails the call on its first pending channel, if it has one. -/
theorem failPendingCall_cases (arch : Arch) (runtime : UserRuntime) (serverThread : ThreadRef)
    (failureStatus : Int32) :
    (runtime.findPendingChannelByServerThread serverThread = none ∧
      runtime.failPendingCall arch serverThread failureStatus = runtime) ∨
    ∃ ref call, runtime.findPendingChannelByServerThread serverThread = some ref ∧
      runtime.pending ref = some call ∧ call.serverThread = serverThread ∧
      runtime.failPendingCall arch serverThread failureStatus =
        if call.clientThread = serverThread then runtime.cancelCall ref
        else (runtime.cancelCall ref).wakeClient arch call.clientThread failureStatus := by
  unfold failPendingCall
  cases hfind : runtime.findPendingChannelByServerThread serverThread with
  | none => exact .inl ⟨rfl, rfl⟩
  | some ref =>
    obtain ⟨call, hpending, hserver⟩ := findPendingChannel_some hfind
    refine .inr ⟨ref, call, rfl, hpending, hserver, ?_⟩
    rw [pending] at hpending
    simp only [hpending]
    rfl

/-- Failing a call keeps what dropping it and waking its client keep. -/
theorem failPendingCall_keeps {β : Type} (f : UserRuntime → β) (arch : Arch)
    (runtime : UserRuntime) (serverThread : ThreadRef) (failureStatus : Int32)
    (hcancel : ∀ ref, f (runtime.cancelCall ref) = f runtime)
    (hwake : ∀ runtime client,
      f (wakeClient arch runtime client failureStatus) = f runtime) :
    f (runtime.failPendingCall arch serverThread failureStatus) = f runtime := by
  rcases failPendingCall_cases arch runtime serverThread failureStatus with
    ⟨_, hsame⟩ | ⟨ref, call, _, _, _, hfail⟩
  · rw [hsame]
  · rw [hfail]
    split
    · exact hcancel ref
    · exact (hwake _ _).trans (hcancel ref)

/-- An exit creates no object and writes no memory. -/
theorem terminateCurrentThread_eq (arch : Arch) (runtime : UserRuntime) (exitStatus : UInt64)
    (peerFailureStatus : Int32) :
    (runtime.terminateCurrentThread arch exitStatus peerFailureStatus).2 =
      { runtime with
        threads := (runtime.terminateCurrentThread arch exitStatus peerFailureStatus).2.threads
        endpoints := (runtime.terminateCurrentThread arch exitStatus peerFailureStatus).2.endpoints
        channels := (runtime.terminateCurrentThread arch exitStatus peerFailureStatus).2.channels
        currentThread :=
          (runtime.terminateCurrentThread arch exitStatus peerFailureStatus).2.currentThread } := by
  unfold terminateCurrentThread
  split
  · rfl
  · rename_i active _
    rw [scheduleNextReadyThread_eq]
    rcases failPendingCall_cases arch runtime active peerFailureStatus with
      ⟨_, hsame⟩ | ⟨ref, call, _, _, _, hfail⟩
    · simp only [handleThreadExit, hsame]
      rfl
    · simp only [handleThreadExit, hfail]
      split <;> rfl

namespace WellFormed

theorem handleThreadExit (h : WellFormed runtime) (arch : Arch) (activeThread : ThreadRef)
    (failureStatus : Int32) :
    WellFormed (runtime.handleThreadExit arch activeThread failureStatus) := by
  refine clearEndpointsOwnedBy ?_ activeThread
  rcases failPendingCall_cases arch runtime activeThread failureStatus with
    ⟨_, hsame⟩ | ⟨ref, call, _, _, _, hfail⟩
  · rw [hsame]
    exact h
  · rw [hfail]
    split
    · exact h.cancelCall ref
    · exact (h.cancelCall ref).wakeClient arch _ _

theorem terminateCurrentThread (h : WellFormed runtime) (arch : Arch) (exitStatus : UInt64)
    (peerFailureStatus : Int32) :
    WellFormed (runtime.terminateCurrentThread arch exitStatus peerFailureStatus).2 := by
  unfold UserRuntime.terminateCurrentThread
  split
  · exact h
  · rename_i activeThread _
    have hexited := (h.handleThreadExit arch activeThread peerFailureStatus).modifyThread
      activeThread (f := fun thread => (thread.setState .exited).setExitStatus exitStatus)
      fun _ _ => by simp [Thread.setState, Thread.setExitStatus]
    generalize (runtime.handleThreadExit arch activeThread peerFailureStatus).modifyThread
      activeThread (fun thread => (thread.setState .exited).setExitStatus exitStatus) = exited
      at hexited
    unfold UserRuntime.scheduleNextReadyThread
    split
    · exact ⟨fun t ht => (by cases ht), hexited.ownerLive, hexited.clientLive,
        hexited.serverLive, hexited.savedState, hexited.threadState⟩
    · rename_i nextThread hnext
      have hlive : exited.LiveThread nextThread :=
        liveThread_of_state (by simp [findNextReadyThread_ready hnext])
      exact hexited.setCurrentThread_some hlive

/-- Every outcome of a syscall keeps references valid. -/
theorem outcome {arch : Arch} {activeThread : ThreadRef} {context : UserSyscallContext}
    {result : Int32 × UserRuntime} (h : WellFormed runtime)
    (hactive : runtime.LiveThread activeThread)
    (hresult : SyscallOutcome arch runtime activeThread context result) :
    WellFormed result.2 := by
  cases hresult with
  | kept status memory debugLog _ _ _ => exact h.withMemory memory debugLog
  | exited _ => exact h.terminateCurrentThread arch _ _
  | registered ref endpointName _ _ => exact h.registerEndpoint hactive ref endpointName _ _
  | yielded ref endpointName nextThread _ _ hready _ =>
    have hyielded := (h.registerEndpoint hactive ref endpointName context.argument1
      context.argument2).modifyThread activeThread
        (f := Thread.prepareSyscallResume arch Status.ok) fun _ hs => hs
    have hnext : runtime.LiveThread nextThread := liveThread_of_state (by simp [hready])
    exact hyielded.setCurrentThread_some (liveThread_modifyThread.mpr hnext)
  | opened ref endpoint endpointName serverThread channels next memory _ _ _ _ hemplace =>
    refine h.withChannels channels next memory fun c call hc => ?_
    rw [pending_emplace hemplace] at hc
    exact ⟨h.clientLive c call hc, h.serverLive c call hc, h.savedState c call hc⟩
  | openFailed status ref endpoint channels next memory _ _ hemplace =>
    have hopened := h.withChannels channels next memory fun c call hc => by
      rw [pending_emplace hemplace] at hc
      exact ⟨h.clientLive c call hc, h.serverLive c call hc, h.savedState c call hc⟩
    refine hopened.withChannels _ next memory fun c call hc => ?_
    cases hfind : channels.findByHandle runtime.nextHandleValue with
    | none =>
      simp only [KernelObjectPool.eraseByHandle, hfind] at hc
      exact ⟨hopened.clientLive c call hc, hopened.serverLive c call hc,
        hopened.savedState c call hc⟩
    | some erased =>
      exact hopened.pending_update_none erased c call (by rw [← pending_eraseByHandle _ hfind]; exact hc)
  | called ref serverThread memory requestAddress stackPointer _ hresolve _ =>
    obtain ⟨hfind, _, howner, _, _, _, _⟩ := resolveCall_ok hresolve
    have hserver := h.ownerLive _ _ howner
    obtain ⟨channel, hchannel, _⟩ := KernelObjectPool.findByHandle_eq_some hfind
    have hbegun := (h.serverPrepared memory (runtime.endpointOf ref) serverThread requestAddress
      context.argument2 stackPointer).beginCall (liveThread_modifyThread.mpr hactive)
        (liveThread_modifyThread.mpr hserver) (Option.isSome_of_mem hchannel)
    have hblocked := hbegun.modifyThread activeThread (f := Thread.setState .blocked)
      fun _ _ => by simp [Thread.setState]
    exact hblocked.setCurrentThread_some
      (liveThread_modifyThread.mpr (liveThread_modifyThread.mpr hserver))
  | calledSelf ref memory requestAddress stackPointer _ hresolve =>
    obtain ⟨hfind, _, _, _, _, _, _⟩ := resolveCall_ok hresolve
    obtain ⟨channel, hchannel, _⟩ := KernelObjectPool.findByHandle_eq_some hfind
    exact (h.serverPrepared memory (runtime.endpointOf ref) activeThread requestAddress
      context.argument2 stackPointer).beginCall (liveThread_modifyThread.mpr hactive)
        (liveThread_modifyThread.mpr hactive) (Option.isSome_of_mem hchannel)
  | closed ref _ hfind _ =>
    refine h.withChannels _ runtime.nextHandleValue runtime.memory fun c call hc => ?_
    exact h.pending_update_none ref c call (by rw [← pending_eraseByHandle _ hfind]; exact hc)
  | completed ref call _ _ hcall _ =>
    have hfinished := (h.finishCall hcall).wakeClient arch call.clientThread
      (statusOfArgument context.argument0)
    exact hfinished.setCurrentThread_some
      (liveThread_modifyThread.mpr (liveThread_modifyThread.mpr (h.clientLive ref call hcall)))
  | completedSelf ref call _ _ hcall _ => exact h.finishCall hcall

theorem enterSyscall (h : WellFormed runtime) (activeThread : ThreadRef)
    (context : UserSyscallContext) : WellFormed (runtime.enterSyscall activeThread context) :=
  h.modifyThread activeThread fun _ hs => hs

/-- Every action keeps references valid. -/
theorem act (h : WellFormed runtime) (arch : Arch) (action : Action) :
    WellFormed (runtime.act arch action) := by
  cases action with
  | syscall context =>
    simp only [UserRuntime.act, dispatchSyscall]
    split
    · exact h
    · rename_i activeThread hcurrent
      have hlive := h.currentLive activeThread hcurrent
      exact (h.enterSyscall activeThread context).outcome (liveThread_modifyThread.mpr hlive)
        (dispatchActive_outcome arch _ activeThread context)
  | terminate exitStatus peerFailureStatus => exact h.terminateCurrentThread arch _ _
  | userStores memory => exact h.withMemory memory runtime.debugLog
  | saveRegisters registers simdQwords =>
    simp only [UserRuntime.act, modifyCurrentThread]
    split
    · exact h
    · exact h.modifyThread _ fun _ hs => hs
  | prepareResume status =>
    simp only [UserRuntime.act, modifyCurrentThread]
    split
    · exact h
    · exact h.modifyThread _ fun _ hs => hs

end WellFormed

/-- Before it is started, a runtime has no current thread, endpoint or channel, and its threads
are ready. -/
structure Unstarted (runtime : UserRuntime) : Prop where
  noCurrent : runtime.currentThread = none
  noEndpoint : ∀ e, runtime.endpoints e = RpcEndpoint.cleared
  noChannel : ∀ c, runtime.channels.items c = none
  allReady : ∀ t, runtime.LiveThread t → (runtime.thread t).state = .ready

theorem Created.unstarted (h : Created runtime) : Unstarted runtime := by
  induction h with
  | reset memory => exact ⟨rfl, fun _ => rfl, fun _ => rfl, fun t ht => by cases ht⟩
  | process metadata addressSpaceInfo _ ih =>
    unfold createProcess
    split
    · exact ih
    · exact ⟨ih.noCurrent, ih.noEndpoint, ih.noChannel, ih.allReady⟩
  | thread initialContext _ _ ih =>
    unfold createThread
    split
    · exact ih
    · rename_i index threads next hemplace
      obtain ⟨_, hitems, _⟩ := KernelObjectPool.emplace_eq_some hemplace
      refine ⟨ih.noCurrent, ih.noEndpoint, ih.noChannel, fun t ht => ?_⟩
      simp only [LiveThread, UserRuntime.thread, KernelObjectPool.get, hitems] at ht ⊢
      by_cases he : t = index
      · subst he
        rw [Function.update_self]
        rfl
      · rw [Function.update_of_ne he] at ht ⊢
        exact ih.allReady t ht
  | deviceMemory userAddress hostAddress size _ ih =>
    unfold createDeviceMemoryObject
    split
    · exact ih
    · exact ⟨ih.noCurrent, ih.noEndpoint, ih.noChannel, ih.allReady⟩
  | sharedMemory userAddress size _ ih =>
    unfold createSharedMemoryObject
    split
    · exact ih
    · exact ⟨ih.noCurrent, ih.noEndpoint, ih.noChannel, ih.allReady⟩

namespace Unstarted

theorem pending_none (h : Unstarted runtime) (c : ChannelRef) : runtime.pending c = none := by
  cases hp : runtime.pending c with
  | none => rfl
  | some call =>
    obtain ⟨channel, hchannel, _⟩ := pending_eq_some.mp hp
    rw [h.noChannel c] at hchannel
    cases hchannel

theorem wellFormed (h : Unstarted runtime) : WellFormed runtime where
  currentLive t ht := by rw [h.noCurrent] at ht; cases ht
  ownerLive e t ht := by rw [h.noEndpoint e] at ht; cases ht
  clientLive c call hc := by rw [h.pending_none c] at hc; cases hc
  serverLive c call hc := by rw [h.pending_none c] at hc; cases hc
  savedState c call hc := by rw [h.pending_none c] at hc; cases hc
  threadState t ht := by simp [h.allReady t ht]

end Unstarted

theorem Started.wellFormed (h : Started runtime) : WellFormed runtime := by
  obtain ⟨created, thread, hcreated, hlive, rfl⟩ := h
  exact hcreated.unstarted.wellFormed.setCurrentThread_some hlive

/-- References are valid in every reachable state. -/
theorem reachable_wellFormed {arch : Arch} {guard : UserRuntime → Action → Prop}
    (h : (runtimeSystem arch).Reachable guard runtime) : WellFormed runtime :=
  h.invariant (fun _ => Started.wellFormed) fun _ action _ hs _ _ => hs.act arch action

end UserRuntime

end Ringos.Kernel

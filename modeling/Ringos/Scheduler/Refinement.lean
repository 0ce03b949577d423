import Ringos.Kernel.WellFormed
import Ringos.Scheduler.Invariant

/-!
# The runtime refines the scheduler

`picture` forgets everything of the runtime but thread states, the current
thread and the pending calls. Under the stated conditions on a step, what the
runtime does to this picture is one step of the scheduler, so the scheduler's
invariants hold of the runtime.
-/

namespace Ringos.Kernel

open Ringos.Core Ringos.Scheduler

/-- A pending call as the scheduler sees it. -/
def PendingCall.toCall (call : PendingCall) : Call ThreadRef :=
  ⟨call.clientThread, call.serverThread, call.savedServerState⟩

namespace UserRuntime

variable {runtime : UserRuntime}

/-- What the scheduler sees of the runtime. -/
def picture (runtime : UserRuntime) : State ThreadRef ChannelRef where
  state t := (runtime.thread t).state
  current := runtime.currentThread
  pending c := (runtime.pending c).map PendingCall.toCall

/-- A write that keeps the state of the thread it changes is not seen. -/
theorem picture_modifyThread_of_state {ref : ThreadRef} {f : Thread → Thread}
    (hf : ∀ thread, (f thread).state = thread.state) :
    (runtime.modifyThread ref f).picture = runtime.picture := by
  refine State.ext (funext fun t => ?_) rfl rfl
  exact thread_modifyThread_keeps Thread.state hf t

/-- A write to a live thread is seen as its new state. -/
theorem picture_modifyThread {ref : ThreadRef} (h : runtime.LiveThread ref)
    (f : Thread → Thread) :
    (runtime.modifyThread ref f).picture =
      { runtime.picture with
        state := Function.update runtime.picture.state ref (f (runtime.thread ref)).state } := by
  refine State.ext (funext fun t => ?_) rfl rfl
  simp only [picture, thread_modifyThread h, Function.update_apply]
  split <;> rfl

/-- Dropping the call of a channel. -/
theorem picture_cancelCall (ref : ChannelRef) :
    (runtime.cancelCall ref).picture =
      { runtime.picture with
        pending := Function.update runtime.picture.pending ref none } := by
  refine State.ext rfl rfl (funext fun c => ?_)
  simp only [picture, pending_cancelCall, Function.update_apply]
  split <;> rfl

/-- Recording a call on a channel. -/
theorem picture_beginCall {ref : ChannelRef} {clientThread serverThread : ThreadRef}
    (h : (runtime.channels.items ref).isSome) :
    (runtime.beginCall ref clientThread serverThread).picture =
      { runtime.picture with
        pending := Function.update runtime.picture.pending ref
          (some ⟨clientThread, serverThread, runtime.picture.state serverThread⟩) } := by
  refine State.ext rfl rfl (funext fun c => ?_)
  simp only [picture, pending_beginCall h, Function.update_apply]
  split <;> rfl

/-- A switch away from a thread that is not running. -/
theorem picture_setCurrentThread {next : ThreadRef}
    (h : ∀ t, runtime.currentThread = some t → (runtime.thread t).state ≠ .running) :
    (runtime.setCurrentThread (some next)).picture = runtime.picture.dispatch next := by
  have hdemoted : ∀ t, runtime.demotedState (some next) t = (runtime.thread t).state := by
    intro t
    rw [demotedState, if_neg]
    rintro ⟨hc, _, hr⟩
    exact h t hc hr
  refine State.ext (funext fun t => ?_) (by simp [picture, State.dispatch]) (funext fun c => ?_)
  · simp only [picture, thread_setCurrentThread, Thread.setState, switchedState, hdemoted,
      State.dispatch, Function.update_apply, Option.some.injEq]
    by_cases he : t = next
    · subst he
      cases hs : (runtime.thread t).state <;> simp [State.promoted]
    · rw [if_neg he, if_neg fun hn => he hn.1.symm]
  · simp [picture, State.dispatch, pending, channel]

/-- A switch away from the running thread, which becomes ready. -/
theorem picture_setCurrentThread_yield {active next : ThreadRef}
    (hc : runtime.currentThread = some active) (hr : (runtime.thread active).state = .running)
    (hne : next ≠ active) :
    (runtime.setCurrentThread (some next)).picture = runtime.picture.yieldTo active next := by
  have hdemoted : ∀ t, runtime.demotedState (some next) t =
      Function.update runtime.picture.state active .ready t := by
    intro t
    rw [demotedState, hc, Function.update_apply]
    by_cases he : t = active
    · subst he
      rw [if_pos ⟨rfl, by simpa using hne.symm, hr⟩, if_pos rfl]
    · rw [if_neg fun hn => he (Option.some.inj hn.1).symm, if_neg he]
      rfl
  refine State.ext (funext fun t => ?_) (by simp [picture, State.yieldTo, State.dispatch])
    (funext fun c => by simp [picture, State.yieldTo, State.dispatch, pending, channel])
  simp only [picture, thread_setCurrentThread, Thread.setState, switchedState, hdemoted,
    State.yieldTo, State.dispatch, Option.some.injEq]
  rw [Function.update_apply _ next]
  by_cases he : t = next
  · subst he
    cases hs : Function.update runtime.picture.state active .ready t <;>
      simp_all [State.promoted, picture]
  · rw [if_neg he, if_neg fun hn => he hn.1.symm]

/-- A channel table with the same pending calls is not told apart. -/
theorem picture_withChannels {channels : KernelObjectPool RpcChannel maxRpcChannels}
    {next : Handle} {memory : ByteMemory}
    (h : UserRuntime.pending { runtime with
      channels := channels, nextHandleValue := next, memory := memory } = runtime.pending) :
    UserRuntime.picture { runtime with
      channels := channels, nextHandleValue := next, memory := memory } = runtime.picture := by
  refine State.ext rfl rfl (funext fun c => ?_)
  simp only [picture, h]

/-- The thread that an action makes exit. -/
def exiting (runtime : UserRuntime) : Action → Option ThreadRef
  | .syscall context =>
    if Syscall.ofNumber context.syscallNumber = some .threadExit then runtime.currentThread
    else none
  | .terminate _ _ => runtime.currentThread
  | _ => none

/-- Every other thread whose call is pending on an exiting thread waits on the channel that
`find_pending_channel_by_server_thread` reports. -/
def ExitFindsEveryClient (runtime : UserRuntime) (action : Action) : Prop :=
  ∀ active ∈ runtime.exiting action, ∀ c, ∀ call ∈ runtime.pending c,
    call.serverThread = active → call.clientThread ≠ active →
      runtime.findPendingChannelByServerThread active = some c

/-- A thread does not exit while it is blocked. -/
def ExitsUnblocked (runtime : UserRuntime) (action : Action) : Prop :=
  ∀ active ∈ runtime.exiting action, (runtime.thread active).state ≠ .blocked

/-- No channel with a pending call carries the handle that an `RPC_OPEN` is about to take; only
a handle counter that has wrapped can come back to one. -/
def OpensFreshHandle (runtime : UserRuntime) : Action → Prop
  | .syscall context =>
    Syscall.ofNumber context.syscallNumber = some .rpcOpen →
      ∀ ref ∈ runtime.channels.findByHandle runtime.nextHandleValue,
        (runtime.channel ref).isBusy = false
  | _ => True

/-- No `RPC_CALL` that passes its checks, those of `prepare_server_thread` included, is addressed
to a blocked thread. -/
def CallsUnblockedServer (arch : Arch) (runtime : UserRuntime) : Action → Prop
  | .syscall context =>
    Syscall.ofNumber context.syscallNumber = some .rpcCall →
      ∀ active ∈ runtime.currentThread, ∀ target ∈ (runtime.resolveCall active context).toOption,
        (runtime.prepareServerThread arch (runtime.endpointOf target.1) target.2
            (runtime.thread active).process context.argument1 context.argument2).1 = Status.ok →
          (runtime.thread target.2).state ≠ .blocked
  | _ => True

/-- The conditions under which blocked threads and pending calls stay matched. -/
structure KeepsClients (runtime : UserRuntime) (action : Action) : Prop where
  findsEveryClient : runtime.ExitFindsEveryClient action
  unblocked : runtime.ExitsUnblocked action
  freshHandle : runtime.OpensFreshHandle action

/-- The conditions under which the thread on the CPU keeps running. -/
structure KeepsRunning (arch : Arch) (runtime : UserRuntime) (action : Action) : Prop where
  findsEveryClient : runtime.ExitFindsEveryClient action
  unblockedServer : runtime.CallsUnblockedServer arch action
  freshHandle : runtime.OpensFreshHandle action

section Decidability

variable (runtime : UserRuntime) (action : Action)

instance : Decidable (runtime.ExitFindsEveryClient action) :=
  inferInstanceAs (Decidable (∀ active ∈ runtime.exiting action, ∀ c, ∀ call ∈ runtime.pending c,
    call.serverThread = active → call.clientThread ≠ active →
      runtime.findPendingChannelByServerThread active = some c))

instance : Decidable (runtime.ExitsUnblocked action) :=
  inferInstanceAs (Decidable (∀ active ∈ runtime.exiting action,
    (runtime.thread active).state ≠ .blocked))

instance : Decidable (runtime.OpensFreshHandle action) :=
  match action with
  | .syscall context => inferInstanceAs (Decidable (
      Syscall.ofNumber context.syscallNumber = some .rpcOpen →
        ∀ ref ∈ runtime.channels.findByHandle runtime.nextHandleValue,
          (runtime.channel ref).isBusy = false))
  | .terminate _ _ | .userStores _ | .saveRegisters _ _ | .prepareResume _ => isTrue trivial

instance (arch : Arch) : Decidable (runtime.CallsUnblockedServer arch action) :=
  match action with
  | .syscall context => inferInstanceAs (Decidable (
      Syscall.ofNumber context.syscallNumber = some .rpcCall →
        ∀ active ∈ runtime.currentThread,
          ∀ target ∈ (runtime.resolveCall active context).toOption,
            (runtime.prepareServerThread arch (runtime.endpointOf target.1) target.2
                (runtime.thread active).process context.argument1 context.argument2).1 =
                Status.ok →
              (runtime.thread target.2).state ≠ .blocked))
  | .terminate _ _ | .userStores _ | .saveRegisters _ _ | .prepareResume _ => isTrue trivial

instance : Decidable (runtime.KeepsClients action) :=
  decidable_of_iff (runtime.ExitFindsEveryClient action ∧ runtime.ExitsUnblocked action ∧
    runtime.OpensFreshHandle action) ⟨fun h => ⟨h.1, h.2.1, h.2.2⟩, fun h => ⟨h.1, h.2, h.3⟩⟩

instance (arch : Arch) : Decidable (runtime.KeepsRunning arch action) :=
  decidable_of_iff (runtime.ExitFindsEveryClient action ∧ runtime.CallsUnblockedServer arch action ∧
    runtime.OpensFreshHandle action) ⟨fun h => ⟨h.1, h.2.1, h.2.2⟩, fun h => ⟨h.1, h.2, h.3⟩⟩

end Decidability

theorem picture_pending_some {c : ChannelRef} {client server : ThreadRef}
    {saved : UserThreadState} :
    runtime.picture.pending c = some ⟨client, server, saved⟩ ↔
      ∃ call, runtime.pending c = some call ∧ call.clientThread = client ∧
        call.serverThread = server ∧ call.savedServerState = saved := by
  simp [picture, PendingCall.toCall]

theorem picture_pending_of {c : ChannelRef} {call : PendingCall}
    (h : runtime.pending c = some call) : runtime.picture.pending c = some call.toCall := by
  simp only [picture, h, Option.map_some]

theorem picture_pending_none {c : ChannelRef} (h : runtime.pending c = none) :
    runtime.picture.pending c = none := by
  simp only [picture, h, Option.map_none]

/-- Failing a call on an exit is the scheduler's cancellation. -/
theorem failPendingCall_cancels (hw : WellFormed runtime) (arch : Arch) (active : ThreadRef)
    (status : Int32) :
    runtime.picture.Cancels active (runtime.failPendingCall arch active status).picture := by
  rcases failPendingCall_cases arch runtime active status with
    ⟨hnone, hsame⟩ | ⟨ref, call, hfind, hpending, hserver, hfail⟩
  · rw [hsame]
    refine .nothing fun c client saved hp => ?_
    obtain ⟨call, hcall, _, hserver, _⟩ := picture_pending_some.mp hp
    exact findPendingChannel_none hnone hcall hserver
  · have hcancelled : (runtime.failPendingCall arch active status).picture =
        runtime.picture.cancel active ref call.clientThread := by
      rw [hfail, State.cancel]
      by_cases hself : call.clientThread = active
      · rw [if_pos hself, if_pos hself, picture_cancelCall]
      · have hlive : (runtime.cancelCall ref).LiveThread call.clientThread :=
          hw.clientLive ref call hpending
        rw [if_neg hself, if_neg hself, wakeClient, picture_modifyThread hlive,
          picture_cancelCall]
        rfl
    rw [hcancelled]
    exact .one ref call.clientThread call.savedServerState
      (picture_pending_some.mpr ⟨call, hpending, rfl, hserver, rfl⟩)

/-- After a complete scan nobody else waits for the exiting thread. -/
theorem failPendingCall_no_waits (arch : Arch) {active : ThreadRef}
    (status : Int32)
    (hfinds : ∀ c call, runtime.pending c = some call → call.serverThread = active →
      call.clientThread ≠ active → runtime.findPendingChannelByServerThread active = some c)
    (client : ThreadRef) :
    ¬ (runtime.failPendingCall arch active status).picture.Waits client active := by
  rintro ⟨c, saved, hp, hne⟩
  obtain ⟨waiting, hwaiting, rfl, hserver, rfl⟩ := picture_pending_some.mp hp
  rcases failPendingCall_cases arch runtime active status with
    ⟨hnone, hsame⟩ | ⟨ref, call, hfind, hpending, _, hfail⟩
  · rw [hsame] at hwaiting
    exact findPendingChannel_none hnone hwaiting hserver
  · have htable : (runtime.failPendingCall arch active status).pending =
        Function.update runtime.pending ref none := by
      rw [hfail]
      split
      · exact pending_cancelCall
      · exact pending_cancelCall
    rw [htable, Function.update_apply] at hwaiting
    split at hwaiting
    · cases hwaiting
    · rename_i hc
      have hfound := hfinds c waiting hwaiting hserver hne
      exact hc (Option.some.inj (hfound.symm.trans hfind))

/-- `schedule_next_ready_thread` after the current thread has exited. -/
theorem scheduleNextReadyThread_schedules
    (h : ∀ t, runtime.currentThread = some t → (runtime.thread t).state = .exited) :
    runtime.picture.Schedules runtime.scheduleNextReadyThread.2.picture := by
  unfold scheduleNextReadyThread
  cases hnext : runtime.findNextReadyThread runtime.currentThread with
  | none => exact .idle fun t => findNextReadyThread_none hnext t
  | some next =>
    have hnotRunning : ∀ t, runtime.currentThread = some t →
        (runtime.thread t).state ≠ .running := by
      intro t ht
      simp [h t ht]
    rw [picture_setCurrentThread hnotRunning]
    exact .next next (findNextReadyThread_ready hnext)

/-- An exit is an exit of the scheduler, attached when it finds every client. -/
theorem terminateCurrentThread_step {mode : Mode} (hw : WellFormed runtime) (arch : Arch)
    (exitStatus : UInt64) (peerFailureStatus : Int32) {active : ThreadRef}
    (hcurrent : runtime.currentThread = some active)
    (hattached : mode.attached = true → (runtime.thread active).state = .running ∧
      ∀ c call, runtime.pending c = some call → call.serverThread = active →
        call.clientThread ≠ active → runtime.findPendingChannelByServerThread active = some c) :
    Step mode runtime.picture
      (runtime.terminateCurrentThread arch exitStatus peerFailureStatus).2.picture := by
  have hfailed := hw.handleThreadExit arch active peerFailureStatus
  have hfailedCurrent : (runtime.handleThreadExit arch active peerFailureStatus).currentThread =
      some active := by
    rw [handleThreadExit]
    change (runtime.failPendingCall arch active peerFailureStatus).currentThread = some active
    rcases failPendingCall_cases arch runtime active peerFailureStatus with
      ⟨_, hsame⟩ | ⟨ref, call, _, _, _, hfail⟩
    · rw [hsame, hcurrent]
    · rw [hfail]
      split <;> exact hcurrent
  have hlive := hfailed.currentLive active hfailedCurrent
  refine .exits active (runtime.failPendingCall arch active peerFailureStatus).picture _ hcurrent
    (failPendingCall_cancels hw arch active peerFailureStatus) (fun hmode =>
      ⟨(hattached hmode).1, failPendingCall_no_waits arch peerFailureStatus (hattached hmode).2⟩)
    ?_
  have hretired : ((runtime.failPendingCall arch active peerFailureStatus).picture.retire active) =
      ((runtime.handleThreadExit arch active peerFailureStatus).modifyThread active
        fun thread => (thread.setState .exited).setExitStatus exitStatus).picture := by
    rw [picture_modifyThread hlive]
    rfl
  rw [hretired]
  simp only [terminateCurrentThread, hcurrent]
  refine scheduleNextReadyThread_schedules fun t ht => ?_
  obtain rfl : active = t := Option.some.inj (hfailedCurrent.symm.trans ht)
  rw [thread_modifyThread_self hlive]
  rfl

/-- The erasure that undoes an `RPC_OPEN` drops at most the call of a busy channel that carries
the same handle. -/
theorem pending_openFailed {clientProcess : ProcessRef} {endpoint : EndpointRef}
    {ref : ChannelRef} {channels : KernelObjectPool RpcChannel maxRpcChannels}
    {next : Handle} (memory : ByteMemory)
    (hemplace : runtime.channels.emplace runtime.nextHandleValue
      (RpcChannel.create clientProcess endpoint) = some (ref, channels, next)) :
    (∃ erased, UserRuntime.pending { runtime with
        channels := (channels.eraseByHandle runtime.nextHandleValue).2
        nextHandleValue := next
        memory := memory } = Function.update runtime.pending erased none ∧
      (runtime.pending erased = none ∨
        runtime.channels.findByHandle runtime.nextHandleValue = some erased)) := by
  have hopened : UserRuntime.pending { runtime with
      channels := channels, nextHandleValue := next, memory := memory } = runtime.pending :=
    pending_emplace hemplace
  obtain ⟨hfree, hitems, _⟩ := KernelObjectPool.emplace_eq_some hemplace
  have hnew : runtime.pending ref = none := by
    cases hp : runtime.pending ref with
    | none => rfl
    | some call =>
      obtain ⟨channel, hchannel, _⟩ := pending_eq_some.mp hp
      rw [hfree] at hchannel
      cases hchannel
  cases hfind : channels.findByHandle runtime.nextHandleValue with
  | none =>
    refine ⟨ref, ?_, .inl hnew⟩
    simp only [KernelObjectPool.eraseByHandle, hfind]
    rw [Function.update_eq_self_iff.mpr hnew.symm]
    exact hopened
  | some erased =>
    have herase : UserRuntime.pending { runtime with
        channels := (channels.eraseByHandle runtime.nextHandleValue).2
        nextHandleValue := next
        memory := memory } = Function.update (UserRuntime.pending { runtime with
          channels := channels, nextHandleValue := next, memory := memory }) erased none :=
      pending_eraseByHandle { runtime with
        channels := channels, nextHandleValue := next, memory := memory } hfind
    refine ⟨erased, by rw [herase, hopened], ?_⟩
    by_cases hne : erased = ref
    · exact .inl (hne ▸ hnew)
    · exact .inr (KernelObjectPool.findByHandle_of_emplace hfree hitems hne hfind)

/-- Preparing a callback writes memory and a resume record only. -/
theorem picture_serverPrepared (memory : ByteMemory) (endpoint : RpcEndpoint)
    (serverThread : ThreadRef) (requestAddress requestSize stackPointer : UInt64) :
    (runtime.serverPrepared memory endpoint serverThread requestAddress requestSize
      stackPointer).picture = runtime.picture := by
  have hkeeps : ∀ thread : Thread, (thread.prepareRpcResume endpoint.callbackAddress
      endpoint.completionAddress requestAddress requestSize stackPointer).state = thread.state :=
    fun _ => rfl
  exact (picture_modifyThread_of_state hkeeps).trans rfl

/-- The yield at the end of a registration. -/
theorem picture_yielded {arch : Arch} {active next : ThreadRef}
    (hcurrent : runtime.currentThread = some active)
    (hrunning : (runtime.thread active).state = .running) (hne : next ≠ active) (status : Int32) :
    ((runtime.modifyThread active (Thread.prepareSyscallResume arch status)).setCurrentThread
      (some next)).picture = runtime.picture.yieldTo active next := by
  have hsame : (runtime.modifyThread active (Thread.prepareSyscallResume arch status)).picture =
      runtime.picture := picture_modifyThread_of_state fun _ => rfl
  have hstate : ((runtime.modifyThread active
      (Thread.prepareSyscallResume arch status)).thread active).state = .running :=
    (congrFun (congrArg State.state hsame) active).trans hrunning
  have hcur : (runtime.modifyThread active
      (Thread.prepareSyscallResume arch status)).currentThread = some active := hcurrent
  rw [picture_setCurrentThread_yield hcur hstate hne, hsame]

/-- The hand-over to the server of an accepted call. -/
theorem picture_called {ref : ChannelRef} {active server : ThreadRef}
    (hcurrent : runtime.currentThread = some active) (hlive : runtime.LiveThread active)
    (hitem : (runtime.channels.items ref).isSome) :
    (((runtime.beginCall ref active server).modifyThread active
      (Thread.setState .blocked)).setCurrentThread (some server)).picture =
        runtime.picture.call ref active server := by
  have hactive : (runtime.beginCall ref active server).LiveThread active := hlive
  rw [picture_setCurrentThread]
  · rw [picture_modifyThread hactive, picture_beginCall hitem]
    rfl
  · intro t ht
    obtain rfl : active = t := Option.some.inj (hcurrent.symm.trans ht)
    rw [thread_modifyThread_self hactive]
    simp [Thread.setState]

/-- Finishing a call restores the server's state and drops the call. -/
theorem picture_finishCall {ref : ChannelRef} {call : PendingCall}
    (hlive : runtime.LiveThread call.serverThread) :
    (runtime.finishCall ref call).picture =
      { runtime.picture with
        state := Function.update runtime.picture.state call.serverThread call.savedServerState
        pending := Function.update runtime.picture.pending ref none } := by
  rw [finishCall, picture_cancelCall, picture_modifyThread hlive]
  rfl

/-- The hand-over back to the client of an answered call. -/
theorem picture_completed {arch : Arch} {ref : ChannelRef} {call : PendingCall}
    (hcurrent : runtime.currentThread = some call.serverThread)
    (hserver : runtime.LiveThread call.serverThread)
    (hclient : runtime.LiveThread call.clientThread)
    (hne : call.clientThread ≠ call.serverThread) (hsaved : call.savedServerState ≠ .running)
    (status : Int32) :
    (((runtime.finishCall ref call).wakeClient arch call.clientThread status).setCurrentThread
      (some call.clientThread)).picture =
        runtime.picture.complete ref call.serverThread call.clientThread
          call.savedServerState := by
  have hlive : (runtime.finishCall ref call).LiveThread call.clientThread :=
    liveThread_modifyThread.mpr hclient
  have hwoken : ((runtime.finishCall ref call).wakeClient arch call.clientThread status).picture =
      { runtime.picture with
        state := Function.update (Function.update runtime.picture.state call.serverThread
          call.savedServerState) call.clientThread .ready
        pending := Function.update runtime.picture.pending ref none } := by
    rw [wakeClient, picture_modifyThread hlive, picture_finishCall hserver]
    rfl
  rw [picture_setCurrentThread, hwoken]
  · rfl
  · intro t ht
    obtain rfl : call.serverThread = t := Option.some.inj (hcurrent.symm.trans ht)
    have hstate := congrFun (congrArg State.state hwoken) call.serverThread
    dsimp only at hstate
    rw [Function.update_of_ne hne.symm, Function.update_self] at hstate
    exact fun hr => hsaved (hstate.symm.trans hr)

/-- A call by another thread interrupted a server that was not running. -/
theorem saved_not_running (htidy : Tidy runtime.picture) {ref : ChannelRef} {call : PendingCall}
    (hcall : runtime.pending ref = some call) (hne : call.clientThread ≠ call.serverThread) :
    call.savedServerState ≠ .running := by
  intro hrunning
  rcases htidy.savedOther ref _ (picture_pending_of hcall) hne with hs | hs
  · exact absurd (hrunning.symm.trans hs) (by decide)
  · exact absurd (hrunning.symm.trans hs) (by decide)

/-- A syscall is a step of the scheduler, as the conditions on its state ask. -/
theorem outcome_step {arch : Arch} {mode : Mode} {active : ThreadRef}
    {context : UserSyscallContext} {result : Int32 × UserRuntime} (hw : WellFormed runtime)
    (htidy : Tidy runtime.picture) (hcurrent : runtime.currentThread = some active)
    (hrunning : (runtime.thread active).state = .running)
    (hfinds : mode.attached = true →
      Syscall.ofNumber context.syscallNumber = some .threadExit →
      ∀ c call, runtime.pending c = some call → call.serverThread = active →
        call.clientThread ≠ active → runtime.findPendingChannelByServerThread active = some c)
    (hfresh : mode.attached = true → Syscall.ofNumber context.syscallNumber = some .rpcOpen →
      ∀ ref, runtime.channels.findByHandle runtime.nextHandleValue = some ref →
        (runtime.channel ref).isBusy = false)
    (hcalls : mode.strict = true → Syscall.ofNumber context.syscallNumber = some .rpcCall →
      ∀ ref server, runtime.resolveCall active context = .ok (ref, server) → server ≠ active →
        result.1 = Status.ok → (runtime.thread server).state ≠ .blocked)
    (hresult : SyscallOutcome arch runtime active context result) :
    Step mode runtime.picture result.2.picture := by
  have hlive := hw.currentLive active hcurrent
  cases hresult with
  | kept status memory debugLog _ _ _ => exact .quiet
  | exited hsyscall =>
    exact terminateCurrentThread_step hw arch _ _ hcurrent
      fun hmode => ⟨hrunning, hfinds hmode hsyscall⟩
  | registered ref endpointName _ _ => exact .quiet
  | yielded ref endpointName nextThread _ _ hready _ =>
    have hne : nextThread ≠ active := by
      rintro rfl
      simp [hready] at hrunning
    generalize hregistered : runtime.registerEndpoint ref active endpointName context.argument1
      context.argument2 = registered
    have hsame : registered.picture = runtime.picture := hregistered ▸ rfl
    have hthread : (registered.thread active).state = .running :=
      (congrFun (congrArg State.state hsame) active).trans hrunning
    have hcur : registered.currentThread = some active :=
      (congrArg State.current hsame).trans hcurrent
    dsimp only
    rw [picture_yielded hcur hthread hne, hsame]
    exact .yields active nextThread hcurrent hrunning hready
  | opened ref endpoint endpointName serverThread channels next memory _ _ _ _ hemplace =>
    dsimp only
    rw [picture_withChannels (pending_emplace hemplace)]
    exact .quiet
  | openFailed status ref endpoint channels next memory hsyscall _ hemplace =>
    obtain ⟨erased, hpending, hcause⟩ := pending_openFailed memory hemplace
    cases hmode : mode.attached with
    | true =>
      have hnone : runtime.pending erased = none := by
        rcases hcause with hnone | hfind
        · exact hnone
        · simpa [RpcChannel.isBusy, UserRuntime.pending] using hfresh hmode hsyscall erased hfind
      rw [Function.update_eq_self_iff.mpr hnone.symm] at hpending
      dsimp only
      rw [picture_withChannels hpending]
      exact .quiet
    | false =>
      have hdropped : UserRuntime.picture { runtime with
          channels := (channels.eraseByHandle runtime.nextHandleValue).2
          nextHandleValue := next
          memory := memory } = runtime.picture.completeSelf erased := by
        refine State.ext rfl rfl (funext fun c => ?_)
        simp only [picture, hpending, State.completeSelf, Function.update_apply]
        split <;> rfl
      dsimp only
      rw [hdropped]
      exact .drops erased hmode
  | called ref serverThread memory requestAddress stackPointer hsyscall hresolve hne =>
    obtain ⟨hfind, _, howner, halive, _, _, hidle⟩ := resolveCall_ok hresolve
    obtain ⟨channel, hchannel, _⟩ := KernelObjectPool.findByHandle_eq_some hfind
    have hserver := hw.ownerLive _ _ howner
    have hcur : (runtime.serverPrepared memory (runtime.endpointOf ref) serverThread
        requestAddress context.argument2 stackPointer).currentThread = some active := hcurrent
    dsimp only
    rw [picture_called hcur (liveThread_modifyThread.mpr hlive)
      (Option.isSome_of_mem hchannel), picture_serverPrepared]
    exact .calls ref active serverThread hcurrent hrunning (picture_pending_none hidle) hne halive
      (hw.threadState serverThread hserver) fun hs =>
        hcalls hs hsyscall ref serverThread hresolve hne rfl
  | calledSelf ref memory requestAddress stackPointer _ hresolve =>
    obtain ⟨hfind, _, _, _, _, _, hidle⟩ := resolveCall_ok hresolve
    obtain ⟨channel, hchannel, _⟩ := KernelObjectPool.findByHandle_eq_some hfind
    have hitem : ((runtime.serverPrepared memory (runtime.endpointOf ref) active requestAddress
        context.argument2 stackPointer).channels.items ref).isSome :=
      Option.isSome_of_mem hchannel
    dsimp only
    rw [picture_beginCall hitem, picture_serverPrepared]
    exact .callsSelf ref active hcurrent hrunning (picture_pending_none hidle)
  | closed ref _ hfind hidle =>
    have hnone : runtime.pending ref = none := by
      simpa [RpcChannel.isBusy, UserRuntime.pending] using hidle
    have hsame : UserRuntime.pending { runtime with
        channels := (runtime.channels.eraseByHandle context.argument0).2 } = runtime.pending := by
      rw [pending_eraseByHandle _ hfind, Function.update_eq_self_iff, hnone]
    exact picture_withChannels hsame ▸ .quiet
  | completed ref call _ hfind hcall hne =>
    obtain ⟨found, hfound, hserver⟩ := findPendingChannel_some hfind
    obtain rfl : call = found := Option.some.inj (hcall.symm.trans hfound)
    subst hserver
    have hpending := picture_pending_of hcall
    have hsaved := saved_not_running htidy hcall hne
    dsimp only
    rw [picture_completed hcurrent hlive (hw.clientLive ref call hcall) hne hsaved]
    exact .completes ref call.serverThread call.clientThread call.savedServerState hcurrent
      hrunning hpending hne
  | completedSelf ref call _ hfind hcall hself =>
    obtain ⟨found, hfound, hserver⟩ := findPendingChannel_some hfind
    obtain rfl : call = found := Option.some.inj (hcall.symm.trans hfound)
    subst hserver
    have hpending := picture_pending_of hcall
    have hsaved : call.savedServerState = .running := htidy.savedSelf ref _ hpending hself
    have hupdate : Function.update runtime.picture.state call.serverThread .running =
        runtime.picture.state := Function.update_eq_self_iff.mpr hrunning.symm
    have hfinished : (runtime.finishCall ref call).picture =
        runtime.picture.completeSelf ref := by
      rw [picture_finishCall hlive, hsaved, hupdate]
      rfl
    dsimp only
    rw [hfinished]
    refine .completesSelf ref call.serverThread call.savedServerState hcurrent hrunning ?_
    rw [hpending, PendingCall.toCall, hself]

/-- The write of the trap context is not seen by the handle checks. -/
theorem resolveChannel_enterSyscall (active : ThreadRef) (context : UserSyscallContext)
    (ownerProcess : ProcessRef) (handleValue : Handle) :
    (runtime.enterSyscall active context).resolveChannel ownerProcess handleValue =
      runtime.resolveChannel ownerProcess handleValue := by
  have hobject : (runtime.enterSyscall active context).hasObjectWithHandle handleValue =
      runtime.hasObjectWithHandle handleValue := by
    have hthreads : (runtime.enterSyscall active context).threads.findByHandle handleValue =
        runtime.threads.findByHandle handleValue :=
      KernelObjectPool.findByHandle_modify _ active
        (f := Thread.setUserContext (makeThreadContextFromSyscall context)) (fun _ => rfl)
        handleValue
    simp only [hasObjectWithHandle, hthreads]
    rfl
  simp only [resolveChannel, hobject]
  rfl

/-- The write of the trap context is not seen by the checks of a call. -/
theorem resolveCall_enterSyscall (active : ThreadRef) (context : UserSyscallContext) :
    (runtime.enterSyscall active context).resolveCall active context =
      runtime.resolveCall active context := by
  have hstate : ∀ t, ((runtime.enterSyscall active context).thread t).state =
      (runtime.thread t).state := thread_enterSyscall_keeps Thread.state fun _ _ => rfl
  have hprocess : ∀ t, ((runtime.enterSyscall active context).thread t).process =
      (runtime.thread t).process := thread_enterSyscall_keeps Thread.process fun _ _ => rfl
  simp only [resolveCall, resolveChannel_enterSyscall, hprocess, hstate]
  rfl

/-- The write of the caller's trap context is not seen when another thread is prepared. -/
theorem prepareServerThread_enterSyscall {active server : ThreadRef} (hne : server ≠ active)
    (arch : Arch) (context : UserSyscallContext) (endpoint : RpcEndpoint)
    (clientProcess : ProcessRef) (requestAddress size : UInt64) :
    ((runtime.enterSyscall active context).prepareServerThread arch endpoint server clientProcess
        requestAddress size).1 =
      (runtime.prepareServerThread arch endpoint server clientProcess requestAddress size).1 := by
  have hthread : (runtime.enterSyscall active context).thread server = runtime.thread server :=
    thread_modifyThread_of_ne hne _
  unfold prepareServerThread
  rw [hthread]
  cases endpoint.ownerProcess with
  | none => rfl
  | some serverProcess =>
    simp only [apply_ite Prod.fst]
    rfl

/-- An accepted call has prepared its server. -/
theorem prepareServerThread_of_accepted {arch : Arch} {active server : ThreadRef}
    {context : UserSyscallContext} {ref : ChannelRef}
    (hresolve : runtime.resolveCall active context = .ok (ref, server))
    (hok : (runtime.rpcCall arch active context).1 = Status.ok) :
    (runtime.prepareServerThread arch (runtime.endpointOf ref) server
      (runtime.thread active).process context.argument1 context.argument2).1 = Status.ok := by
  by_contra hrefused
  simp only [rpcCall, hresolve] at hok
  change (if (runtime.prepareServerThread arch (runtime.endpointOf ref) server _ _ _).1 ≠
    Status.ok then _ else _ : Int32 × UserRuntime).1 = _ at hok
  rw [if_pos hrefused] at hok
  exact hrefused hok

/-- A runnable current thread is running. -/
theorem running_of_mayAct (htidy : Tidy runtime.picture) {active : ThreadRef}
    (hcurrent : runtime.currentThread = some active) (hmay : runtime.hasRunnableThread = true) :
    (runtime.thread active).state = .running := by
  simp only [hasRunnableThread, hcurrent, Bool.and_eq_true, decide_eq_true_eq] at hmay
  exact (htidy.currentActive active hcurrent).resolve_right hmay.1

/-- An action is a step of the scheduler, with the conditions of the mode as far as the action
keeps them. -/
theorem act_step {mode : Mode} (hw : WellFormed runtime) (htidy : Tidy runtime.picture)
    (arch : Arch) {action : Action} (hmay : runtime.mayAct action = true)
    (hkeeps : mode.attached = true → runtime.KeepsClients action)
    (hcalls : mode.strict = true → runtime.CallsUnblockedServer arch action) :
    Step mode runtime.picture (runtime.act arch action).picture := by
  cases action with
  | syscall context =>
    simp only [act, dispatchSyscall]
    cases hcurrent : runtime.currentThread with
    | none => exact .quiet
    | some active =>
      have hentered : (runtime.enterSyscall active context).picture = runtime.picture :=
        picture_modifyThread_of_state fun _ => rfl
      have hrunning := running_of_mayAct htidy hcurrent hmay
      have hstate : ∀ t, ((runtime.enterSyscall active context).thread t).state =
          (runtime.thread t).state := congrFun (congrArg State.state hentered)
      rw [← hentered]
      refine outcome_step (hw.enterSyscall active context) (hentered.symm ▸ htidy) hcurrent
        ((hstate active).trans hrunning) ?_ (fun hmode => (hkeeps hmode).freshHandle) ?_
        (dispatchActive_outcome arch _ active context)
      · intro hmode hexit
        exact (hkeeps hmode).findsEveryClient active (by simp [exiting, hexit, hcurrent])
      · intro hmode hsyscall ref server hresolve hne hok
        simp only [dispatchActive, hsyscall] at hok
        have hprepared := prepareServerThread_of_accepted hresolve hok
        rw [prepareServerThread_enterSyscall hne, thread_enterSyscall_keeps Thread.process
          fun _ _ => rfl] at hprepared
        rw [resolveCall_enterSyscall] at hresolve
        rw [hstate]
        exact hcalls hmode hsyscall active hcurrent (ref, server) (by rw [hresolve]; rfl) hprepared
  | terminate exitStatus peerFailureStatus =>
    cases hcurrent : runtime.currentThread with
    | none =>
      simp only [act, terminateCurrentThread, hcurrent]
      exact .quiet
    | some active =>
      refine terminateCurrentThread_step hw arch _ _ hcurrent fun hmode => ⟨?_, ?_⟩
      · exact (htidy.currentActive active hcurrent).resolve_right
          ((hkeeps hmode).unblocked active hcurrent)
      · exact (hkeeps hmode).findsEveryClient active hcurrent
  | userStores memory => exact .quiet
  | saveRegisters registers simdQwords =>
    simp only [act, modifyCurrentThread]
    split
    · exact .quiet
    · rw [picture_modifyThread_of_state]
      · exact .quiet
      · exact fun _ => rfl
  | prepareResume status =>
    simp only [act, modifyCurrentThread]
    split
    · exact .quiet
    · rw [picture_modifyThread_of_state]
      · exact .quiet
      · exact fun _ => rfl

/-- A runtime whose first thread has just been made current. -/
theorem Started.sound (h : Started runtime) : Sound runtime.picture := by
  obtain ⟨created, active, hcreated, hlive, rfl⟩ := h
  have hfresh := hcreated.unstarted
  have hpending : ∀ c, created.picture.pending c = none := fun c =>
    picture_pending_none (hfresh.pending_none c)
  have hstate : ∀ t, created.picture.state t = .ready ∨ created.picture.state t = .empty := by
    intro t
    by_cases ht : created.LiveThread t
    · exact .inl (hfresh.allReady t ht)
    · right
      by_contra hne
      exact ht (liveThread_of_state hne)
  have hready : created.picture.state active = .ready := hfresh.allReady active hlive
  rw [picture_setCurrentThread (by simp [hfresh.noCurrent])]
  refine ⟨?_, fun t ht => State.dispatch_running hready t ht, ?_, fun hn => by cases hn⟩
  · refine Settled.dispatch ⟨fun t hr => ?_, ?_, ?_, ?_, ?_, ?_, fun t hb => ?_⟩ hready
    · rcases hstate t with ht | ht <;> simp [ht] at hr
    · intro c call hc
      rw [hpending] at hc
      cases hc
    · intro c call hc
      rw [hpending] at hc
      cases hc
    · intro c call hc
      rw [hpending] at hc
      cases hc
    · intro c call hc
      rw [hpending] at hc
      cases hc
    · intro c _ call _ hc
      rw [hpending] at hc
      cases hc
    · rcases hstate t with ht | ht <;> simp [ht] at hb
  · exact ⟨fun _ => 0, fun a b ⟨c, saved, hc, _⟩ => by simp [State.dispatch, hpending] at hc⟩

/-- Every run keeps its picture tidy, whatever its steps. -/
theorem reachable_tidy {arch : Arch} {guard : UserRuntime → Action → Prop}
    (h : (runtimeSystem arch).Reachable guard runtime) : Tidy runtime.picture := by
  refine h.invariant (P := fun s => Tidy s.picture)
    (fun _ hs => (Started.sound hs).toTidy) ?_
  intro s action hreach htidy hmay _
  have hstep : Step ⟨false, false⟩ s.picture (s.act arch action).picture :=
    act_step (reachable_wellFormed hreach) htidy arch hmay (fun hs => by cases hs)
      fun hs => by cases hs
  exact hstep.tidy htidy

end UserRuntime

end Ringos.Kernel

import Ringos.Scheduler.Runs

/-!
# Which call a reply answers

A history of the calls that are pending, the latest first, is kept beside the
runtime: a call enters it when a channel gains a pending call and leaves it
when the channel loses it. A completion answers the latest call of its server
exactly when that call sits on the server's first pending channel.
-/

namespace Ringos.Kernel

open Ringos.Core Ringos.Scheduler

/-- A pending call with the server's state, context and registers when it began. -/
structure Begun where
  channel : ChannelRef
  client : ThreadRef
  server : ThreadRef
  serverState : UserThreadState
  serverContext : ThreadContext
  serverRegisters : PreservedRegisters
  serverSimdQwords : PreservedSimdQwords

/-- What the channel has saved of a call. -/
def Begun.ofPending (channel : ChannelRef) (call : PendingCall) : Begun where
  channel := channel
  client := call.clientThread
  server := call.serverThread
  serverState := call.savedServerState
  serverContext := call.savedServerContext
  serverRegisters := call.savedServerRegisters
  serverSimdQwords := call.savedServerSimdQwords

namespace UserRuntime

variable {arch : Arch} {runtime : UserRuntime}

/-- The call that a step begins on a channel. The switch to the server changes its state, so the
state is read before the step; a step that begins a call leaves the server's context and
registers as they are when the call begins. -/
def begunAt (before after : UserRuntime) (channel : ChannelRef) : Option Begun :=
  match before.pending channel, after.pending channel with
  | none, some call =>
    some
      { channel := channel
        client := call.clientThread
        server := call.serverThread
        serverState := (before.thread call.serverThread).state
        serverContext := (after.thread call.serverThread).userContext
        serverRegisters := (after.thread call.serverThread).archPreservedRegisters
        serverSimdQwords := (after.thread call.serverThread).archPreservedSimdQwords }
  | _, _ => none

/-- The pending calls after a step, the latest first. -/
def recordCalls (arch : Arch) (before : UserRuntime) (action : Action) (calls : List Begun) :
    List Begun :=
  let after := before.act arch action
  (List.finRange maxRpcChannels).filterMap (begunAt before after) ++
    calls.filter fun call => (after.pending call.channel).isSome

/-- The most recently begun pending call of a server. -/
def latestCall (calls : List Begun) (server : ThreadRef) : Option Begun :=
  calls.find? fun call => call.server == server

/-- The runtime with the history of its pending calls. -/
def callSystem (arch : Arch) : TransitionSystem (UserRuntime × List Begun) Action :=
  (runtimeSystem arch).withHistory (fun _ => []) (recordCalls arch)

/-- The `RPC_COMPLETE` of `server` finishes exactly `call`. -/
structure AnswersCall (arch : Arch) (before : UserRuntime) (context : UserSyscallContext)
    (server : ThreadRef) (call : Begun) : Prop where
  /-- The call ends and every other pending call stays as it is. -/
  finishes : (before.dispatchSyscall arch context).2.pending =
    Function.update before.pending call.channel none
  /-- The server is as it was when the call began. -/
  restores : ((before.dispatchSyscall arch context).2.thread server).state = call.serverState ∧
    ((before.dispatchSyscall arch context).2.thread server).userContext = call.serverContext ∧
    ((before.dispatchSyscall arch context).2.thread server).archPreservedRegisters =
      call.serverRegisters ∧
    ((before.dispatchSyscall arch context).2.thread server).archPreservedSimdQwords =
      call.serverSimdQwords
  /-- Another client runs and returns from its call with the status. -/
  delivers : call.client ≠ server →
    (before.dispatchSyscall arch context).2.currentThread = some call.client ∧
    (before.dispatchSyscall arch context).2.thread call.client =
      ((before.thread call.client).prepareSyscallResume arch
        (statusOfArgument context.argument0)).setState .running
  /-- A server that called itself gets the status as its own. -/
  deliversSelf : call.client = server →
    (before.dispatchSyscall arch context).2.currentThread = some server ∧
    (before.dispatchSyscall arch context).1 = statusOfArgument context.argument0
  /-- No other thread is given the status. -/
  noOther : (∀ t, t ≠ server → t ≠ call.client →
      (before.dispatchSyscall arch context).2.thread t = before.thread t) ∧
    ((before.dispatchSyscall arch context).2.thread server).pendingSyscallStatus =
      (before.thread server).pendingSyscallStatus

/-- A completion by a server with a pending call, as the source computes it. -/
theorem dispatchSyscall_complete (arch : Arch) {server : ThreadRef} {context : UserSyscallContext}
    {ref : ChannelRef} {call : PendingCall} (hcurrent : runtime.currentThread = some server)
    (hsyscall : Syscall.ofNumber context.syscallNumber = some .rpcComplete)
    (hfind : runtime.findPendingChannelByServerThread server = some ref)
    (hcall : runtime.pending ref = some call) :
    runtime.dispatchSyscall arch context =
      let finished := (runtime.enterSyscall server context).finishCall ref call
      if call.clientThread = server then (statusOfArgument context.argument0, finished)
      else (Status.ok, (finished.wakeClient arch call.clientThread
        (statusOfArgument context.argument0)).setCurrentThread (some call.clientThread)) := by
  have hfind' : (runtime.enterSyscall server context).findPendingChannelByServerThread server =
      some ref := hfind
  have hcall' : ((runtime.enterSyscall server context).channel ref).pendingCall = some call := hcall
  simp only [dispatchSyscall, hcurrent, dispatchActive, hsyscall, rpcComplete, completeCall,
    hfind', hcall']
  rfl

/-- The threads once a call has been finished. -/
theorem thread_finishCall (ref : ChannelRef) {call : PendingCall}
    (hlive : runtime.LiveThread call.serverThread) (t : ThreadRef) :
    (runtime.finishCall ref call).thread t =
      if t = call.serverThread then call.restore (runtime.thread call.serverThread)
      else runtime.thread t :=
  thread_modifyThread hlive _ t

/-- The threads once the client of a finished call has been given the CPU. -/
theorem thread_completed (arch : Arch) (ref : ChannelRef) {call : PendingCall}
    (hcurrent : runtime.currentThread = some call.serverThread)
    (hserver : runtime.LiveThread call.serverThread)
    (hclient : runtime.LiveThread call.clientThread)
    (hne : call.clientThread ≠ call.serverThread) (hsaved : call.savedServerState ≠ .running)
    (status : Int32) (t : ThreadRef) :
    (((runtime.finishCall ref call).wakeClient arch call.clientThread status).setCurrentThread
      (some call.clientThread)).thread t =
      if t = call.clientThread then
        ((runtime.thread t).prepareSyscallResume arch status).setState .running
      else if t = call.serverThread then call.restore (runtime.thread t)
      else runtime.thread t := by
  generalize hwoken : (runtime.finishCall ref call).wakeClient arch call.clientThread status =
    woken
  have hthread : ∀ t, woken.thread t =
      if t = call.clientThread then
        ((runtime.thread t).setState .ready).prepareSyscallResume arch status
      else if t = call.serverThread then call.restore (runtime.thread t)
      else runtime.thread t := by
    intro t
    have hlive : (runtime.finishCall ref call).LiveThread call.clientThread :=
      liveThread_modifyThread.mpr hclient
    rw [← hwoken, wakeClient, thread_modifyThread hlive, thread_finishCall ref hserver,
      thread_finishCall ref hserver, if_neg hne]
    split
    · rename_i he
      rw [he]
    · split
      · rename_i he
        rw [he]
      · rfl
  have hcur : woken.currentThread = some call.serverThread := by
    rw [← hwoken]
    exact hcurrent
  rw [thread_setCurrentThread, switchedState, demotedState, hcur, hthread]
  by_cases hc : t = call.clientThread
  · subst hc
    have hother : some call.serverThread ≠ some call.clientThread :=
      fun h => hne (Option.some.inj h).symm
    simp only [if_true, hother, false_and, if_false, true_and]
    rfl
  · have hnext : some call.clientThread ≠ some t := fun h => hc (Option.some.inj h).symm
    simp only [if_neg hc, hnext, false_and, if_false]
    by_cases hs : t = call.serverThread
    · subst hs
      have hrestored : (call.restore (runtime.thread call.serverThread)).state ≠ .running := hsaved
      simp only [if_true, hrestored, and_false, if_false]
      rfl
    · have hother : some call.serverThread ≠ some t := fun h => hs (Option.some.inj h).symm
      simp only [if_neg hs, hother, false_and, if_false]
      rfl

/-- A completion answers the call on the server's first pending channel. -/
theorem complete_answers (arch : Arch) (hw : WellFormed runtime) (htidy : Tidy runtime.picture)
    {server : ThreadRef} {context : UserSyscallContext} {ref : ChannelRef} {call : PendingCall}
    (hcurrent : runtime.currentThread = some server)
    (hsyscall : Syscall.ofNumber context.syscallNumber = some .rpcComplete)
    (hfind : runtime.findPendingChannelByServerThread server = some ref)
    (hcall : runtime.pending ref = some call) :
    AnswersCall arch runtime context server (Begun.ofPending ref call) := by
  obtain ⟨found, hfound, hserver⟩ := findPendingChannel_some hfind
  obtain rfl : call = found := Option.some.inj (hcall.symm.trans hfound)
  subst hserver
  have hresult := dispatchSyscall_complete arch hcurrent hsyscall hfind hcall
  have hlive : (runtime.enterSyscall call.serverThread context).LiveThread call.serverThread :=
    liveThread_modifyThread.mpr (hw.currentLive _ hcurrent)
  have hentered : ∀ t, t ≠ call.serverThread →
      (runtime.enterSyscall call.serverThread context).thread t = runtime.thread t :=
    fun t ht => thread_modifyThread_of_ne ht _
  have hstatus : ((runtime.enterSyscall call.serverThread context).thread
      call.serverThread).pendingSyscallStatus =
        (runtime.thread call.serverThread).pendingSyscallStatus :=
    thread_enterSyscall_keeps Thread.pendingSyscallStatus (fun _ _ => rfl) _
  have hpending : ((runtime.enterSyscall call.serverThread context).finishCall ref call).pending =
      Function.update runtime.pending ref none := pending_finishCall
  by_cases hself : call.clientThread = call.serverThread
  · -- The server answers a call it made to itself; no other thread is touched.
    rw [if_pos hself] at hresult
    have hthread := thread_finishCall ref hlive
    refine ⟨?_, ?_, fun hne => absurd hself hne, fun _ => ?_, ?_, ?_⟩
    · rw [hresult]
      exact hpending
    · rw [hresult, hthread, if_pos rfl]
      exact ⟨rfl, rfl, rfl, rfl⟩
    · rw [hresult]
      exact ⟨hcurrent, rfl⟩
    · intro t ht _
      rw [hresult, hthread, if_neg ht, hentered t ht]
    · rw [hresult, hthread, if_pos rfl]
      exact hstatus
  · rw [if_neg hself] at hresult
    have hclient : (runtime.enterSyscall call.serverThread context).LiveThread
        call.clientThread := liveThread_modifyThread.mpr (hw.clientLive ref call hcall)
    have hcurrent' : (runtime.enterSyscall call.serverThread context).currentThread =
        some call.serverThread := hcurrent
    have hthread := thread_completed arch ref hcurrent' hlive hclient hself
      (saved_not_running htidy hcall hself) (statusOfArgument context.argument0)
    refine ⟨?_, ?_, fun _ => ⟨?_, ?_⟩, fun he => absurd he hself, ?_, ?_⟩
    · rw [hresult, pending_setCurrentThread]
      exact hpending
    · rw [hresult, hthread, if_neg (Ne.symm hself), if_pos rfl]
      exact ⟨rfl, rfl, rfl, rfl⟩
    · rw [hresult, setCurrentThread_currentThread]
      rfl
    · rw [hresult, Begun.ofPending, hthread, if_pos rfl, hentered _ hself]
    · intro t ht hc
      have hother : t ≠ call.clientThread := hc
      rw [hresult, hthread, if_neg hother, if_neg ht, hentered t ht]
    · rw [hresult, hthread, if_neg (Ne.symm hself), if_pos rfl]
      exact hstatus

/-- What a step can do to the call pending on a channel. -/
def CallKept (before after : UserRuntime) (c : ChannelRef) : Prop :=
  after.pending c = before.pending c ∨ after.pending c = none ∨
    ∃ call, after.pending c = some call ∧
      begunAt before after c = some (Begun.ofPending c call)

theorem callKept_of_eq {before after : UserRuntime} (h : after.pending = before.pending)
    (c : ChannelRef) : CallKept before after c :=
  .inl (congrFun h c)

theorem callKept_of_drop {before after : UserRuntime} (ref : ChannelRef)
    (h : after.pending = Function.update before.pending ref none) (c : ChannelRef) :
    CallKept before after c := by
  by_cases hc : c = ref
  · subst hc
    exact .inr (.inl (by rw [h, Function.update_self]))
  · exact .inl (by rw [h, Function.update_of_ne hc])

/-- A new call is recorded as the channel saves it. -/
theorem callKept_of_begin {before after : UserRuntime} {ref : ChannelRef} (call : PendingCall)
    (hidle : before.pending ref = none)
    (h : after.pending = Function.update before.pending ref (some call))
    (hstate : (before.thread call.serverThread).state = call.savedServerState)
    (hcontext : (after.thread call.serverThread).userContext = call.savedServerContext)
    (hregisters : (after.thread call.serverThread).archPreservedRegisters =
      call.savedServerRegisters)
    (hsimd : (after.thread call.serverThread).archPreservedSimdQwords =
      call.savedServerSimdQwords) (c : ChannelRef) : CallKept before after c := by
  by_cases hc : c = ref
  · subst hc
    have hcall : after.pending c = some call := by rw [h, Function.update_self]
    refine .inr (.inr ⟨call, hcall, ?_⟩)
    simp only [begunAt, hidle, hcall, hstate, hcontext, hregisters, hsimd, Begun.ofPending]
  · exact .inl (by rw [h, Function.update_of_ne hc])

theorem terminateCurrentThread_callKept (arch : Arch) (runtime : UserRuntime)
    (exitStatus : UInt64) (peerFailureStatus : Int32) (c : ChannelRef) :
    CallKept runtime (runtime.terminateCurrentThread arch exitStatus peerFailureStatus).2 c := by
  unfold terminateCurrentThread
  cases runtime.currentThread with
  | none => exact .inl rfl
  | some active =>
    have hscheduled : ∀ exited : UserRuntime,
        exited.scheduleNextReadyThread.2.pending = exited.pending := fun exited =>
      scheduleNextReadyThread_keeps pending exited pending_setCurrentThread rfl
    rcases failPendingCall_cases arch runtime active peerFailureStatus with
      ⟨_, hsame⟩ | ⟨ref, call, _, _, _, hfail⟩
    · refine callKept_of_eq ((hscheduled _).trans ?_) c
      simp only [handleThreadExit, hsame]
      rfl
    · refine callKept_of_drop ref ((hscheduled _).trans ?_) c
      simp only [handleThreadExit, hfail]
      split <;> exact pending_cancelCall

/-- A syscall keeps, drops or begins a call on each channel. -/
theorem outcome_callKept {active : ThreadRef} {context : UserSyscallContext}
    {result : Int32 × UserRuntime}
    (h : SyscallOutcome arch runtime active context result) (c : ChannelRef) :
    CallKept runtime result.2 c := by
  cases h with
  | kept status memory debugLog _ _ _ => exact .inl rfl
  | exited _ => exact terminateCurrentThread_callKept arch runtime _ _ c
  | registered ref endpointName _ _ => exact .inl rfl
  | yielded ref endpointName nextThread _ _ _ _ =>
    refine callKept_of_eq ?_ c
    rw [pending_setCurrentThread]
    rfl
  | opened ref endpoint endpointName serverThread channels next memory _ _ _ _ hemplace =>
    exact callKept_of_eq (pending_emplace hemplace) c
  | openFailed status ref endpoint channels next memory _ _ hemplace =>
    obtain ⟨erased, hpending, _⟩ := pending_openFailed memory hemplace
    exact callKept_of_drop erased hpending c
  | called ref serverThread memory requestAddress stackPointer _ hresolve hne =>
    obtain ⟨hfind, _, _, _, _, _, hidle⟩ := resolveCall_ok hresolve
    obtain ⟨channel, hchannel, _⟩ := KernelObjectPool.findByHandle_eq_some hfind
    dsimp only
    generalize hprepared : runtime.serverPrepared memory (runtime.endpointOf ref) serverThread
      requestAddress context.argument2 stackPointer = prepared
    have hitem : (prepared.channels.items ref).isSome := hprepared ▸ Option.isSome_of_mem hchannel
    have hpending : prepared.pending = runtime.pending := hprepared ▸ rfl
    have hstate : (prepared.thread serverThread).state = (runtime.thread serverThread).state := by
      rw [← hprepared]
      exact thread_serverPrepared_keeps Thread.state (fun _ _ _ _ _ _ => rfl) _
    refine callKept_of_begin (PendingCall.save active serverThread
      (prepared.thread serverThread)) hidle ?_ hstate.symm ?_ ?_ ?_ c
    · rw [pending_setCurrentThread, ← hpending]
      exact pending_beginCall hitem
    · exact switched_keeps Thread.userContext (fun _ _ => rfl) _
    · exact switched_keeps Thread.archPreservedRegisters (fun _ _ => rfl) _
    · exact switched_keeps Thread.archPreservedSimdQwords (fun _ _ => rfl) _
  | calledSelf ref memory requestAddress stackPointer _ hresolve =>
    obtain ⟨hfind, _, _, _, _, _, hidle⟩ := resolveCall_ok hresolve
    obtain ⟨channel, hchannel, _⟩ := KernelObjectPool.findByHandle_eq_some hfind
    dsimp only
    generalize hprepared : runtime.serverPrepared memory (runtime.endpointOf ref) active
      requestAddress context.argument2 stackPointer = prepared
    have hitem : (prepared.channels.items ref).isSome := hprepared ▸ Option.isSome_of_mem hchannel
    have hpending : prepared.pending = runtime.pending := hprepared ▸ rfl
    have hstate : (prepared.thread active).state = (runtime.thread active).state := by
      rw [← hprepared]
      exact thread_serverPrepared_keeps Thread.state (fun _ _ _ _ _ _ => rfl) _
    refine callKept_of_begin (PendingCall.save active active (prepared.thread active))
      hidle ?_ hstate.symm ?_ ?_ ?_ c
    · rw [← hpending]
      exact pending_beginCall hitem
    · rfl
    · rfl
    · rfl
  | closed ref _ hfind _ => exact callKept_of_drop ref (pending_eraseByHandle _ hfind) c
  | completed ref call _ _ _ _ =>
    refine callKept_of_drop ref ?_ c
    rw [pending_setCurrentThread]
    exact pending_finishCall
  | completedSelf ref call _ _ _ _ => exact callKept_of_drop ref pending_finishCall c

/-- Every action keeps, drops or begins a call on each channel. -/
theorem act_callKept (arch : Arch) (runtime : UserRuntime) (action : Action) (c : ChannelRef) :
    CallKept runtime (runtime.act arch action) c := by
  cases action with
  | syscall context =>
    simp only [act, dispatchSyscall]
    cases runtime.currentThread with
    | none => exact .inl rfl
    | some active =>
      have hkept := outcome_callKept
        (dispatchActive_outcome arch (runtime.enterSyscall active context) active context) c
      -- The trap context is no part of a call, so the step may be seen from before the trap.
      have hbegun : ∀ after, begunAt (runtime.enterSyscall active context) after c =
          begunAt runtime after c := by
        intro after
        have hstate : ∀ t, ((runtime.enterSyscall active context).thread t).state =
            (runtime.thread t).state := thread_enterSyscall_keeps Thread.state fun _ _ => rfl
        simp only [begunAt, hstate]
        rfl
      rwa [CallKept, hbegun] at hkept
  | terminate exitStatus peerFailureStatus =>
    exact terminateCurrentThread_callKept arch runtime _ _ c
  | userStores memory => exact .inl rfl
  | saveRegisters registers simdQwords =>
    simp only [act, modifyCurrentThread]
    split
    · exact .inl rfl
    · exact .inl rfl
  | prepareResume status =>
    simp only [act, modifyCurrentThread]
    split
    · exact .inl rfl
    · exact .inl rfl

/-- The history holds exactly the pending calls, as their channels have saved them. -/
def Recorded (s : UserRuntime × List Begun) : Prop :=
  ∀ begun, begun ∈ s.2 ↔ ∃ c call, s.1.pending c = some call ∧ begun = Begun.ofPending c call

/-- A call that a step has begun was not pending before. -/
theorem begunAt_eq_some {before after : UserRuntime} {c : ChannelRef} {begun : Begun}
    (h : begunAt before after c = some begun) :
    before.pending c = none ∧ ∃ call, after.pending c = some call := by
  unfold begunAt at h
  split at h
  · rename_i call hbefore hafter
    exact ⟨hbefore, call, hafter⟩
  · cases h

/-- Every action keeps the history right. -/
theorem recorded_act (arch : Arch) {s : UserRuntime × List Begun} (h : Recorded s)
    (action : Action) : Recorded (s.1.act arch action, recordCalls arch s.1 action s.2) := by
  intro begun
  simp only [recordCalls, List.mem_append, List.mem_filterMap, List.mem_finRange, true_and,
    List.mem_filter]
  constructor
  · rintro (⟨c, hbegun⟩ | ⟨hold, hstill⟩)
    · obtain ⟨hidle, call, hcall⟩ := begunAt_eq_some hbegun
      rcases act_callKept arch s.1 action c with heq | hnone | ⟨saved, hsaved, hrecorded⟩
      · rw [heq, hidle] at hcall
        cases hcall
      · rw [hnone] at hcall
        cases hcall
      · exact ⟨c, saved, hsaved, Option.some.inj (hbegun.symm.trans hrecorded)⟩
    · obtain ⟨c, call, hcall, rfl⟩ := (h begun).mp hold
      obtain ⟨still, hstillCall⟩ := Option.isSome_iff_exists.mp hstill
      rcases act_callKept arch s.1 action c with heq | hnone | ⟨_, _, hrecorded⟩
      · exact ⟨c, call, heq.trans hcall, rfl⟩
      · exact absurd (hnone.symm.trans hstillCall) (by simp)
      · exact absurd ((begunAt_eq_some hrecorded).1.symm.trans hcall) (by simp)
  · rintro ⟨c, call, hcall, rfl⟩
    rcases act_callKept arch s.1 action c with heq | hnone | ⟨saved, hsaved, hrecorded⟩
    · refine .inr ⟨(h _).mpr ⟨c, call, heq.symm.trans hcall, rfl⟩, ?_⟩
      exact Option.isSome_of_mem hcall
    · exact absurd (hnone.symm.trans hcall) (by simp)
    · obtain rfl : saved = call := Option.some.inj (hsaved.symm.trans hcall)
      exact .inl ⟨c, hrecorded⟩

/-- The history is right along every run. -/
theorem reachable_recorded {guard : UserRuntime × List Begun → Action → Prop}
    {s : UserRuntime × List Begun} (h : (callSystem arch).Reachable guard s) : Recorded s := by
  refine h.invariant (P := Recorded) ?_ fun s action _ hs _ _ => recorded_act arch hs action
  rintro ⟨runtime, calls⟩ ⟨⟨created, active, hcreated, _, rfl⟩, hcalls⟩ begun
  obtain rfl : calls = [] := hcalls
  simp [hcreated.unstarted.pending_none]

/-- A server with a pending call has a latest one. -/
theorem latestCall_of_pending {s : UserRuntime × List Begun} (h : Recorded s)
    {server : ThreadRef} {c : ChannelRef} {call : PendingCall}
    (hcall : s.1.pending c = some call) (hserver : call.serverThread = server) :
    ∃ c' call', s.1.pending c' = some call' ∧ call'.serverThread = server ∧
      latestCall s.2 server = some (Begun.ofPending c' call') := by
  have hmem : Begun.ofPending c call ∈ s.2 := (h _).mpr ⟨c, call, hcall, rfl⟩
  cases hfind : latestCall s.2 server with
  | none =>
    have := List.find?_eq_none.mp hfind _ hmem
    simp [Begun.ofPending, hserver] at this
  | some begun =>
    obtain ⟨c', call', hcall', rfl⟩ := (h begun).mp (List.mem_of_find?_eq_some hfind)
    have hserver' := List.find?_some hfind
    exact ⟨c', call', hcall', by simpa [Begun.ofPending] using hserver', rfl⟩

/-- In every run, a server's `RPC_COMPLETE` answers the most recently begun of its pending calls
exactly when that call is on the first of its pending channels. -/
theorem complete_answers_latest_iff (arch : Arch) {s : UserRuntime × List Begun}
    (h : (callSystem arch).Reachable TransitionSystem.anyStep s) {server : ThreadRef}
    {context : UserSyscallContext} (hcurrent : s.1.currentThread = some server)
    (hsyscall : Syscall.ofNumber context.syscallNumber = some .rpcComplete)
    (hpending : ∃ c call, s.1.pending c = some call ∧ call.serverThread = server) :
    ∃ latest, latestCall s.2 server = some latest ∧
      (AnswersCall arch s.1 context server latest ↔
        s.1.findPendingChannelByServerThread server = some latest.channel) := by
  obtain ⟨c, call, hcall, hserver⟩ := hpending
  obtain ⟨ref, href⟩ := firstIndex_isSome (isPendingOn_iff.mpr ⟨call, hcall, hserver⟩)
  have hfind : s.1.findPendingChannelByServerThread server = some ref := href
  obtain ⟨found, hfound, _⟩ := findPendingChannel_some hfind
  obtain ⟨c', call', hcall', _, hlatest⟩ := latestCall_of_pending (reachable_recorded h) hcall
    hserver
  have hanswers := complete_answers arch (reachable_wellFormed h.forget)
    (reachable_tidy h.forget) hcurrent hsyscall hfind hfound
  refine ⟨_, hlatest, fun hlatestAnswers => ?_, fun hfirst => ?_⟩
  · by_contra hne
    -- The completion has ended the call on `ref`, which the latest call's ending would keep.
    have htable := hanswers.finishes.symm.trans hlatestAnswers.finishes
    have hkept := congrFun htable ref
    have href' : ref ≠ c' := fun he => hne (he ▸ hfind)
    simp only [Begun.ofPending, Function.update_self, Function.update_of_ne href', hfound] at hkept
    cases hkept
  · obtain rfl : ref = c' := Option.some.inj (hfind.symm.trans hfirst)
    obtain rfl : found = call' := Option.some.inj (hfound.symm.trans hcall')
    exact hanswers

/-- The `RPC_COMPLETE` of the first thread of the booted system. -/
def completion : UserSyscallContext := ⟨8, 0x1010, 0x1800, 0x202, 7, 0, 0, 0, 0, 0⟩

/-- A server answers a caller in slot 0 and, while doing so, calls itself through slot 1. -/
def overtakenCall : List Action :=
  [trap 3 0x1100 0x1200 0x1210 0x1800, trap 4 0x1100 0x1310 0 0x1c00,
    trap 3 0x1120 0x1240 0x1250 0x1c00, trap 3 0x1110 0x1220 0x1230 0x1800,
    trap 5 4 0x1400 1 0x1c00, trap 4 0x1110 0x1300 0 0x1800, trap 5 5 0x1400 1 0x1800]

/-- The completion of the later call ends the earlier one. -/
theorem overtakenCall_misdirected :
    ∃ s, (callSystem .x64).Reachable TransitionSystem.anyStep s ∧
      s.1.currentThread = some 0 ∧ s.1.hasRunnableThread = true ∧
      ∃ latest, latestCall s.2 0 = some latest ∧ ¬ AnswersCall .x64 s.1 completion 0 latest := by
  obtain ⟨s, hreach, hcurrent, hrunnable, hlatest⟩ := boot_reachable_history .x64 (fun _ => [])
    (recordCalls .x64) TransitionSystem.anyStep 2 overtakenCall
    (fun s => s.1.currentThread = some 0 ∧ s.1.hasRunnableThread = true ∧
      (latestCall s.2 0).any (fun call =>
        ((s.1.dispatchSyscall .x64 completion).2.pending call.channel).isSome) = true)
    rfl (by decide +kernel)
  obtain ⟨latest, hfound, hstill⟩ := (Option.any_eq_true _ _).mp hlatest
  refine ⟨s, hreach, hcurrent, hrunnable, latest, hfound, fun hanswers => ?_⟩
  rw [hanswers.finishes, Function.update_self] at hstill
  cases hstill

/-- The same nesting with the later call in the lower slot. -/
def nestedCall : List Action := strandedClient.dropLast

/-- With two calls pending, the later one in the lower slot, the completion answers it. -/
theorem nestedCall_answered :
    ∃ s latest, (callSystem .x64).Reachable TransitionSystem.anyStep s ∧
      (s.1.pending 0).isSome ∧ (s.1.pending 1).isSome ∧ latestCall s.2 0 = some latest ∧
      AnswersCall .x64 s.1 completion 0 latest := by
  obtain ⟨s, hreach, hcurrent, hfirst, hsecond, hserver, hslot⟩ := boot_reachable_history .x64
    (fun _ => []) (recordCalls .x64) TransitionSystem.anyStep 2 nestedCall
    (fun s => s.1.currentThread = some 0 ∧ (s.1.pending 0).isSome ∧ (s.1.pending 1).isSome ∧
      (s.1.pending 0).any (fun call => call.serverThread == 0) = true ∧
      (latestCall s.2 0).all (fun call =>
        s.1.findPendingChannelByServerThread 0 == some call.channel) = true)
    rfl (by decide +kernel)
  obtain ⟨call, hcall, hzero⟩ := (Option.any_eq_true _ _).mp hserver
  have hsyscall : Syscall.ofNumber completion.syscallNumber = some .rpcComplete := rfl
  obtain ⟨latest, hlatest, hiff⟩ := complete_answers_latest_iff .x64 hreach hcurrent hsyscall
    ⟨0, call, hcall, by simpa using hzero⟩
  refine ⟨s, latest, hreach, hfirst, hsecond, hlatest, hiff.mpr ?_⟩
  simpa [hlatest] using hslot

end UserRuntime

end Ringos.Kernel

import Ringos.Calls.Order

/-!
# What a syscall does to the threads

Every outcome of a syscall is stated by what it writes to the threads, to the
pending calls and to the CPU. A syscall keeps the CPU, yields it, hands it to a
server or back to a client, or ends the thread that made it.
-/

namespace Ringos.Kernel

open Ringos.Core Ringos.Scheduler UserRuntime

/-- A thread as an exit of another one leaves it: woken with the failure status if it is the client
of the call that fails. -/
def readied (arch : Arch) (status : Int32) (woken : Option ThreadRef) (before : UserRuntime)
    (t : ThreadRef) : Thread :=
  if woken = some t then ((before.thread t).setState .ready).prepareSyscallResume arch status
  else before.thread t

/-- The exit of the current thread wakes at most one client and gives the CPU to a ready thread,
if there is one. -/
structure ExitEffect (arch : Arch) (status : Int32) (before : UserRuntime) (active : ThreadRef)
    (after : UserRuntime) (woken : Option ThreadRef) : Prop where
  exited : (after.thread active).state = .exited
  pending : ∀ c call, after.pending c = some call → before.pending c = some call
  client : ∀ t, woken = some t → t ≠ active ∧ ∃ c call, before.pending c = some call ∧
    call.clientThread = t ∧ after.pending c = none
  current : ∀ t, after.currentThread = some t → t ≠ active ∧
    (readied arch status woken before t).state = .ready
  threads : ∀ t, t ≠ active → after.thread t = (readied arch status woken before t).setState
    (if after.currentThread = some t then .running
      else (readied arch status woken before t).state)

/-- What a syscall of the running thread writes to the threads, by its way of leaving the CPU. -/
inductive ThreadEffect (arch : Arch) (before : UserRuntime) (active : ThreadRef)
    (context : UserSyscallContext) (status : Int32) (after : UserRuntime) : Prop
  | stays
      (notExit : Syscall.ofNumber context.syscallNumber ≠ some .threadExit)
      (notComplete : Syscall.ofNumber context.syscallNumber = some .rpcComplete →
        before.findPendingChannelByServerThread active = none)
      (current : after.currentThread = some active)
      (threads : ∀ t, after.thread t = before.thread t)
      (pending : ∀ c call, after.pending c = some call → before.pending c = some call) :
      ThreadEffect arch before active context status after
  | yields (next : ThreadRef)
      (syscall : Syscall.ofNumber context.syscallNumber = some .rpcRegister)
      (ready : (before.thread next).state = .ready) (other : next ≠ active)
      (current : after.currentThread = some next)
      (self : after.thread active =
        ((before.thread active).prepareSyscallResume arch status).setState .ready)
      (chosen : after.thread next = (before.thread next).setState .running)
      (threads : ∀ t, t ≠ active → t ≠ next → after.thread t = before.thread t)
      (pending : after.pending = before.pending) :
      ThreadEffect arch before active context status after
  | calls (ref : ChannelRef) (server : ThreadRef)
      (callbackAddress completionAddress argument0 argument1 stackPointer : UInt64)
      (syscall : Syscall.ofNumber context.syscallNumber = some .rpcCall)
      (alive : (before.thread server).state ≠ .exited) (other : server ≠ active)
      (idle : before.pending ref = none)
      (current : after.currentThread = some server)
      (self : after.thread active = (before.thread active).setState .blocked)
      (called : after.thread server = ((before.thread server).prepareRpcResume callbackAddress
        completionAddress argument0 argument1 stackPointer).setState
          (if (before.thread server).state = .ready then .running
            else (before.thread server).state))
      (threads : ∀ t, t ≠ active → t ≠ server → after.thread t = before.thread t)
      (pending : after.pending = Function.update before.pending ref
        (some (PendingCall.save active server (before.thread server)))) :
      ThreadEffect arch before active context status after
  | callsSelf (ref : ChannelRef)
      (syscall : Syscall.ofNumber context.syscallNumber = some .rpcCall)
      (own : before.resolveCall active context = .ok (ref, active))
      (accepted : status = Status.ok) :
      ThreadEffect arch before active context status after
  | completes (ref : ChannelRef) (call : PendingCall)
      (syscall : Syscall.ofNumber context.syscallNumber = some .rpcComplete)
      (first : before.findPendingChannelByServerThread active = some ref)
      (found : before.pending ref = some call) (other : call.clientThread ≠ active)
      (current : after.currentThread = some call.clientThread)
      (self : after.thread active = call.restore (before.thread active))
      (client : after.thread call.clientThread =
        ((before.thread call.clientThread).prepareSyscallResume arch
          (statusOfArgument context.argument0)).setState .running)
      (threads : ∀ t, t ≠ active → t ≠ call.clientThread → after.thread t = before.thread t)
      (pending : after.pending = Function.update before.pending ref none) :
      ThreadEffect arch before active context status after
  | completesSelf (ref : ChannelRef) (call : PendingCall)
      (found : before.pending ref = some call)
      (self : call.clientThread = call.serverThread) :
      ThreadEffect arch before active context status after
  | exits (woken : Option ThreadRef)
      (syscall : Syscall.ofNumber context.syscallNumber = some .threadExit)
      (effect : ExitEffect arch Status.peerClosed before active after woken) :
      ThreadEffect arch before active context status after

namespace UserRuntime

variable {arch : Arch} {runtime : UserRuntime} {active : ThreadRef}

/-- What is pending after a call has been dropped was pending before. -/
theorem pending_of_update_none {table : ChannelRef → Option PendingCall} {ref c : ChannelRef}
    {call : PendingCall} (h : Function.update table ref none c = some call) :
    table c = some call := by
  by_cases hc : c = ref
  · rw [hc, Function.update_self] at h
    cases h
  · rwa [Function.update_of_ne hc] at h

/-- A switch that does not interrupt a thread only gives it the CPU. -/
theorem switchedState_of_not_running {next t : ThreadRef}
    (h : runtime.currentThread = some t → (runtime.thread t).state ≠ .running) :
    runtime.switchedState (some next) t =
      if t = next ∧ (runtime.thread t).state = .ready then .running
      else (runtime.thread t).state := by
  have hdemoted : runtime.demotedState (some next) t = (runtime.thread t).state := by
    unfold demotedState
    rw [if_neg]
    rintro ⟨ht, _, hrunning⟩
    exact h ht hrunning
  unfold switchedState
  rw [hdemoted]
  by_cases ht : t = next
  · subst ht
    simp only [true_and]
  · rw [if_neg fun h => ht (Option.some.inj h.1).symm, if_neg fun h => ht h.1]

/-- A switch interrupts the running thread. -/
theorem switchedState_of_running {next t : ThreadRef} (hcurrent : runtime.currentThread = some t)
    (hrunning : (runtime.thread t).state = .running) (hother : next ≠ t) :
    runtime.switchedState (some next) t = .ready := by
  have hne : some t ≠ some next := fun h => hother (Option.some.inj h).symm
  have hdemoted : runtime.demotedState (some next) t = .ready := by
    unfold demotedState
    rw [if_pos ⟨hcurrent, hne, hrunning⟩]
  unfold switchedState
  rw [hdemoted, if_neg fun h => hne h.1.symm]

/-- A failed call is dropped and its client woken; a call of the thread to itself wakes nobody. -/
theorem failPendingCall_effect (arch : Arch) (hw : WellFormed runtime) (active : ThreadRef)
    (status : Int32) :
    ∃ woken, (∀ t, (runtime.failPendingCall arch active status).thread t =
        readied arch status woken runtime t) ∧
      (runtime.failPendingCall arch active status).currentThread = runtime.currentThread ∧
      (∀ t, runtime.LiveThread t →
        (runtime.failPendingCall arch active status).LiveThread t) ∧
      (∀ c call, (runtime.failPendingCall arch active status).pending c = some call →
        runtime.pending c = some call) ∧
      ∀ t, woken = some t → t ≠ active ∧ ∃ c call, runtime.pending c = some call ∧
        call.clientThread = t ∧ (runtime.failPendingCall arch active status).pending c = none := by
  rcases failPendingCall_cases arch runtime active status with
    ⟨_, hsame⟩ | ⟨ref, call, _, hcall, _, hfail⟩
  · rw [hsame]
    exact ⟨none, fun t => (if_neg (by simp)).symm, rfl, fun _ h => h, fun _ _ h => h,
      fun t ht => by cases ht⟩
  · have hdropped : (runtime.cancelCall ref).pending = Function.update runtime.pending ref none :=
      pending_cancelCall
    have hsubset : ∀ c other, (runtime.cancelCall ref).pending c = some other →
        runtime.pending c = some other := by
      intro c other hc
      rw [hdropped] at hc
      exact pending_of_update_none hc
    rw [hfail]
    by_cases hself : call.clientThread = active
    · rw [if_pos hself]
      exact ⟨none, fun t => (if_neg (by simp)).symm, rfl, fun _ h => h, hsubset,
        fun t ht => by cases ht⟩
    · rw [if_neg hself]
      refine ⟨some call.clientThread, fun t => ?_, rfl,
        fun _ h => liveThread_modifyThread.mpr h, hsubset, ?_⟩
      · have hlive : (runtime.cancelCall ref).LiveThread call.clientThread :=
          hw.clientLive ref call hcall
        rw [wakeClient, thread_modifyThread hlive, readied]
        by_cases ht : t = call.clientThread
        · subst ht
          rw [if_pos rfl, if_pos rfl]
          rfl
        · rw [if_neg ht, if_neg fun h => ht (Option.some.inj h).symm]
          rfl
      · intro t ht
        obtain rfl := Option.some.inj ht
        refine ⟨hself, ref, call, hcall, rfl, ?_⟩
        change (runtime.cancelCall ref).pending ref = none
        rw [hdropped, Function.update_self]

/-- The exit of a thread. -/
theorem terminateCurrentThread_effect (arch : Arch) (hw : WellFormed runtime)
    (hcurrent : runtime.currentThread = some active) (exitStatus : UInt64)
    (peerFailureStatus : Int32) :
    ∃ woken, ExitEffect arch peerFailureStatus runtime active
      (runtime.terminateCurrentThread arch exitStatus peerFailureStatus).2 woken := by
  obtain ⟨woken, hthreads, hcur, hlives, hpending, hclient⟩ :=
    failPendingCall_effect arch hw active peerFailureStatus
  refine ⟨woken, ?_⟩
  simp only [terminateCurrentThread, hcurrent]
  have hlive : (runtime.handleThreadExit arch active peerFailureStatus).LiveThread active :=
    hlives active (hw.currentLive active hcurrent)
  have hexitThreads : ∀ t, ((runtime.handleThreadExit arch active peerFailureStatus).modifyThread
      active fun thread => (thread.setState .exited).setExitStatus exitStatus).thread t =
        if t = active then
          ((readied arch peerFailureStatus woken runtime t).setState .exited).setExitStatus
            exitStatus
        else readied arch peerFailureStatus woken runtime t := by
    intro t
    rw [thread_modifyThread hlive]
    by_cases ht : t = active
    · subst ht
      rw [if_pos rfl, if_pos rfl, ← hthreads t]
      rfl
    · rw [if_neg ht, if_neg ht, ← hthreads t]
      rfl
  have hexitCurrent : ((runtime.handleThreadExit arch active peerFailureStatus).modifyThread
      active fun thread => (thread.setState .exited).setExitStatus exitStatus).currentThread =
        some active := hcur.trans hcurrent
  have hexitPending : ((runtime.handleThreadExit arch active peerFailureStatus).modifyThread
      active fun thread => (thread.setState .exited).setExitStatus exitStatus).pending =
        (runtime.failPendingCall arch active peerFailureStatus).pending := rfl
  rw [← hexitPending] at hpending hclient
  generalize (runtime.handleThreadExit arch active peerFailureStatus).modifyThread
    active (fun thread => (thread.setState .exited).setExitStatus exitStatus) = exited
    at hexitThreads hexitCurrent hpending hclient
  have hgone : (exited.thread active).state = .exited := by
    rw [hexitThreads, if_pos rfl]
    rfl
  unfold scheduleNextReadyThread
  cases hnext : exited.findNextReadyThread exited.currentThread with
  | none =>
    refine ⟨hgone, hpending, hclient, fun t ht => (by cases ht), fun t ht => ?_⟩
    have hthread : exited.thread t = readied arch peerFailureStatus woken runtime t := by
      rw [hexitThreads, if_neg ht]
    rw [if_neg (by simp)]
    exact hthread
  | some next =>
    have hready := findNextReadyThread_ready hnext
    have hother : next ≠ active := by
      rintro rfl
      rw [hgone] at hready
      cases hready
    have hstate : ∀ t, exited.switchedState (some next) t =
        if t = next ∧ (exited.thread t).state = .ready then .running
        else (exited.thread t).state := by
      refine fun t => switchedState_of_not_running fun ht => ?_
      obtain rfl : active = t := Option.some.inj (hexitCurrent.symm.trans ht)
      rw [hgone]
      exact UserThreadState.noConfusion
    refine ⟨?_, ?_, ?_, ?_, fun t ht => ?_⟩
    · rw [thread_setCurrentThread, hstate, if_neg fun h => hother h.1.symm]
      exact hgone
    · rw [pending_setCurrentThread]
      exact hpending
    · rw [pending_setCurrentThread]
      exact hclient
    · intro t ht
      rw [setCurrentThread_currentThread] at ht
      obtain rfl := Option.some.inj ht
      rw [hexitThreads, if_neg hother] at hready
      exact ⟨hother, hready⟩
    · have hthread : exited.thread t = readied arch peerFailureStatus woken runtime t := by
        rw [hexitThreads, if_neg ht]
      rw [thread_setCurrentThread, hstate, setCurrentThread_currentThread, hthread]
      by_cases hn : t = next
      · subst hn
        rw [hthread] at hready
        rw [if_pos ⟨rfl, hready⟩, if_pos rfl]
      · rw [if_neg fun h => hn h.1, if_neg fun h => hn (Option.some.inj h).symm]

/-- The yield at the end of a registration. -/
theorem yielded_effect {context : UserSyscallContext} (hlive : runtime.LiveThread active)
    (hcurrent : runtime.currentThread = some active)
    (hrunning : (runtime.thread active).state = .running) (ref : EndpointRef)
    (endpointName : List UInt8) {nextThread : ThreadRef}
    (hsyscall : Syscall.ofNumber context.syscallNumber = some .rpcRegister)
    (hready : (runtime.thread nextThread).state = .ready) :
    ThreadEffect arch runtime active context Status.ok
      (((runtime.registerEndpoint ref active endpointName context.argument1
        context.argument2).modifyThread active
          (Thread.prepareSyscallResume arch Status.ok)).setCurrentThread (some nextThread)) := by
  have hother : nextThread ≠ active := by
    rintro rfl
    rw [hrunning] at hready
    cases hready
  have hregistered : (runtime.registerEndpoint ref active endpointName context.argument1
      context.argument2).LiveThread active := hlive
  have hself := thread_modifyThread_self hregistered
    (Thread.prepareSyscallResume arch Status.ok)
  have hrest : ∀ t, t ≠ active → ((runtime.registerEndpoint ref active endpointName
      context.argument1 context.argument2).modifyThread active
        (Thread.prepareSyscallResume arch Status.ok)).thread t = runtime.thread t :=
    fun t ht => thread_modifyThread_of_ne ht _
  have hcur : ((runtime.registerEndpoint ref active endpointName context.argument1
      context.argument2).modifyThread active
        (Thread.prepareSyscallResume arch Status.ok)).currentThread = some active := hcurrent
  have hpending : ((runtime.registerEndpoint ref active endpointName context.argument1
      context.argument2).modifyThread active
        (Thread.prepareSyscallResume arch Status.ok)).pending = runtime.pending := rfl
  change _ = (runtime.thread active).prepareSyscallResume arch Status.ok at hself
  generalize (runtime.registerEndpoint ref active endpointName context.argument1
    context.argument2).modifyThread active (Thread.prepareSyscallResume arch Status.ok) =
      prepared at hself hrest hcur hpending
  have hstate : (prepared.thread active).state = .running := by
    rw [hself]
    exact hrunning
  refine .yields nextThread hsyscall hready hother (setCurrentThread_currentThread _ _) ?_ ?_ ?_
    ((pending_setCurrentThread _).trans hpending)
  · rw [thread_setCurrentThread, switchedState_of_running hcur hstate hother, hself]
  · rw [thread_setCurrentThread, hrest nextThread hother, switchedState_of_not_running,
      hrest nextThread hother, if_pos ⟨rfl, hready⟩]
    exact fun h => absurd (Option.some.inj (hcur.symm.trans h)) (Ne.symm hother)
  · intro t ht htn
    rw [thread_setCurrentThread, switchedState_of_not_running, if_neg fun h => htn h.1,
      hrest t ht]
    · rfl
    · exact fun h => absurd (Option.some.inj (hcur.symm.trans h)) (Ne.symm ht)

/-- The hand-over to the server of an accepted call. -/
theorem called_effect {context : UserSyscallContext} (hw : WellFormed runtime)
    (hcurrent : runtime.currentThread = some active) {ref : ChannelRef}
    {serverThread : ThreadRef} (memory : ByteMemory) (requestAddress stackPointer : UInt64)
    (hsyscall : Syscall.ofNumber context.syscallNumber = some .rpcCall)
    (hresolve : runtime.resolveCall active context = .ok (ref, serverThread))
    (hne : serverThread ≠ active) :
    ThreadEffect arch runtime active context Status.ok
      ((((runtime.serverPrepared memory (runtime.endpointOf ref) serverThread requestAddress
        context.argument2 stackPointer).beginCall ref active serverThread).modifyThread active
          (Thread.setState .blocked)).setCurrentThread (some serverThread)) := by
  have hlive := hw.currentLive active hcurrent
  obtain ⟨hfind, _, howner, halive, _, _, hidle⟩ := resolveCall_ok hresolve
  obtain ⟨channel, hchannel, _⟩ := KernelObjectPool.findByHandle_eq_some hfind
  have hserver : runtime.LiveThread serverThread := hw.ownerLive _ _ howner
  generalize hdelivered : runtime.serverPrepared memory (runtime.endpointOf ref) serverThread
    requestAddress context.argument2 stackPointer = delivered
  have hcalled : delivered.thread serverThread =
      (runtime.thread serverThread).prepareRpcResume (runtime.endpointOf ref).callbackAddress
        (runtime.endpointOf ref).completionAddress requestAddress context.argument2
        stackPointer := by
    rw [← hdelivered]
    exact thread_modifyThread_self hserver _
  have hrest : ∀ t, t ≠ serverThread → delivered.thread t = runtime.thread t := by
    intro t ht
    rw [← hdelivered]
    exact thread_modifyThread_of_ne ht _
  have hitem : (delivered.channels.items ref).isSome := hdelivered ▸ Option.isSome_of_mem hchannel
  have hpending : delivered.pending = runtime.pending := hdelivered ▸ rfl
  have hcur : delivered.currentThread = some active := hdelivered ▸ hcurrent
  have hactive : (delivered.beginCall ref active serverThread).LiveThread active := by
    rw [← hdelivered]
    exact liveThread_modifyThread.mpr hlive
  have hbegun : (delivered.beginCall ref active serverThread).pending =
      Function.update runtime.pending ref
        (some (PendingCall.save active serverThread (runtime.thread serverThread))) := by
    rw [pending_beginCall hitem, hpending, hcalled]
    rfl
  have hblocked : ∀ t, ((delivered.beginCall ref active serverThread).modifyThread active
      (Thread.setState .blocked)).thread t =
        if t = active then (delivered.thread t).setState .blocked else delivered.thread t := by
    intro t
    rw [thread_modifyThread hactive]
    by_cases ht : t = active
    · subst ht
      rw [if_pos rfl, if_pos rfl]
      rfl
    · rw [if_neg ht, if_neg ht]
      rfl
  have hblockedCurrent : ((delivered.beginCall ref active serverThread).modifyThread active
      (Thread.setState .blocked)).currentThread = some active := hcur
  have hblockedPending : ((delivered.beginCall ref active serverThread).modifyThread active
      (Thread.setState .blocked)).pending = _ := hbegun
  generalize (delivered.beginCall ref active serverThread).modifyThread active
    (Thread.setState .blocked) = blocked at hblocked hblockedCurrent hblockedPending
  have hswitched : ∀ t, blocked.switchedState (some serverThread) t =
      if t = serverThread ∧ (blocked.thread t).state = .ready then .running
      else (blocked.thread t).state := by
    refine fun t => switchedState_of_not_running fun ht => ?_
    obtain rfl : active = t := Option.some.inj (hblockedCurrent.symm.trans ht)
    rw [hblocked, if_pos rfl]
    exact UserThreadState.noConfusion
  refine .calls ref serverThread (runtime.endpointOf ref).callbackAddress
    (runtime.endpointOf ref).completionAddress requestAddress context.argument2 stackPointer hsyscall
    halive hne hidle (setCurrentThread_currentThread _ _) ?_ ?_ ?_
    ((pending_setCurrentThread _).trans hblockedPending)
  · rw [thread_setCurrentThread, hswitched, if_neg fun h => hne h.1.symm, hblocked, if_pos rfl,
      hrest active (Ne.symm hne)]
    rfl
  · rw [thread_setCurrentThread, hswitched, hblocked, if_neg hne, hcalled]
    simp only [true_and]
    rfl
  · intro t ht hts
    rw [thread_setCurrentThread, hswitched, if_neg fun h => hts h.1, hblocked, if_neg ht,
      hrest t hts]
    rfl

/-- Every syscall of the running thread has one of the listed effects. -/
theorem outcome_effect {context : UserSyscallContext} {result : Int32 × UserRuntime}
    (hw : WellFormed runtime) (htidy : Tidy runtime.picture)
    (hcurrent : runtime.currentThread = some active)
    (hrunning : (runtime.thread active).state = .running)
    (h : SyscallOutcome arch runtime active context result) :
    ThreadEffect arch runtime active context result.1 result.2 := by
  have hlive := hw.currentLive active hcurrent
  have hnot : ∀ {syscall other : Syscall},
      Syscall.ofNumber context.syscallNumber = some syscall → syscall ≠ other →
        Syscall.ofNumber context.syscallNumber ≠ some other := by
    intro syscall other hs hne ho
    exact hne (Option.some.inj (hs.symm.trans ho))
  cases h with
  | kept status memory debugLog hkept hcomplete _ =>
    refine .stays ?_ hcomplete hcurrent (fun _ => rfl) fun _ _ hc => hc
    exact fun hexit => (hkept _ hexit).1 rfl
  | exited hsyscall =>
    obtain ⟨woken, heffect⟩ := terminateCurrentThread_effect arch hw hcurrent
      context.argument0 Status.peerClosed
    exact .exits woken hsyscall heffect
  | registered ref endpointName hsyscall _ =>
    refine .stays (hnot hsyscall (by decide)) (fun hc => ?_) hcurrent (fun _ => rfl)
      fun _ _ hc => hc
    exact absurd hc (hnot hsyscall (by decide))
  | yielded ref endpointName nextThread hsyscall _ hready _ =>
    exact yielded_effect hlive hcurrent hrunning ref endpointName hsyscall hready
  | opened ref endpoint endpointName serverThread channels next memory hsyscall _ _ _ hemplace =>
    refine .stays (hnot hsyscall (by decide)) (fun hc => ?_) hcurrent (fun _ => rfl) ?_
    · exact absurd hc (hnot hsyscall (by decide))
    · intro c call hc
      rwa [pending_emplace hemplace] at hc
  | openFailed status ref endpoint channels next memory hsyscall _ hemplace =>
    refine .stays (hnot hsyscall (by decide)) (fun hc => ?_) hcurrent (fun _ => rfl) ?_
    · exact absurd hc (hnot hsyscall (by decide))
    · intro c call hc
      obtain ⟨erased, hpending, _⟩ := pending_openFailed memory hemplace
      rw [hpending] at hc
      exact pending_of_update_none hc
  | called ref serverThread memory requestAddress stackPointer hsyscall hresolve hne =>
    exact called_effect hw hcurrent memory requestAddress stackPointer hsyscall hresolve hne
  | calledSelf ref memory requestAddress stackPointer hsyscall hresolve =>
    exact .callsSelf ref hsyscall hresolve rfl
  | closed ref hsyscall hfind _ =>
    refine .stays (hnot hsyscall (by decide)) (fun hc => ?_) hcurrent (fun _ => rfl) ?_
    · exact absurd hc (hnot hsyscall (by decide))
    · intro c call hc
      rw [pending_eraseByHandle runtime hfind] at hc
      exact pending_of_update_none hc
  | completed ref call hsyscall hfind hcall hne =>
    obtain ⟨found, hfound, hserver⟩ := findPendingChannel_some hfind
    obtain rfl : call = found := Option.some.inj (hcall.symm.trans hfound)
    subst hserver
    have hthread := thread_completed arch ref hcurrent hlive (hw.clientLive ref call hfound) hne
      (saved_not_running htidy hfound hne) (statusOfArgument context.argument0)
    refine .completes ref call hsyscall hfind hfound hne (setCurrentThread_currentThread _ _)
      ?_ ?_ ?_ ((pending_setCurrentThread _).trans pending_finishCall)
    · rw [hthread, if_neg (Ne.symm hne), if_pos rfl]
    · rw [hthread, if_pos rfl]
    · intro t ht htc
      rw [hthread, if_neg htc, if_neg ht]
  | completedSelf ref call hsyscall hfind hcall hself =>
    obtain ⟨found, hfound, hserver⟩ := findPendingChannel_some hfind
    obtain rfl : call = found := Option.some.inj (hcall.symm.trans hfound)
    exact .completesSelf ref call hfound (hself.trans hserver.symm)

end UserRuntime

end Ringos.Kernel

import Ringos.Scheduler.Exits
import Ringos.Calls.Binding

/-!
# What an exited thread can no longer do

In runs whose steps are taken while a thread is runnable, a thread that has
exited keeps its state and its exit status, is off the CPU for good, owns no
endpoint and is the server of no new channel and of no new call.
-/

namespace Ringos.Kernel

open Ringos.Core Ringos.Scheduler

namespace UserRuntime

variable {arch : Arch} {runtime : UserRuntime}

/-- Steps are taken only while `has_runnable_thread` holds. -/
def WhileRunnable (runtime : UserRuntime) (_ : Action) : Prop := runtime.hasRunnableThread = true

instance (runtime : UserRuntime) (action : Action) : Decidable (runtime.WhileRunnable action) :=
  inferInstanceAs (Decidable (_ = _))

/-- A step opens a channel to an endpoint of the thread, or begins a call on it. -/
def Targets (before after : UserRuntime) (t : ThreadRef) : Prop :=
  (∃ c channel, before.channels.items c = none ∧ after.channels.items c = some channel ∧
    (after.endpoints channel.endpoint).ownerThread = some t) ∨
  ∃ c call, before.pending c = none ∧ after.pending c = some call ∧ call.serverThread = t

/-- A thread that is gone for good, with the status it left. -/
structure Gone (arch : Arch) (runtime : UserRuntime) (t : ThreadRef) (exitStatus : UInt64) :
    Prop where
  exited : (runtime.thread t).state = .exited
  exitStatus : (runtime.thread t).exitStatus = exitStatus
  notCurrent : runtime.currentThread ≠ some t
  ownsNoEndpoint : ∀ e, (runtime.endpoints e).isInUse = true →
    (runtime.endpoints e).ownerThread ≠ some t
  notTargeted : ∀ context,
    Syscall.ofNumber context.syscallNumber = some .rpcOpen ∨
      Syscall.ofNumber context.syscallNumber = some .rpcCall →
    (runtime.dispatchSyscall arch context).1 = Status.ok →
      ¬ Targets runtime (runtime.dispatchSyscall arch context).2 t

/-- The owner of an endpoint has not exited. -/
def OwnersAlive (runtime : UserRuntime) : Prop :=
  ∀ e t, (runtime.endpoints e).ownerThread = some t → (runtime.thread t).state ≠ .exited

/-- Every step of a run is a step of the scheduler. -/
theorem act_anyStep {guard : UserRuntime → Action → Prop} {action : Action}
    (h : (runtimeSystem arch).Reachable guard runtime) (hmay : runtime.mayAct action = true) :
    Step ⟨false, false⟩ runtime.picture (runtime.act arch action).picture :=
  act_step (reachable_wellFormed h) (reachable_tidy h) arch hmay (fun hs => by cases hs)
    fun hs => by cases hs

/-- While a thread is runnable, the thread on the CPU runs. -/
theorem running_of_whileRunnable {action : Action} (htidy : Tidy runtime.picture)
    (hrunnable : runtime.WhileRunnable action) (active : ThreadRef)
    (hcurrent : runtime.picture.current = some active) :
    runtime.picture.state active = .running :=
  running_of_mayAct htidy hcurrent hrunnable

theorem reachable_clientsBlocked
    (h : (runtimeSystem arch).Reachable WhileRunnable runtime) :
    ClientsBlocked runtime.picture := by
  refine h.invariant (P := fun s => ClientsBlocked s.picture) ?_ ?_
  · intro s hs
    have hsound := Started.sound hs
    exact ⟨hsound.toTidy, hsound.clientBlocked, hsound.savedBlocked, hsound.oneCall⟩
  · intro s action hreach hblocked hmay hrunnable
    exact (act_anyStep hreach hmay).clientsBlocked
      (running_of_whileRunnable hblocked.toTidy hrunnable) hblocked

/-- A switch exits nobody. -/
theorem switchedState_ne_exited {next : Option ThreadRef} {ref : ThreadRef}
    (h : (runtime.thread ref).state ≠ .exited) : runtime.switchedState next ref ≠ .exited := by
  unfold switchedState demotedState
  split_ifs <;> simp_all

/-- A syscall that is not an exit leaves the thread that made it alive. -/
theorem outcome_active_alive {active : ThreadRef} {context : UserSyscallContext}
    {result : Int32 × UserRuntime} (hw : WellFormed runtime) (htidy : Tidy runtime.picture)
    (hcurrent : runtime.currentThread = some active)
    (hrunning : (runtime.thread active).state = .running)
    (hexit : Syscall.ofNumber context.syscallNumber ≠ some .threadExit)
    (h : SyscallOutcome arch runtime active context result) :
    (result.2.thread active).state ≠ .exited := by
  have hlive := hw.currentLive active hcurrent
  have halive : (runtime.thread active).state ≠ .exited := by simp [hrunning]
  have hsaved : ∀ ref call, runtime.pending ref = some call → call.savedServerState ≠ .exited := by
    intro ref call hcall hx
    by_cases hself : call.clientThread = call.serverThread
    · have := htidy.savedSelf ref _ (picture_pending_of hcall) hself
      simp [PendingCall.toCall, hx] at this
    · have := htidy.savedOther ref _ (picture_pending_of hcall) hself
      simp [PendingCall.toCall, hx] at this
  cases h with
  | kept status memory debugLog _ _ _ => exact halive
  | exited hsyscall => exact absurd hsyscall hexit
  | registered ref endpointName _ _ => exact halive
  | yielded ref endpointName nextThread _ _ _ _ =>
    rw [thread_setCurrentThread]
    refine switchedState_ne_exited ?_
    refine Eq.trans_ne (thread_modifyThread_keeps Thread.state ?_ active) halive
    exact fun _ => rfl
  | opened ref endpoint endpointName serverThread channels next memory _ _ _ _ _ => exact halive
  | openFailed status ref endpoint channels next memory _ _ _ => exact halive
  | called ref serverThread memory requestAddress stackPointer _ _ _ =>
    rw [thread_setCurrentThread]
    refine switchedState_ne_exited ?_
    have hbegun : ((runtime.serverPrepared memory (runtime.endpointOf ref) serverThread
        requestAddress context.argument2 stackPointer).beginCall ref active
          serverThread).LiveThread active := liveThread_modifyThread.mpr hlive
    rw [thread_modifyThread_self hbegun]
    exact UserThreadState.noConfusion
  | calledSelf ref memory requestAddress stackPointer _ _ =>
    have hprepared : ((runtime.serverPrepared memory (runtime.endpointOf ref) active
        requestAddress context.argument2 stackPointer).thread active).state =
          (runtime.thread active).state :=
      thread_serverPrepared_keeps Thread.state (fun _ _ _ _ _ _ => rfl) active
    exact hprepared.trans_ne halive
  | closed ref _ _ _ => exact halive
  | completed ref call _ hfind hcall hne =>
    obtain ⟨found, hfound, hserver⟩ := findPendingChannel_some hfind
    obtain rfl : call = found := Option.some.inj (hcall.symm.trans hfound)
    subst hserver
    rw [thread_setCurrentThread]
    refine switchedState_ne_exited ?_
    rw [wakeClient, thread_modifyThread_of_ne (Ne.symm hne)]
    change ((runtime.modifyThread call.serverThread call.restore).thread _).state ≠ _
    rw [thread_modifyThread_self hlive]
    exact hsaved ref call hfound
  | completedSelf ref call _ hfind hcall hself =>
    obtain ⟨found, hfound, hserver⟩ := findPendingChannel_some hfind
    obtain rfl : call = found := Option.some.inj (hcall.symm.trans hfound)
    subst hserver
    change ((runtime.modifyThread call.serverThread call.restore).thread _).state ≠ _
    rw [thread_modifyThread_self hlive]
    exact hsaved ref call hfound

/-- What an action exits is the thread on the CPU. -/
theorem current_of_exiting {action : Action} {t : ThreadRef}
    (h : runtime.exiting action = some t) : runtime.currentThread = some t := by
  cases action with
  | syscall context =>
    simp only [exiting] at h
    split at h
    · exact h
    · cases h
  | terminate _ _ => exact h
  | userStores _ => cases h
  | saveRegisters _ _ => cases h
  | prepareResume _ => cases h

/-- A thread is exited after an action because it was before or because the action exits it. -/
theorem act_exited {action : Action} {t : ThreadRef} (hw : WellFormed runtime)
    (htidy : Tidy runtime.picture) (hrunnable : runtime.WhileRunnable action)
    (hstep : Step ⟨false, false⟩ runtime.picture (runtime.act arch action).picture)
    (h : ((runtime.act arch action).thread t).state = .exited) :
    (runtime.thread t).state = .exited ∨ runtime.exiting action = some t := by
  rcases hstep.exited_cases htidy h with hbefore | hcurrent
  · exact .inl hbefore
  replace hcurrent : runtime.currentThread = some t := hcurrent
  have hrunning := running_of_mayAct htidy hcurrent hrunnable
  cases action with
  | syscall context =>
    by_cases hexit : Syscall.ofNumber context.syscallNumber = some .threadExit
    · exact .inr (by rw [exiting, if_pos hexit, hcurrent])
    · -- Any other syscall leaves its caller alive.
      have hentered : (runtime.enterSyscall t context).picture = runtime.picture :=
        picture_modifyThread_of_state fun _ => rfl
      have hstate := congrFun (congrArg State.state hentered) t
      have halive := outcome_active_alive (hw.enterSyscall t context) (hentered.symm ▸ htidy)
        hcurrent (hstate.trans hrunning) hexit (dispatchActive_outcome arch _ t context)
      simp only [act, dispatchSyscall, hcurrent] at h
      exact absurd h halive
  | terminate exitStatus peerFailureStatus => exact .inr hcurrent
  | userStores memory => exact .inl h
  | saveRegisters registers simdQwords =>
    simp only [act, modifyCurrentThread, hcurrent] at h
    rw [thread_modifyThread_self (hw.currentLive t hcurrent)] at h
    exact .inl h
  | prepareResume status =>
    simp only [act, modifyCurrentThread, hcurrent] at h
    rw [thread_modifyThread_self (hw.currentLive t hcurrent)] at h
    exact .inl h

/-- An endpoint is owned after an action by its owner before or by the thread on the CPU, and
not by the thread that the action exits. -/
theorem act_owner {action : Action} {e : EndpointRef} {t : ThreadRef}
    (h : ((runtime.act arch action).endpoints e).ownerThread = some t) :
    ((runtime.endpoints e).ownerThread = some t ∨ runtime.currentThread = some t) ∧
      runtime.exiting action ≠ some t := by
  have hcleared : ∀ {active after}, idleEndpoint after = (fun e => if (runtime.idleEndpoint e).ownerThread = some active
        then RpcEndpoint.cleared else runtime.idleEndpoint e) →
      (after.endpoints e).ownerThread = some t →
      (runtime.endpoints e).ownerThread = some t ∧ some active ≠ some t := by
    intro active after hendpoints howner
    have hidle : (after.idleEndpoint e).ownerThread = some t := howner
    rw [hendpoints] at hidle
    dsimp only at hidle
    split at hidle
    · cases hidle
    · rename_i hother
      have hbefore : (runtime.endpoints e).ownerThread = some t := hidle
      exact ⟨hbefore, fun he => hother (hidle.trans he.symm)⟩
  cases hcurrent : runtime.currentThread with
  | none =>
    have hsame : (runtime.act arch action).endpoints = runtime.endpoints := by
      cases action with
      | syscall context => simp only [act, dispatchSyscall, hcurrent]
      | terminate exitStatus peerFailureStatus => simp only [act, terminateCurrentThread, hcurrent]
      | userStores memory => rfl
      | saveRegisters registers simdQwords => simp only [act, modifyCurrentThread, hcurrent]
      | prepareResume status => simp only [act, modifyCurrentThread, hcurrent]
    refine ⟨.inl (hsame ▸ h), fun hexiting => ?_⟩
    rw [current_of_exiting hexiting] at hcurrent
    cases hcurrent
  | some active =>
    cases action with
    | syscall context =>
      simp only [act] at h
      simp only [exiting]
      cases dispatchSyscall_endpoints arch context hcurrent with
      | kept hsyscall hendpoints =>
        have hidle := (congrArg RpcEndpoint.ownerThread (congrFun hendpoints e)).symm.trans h
        exact ⟨.inl hidle, by simp [hsyscall]⟩
      | registered ref endpointName hsyscall hresolve hendpoints =>
        have hidle := (congrArg RpcEndpoint.ownerThread (congrFun hendpoints e)).symm.trans h
        refine ⟨?_, by simp [hsyscall]⟩
        rw [Function.update_apply] at hidle
        split at hidle
        · exact .inr hidle
        · exact .inl hidle
      | exited hsyscall hendpoints =>
        obtain ⟨hbefore, hne⟩ := hcleared hendpoints h
        exact ⟨.inl hbefore, by simpa [hsyscall, hcurrent] using hne⟩
    | terminate exitStatus peerFailureStatus =>
      obtain ⟨hbefore, hne⟩ := hcleared
        (terminateCurrentThread_bindings arch hcurrent exitStatus peerFailureStatus).2 h
      exact ⟨.inl hbefore, by simpa [exiting, hcurrent] using hne⟩
    | userStores memory => exact ⟨.inl h, fun hs => by cases hs⟩
    | saveRegisters registers simdQwords =>
      simp only [act, modifyCurrentThread, hcurrent] at h
      exact ⟨.inl h, fun hs => by cases hs⟩
    | prepareResume status =>
      simp only [act, modifyCurrentThread, hcurrent] at h
      exact ⟨.inl h, fun hs => by cases hs⟩

/-- What is read of a thread does not depend on what the scheduler and the ends of syscalls
write. -/
structure Unwritten {β : Type} (g : Thread → β) : Prop where
  state : ∀ state thread, g (Thread.setState state thread) = g thread
  syscall : ∀ arch status thread, g (Thread.prepareSyscallResume arch status thread) = g thread
  callback : ∀ callbackAddress completionAddress argument0 argument1 stackPointer thread,
    g (Thread.prepareRpcResume callbackAddress completionAddress argument0 argument1 stackPointer
      thread) = g thread

section Unwritten

variable {β : Type} {g : Thread → β} {t : ThreadRef}

/-- The exit of a thread keeps what the exit status of the exited thread is no part of. -/
theorem terminateCurrentThread_keeps (hg : Unwritten g) (exitStatus : UInt64)
    (peerFailureStatus : Int32)
    (hexit : runtime.currentThread = some t →
      ∀ exitStatus thread, g (Thread.setExitStatus exitStatus thread) = g thread) :
    g ((runtime.terminateCurrentThread arch exitStatus peerFailureStatus).2.thread t) =
      g (runtime.thread t) := by
  unfold terminateCurrentThread
  cases hcurrent : runtime.currentThread with
  | none => rfl
  | some active =>
    have hfailed : g ((runtime.failPendingCall arch active peerFailureStatus).thread t) =
        g (runtime.thread t) := by
      refine failPendingCall_keeps (fun runtime => g (runtime.thread t)) arch runtime active
        peerFailureStatus (fun _ => rfl) fun _ _ => ?_
      refine thread_modifyThread_keeps g (fun thread => ?_) t
      rw [hg.syscall, hg.state]
    refine (scheduleNextReadyThread_keeps (fun runtime => g (runtime.thread t)) _
      (fun next => ?_) rfl).trans ?_
    · simp only [thread_setCurrentThread, hg.state]
    by_cases ht : t = active
    · subst ht
      refine (thread_modifyThread_keeps g (fun thread => ?_) t).trans hfailed
      rw [hexit hcurrent, hg.state]
    · rw [thread_modifyThread_of_ne ht]
      exact hfailed

/-- So does a syscall, unless it gives back what a call has saved. -/
theorem outcome_keeps (hg : Unwritten g) {active : ThreadRef} {context : UserSyscallContext}
    {result : Int32 × UserRuntime} (h : SyscallOutcome arch runtime active context result)
    (hexit : runtime.currentThread = some t →
      ∀ exitStatus thread, g (Thread.setExitStatus exitStatus thread) = g thread)
    (hrestore : ∀ ref call, Syscall.ofNumber context.syscallNumber = some .rpcComplete →
      runtime.findPendingChannelByServerThread active = some ref →
      runtime.pending ref = some call → t = call.serverThread →
      ∀ thread, g (call.restore thread) = g thread) :
    g (result.2.thread t) = g (runtime.thread t) := by
  have hfinished : ∀ ref call, Syscall.ofNumber context.syscallNumber = some .rpcComplete →
      runtime.findPendingChannelByServerThread active = some ref →
      runtime.pending ref = some call →
      g ((runtime.finishCall ref call).thread t) = g (runtime.thread t) := by
    intro ref call hsyscall hfind hcall
    by_cases ht : t = call.serverThread
    · exact thread_modifyThread_keeps g (hrestore ref call hsyscall hfind hcall ht) t
    · exact congrArg g (thread_modifyThread_of_ne ht _)
  cases h with
  | kept status memory debugLog _ _ _ => rfl
  | exited _ => exact terminateCurrentThread_keeps hg _ _ hexit
  | registered ref endpointName _ _ => rfl
  | yielded ref endpointName nextThread _ _ _ _ =>
    rw [thread_setCurrentThread, hg.state]
    exact thread_modifyThread_keeps g (hg.syscall arch Status.ok) t
  | opened ref endpoint endpointName serverThread channels next memory _ _ _ _ _ => rfl
  | openFailed status ref endpoint channels next memory _ _ _ => rfl
  | called ref serverThread memory requestAddress stackPointer _ _ _ =>
    refine (switched_keeps g hg.state t).trans ?_
    exact thread_serverPrepared_keeps g hg.callback t
  | calledSelf ref memory requestAddress stackPointer _ _ =>
    exact thread_serverPrepared_keeps g hg.callback t
  | closed ref _ _ _ => rfl
  | completed ref call hsyscall hfind hcall _ =>
    rw [thread_setCurrentThread, hg.state]
    refine (thread_modifyThread_keeps g (fun thread => ?_) t).trans
      (hfinished ref call hsyscall hfind hcall)
    rw [hg.syscall, hg.state]
  | completedSelf ref call hsyscall hfind hcall _ => exact hfinished ref call hsyscall hfind hcall

/-- And so does every action, which may also write the context and the saved registers. -/
theorem act_keeps (hg : Unwritten g) (hrestore : ∀ call thread, g (PendingCall.restore call thread) =
      g thread)
    (hcontext : ∀ userContext thread, g (Thread.setUserContext userContext thread) = g thread)
    (hsave : ∀ registers simdQwords thread,
      g (Thread.setArchPreserved registers simdQwords thread) = g thread)
    (action : Action)
    (hexit : runtime.currentThread = some t →
      ∀ exitStatus thread, g (Thread.setExitStatus exitStatus thread) = g thread) :
    g ((runtime.act arch action).thread t) = g (runtime.thread t) := by
  cases action with
  | syscall context =>
    simp only [act, dispatchSyscall]
    cases hcurrent : runtime.currentThread with
    | none => rfl
    | some active =>
      have hkept := outcome_keeps hg (dispatchActive_outcome arch
        (runtime.enterSyscall active context) active context) hexit fun _ call _ _ _ _ =>
          hrestore call
      exact hkept.trans (thread_enterSyscall_keeps g hcontext t)
  | terminate exitStatus peerFailureStatus =>
    exact terminateCurrentThread_keeps hg exitStatus peerFailureStatus hexit
  | userStores memory => rfl
  | saveRegisters registers simdQwords =>
    simp only [act, modifyCurrentThread]
    split
    · rfl
    · exact thread_modifyThread_keeps g (hsave registers simdQwords) t
  | prepareResume status =>
    simp only [act, modifyCurrentThread]
    split
    · rfl
    · exact thread_modifyThread_keeps g (hg.syscall arch status) t

end Unwritten

/-- An action leaves the exit status of a thread that is off the CPU alone. -/
theorem act_exitStatus (action : Action) {t : ThreadRef} (ht : runtime.currentThread ≠ some t) :
    ((runtime.act arch action).thread t).exitStatus = (runtime.thread t).exitStatus := by
  have hunwritten : Unwritten Thread.exitStatus :=
    ⟨fun _ _ => rfl, fun _ _ _ => rfl, fun _ _ _ _ _ _ => rfl⟩
  exact act_keeps hunwritten (fun _ _ => rfl) (fun _ _ => rfl) (fun _ _ _ => rfl) action
    fun hcurrent => absurd hcurrent ht

/-- In runs of runnable threads no endpoint is owned by an exited thread. -/
theorem reachable_ownersAlive
    (h : (runtimeSystem arch).Reachable WhileRunnable runtime) : OwnersAlive runtime := by
  refine h.invariant (P := OwnersAlive) ?_ ?_
  · rintro s ⟨created, thread, hcreated, _, rfl⟩ e t howner
    rw [setCurrentThread_endpoints, hcreated.unstarted.noEndpoint e] at howner
    cases howner
  · intro s action hreach halive hmay hrunnable e t howner hexited
    have htidy := reachable_tidy hreach
    obtain ⟨hbefore, hnot⟩ := act_owner howner
    rcases act_exited (reachable_wellFormed hreach) htidy hrunnable (act_anyStep hreach hmay)
      hexited with hgone | hexiting
    · rcases hbefore with hstill | hcurrent
      · exact halive e t hstill hgone
      · have hrunning := running_of_mayAct htidy hcurrent hrunnable
        rw [hgone] at hrunning
        cases hrunning
    · exact hnot hexiting

/-- A call is begun on a channel that exists. -/
theorem beginCall_items {ref c : ChannelRef} {client server : ThreadRef} {channel : RpcChannel}
    (h : (runtime.beginCall ref client server).channels.items c = some channel) :
    (runtime.channels.items c).isSome = true := by
  have hitem := Option.isSome_of_mem h
  rwa [show ((runtime.beginCall ref client server).channels.items c).isSome =
    (runtime.channels.items c).isSome from KernelObjectPool.modify_items_isSome _ _ _ _] at hitem

/-- A call that was not pending before is the one that has begun. -/
theorem beginCall_server {ref c : ChannelRef} {client server : ThreadRef} {call : PendingCall}
    (hafter : (runtime.beginCall ref client server).pending c = some call)
    (href : (runtime.channels.items ref).isSome) (hbefore : runtime.pending c = none) :
    call.serverThread = server := by
  rw [pending_beginCall href, Function.update_apply] at hafter
  split at hafter
  · exact Option.some.inj hafter ▸ rfl
  · rw [hbefore] at hafter
    cases hafter

/-- A syscall that succeeds opens channels to, and begins calls on, threads that have not
exited. -/
theorem outcome_targets {active t : ThreadRef} {context : UserSyscallContext}
    {result : Int32 × UserRuntime} (halive : OwnersAlive runtime)
    (hsyscall : Syscall.ofNumber context.syscallNumber = some .rpcOpen ∨
      Syscall.ofNumber context.syscallNumber = some .rpcCall)
    (hok : result.1 = Status.ok) (h : SyscallOutcome arch runtime active context result)
    (htargets : Targets runtime result.2 t) : (runtime.thread t).state ≠ .exited := by
  have hnot : ∀ {syscall}, Syscall.ofNumber context.syscallNumber = some syscall →
      syscall = .rpcOpen ∨ syscall = .rpcCall := by
    intro syscall hs
    simpa [hs] using hsyscall
  cases h with
  | kept status memory debugLog hstatus _ _ =>
    rcases hsyscall with hs | hs
    · exact absurd hok ((hstatus _ hs).2 (by decide))
    · exact absurd hok ((hstatus _ hs).2 (by decide))
  | exited hs => exact absurd (hnot hs) (by decide)
  | registered ref endpointName hs _ => exact absurd (hnot hs) (by decide)
  | yielded ref endpointName nextThread hs _ _ _ => exact absurd (hnot hs) (by decide)
  | opened ref endpoint endpointName serverThread channels next memory hs _ _ _ hemplace =>
    rcases htargets with ⟨c, channel, _, _, howner⟩ | ⟨c, call, hbefore, hafter, _⟩
    · exact halive _ t howner
    · rw [pending_emplace hemplace, hbefore] at hafter
      cases hafter
  | openFailed status ref endpoint channels next memory hs hstatus _ => exact absurd hok hstatus
  | called ref serverThread memory requestAddress stackPointer _ hresolve _ =>
    obtain ⟨hfind, _, _, hserver, _, _, _⟩ := resolveCall_ok hresolve
    obtain ⟨slot, hslot, _⟩ := KernelObjectPool.findByHandle_eq_some hfind
    rcases htargets with ⟨c, channel, hfree, hnew, _⟩ | ⟨c, call, hbefore, hafter, rfl⟩
    · rw [setCurrentThread_channels] at hnew
      exact absurd (beginCall_items hnew) (by simp [serverPrepared, hfree])
    · rw [pending_setCurrentThread] at hafter
      have hbegun : ((runtime.serverPrepared memory (runtime.endpointOf ref) serverThread
          requestAddress context.argument2 stackPointer).beginCall ref active
            serverThread).pending c = some call := hafter
      obtain rfl := beginCall_server hbegun (Option.isSome_of_mem hslot) hbefore
      exact hserver
  | calledSelf ref memory requestAddress stackPointer _ hresolve =>
    obtain ⟨hfind, _, _, hserver, _, _, _⟩ := resolveCall_ok hresolve
    obtain ⟨slot, hslot, _⟩ := KernelObjectPool.findByHandle_eq_some hfind
    rcases htargets with ⟨c, channel, hfree, hnew, _⟩ | ⟨c, call, hbefore, hafter, rfl⟩
    · exact absurd (beginCall_items hnew) (by simp [serverPrepared, hfree])
    · have hbegun : ((runtime.serverPrepared memory (runtime.endpointOf ref) active
          requestAddress context.argument2 stackPointer).beginCall ref active active).pending c =
            some call := hafter
      obtain rfl := beginCall_server hbegun (Option.isSome_of_mem hslot) hbefore
      exact hserver
  | closed ref hs _ _ => exact absurd (hnot hs) (by decide)
  | completed ref call hs _ _ _ => exact absurd (hnot hs) (by decide)
  | completedSelf ref call hs _ _ _ => exact absurd (hnot hs) (by decide)

/-- In a run of runnable threads a thread that has exited is gone. -/
theorem reachable_gone (h : (runtimeSystem arch).Reachable WhileRunnable runtime) {t : ThreadRef}
    (ht : (runtime.thread t).state = .exited) :
    Gone arch runtime t (runtime.thread t).exitStatus := by
  have halive := reachable_ownersAlive h
  refine ⟨ht, rfl, fun hcurrent => ?_, fun e _ howner => halive e t howner ht, ?_⟩
  · rcases (reachable_tidy h).currentActive t hcurrent with hrunning | hblocked
    · exact absurd (ht.symm.trans hrunning) (by decide)
    · exact absurd (ht.symm.trans hblocked) (by decide)
  · intro context hsyscall hok htargets
    unfold dispatchSyscall at hok htargets
    cases hcurrent : runtime.currentThread with
    | none =>
      rw [hcurrent] at hok
      cases hok
    | some active =>
      rw [hcurrent] at hok htargets
      have hstate : ∀ t, ((runtime.enterSyscall active context).thread t).state =
          (runtime.thread t).state := thread_enterSyscall_keeps Thread.state fun _ _ => rfl
      have hentered : OwnersAlive (runtime.enterSyscall active context) := fun e t howner =>
        (hstate t).trans_ne (halive e t howner)
      refine outcome_targets hentered hsyscall hok (dispatchActive_outcome arch _ active context)
        htargets ?_
      exact (hstate t).trans ht

/-- Once a thread has exited, it is gone in every later state, with the same exit status. -/
theorem exit_final (arch : Arch) {runtime later : UserRuntime} {t : ThreadRef}
    (h : (runtimeSystem arch).Reachable WhileRunnable runtime)
    (ht : (runtime.thread t).state = .exited)
    (hlater : (runtimeSystem arch).Later WhileRunnable runtime later) :
    Gone arch later t (runtime.thread t).exitStatus := by
  have hstays : (later.thread t).state = .exited ∧
      (later.thread t).exitStatus = (runtime.thread t).exitStatus := by
    refine hlater.stable (P := fun s => (s.thread t).state = .exited ∧
      (s.thread t).exitStatus = (runtime.thread t).exitStatus) ?_ h ⟨ht, rfl⟩
    rintro s action hreach ⟨hexited, hstatus⟩ hmay _
    have hstep := act_anyStep hreach hmay
    refine ⟨hstep.exited_stays (reachable_clientsBlocked hreach) hexited, ?_⟩
    exact (act_exitStatus action (reachable_gone hreach hexited).notCurrent).trans hstatus
  exact hstays.2 ▸ reachable_gone (h.later hlater) hstays.1

/-- The first thread registers an endpoint and exits; the second then looks for it. -/
theorem exitedServer_gone :
    ∃ runtime later, (runtimeSystem .x64).Reachable WhileRunnable runtime ∧
      (runtime.thread 0).state = .exited ∧ (runtime.thread 0).exitStatus = 7 ∧
      later.currentThread = some 1 ∧ Gone .x64 later 0 7 := by
  obtain ⟨runtime, hreach, hexited, hstatus, hrun⟩ := boot_reachable .x64 WhileRunnable 2
    [trap 3 0x1100 0x1200 0x1210 0x1800, trap 3 0x1110 0x1220 0x1230 0x1c00,
      trap 2 7 0 0 0x1800]
    (fun s => (s.thread 0).state = .exited ∧ (s.thread 0).exitStatus = 7 ∧
      ((runtimeSystem .x64).runs (fun s a => s.mayAct a && decide (s.WhileRunnable a)) s
        [trap 4 0x1100 0x1300 0 0x1c00]).any (fun s => decide (s.currentThread = some 1)) = true)
    rfl (by decide +kernel)
  obtain ⟨later, hlater, hcurrent⟩ := (Option.any_eq_true _ _).mp hrun
  refine ⟨runtime, later, hreach, hexited, hstatus, of_decide_eq_true hcurrent, ?_⟩
  rw [← hstatus]
  refine exit_final .x64 hreach hexited (TransitionSystem.runs_later ?_ hlater)
  intro s a hok
  simpa [runtimeSystem] using hok

end UserRuntime

end Ringos.Kernel

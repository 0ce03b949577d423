import Ringos.Scheduler.Refinement

/-!
# The scheduler over whole runs

The runs of the runtime keep their current thread running, and their blocked
clients attached to a live server, exactly as long as they avoid the steps that
`KeepsRunning` and `KeepsClients` name. Short runs of a booted system show that
neither condition can be dropped.
-/

namespace Ringos.Kernel

open Ringos.Core Ringos.Scheduler

namespace UserRuntime

variable {runtime : UserRuntime}

/-- A running current thread and no other running thread, or every thread has exited. -/
def Scheduled (runtime : UserRuntime) : Prop :=
  (runtime.currentThread = none ∧
    ∀ t, runtime.LiveThread t → (runtime.thread t).state = .exited) ∨
  ∃ active, runtime.currentThread = some active ∧ (runtime.thread active).state = .running ∧
    ∀ t, t ≠ active → (runtime.thread t).state ≠ .running

/-- Under the strict conditions the picture of the runtime stays sound. -/
theorem reachable_sound {arch : Arch}
    (h : (runtimeSystem arch).Reachable (KeepsRunning arch) runtime) : Sound runtime.picture := by
  refine h.invariant (fun _ => Started.sound) ?_
  intro s action hreach hsound hmay hguard
  have hunblocked : s.ExitsUnblocked action := by
    intro active hactive hb
    have hcurrent : s.currentThread = some active := by
      cases action with
      | syscall context =>
        simp only [exiting, Option.mem_def] at hactive
        split at hactive
        · exact hactive
        · cases hactive
      | terminate _ _ => exact hactive
      | userStores _ => cases hactive
      | saveRegisters _ _ => cases hactive
      | prepareResume _ => cases hactive
    have hrunning := hsound.currentRunning active hcurrent
    exact absurd (hrunning.symm.trans hb) (by decide)
  have hkeeps : s.KeepsClients action :=
    ⟨hguard.findsEveryClient, hunblocked, hguard.freshHandle⟩
  have hstep : Step .full s.picture (s.act arch action).picture :=
    act_step (reachable_wellFormed hreach) hsound.toTidy arch hmay (fun _ => hkeeps)
      fun _ => hguard.unblockedServer
  exact hstep.sound hsound

/-- Under the weaker conditions it stays consistent. -/
theorem reachable_consistent {arch : Arch}
    (h : (runtimeSystem arch).Reachable KeepsClients runtime) : Consistent runtime.picture := by
  refine h.invariant (P := fun s => Consistent s.picture)
    (fun _ hs => (Started.sound hs).toConsistent) ?_
  intro s action hreach hconsistent hmay hguard
  have hstep : Step ⟨true, false⟩ s.picture (s.act arch action).picture :=
    act_step (reachable_wellFormed hreach) hconsistent.toTidy arch hmay (fun _ => hguard)
      fun hs => by cases hs
  exact hstep.consistent rfl hconsistent

/-- Every run that hands no call to a blocked server and in which every exit finds all waiting clients
keeps exactly its current thread running until every thread has exited. -/
theorem reachable_scheduled (arch : Arch) {runtime : UserRuntime}
    (h : (runtimeSystem arch).Reachable (KeepsRunning arch) runtime) : Scheduled runtime := by
  have hsound := reachable_sound h
  have hw := reachable_wellFormed h
  cases hcurrent : runtime.currentThread with
  | none =>
    refine .inl ⟨hcurrent, fun t ht => ?_⟩
    exact (hsound.idleExited hcurrent t).resolve_right (hw.threadState t ht)
  | some active =>
    refine .inr ⟨active, hcurrent, hsound.currentRunning active hcurrent, fun t ht hr => ?_⟩
    exact ht (Option.some.inj ((hsound.runningIsCurrent t hr).symm.trans hcurrent))

/-- The memory of a small booted system: three endpoint names, `a`, `b` and `c`. -/
def bootMemory : ByteMemory := fun address =>
  if address = 0x1100 then 97 else if address = 0x1110 then 98
  else if address = 0x1120 then 99 else 0

/-- A booted system: one process with one mapped page and some threads. -/
def bootRuntime : Nat → UserRuntime
  | 0 => ((reset bootMemory).createProcess ⟨.x64, .ringos, .native⟩
      (addAddressSpaceMapping ⟨0, []⟩ 0x1000 0x1000 0x1000).2).2
  | count + 1 => ((bootRuntime count).createThread 0 ⟨0x1000, 0x1800, 0x202, 0⟩).2

/-- The booted system with its first thread on the CPU. -/
def bootStarted (count : Nat) : UserRuntime := (bootRuntime count).setCurrentThread (some 0)

theorem bootRuntime_created (count : Nat) :
    Created (bootRuntime count) ∧ ((bootRuntime count).processes.items 0).isSome := by
  induction count with
  | zero => exact ⟨.process _ _ (.reset bootMemory), rfl⟩
  | succ count ih =>
    refine ⟨.thread _ ih.1 ih.2, ?_⟩
    rw [bootRuntime, createThread]
    split
    · exact ih.2
    · exact ih.2

theorem bootStarted_started {count : Nat} (h : (bootRuntime count).LiveThread 0) :
    Started (bootStarted count) :=
  ⟨bootRuntime count, 0, (bootRuntime_created count).1, h, rfl⟩

/-- A syscall of the current thread with the given number and arguments. -/
def trap (number argument0 argument1 argument2 stackPointer : UInt64) : Action :=
  .syscall ⟨number, 0x1010, stackPointer, 0x202, argument0, argument1, argument2, 0, 0, 0⟩

/-- Both threads register, open each other's endpoint and call it. -/
def mutualCall : List Action :=
  [trap 3 0x1100 0x1200 0x1210 0x1800, trap 3 0x1110 0x1220 0x1230 0x1c00,
    trap 4 0x1110 0x1300 0 0x1800, trap 5 4 0x1400 1 0x1800,
    trap 4 0x1100 0x1310 0 0x1c00, trap 5 5 0x1400 1 0x1c00]

/-- A run of the booted system whose steps are checked against a guard. -/
theorem boot_reachable (arch : Arch) (guard : UserRuntime → Action → Prop)
    [∀ s a, Decidable (guard s a)] (count : Nat) (actions : List Action)
    (P : UserRuntime → Prop) [DecidablePred P] (hlive : (bootRuntime count).LiveThread 0)
    (h : ((runtimeSystem arch).runs (fun s a => s.mayAct a && decide (guard s a))
      (bootStarted count) actions).any (fun s => decide (P s)) = true) :
    ∃ runtime, (runtimeSystem arch).Reachable guard runtime ∧ P runtime := by
  refine TransitionSystem.exists_reachable actions ?_ (bootStarted_started hlive) h
  intro s a hok
  simpa [runtimeSystem] using hok

/-- A run of the booted system with a history, its steps checked against a guard. -/
theorem boot_reachable_history {γ : Type} (arch : Arch) (start : UserRuntime → γ)
    (record : UserRuntime → Action → γ → γ) (guard : UserRuntime × γ → Action → Prop)
    [∀ s a, Decidable (guard s a)] (count : Nat) (actions : List Action)
    (P : UserRuntime × γ → Prop) [DecidablePred P] (hlive : (bootRuntime count).LiveThread 0)
    (h : (((runtimeSystem arch).withHistory start record).runs
      (fun s a => s.1.mayAct a && decide (guard s a)) (bootStarted count, start (bootStarted count))
      actions).any (fun s => decide (P s)) = true) :
    ∃ s, ((runtimeSystem arch).withHistory start record).Reachable guard s ∧ P s := by
  have hinit : ((runtimeSystem arch).withHistory start record).init
      (bootStarted count, start (bootStarted count)) := ⟨bootStarted_started hlive, rfl⟩
  refine TransitionSystem.exists_reachable actions ?_ hinit h
  intro s a hok
  simpa [runtimeSystem, TransitionSystem.withHistory] using hok

/-- Two threads that call each other leave a blocked thread on the CPU. -/
theorem mutualCall_not_scheduled :
    ∃ runtime, (runtimeSystem .x64).Reachable TransitionSystem.anyStep runtime ∧
      (runtime.currentThread = some 0 ∧ (runtime.thread 0).state = .blocked) ∧
      ¬ Scheduled runtime := by
  obtain ⟨runtime, hreach, hcurrent, hblocked⟩ := boot_reachable .x64 TransitionSystem.anyStep 2
    mutualCall (fun s => s.currentThread = some 0 ∧ (s.thread 0).state = .blocked) rfl
    (by decide +kernel)
  refine ⟨runtime, hreach, ⟨hcurrent, hblocked⟩, ?_⟩
  rintro (⟨hnone, _⟩ | ⟨active, hactive, hrunning, _⟩)
  · rw [hcurrent] at hnone
    cases hnone
  · obtain rfl : 0 = active := Option.some.inj (hcurrent.symm.trans hactive)
    rw [hblocked] at hrunning
    cases hrunning

/-- One thread serves a call of the other; then both exit. -/
def servedCall : List Action :=
  [trap 3 0x1100 0x1200 0x1210 0x1800, trap 4 0x1100 0x1300 0 0x1c00,
    trap 5 4 0x1400 1 0x1c00, trap 8 0 0 0 0x1800, trap 2 0 0 0 0x1c00, trap 2 0 0 0 0x1800]

/-- A call that is served, followed by both exits, meets the conditions at every step. -/
theorem servedCall_scheduled :
    ∃ runtime, (runtimeSystem .x64).Reachable (KeepsRunning .x64) runtime ∧
      runtime.currentThread = none ∧ Scheduled runtime := by
  obtain ⟨runtime, hreach, hidle⟩ := boot_reachable .x64 (KeepsRunning .x64) 2 servedCall
    (fun s => s.currentThread = none) rfl (by decide +kernel)
  exact ⟨runtime, hreach, hidle, reachable_scheduled .x64 hreach⟩

/-- The thread is the client of exactly one live channel whose pending server is another
thread, and that server has not exited. -/
def AwaitsServer (runtime : UserRuntime) (t : ThreadRef) : Prop :=
  ∃ c call, runtime.pending c = some call ∧ call.clientThread = t ∧ call.serverThread ≠ t ∧
    (runtime.thread call.serverThread).state ≠ .exited ∧
    ∀ c' call', runtime.pending c' = some call' → call'.clientThread = t →
      call'.serverThread ≠ t → c' = c

/-- The status that an exit reports to the clients of the exiting thread. -/
def peerFailure : Action → Int32
  | .terminate _ peerFailureStatus => peerFailureStatus
  | _ => Status.peerClosed

/-- The thread returns from its syscall with `status` and is ready, or was ready and has been
given the CPU. -/
def ReadiedWith (arch : Arch) (before after : UserRuntime) (t : ThreadRef) (status : Int32) :
    Prop :=
  ∃ state, after.thread t =
      ((before.thread t).prepareSyscallResume arch status).setState state ∧
    (state = .ready ∨ state = .running ∧ after.currentThread = some t)

/-- In a consistent picture the blocked threads are those that await a server. -/
theorem blocked_iff_awaitsServer (h : Consistent runtime.picture) (t : ThreadRef) :
    (runtime.thread t).state = .blocked ↔ runtime.AwaitsServer t := by
  constructor
  · intro hb
    obtain ⟨c, abstract, hp, hclient, hserver⟩ := h.blockedWaits t hb
    obtain ⟨call, hcall, rfl⟩ := Option.map_eq_some_iff.mp hp
    have hne : call.clientThread ≠ call.serverThread := fun he => hserver (he.symm.trans hclient)
    refine ⟨c, call, hcall, hclient, hserver, (h.serverAlive c _ hp hne).1, ?_⟩
    intro c' call' hcall' hclient' hserver'
    have hne' : call'.clientThread ≠ call'.serverThread :=
      fun he => hserver' (he.symm.trans hclient')
    exact h.oneCall c' c _ _ (picture_pending_of hcall') hp hne' hne
      (hclient'.trans hclient.symm)
  · rintro ⟨c, call, hcall, rfl, hserver, _, _⟩
    exact h.clientBlocked c _ (picture_pending_of hcall) hserver.symm

/-- Scheduling after an exit leaves a ready thread ready or gives it the CPU. -/
theorem scheduleNextReadyThread_thread {t : ThreadRef} (hready : (runtime.thread t).state = .ready)
    (hcurrent : runtime.currentThread ≠ some t) :
    ∃ state, runtime.scheduleNextReadyThread.2.thread t = (runtime.thread t).setState state ∧
      (state = .ready ∨
        state = .running ∧ runtime.scheduleNextReadyThread.2.currentThread = some t) := by
  unfold scheduleNextReadyThread
  cases runtime.findNextReadyThread runtime.currentThread with
  | none => exact ⟨.ready, by rw [← hready]; rfl, .inl rfl⟩
  | some next =>
    refine ⟨_, thread_setCurrentThread runtime (some next) t, ?_⟩
    simp only [switchedState, demotedState, hcurrent, false_and, if_false, hready, and_true,
      setCurrentThread_currentThread]
    split
    · rename_i hnext
      exact .inr ⟨rfl, hnext⟩
    · exact .inl rfl

/-- The exit of a thread readies the client on its first pending channel. -/
theorem terminateCurrentThread_readies (hw : WellFormed runtime) (arch : Arch)
    (exitStatus : UInt64) (peerFailureStatus : Int32) {active : ThreadRef}
    (hcurrent : runtime.currentThread = some active) {c : ChannelRef} {call : PendingCall}
    (hcall : runtime.pending c = some call) (hclient : call.clientThread ≠ active)
    (hfound : runtime.findPendingChannelByServerThread active = some c) :
    ReadiedWith arch runtime
      (runtime.terminateCurrentThread arch exitStatus peerFailureStatus).2 call.clientThread
      peerFailureStatus := by
  have hfailed : runtime.failPendingCall arch active peerFailureStatus =
      (runtime.cancelCall c).wakeClient arch call.clientThread peerFailureStatus := by
    rcases failPendingCall_cases arch runtime active peerFailureStatus with
      ⟨hnone, _⟩ | ⟨ref, found, href, hfoundCall, _, hfail⟩
    · rw [hfound] at hnone
      cases hnone
    · obtain rfl : c = ref := Option.some.inj (hfound.symm.trans href)
      obtain rfl : call = found := Option.some.inj (hcall.symm.trans hfoundCall)
      rw [hfail, if_neg hclient]
  have hlive : (runtime.cancelCall c).LiveThread call.clientThread :=
    hw.clientLive c call hcall
  simp only [terminateCurrentThread, hcurrent]
  generalize hexited : ((runtime.handleThreadExit arch active peerFailureStatus).modifyThread
    active fun thread => (thread.setState .exited).setExitStatus exitStatus) = exited
  have hthread : exited.thread call.clientThread = (((runtime.thread call.clientThread).setState
      .ready).prepareSyscallResume arch peerFailureStatus) := by
    rw [← hexited, thread_modifyThread_of_ne hclient, handleThreadExit, hfailed]
    exact thread_modifyThread_self hlive _
  have hcur : exited.currentThread = some active := by
    rw [← hexited, handleThreadExit, hfailed]
    exact hcurrent
  have hready : (exited.thread call.clientThread).state = .ready := by
    rw [hthread]
    rfl
  have hother : exited.currentThread ≠ some call.clientThread := by
    rw [hcur]
    exact fun h => hclient (Option.some.inj h).symm
  obtain ⟨state, hscheduled, hstate⟩ := scheduleNextReadyThread_thread hready hother
  refine ⟨state, ?_, hstate⟩
  rw [hscheduled, hthread]
  rfl

/-- The clients that an exit finds are readied with the failure status. -/
theorem exit_readies (hw : WellFormed runtime) (arch : Arch) {action : Action}
    (hfinds : runtime.ExitFindsEveryClient action) {active : ThreadRef}
    (hactive : runtime.exiting action = some active) {c : ChannelRef} {call : PendingCall}
    (hcall : runtime.pending c = some call) (hserver : call.serverThread = active)
    (hclient : call.clientThread ≠ active) :
    ReadiedWith arch runtime (runtime.act arch action) call.clientThread (peerFailure action) := by
  have hfound := hfinds active hactive c call hcall hserver hclient
  cases action with
  | syscall context =>
    simp only [exiting] at hactive
    split at hactive
    · rename_i hexit
      have hreadied := terminateCurrentThread_readies (hw.enterSyscall active context) arch
        context.argument0 Status.peerClosed (c := c) hactive hcall hclient hfound
      obtain ⟨state, hthread, hstate⟩ := hreadied
      have hresult : runtime.act arch (.syscall context) =
          ((runtime.enterSyscall active context).terminateCurrentThread arch context.argument0
            Status.peerClosed).2 := by
        simp only [act, dispatchSyscall, hactive, dispatchActive, hexit]
      rw [enterSyscall, thread_modifyThread_of_ne hclient] at hthread
      refine ⟨state, ?_, ?_⟩
      · rw [hresult]
        exact hthread
      · rw [hresult]
        exact hstate
    · cases hactive
  | terminate exitStatus peerFailureStatus =>
    exact terminateCurrentThread_readies hw arch exitStatus peerFailureStatus hactive hcall hclient
      hfound
  | userStores _ => cases hactive
  | saveRegisters _ _ => cases hactive
  | prepareResume _ => cases hactive

/-- Every run whose exits are by unblocked threads and find all waiting clients keeps exactly
its waiting clients blocked, and such an exit readies each of them with the failure status. -/
theorem reachable_blocked_iff (arch : Arch) {runtime : UserRuntime}
    (h : (runtimeSystem arch).Reachable KeepsClients runtime) :
    (∀ t, (runtime.thread t).state = .blocked ↔ runtime.AwaitsServer t) ∧
    ∀ action, runtime.mayAct action = true → runtime.KeepsClients action →
      ∀ active, runtime.exiting action = some active →
      ∀ c call, runtime.pending c = some call → call.serverThread = active →
        call.clientThread ≠ active →
        ReadiedWith arch runtime (runtime.act arch action) call.clientThread
          (peerFailure action) := by
  refine ⟨blocked_iff_awaitsServer (reachable_consistent h), ?_⟩
  intro action _ hkeeps active hactive c call hcall hserver hclient
  exact exit_readies (reachable_wellFormed h) arch hkeeps.findsEveryClient hactive hcall hserver
    hclient

/-- A server with a caller calls itself through a lower channel slot and then exits. -/
def strandedClient : List Action :=
  [trap 3 0x1100 0x1200 0x1210 0x1800, trap 3 0x1120 0x1240 0x1250 0x1c00,
    trap 4 0x1100 0x1300 0 0x1800, trap 3 0x1110 0x1220 0x1230 0x1800,
    trap 4 0x1110 0x1310 0 0x1c00, trap 5 5 0x1400 1 0x1c00,
    trap 5 4 0x1400 1 0x1800, trap 2 0 0 0 0x1800]

/-- The caller stays blocked on the exited server. -/
theorem strandedClient_lost :
    ∃ runtime, (runtimeSystem .x64).Reachable TransitionSystem.anyStep runtime ∧
      ((runtime.thread 1).state = .blocked ∧ (runtime.thread 0).state = .exited) ∧
      ¬ ((runtime.thread 1).state = .blocked ↔ runtime.AwaitsServer 1) := by
  obtain ⟨runtime, hreach, hblocked, hexited, hserver⟩ := boot_reachable .x64
    TransitionSystem.anyStep 2 strandedClient
    (fun s => (s.thread 1).state = .blocked ∧ (s.thread 0).state = .exited ∧
      ∀ c, ∀ call ∈ s.pending c, call.serverThread = 0) rfl (by decide +kernel)
  refine ⟨runtime, hreach, ⟨hblocked, hexited⟩, fun hiff => ?_⟩
  obtain ⟨c, call, hcall, _, _, halive, _⟩ := hiff.mp hblocked
  exact halive (hserver c call hcall ▸ hexited)

/-- A client waits for its server, which then faults. -/
def faultedServer : List Action :=
  [trap 3 0x1100 0x1200 0x1210 0x1800, trap 4 0x1100 0x1300 0 0x1c00, trap 5 4 0x1400 1 0x1c00]

/-- The waiting client of a faulting server is readied with the failure status. -/
theorem faultedServer_readies :
    ∃ runtime, (runtimeSystem .x64).Reachable KeepsClients runtime ∧
      (runtime.thread 1).state = .blocked ∧ runtime.AwaitsServer 1 ∧
      ReadiedWith .x64 runtime (runtime.act .x64 (.terminate 0 Status.fault)) 1 Status.fault := by
  obtain ⟨runtime, hreach, hblocked, hkeeps, hexiting, hcall⟩ := boot_reachable .x64 KeepsClients
    2 faultedServer
    (fun s => (s.thread 1).state = .blocked ∧ s.KeepsClients (.terminate 0 Status.fault) ∧
      s.exiting (.terminate 0 Status.fault) = some 0 ∧
      (s.pending 0).any fun call => call.clientThread == 1 && call.serverThread == 0) rfl
    (by decide +kernel)
  obtain ⟨call, hpending, hends⟩ := (Option.any_eq_true _ _).mp hcall
  simp only [Bool.and_eq_true, beq_iff_eq] at hends
  obtain ⟨hblockedIff, hreadies⟩ := reachable_blocked_iff .x64 hreach
  refine ⟨runtime, hreach, hblocked, (hblockedIff 1).mp hblocked, ?_⟩
  have hreadied := hreadies (.terminate 0 Status.fault) rfl hkeeps 0 hexiting 0 call hpending
    hends.2 (by rw [hends.1]; decide)
  rwa [hends.1] at hreadied

end UserRuntime

end Ringos.Kernel

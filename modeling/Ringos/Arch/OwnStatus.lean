import Ringos.Arch.OutstandingSteps
import Ringos.Arch.EmulatorThread

/-!
# Every syscall returns its own status

A run in which completions answer the callback that their server is in, and in
which the callback has left the status of the interrupted syscall alone, resumes
every thread with the frame and the status of its own syscall. A callback that
makes a syscall of its own before it completes does not leave that status alone.
-/

namespace Ringos.Arch

open Ringos.Core Ringos.Kernel Ringos.Scheduler Ringos.Emulator UserRuntime

/-- The condition on an event: a trap is no accepted call of a thread to itself, and a completion
that finds a call ends the callback that its server is in, with the status of the syscall below
still in place. -/
def TrapPath.AnswersOwn (P : TrapPath) (s : UserRuntime × Stacks P.Trap) : P.Event → Prop
  | .trap trap => ∀ active, s.1.currentThread = some active →
      (∀ ref, ¬ AcceptsSelfCall P.arch (s.1.modifyThread active (P.saveTo trap)) active
        (P.context trap) ref) ∧
      (Syscall.ofNumber (P.context trap).syscallNumber = some .rpcComplete →
        ∀ ref call, s.1.findPendingChannelByServerThread active = some ref →
          s.1.pending ref = some call → CompletesOwn P s.1 active s.2 ref call)
  | _ => True

/-- The next thread to return from a syscall returns from the one on top of its stack, whose
status is known, and with the frame of that syscall's trap. -/
def TrapPath.ResumesOwn (P : TrapPath) (s : UserRuntime × Stacks P.Trap) (event : P.Event) : Prop :=
  (P.next s.1 event).hasRunnableThread = true →
    ∀ t, (P.next s.1 event).currentThread = some t →
      ((P.next s.1 event).thread t).resumeState.kind = .syscall →
        ∀ trap known rest, P.left s.1 event s.2 t = .syscall trap known :: rest →
          ∃ status, known = some status ∧ ∀ frame, P.returning trap status = some frame →
            P.load ((P.next s.1 event).thread t) = frame

section Steps

variable {P : TrapPath} {runtime : UserRuntime} {active : ThreadRef} {outstanding : Stacks P.Trap}

/-- The stacks do not depend on what a running thread holds. -/
theorem TrapPath.Kept.of_running {entered : UserRuntime} (h : P.Kept runtime outstanding)
    (hrunning : (runtime.thread active).state = .running)
    (hstate : (entered.thread active).state = .running)
    (hthreads : ∀ t, t ≠ active → entered.thread t = runtime.thread t)
    (hpending : entered.pending = runtime.pending)
    (hclient : ∀ c call, runtime.pending c = some call → call.clientThread ≠ active) :
    P.Kept entered outstanding := by
  have halive : ∀ t, (entered.thread t).state ≠ .exited → (runtime.thread t).state ≠ .exited := by
    intro t ht
    by_cases hta : t = active
    · rw [hta, hrunning]
      exact UserThreadState.noConfusion
    · rwa [hthreads t hta] at ht
  constructor
  · intro t ht
    have hta : t ≠ active := by
      rintro rfl
      rw [hstate] at ht
      cases ht
    rw [hthreads t hta] at ht ⊢
    exact h.ready t ht
  · intro c call hcall
    rw [hpending] at hcall
    rw [hthreads _ (hclient c call hcall)]
    exact h.client c call hcall
  · intro c call hcall hserver
    rw [hpending] at hcall
    exact h.suspended c call hcall (halive _ hserver)
  · exact h.nested
  · intro c call hcall
    rw [hpending] at hcall
    exact h.other c call hcall

/-- What a thread that has trapped hands to the dispatcher. -/
def TrapPath.entered (P : TrapPath) (trap : P.Trap) (active : ThreadRef) (runtime : UserRuntime) :
    UserRuntime :=
  (runtime.modifyThread active (P.saveTo trap)).enterSyscall active (P.context trap)

theorem TrapPath.entered_of_ne (trap : P.Trap) {t : ThreadRef} (ht : t ≠ active) :
    (P.entered trap active runtime).thread t = runtime.thread t :=
  (thread_modifyThread_of_ne ht _).trans (thread_modifyThread_of_ne ht _)

theorem TrapPath.entered_self (trap : P.Trap) (hlive : runtime.LiveThread active) :
    (P.entered trap active runtime).thread active =
      (P.saveTo trap (runtime.thread active)).setUserContext
        (makeThreadContextFromSyscall (P.context trap)) := by
  have hsaved : (runtime.modifyThread active (P.saveTo trap)).LiveThread active :=
    liveThread_modifyThread.mpr hlive
  exact (thread_modifyThread_self hsaved _).trans
    (congrArg _ (thread_modifyThread_self hlive _))

theorem TrapPath.dispatch_eq (trap : P.Trap) (hcurrent : runtime.currentThread = some active) :
    P.dispatch trap active runtime =
      (P.entered trap active runtime).dispatchActive P.arch active (P.context trap) := by
  have hsaved : (runtime.modifyThread active (P.saveTo trap)).currentThread = some active := hcurrent
  simp only [TrapPath.dispatch, dispatchSyscall, hsaved]
  rfl

/-- Entering the kernel does not change which stacks a dispatch leaves. -/
theorem TrapPath.stacked_entered (trap : P.Trap) (result : Int32 × UserRuntime) :
    P.stacked trap active (P.entered trap active runtime) result outstanding =
      P.stacked trap active runtime result outstanding := by
  ext1 t
  by_cases ht : t = active
  · subst ht
    simp only [TrapPath.stacked, if_true]
    rfl
  · simp only [TrapPath.stacked, if_neg ht, passed, P.entered_of_ne trap ht]
    rfl

/-- A thread of a run that traps is taken from its code. -/
theorem TrapPath.Kept.taking (h : P.Kept runtime outstanding)
    (hreach : (runtimeSystem P.arch).Reachable WhileRunnable runtime)
    (hcurrent : runtime.currentThread = some active)
    (hrunnable : runtime.hasRunnableThread = true) (hat : AtCode (outstanding active)) :
    P.Taking runtime active outstanding where
  kept := h
  wellFormed := reachable_wellFormed hreach
  blocked := reachable_clientsBlocked hreach
  current := hcurrent
  running := running_of_mayAct (reachable_tidy hreach) hcurrent hrunnable
  atCode := hat

/-- The same once the thread is in the kernel. -/
theorem TrapPath.Taking.entered (h : P.Taking runtime active outstanding) (trap : P.Trap) :
    P.Taking (P.entered trap active runtime) active outstanding := by
  have hlive := h.wellFormed.currentLive active h.current
  have hself := P.entered_self trap hlive
  have hrunning : ((P.entered trap active runtime).thread active).state = .running := by
    rw [hself]
    exact h.running
  have hpicture : (P.entered trap active runtime).picture = runtime.picture := by
    have hsaved : (runtime.modifyThread active (P.saveTo trap)).picture = runtime.picture :=
      picture_modifyThread_of_state fun _ => rfl
    rw [← hsaved]
    exact picture_modifyThread_of_state fun _ => rfl
  constructor
  · exact h.kept.of_running h.running hrunning (fun t ht => P.entered_of_ne trap ht) rfl
      fun c call hcall => h.client_ne hcall
  · refine WellFormed.enterSyscall ?_ _ _
    exact h.wellFormed.modifyThread active fun _ ht => ht
  · rw [hpicture]
    exact h.blocked
  · exact h.current
  · exact hrunning
  · exact h.atCode

theorem TrapPath.runnable_saveTo (trap : P.Trap) (hcurrent : runtime.currentThread = some active)
    (hrunnable : runtime.hasRunnableThread = true) :
    (runtime.modifyThread active (P.saveTo trap)).hasRunnableThread = true := by
  have hsave : ∀ thread, (P.saveTo trap thread).state = thread.state := fun _ => rfl
  rw [hasRunnableThread_saveTo hcurrent hsave, hrunnable]

/-- Every event of a machine is made of steps of the runtime. -/
theorem TrapPath.next_reachable {guard : UserRuntime → Action → Prop}
    (hguard : ∀ s action, s.hasRunnableThread = true → guard s action)
    (h : (runtimeSystem P.arch).Reachable guard runtime)
    (hrunnable : runtime.hasRunnableThread = true) (event : P.Event) :
    (runtimeSystem P.arch).Reachable guard (P.next runtime event) := by
  cases event with
  | userStores memory =>
    have hmay : runtime.mayAct (.userStores memory) = true := rfl
    exact h.step hmay (hguard _ _ hrunnable)
  | fault exitStatus peerFailureStatus =>
    have hmay : runtime.mayAct (.terminate exitStatus peerFailureStatus) = true := rfl
    exact h.step hmay (hguard _ _ hrunnable)
  | trap trap =>
    simp only [TrapPath.next]
    cases hcurrent : runtime.currentThread with
    | none => exact h
    | some active =>
      have hsaved : (runtimeSystem P.arch).Reachable guard
          (runtime.modifyThread active (P.saveTo trap)) :=
        saveTo_reachable h (fun action => hguard _ action hrunnable) hcurrent rfl
      have hkept := P.runnable_saveTo trap hcurrent hrunnable
      have hmay : (runtime.modifyThread active (P.saveTo trap)).mayAct
          (.syscall (P.context trap)) = true := hkept
      have hdispatched : (runtimeSystem P.arch).Reachable guard
          (P.dispatch trap active runtime).2 := hsaved.step hmay (hguard _ _ hkept)
      simp only [TrapPath.resume]
      split
      · rename_i hresumes
        exact prepareResume_reachable hdispatched (fun action => hguard _ action hresumes.1)
          hresumes.2 _
      · exact hdispatched

/-- A trap leaves the stacks in agreement with the runtime, as long as a thread is runnable. -/
theorem TrapPath.Taking.trap (h : P.Taking runtime active outstanding)
    (hreach : (runtimeSystem P.arch).Reachable WhileRunnable runtime)
    (hrunnable : runtime.hasRunnableThread = true) {trap : P.Trap}
    (hguard : P.AnswersOwn (runtime, outstanding) (.trap trap))
    (hleft : (P.resume active (P.dispatch trap active runtime)).hasRunnableThread = true) :
    P.Kept (P.resume active (P.dispatch trap active runtime))
        (P.stacked trap active runtime (P.dispatch trap active runtime) outstanding) ∧
      P.Loads (P.resume active (P.dispatch trap active runtime))
        (P.stacked trap active runtime (P.dispatch trap active runtime) outstanding) := by
  obtain ⟨hself, hcompletes⟩ := hguard active h.current
  have hnext := P.next_reachable (fun _ _ h => h) hreach hrunnable (.trap trap)
  simp only [TrapPath.next, h.current] at hnext
  have hlive := h.wellFormed.currentLive active h.current
  have hentered := h.entered trap
  have hcaptured : P.Captured trap ((P.entered trap active runtime).thread active) := by
    rw [P.entered_self trap hlive]
    exact ⟨rfl, runtime.thread active, rfl, rfl⟩
  have heffect : ThreadEffect P.arch (P.entered trap active runtime) active (P.context trap)
      (P.dispatch trap active runtime).1 (P.dispatch trap active runtime).2 := by
    rw [P.dispatch_eq trap h.current]
    exact outcome_effect hentered.wellFormed hentered.blocked.toTidy hentered.current
      hentered.running (dispatchActive_outcome P.arch _ active (P.context trap))
  have haccepted : ∀ ref, Syscall.ofNumber (P.context trap).syscallNumber = some .rpcCall →
      (P.entered trap active runtime).resolveCall active (P.context trap) = .ok (ref, active) →
      (P.dispatch trap active runtime).1 ≠ Status.ok := by
    intro ref hsyscall hown hok
    refine hself ref ⟨h.current, ?_, hsyscall, ?_, hok⟩
    · exact P.runnable_saveTo trap h.current hrunnable
    · exact (resolveCall_enterSyscall active (P.context trap)).symm.trans hown
  rw [← P.stacked_entered trap]
  generalize P.dispatch trap active runtime = result at heffect haccepted hleft hnext ⊢
  obtain ⟨status, after⟩ := result
  cases heffect with
  | stays _ hcomplete hcurrent hthreads hpending =>
    exact hentered.stays hcaptured hcomplete hcurrent hthreads hpending
  | yields chosen hsyscall hready hother hcurrent hactive hchosen hthreads hpending =>
    exact hentered.yields hcaptured hsyscall hready hother hcurrent hactive hchosen hthreads hpending
  | calls ref server _ _ _ _ _ hsyscall _ hother hidle hcurrent hactive hcalled hthreads hpending =>
    have hgone : after.currentThread ≠ some active := by
      rw [hcurrent]
      exact fun heq => hother (Option.some.inj heq)
    rw [resume_of_left hgone] at hleft hnext
    have hrunning := running_of_mayAct (reachable_tidy hnext) hcurrent hleft
    have hready : ((P.entered trap active runtime).thread server).state = .ready := by
      by_contra hnot
      rw [hcalled, if_neg hnot] at hrunning
      have hcur := hentered.blocked.runningIsCurrent server hrunning
      exact hother (Option.some.inj (hcur.symm.trans hentered.current))
    refine hentered.calls hcaptured hsyscall hready hother hidle hcurrent hactive ?_ hrunning
      hthreads hpending
    rw [hcalled]
    rfl
  | callsSelf ref hsyscall hown hok => exact absurd hok (haccepted ref hsyscall hown)
  | completes ref call hsyscall hfirst hfound _ hcurrent hactive hclient hthreads hpending =>
    obtain ⟨found, hcall, hserver⟩ := findPendingChannel_some hfirst
    obtain rfl : call = found := Option.some.inj (hfound.symm.trans hcall)
    have hown := hcompletes hsyscall ref call hfirst hfound
    refine hentered.completes hsyscall hfirst hfound hserver ⟨hown.own, ?_⟩ hcurrent hactive hclient
      hthreads hpending
    rw [P.entered_self trap hlive]
    exact hown.carries
  | completesSelf ref call hfound hsame => exact absurd hsame (h.kept.other ref call hfound)
  | exits woken hsyscall heffect =>
    have hgone : after.currentThread ≠ some active := fun heq =>
      (heffect.current active heq).1 rfl
    have hdelivered : P.delivered trap = Status.peerClosed := by
      refine if_neg ?_
      rw [hsyscall]
      exact fun heq => Syscall.noConfusion (Option.some.inj heq)
    rw [resume_of_left hgone]
    refine hentered.exits heffect (fun t ht => ?_) ?_
    · simp only [TrapPath.stacked, if_neg ht, hdelivered]
    · rw [TrapPath.Taking.stacked_self (by simp [hsyscall])]
      exact ⟨h.atCode, h.kept.nested active⟩

/-- The fault of an emulated thread leaves the stacks in agreement with the runtime. -/
theorem TrapPath.Taking.fault (h : P.Taking runtime active outstanding) (exitStatus : UInt64)
    (peerFailureStatus : Int32) :
    P.Kept (P.next runtime (.fault exitStatus peerFailureStatus))
        (P.left runtime (.fault exitStatus peerFailureStatus) outstanding) ∧
      P.Loads (P.next runtime (.fault exitStatus peerFailureStatus))
        (P.left runtime (.fault exitStatus peerFailureStatus) outstanding) := by
  obtain ⟨woken, heffect⟩ := terminateCurrentThread_effect P.arch h.wellFormed h.current exitStatus
    peerFailureStatus
  refine h.exits heffect (fun t _ => rfl) ?_
  have hsame : passed runtime (P.next runtime (.fault exitStatus peerFailureStatus))
      peerFailureStatus active (outstanding active) = outstanding active := by
    refine passed_same _ (fun hb => ?_) (begunOn_none heffect.pending active)
    rw [h.running] at hb
    cases hb
  exact (congrArg Nested hsame).mpr (h.kept.nested active)

/-- The invariant of a machine's runs. -/
structure TrapPath.Agrees (P : TrapPath) (s : UserRuntime × Stacks P.Trap) : Prop where
  reachable : (runtimeSystem P.arch).Reachable WhileRunnable s.1
  kept : s.1.hasRunnableThread = true → P.Kept s.1 s.2
  atCode : s.1.hasRunnableThread = true → ∀ t, s.1.currentThread = some t → AtCode (s.2 t)

variable {s : UserRuntime × Stacks P.Trap}

/-- While a thread is runnable, it is on the CPU. -/
theorem current_of_runnable (h : runtime.hasRunnableThread = true) :
    ∃ active, runtime.currentThread = some active := by
  unfold hasRunnableThread at h
  cases hcurrent : runtime.currentThread with
  | none =>
    rw [hcurrent] at h
    cases h
  | some active => exact ⟨active, rfl⟩

/-- An event that meets the condition leaves stacks that agree, up to the return of the thread
that it resumes. -/
theorem TrapPath.Agrees.event (h : P.Agrees s) {event : P.Event}
    (hrunnable : s.1.hasRunnableThread = true) (hguard : P.AnswersOwn s event)
    (hnext : (P.next s.1 event).hasRunnableThread = true) :
    P.Kept (P.next s.1 event) (P.left s.1 event s.2) ∧
      ((∀ memory, event ≠ .userStores memory) →
        P.Loads (P.next s.1 event) (P.left s.1 event s.2)) := by
  obtain ⟨active, hcurrent⟩ := current_of_runnable hrunnable
  have htaking := (h.kept hrunnable).taking h.reachable hcurrent hrunnable
    (h.atCode hrunnable active hcurrent)
  cases event with
  | trap trap =>
    simp only [TrapPath.next, TrapPath.left, hcurrent] at hnext ⊢
    have hstep := htaking.trap h.reachable hrunnable hguard hnext
    exact ⟨hstep.1, fun _ => hstep.2⟩
  | fault exitStatus peerFailureStatus =>
    have hstep := htaking.fault exitStatus peerFailureStatus
    exact ⟨hstep.1, fun _ => hstep.2⟩
  | userStores memory =>
    have hkept := h.kept hrunnable
    exact ⟨⟨hkept.ready, hkept.client, hkept.suspended, hkept.nested, hkept.other⟩,
      fun hne => absurd rfl (hne memory)⟩

/-- A thread in its code has no syscall to return from. -/
theorem settled_of_atCode {after : UserRuntime}
    (h : ∀ t, after.currentThread = some t → AtCode (outstanding t)) :
    settled after outstanding = outstanding := by
  ext1 t
  unfold settled
  split
  · rename_i hcurrent
    have hat := h t hcurrent.1
    cases htop : outstanding t with
    | nil => rfl
    | cons top rest =>
      cases top with
      | callback _ => rfl
      | syscall trap status => exact absurd htop (hat trap status rest)
  · rfl

/-- So the invariant survives every event that meets the condition. -/
theorem TrapPath.Agrees.step (h : P.Agrees s) {event : P.Event}
    (hrunnable : s.1.hasRunnableThread = true) (hguard : P.AnswersOwn s event) :
    P.Agrees (P.system.next s event) := by
  have hreach := P.next_reachable (fun _ _ h => h) h.reachable hrunnable event
  have hsettled : (P.next s.1 event).hasRunnableThread = true →
      P.Kept (P.next s.1 event) (settled (P.next s.1 event) (P.left s.1 event s.2)) ∧
        ∀ t, (P.next s.1 event).currentThread = some t →
          AtCode (settled (P.next s.1 event) (P.left s.1 event s.2) t) := by
    intro hnext
    obtain ⟨hkept, hloads⟩ := h.event hrunnable hguard hnext
    by_cases hstores : ∃ memory, event = .userStores memory
    · obtain ⟨memory, rfl⟩ := hstores
      have hat := h.atCode hrunnable
      have hsame : settled (P.next s.1 (.userStores memory)) s.2 = s.2 := settled_of_atCode hat
      change P.Kept _ (settled _ s.2) ∧ ∀ t, _ → AtCode (settled _ s.2 t)
      rw [hsame]
      exact ⟨hkept, hat⟩
    · refine hkept.settle (hloads fun memory heq => hstores ⟨memory, heq⟩) fun t ht => ?_
      exact running_of_mayAct (reachable_tidy hreach) ht hnext
  exact ⟨hreach, fun hnext => (hsettled hnext).1, fun hnext => (hsettled hnext).2⟩

/-- A machine starts with nothing outstanding. -/
theorem TrapPath.Agrees.start (h : P.system.init s) : P.Agrees s := by
  obtain ⟨hstarted, hstacks⟩ := h
  have hempty : ∀ t, s.2 t = [] := fun t => congrFun hstacks t
  have hpending : ∀ c, s.1.pending c = none := by
    obtain ⟨created, active, hcreated, _, heq⟩ := hstarted
    intro c
    rw [heq, pending_setCurrentThread]
    exact hcreated.unstarted.pending_none c
  have hnone : ∀ {c call}, s.1.pending c ≠ some call := by
    intro c call hcall
    rw [hpending] at hcall
    cases hcall
  refine ⟨.init hstarted, fun _ => ?_, fun _ t _ => hempty t ▸ atCode_nil⟩
  constructor
  · exact fun t _ => .inl (hempty t)
  · exact fun c call hcall => absurd hcall hnone
  · exact fun c call hcall _ => absurd hcall hnone
  · intro t
    rw [hempty]
    trivial
  · exact fun c call hcall => absurd hcall hnone

/-- Every run whose events meet the condition keeps the stacks in agreement. -/
theorem TrapPath.reachable_agrees (h : P.system.Reachable P.AnswersOwn s) : P.Agrees s :=
  h.invariant (fun _ => TrapPath.Agrees.start) fun _ _ _ hagrees henabled hguard =>
    hagrees.step henabled.1 hguard

/-- And so every event resumes a thread with its own syscall's frame and status. -/
theorem TrapPath.Agrees.resumesOwn (h : P.Agrees s) {event : P.Event}
    (hrunnable : s.1.hasRunnableThread = true) (hguard : P.AnswersOwn s event) :
    P.ResumesOwn s event := by
  intro hnext t hcurrent hkind trap known rest hstack
  obtain ⟨_, hloads⟩ := h.event hrunnable hguard hnext
  by_cases hstores : ∃ memory, event = .userStores memory
  · obtain ⟨memory, rfl⟩ := hstores
    exact absurd hstack (h.atCode hrunnable t hcurrent trap known rest)
  · exact (hloads fun memory heq => hstores ⟨memory, heq⟩).returns hcurrent hkind hstack

end Steps

section Paths

/-- The x64 traps. -/
def x64Path : TrapPath where
  arch := .x64
  Trap := X64SyscallFrame
  Frame := X64SyscallFrame
  context := X64SyscallFrame.context
  registers frame thread := frame.preservedRegisters thread.archPreservedRegisters
  simdQwords frame _ := frame.preservedXmmQwords
  load := loadUserThreadFrame
  returning frame status := some (frame.returning status)
  load_returning := by
    rintro frame status _ thread ⟨⟩ ⟨hcontext, previous, hregisters, hsimd⟩ hreturns
    obtain ⟨hkind, hip, hsp, hflags, hvalue⟩ := hreturns
    have hrpc : ¬ thread.resumeState.kind = .rpc := by
      rw [hkind]
      exact UserThreadResumeKind.noConfusion
    simp only [loadUserThreadFrame, if_neg hrpc, hip, hsp, hflags, hvalue, hcontext, hregisters,
      hsimd, X64SyscallFrame.returning]
    rfl

/-- The arm64 traps: those of native threads, with a frame, and those that the emulator hands
over. -/
def arm64Path : TrapPath where
  arch := .arm64
  Trap := Arm64SyscallFrame ⊕ EmulatorState
  Frame := Arm64SyscallFrame
  context
    | .inl frame => frame.context
    | .inr state => x64SyscallContext state
  registers
    | .inl frame => fun _ => frame.preservedRegisters
    | .inr state => fun thread => (storeX64EmulatorPreservedState state thread).archPreservedRegisters
  simdQwords
    | .inl _ => fun thread => thread.archPreservedSimdQwords
    | .inr state => fun _ => preservedSimdQword state
  load := loadArm64SyscallFrame
  returning
    | .inl frame, status => some (frame.returning status)
    | .inr _, _ => none
  load_returning := by
    rintro (frame | state) status _ thread ⟨⟩ ⟨hcontext, previous, hregisters, _⟩ hreturns
    obtain ⟨hkind, hip, hsp, hflags, hvalue⟩ := hreturns
    have hrpc : ¬ thread.resumeState.kind = .rpc := by
      rw [hkind]
      exact UserThreadResumeKind.noConfusion
    simp only [loadArm64SyscallFrame, if_neg hrpc, hip, hsp, hflags, hvalue, hcontext, hregisters,
      Arm64SyscallFrame.returning]
    rfl

variable {runtime after : UserRuntime} {active : ThreadRef}

/-- The end of a trap, as the handlers write it. -/
theorem TrapPath.resume_eq (P : TrapPath) (active : ThreadRef) {result : Int32 × UserRuntime}
    {resumed : ThreadRef}
    (hrunnable : result.2.hasRunnableThread = true)
    (hresumed : result.2.currentThread = some resumed) :
    (if resumed = active then
      result.2.modifyThread resumed (Thread.prepareSyscallResume P.arch result.1)
    else result.2) = P.resume active result := by
  unfold TrapPath.resume
  by_cases hsame : resumed = active
  · rw [if_pos hsame, if_pos ⟨hrunnable, hsame ▸ hresumed⟩, hsame]
  · rw [if_neg hsame, if_neg fun hs => hsame (Option.some.inj (hresumed.symm.trans hs.2))]

theorem TrapPath.resume_currentThread (P : TrapPath) (result : Int32 × UserRuntime) :
    (P.resume active result).currentThread = result.2.currentThread := by
  unfold TrapPath.resume
  split
  · rfl
  · rfl

/-- The x64 handler takes the machine to its next state and loads the frame of the thread that is
then on the CPU. -/
theorem x64HandleSyscall_next {frame loaded : X64SyscallFrame}
    (h : x64HandleSyscall frame runtime = .ok (some loaded, after)) :
    after = x64Path.next runtime (.trap frame) ∧ after.hasRunnableThread = true ∧
      ∀ t, after.currentThread = some t → loaded = loadUserThreadFrame (after.thread t) := by
  unfold x64HandleSyscall at h
  split at h
  · cases h
  rename_i active hcurrent
  have hnext : x64Path.next runtime (.trap frame) =
      x64Path.resume active (x64Path.dispatch frame active runtime) := by
    simp only [TrapPath.next, hcurrent]
  simp only [Except.ok.injEq] at h
  change x64Resume active (x64Path.dispatch frame active runtime).1
    (x64Path.dispatch frame active runtime).2 = _ at h
  rw [hnext]
  generalize x64Path.dispatch frame active runtime = result at h
  unfold x64Resume at h
  split at h
  · cases h
  rename_i hrunnable
  rw [Bool.not_eq_true, Bool.not_eq_false'] at hrunnable
  split at h
  · cases h
  rename_i resumed hresumed
  have hprepared := x64Path.resume_eq active hrunnable hresumed
  change (if resumed = active then
    result.2.modifyThread resumed (Thread.prepareSyscallResume .x64 result.1) else result.2) = _
    at hprepared
  simp only [hprepared, Prod.mk.injEq] at h
  obtain ⟨hloaded, rfl⟩ := h
  split at hloaded
  · rename_i hleft
    refine ⟨rfl, hleft, fun t ht => ?_⟩
    rw [x64Path.resume_currentThread, hresumed] at ht
    rw [← Option.some.inj ht]
    exact (Option.some.inj hloaded).symm
  · cases hloaded

/-- The arm64 handler does the same for native threads. -/
theorem arm64HandleSyscall_next {frame loaded : Arm64SyscallFrame}
    (h : arm64HandleSyscall frame runtime = .ok (some loaded, after)) :
    after = arm64Path.next runtime (.trap (.inl frame)) ∧ after.hasRunnableThread = true ∧
      ∀ t, after.currentThread = some t → loaded = loadArm64SyscallFrame (after.thread t) := by
  have hcurrent : ∃ active, runtime.currentThread = some active := by
    unfold arm64HandleSyscall at h
    split at h
    · cases h
    split at h
    · cases h
    · exact ⟨_, by assumption⟩
  obtain ⟨active, hcurrent⟩ := hcurrent
  have hnext : arm64Path.next runtime (.trap (.inl frame)) =
      arm64Path.resume active (arm64Path.dispatch (.inl frame) active runtime) := by
    simp only [TrapPath.next, hcurrent]
  have hresume := arm64HandleSyscall_ok hcurrent h
  change arm64Resume active (arm64Path.dispatch (.inl frame) active runtime).1
    (arm64Path.dispatch (.inl frame) active runtime).2 = _ at hresume
  rw [hnext]
  generalize arm64Path.dispatch (.inl frame) active runtime = result at hresume
  unfold arm64Resume at hresume
  split at hresume
  · cases hresume
  rename_i hrunnable
  rw [Bool.not_eq_true, Bool.not_eq_false'] at hrunnable
  split at hresume
  · cases hresume
  rename_i resumed hresumed
  have hprepared := arm64Path.resume_eq active hrunnable hresumed
  change (if resumed = active then
    result.2.modifyThread resumed (Thread.prepareSyscallResume .arm64 result.1) else result.2) = _
    at hprepared
  simp only [hprepared] at hresume
  split at hresume
  · cases hresume
  simp only [Prod.mk.injEq] at hresume
  obtain ⟨hloaded, rfl⟩ := hresume
  split at hloaded
  · rename_i hleft
    refine ⟨rfl, hleft, fun t ht => ?_⟩
    rw [arm64Path.resume_currentThread, hresumed] at ht
    rw [← Option.some.inj ht]
    exact (Option.some.inj hloaded).symm
  · cases hloaded

/-- A syscall from the emulator takes the machine to its next state. -/
theorem dispatchX64Syscall_next {state : EmulatorState}
    (hcurrent : runtime.currentThread = some active)
    (hrunnable : (arm64Path.next runtime (.trap (.inr state))).hasRunnableThread = true) :
    (dispatchX64Syscall state runtime).2 = arm64Path.next runtime (.trap (.inr state)) := by
  have hdispatch : (runtime.modifyThread active (storeX64EmulatorPreservedState state)).dispatchSyscall
      .arm64 (x64SyscallContext state) = arm64Path.dispatch (.inr state) active runtime := rfl
  simp only [TrapPath.next, hcurrent] at hrunnable ⊢
  simp only [dispatchX64Syscall, hcurrent, hdispatch]
  generalize arm64Path.dispatch (.inr state) active runtime = result at hrunnable ⊢
  unfold TrapPath.resume at hrunnable ⊢
  by_cases hsame : result.2.currentThread = some active
  · have hresult : result.2.hasRunnableThread = true := by
      by_contra hnot
      rw [if_neg fun hs => hnot hs.1] at hrunnable
      exact hnot hrunnable
    rw [if_pos hsame, if_pos ⟨hresult, hsame⟩]
    rfl
  · have hleft : ¬ (result.2.hasRunnableThread = true ∧ result.2.currentThread = some active) :=
      fun hs => hsame hs.2
    rw [if_neg hsame, if_neg hleft]
    split
    · rfl
    · rfl

end Paths

/-- The frame that the x64 handler loads for a thread that returns from a syscall is that of the
syscall's own trap, with the syscall's own status. -/
def X64ReturnsOwn (s : UserRuntime × Stacks X64SyscallFrame) (frame : X64SyscallFrame) : Prop :=
  ∀ loaded after, x64HandleSyscall frame s.1 = .ok (some loaded, after) →
    ∀ t, after.currentThread = some t → (after.thread t).resumeState.kind = .syscall →
      ∀ trap known rest, x64Path.left s.1 (.trap frame) s.2 t = .syscall trap known :: rest →
        ∃ status, known = some status ∧ loaded = trap.returning status

/-- The same for the native arm64 handler; a syscall that came from the emulator has no frame. -/
def Arm64ReturnsOwn (s : UserRuntime × Stacks arm64Path.Trap) (frame : Arm64SyscallFrame) : Prop :=
  ∀ loaded after, arm64HandleSyscall frame s.1 = .ok (some loaded, after) →
    ∀ t, after.currentThread = some t → (after.thread t).resumeState.kind = .syscall →
      ∀ trap known rest,
        arm64Path.left s.1 (.trap (.inl frame)) s.2 t = .syscall (.inl trap) known :: rest →
          ∃ status, known = some status ∧ loaded = trap.returning status

/-- In every run whose events meet the condition, each syscall returns its own status: through the
x64 handler, through the native arm64 handler, and to a native arm64 thread that any other event
resumes. -/
theorem reachable_returnsOwn (x64State : UserRuntime × Stacks X64SyscallFrame)
    (arm64State : UserRuntime × Stacks arm64Path.Trap) :
    (∀ frame, x64Path.system.Reachable x64Path.AnswersOwn x64State →
      x64State.1.hasRunnableThread = true → x64Path.AnswersOwn x64State (.trap frame) →
        X64ReturnsOwn x64State frame) ∧
    (∀ frame, arm64Path.system.Reachable arm64Path.AnswersOwn arm64State →
      arm64State.1.hasRunnableThread = true →
        arm64Path.AnswersOwn arm64State (.trap (.inl frame)) → Arm64ReturnsOwn arm64State frame) ∧
    ∀ event, arm64Path.system.Reachable arm64Path.AnswersOwn arm64State →
      arm64State.1.hasRunnableThread = true → arm64Path.AnswersOwn arm64State event →
        arm64Path.ResumesOwn arm64State event := by
  refine ⟨fun frame hreach hrunnable hguard => ?_, fun frame hreach hrunnable hguard => ?_,
    fun event hreach hrunnable hguard =>
      (TrapPath.reachable_agrees hreach).resumesOwn hrunnable hguard⟩
  · intro loaded after hok t hcurrent hkind trap known rest hstack
    obtain ⟨rfl, hleft, hloaded⟩ := x64HandleSyscall_next hok
    have hresumes := (TrapPath.reachable_agrees hreach).resumesOwn hrunnable hguard hleft t hcurrent
      hkind trap known rest hstack
    obtain ⟨status, hknown, hframe⟩ := hresumes
    exact ⟨status, hknown, (hloaded t hcurrent).trans (hframe _ rfl)⟩
  · intro loaded after hok t hcurrent hkind trap known rest hstack
    obtain ⟨rfl, hleft, hloaded⟩ := arm64HandleSyscall_next hok
    have hresumes := (TrapPath.reachable_agrees hreach).resumesOwn hrunnable hguard hleft t hcurrent
      hkind (.inl trap) known rest hstack
    obtain ⟨status, hknown, hframe⟩ := hresumes
    exact ⟨status, hknown, (hloaded t hcurrent).trans (hframe _ rfl)⟩

/-- A trap of a small booted system. -/
def trapFrame (number argument0 argument1 argument2 stackPointer : UInt64) : X64SyscallFrame :=
  { selfCallFrame argument0 argument1 0x1010 stackPointer with
    rax := number
    rdx := argument2 }

/-- The syscalls of a run, as events of the x64 machine. -/
def trapEvents (frames : List X64SyscallFrame) : List x64Path.Event := frames.map .trap

/-- A server registers and serves one call; `between` is what its callback does before it
completes. -/
def servedRegistration (between : List X64SyscallFrame) : List x64Path.Event :=
  trapEvents ([trapFrame 3 0x1100 0x1200 0x1210 0x1800, trapFrame 4 0x1100 0x1300 0 0x1c00,
    trapFrame 5 4 0x1400 1 0x1c00] ++ between ++ [trapFrame 8 0 0 0 0x1800])

/-- The exit of the client, after which the server returns from its registration. -/
def clientExit : X64SyscallFrame := trapFrame 2 0 0 0 0x1c00

/-- The server returns from the syscall on top of its stack with another status. -/
def returnsOther (s : UserRuntime × Stacks X64SyscallFrame) (frame : X64SyscallFrame)
    (t : ThreadRef) : Bool :=
  match x64HandleSyscall frame s.1 with
  | .ok (some loaded, after) =>
    after.currentThread = some t && (after.thread t).resumeState.kind = .syscall &&
      match x64Path.left s.1 (.trap frame) s.2 t with
      | .syscall _ (some status) :: _ => loaded.rax ≠ signExtendStatus status
      | _ => false
  | _ => false

theorem returnsOther_sound {s : UserRuntime × Stacks X64SyscallFrame} {frame : X64SyscallFrame}
    {t : ThreadRef} (h : returnsOther s frame t = true) : ¬ X64ReturnsOwn s frame := by
  intro hown
  unfold returnsOther at h
  split at h
  · rename_i loaded after hok
    simp only [Bool.and_eq_true, decide_eq_true_eq] at h
    obtain ⟨⟨hcurrent, hkind⟩, hother⟩ := h
    split at hother
    · rename_i trap status rest hstack
      obtain ⟨known, hknown, hloaded⟩ := hown loaded after hok t hcurrent hkind trap _ rest hstack
      rw [hloaded, ← Option.some.inj hknown] at hother
      exact absurd rfl (of_decide_eq_true hother)
    · cases hother
  · cases h

/-- Events other than faults, for evaluation. -/
def runsOn (s : UserRuntime × Stacks X64SyscallFrame) : x64Path.Event → Bool
  | .fault _ _ => false
  | _ => s.1.hasRunnableThread

/-- A callback that logs from an unmapped address before it completes leaves the fault status to
the registration that the server had been waiting in. -/
theorem loggingCallback_returnsOther :
    ∃ s, x64Path.system.Reachable TransitionSystem.anyStep s ∧ s.1.hasRunnableThread = true ∧
      ¬ X64ReturnsOwn s clientExit := by
  have hok : ∀ (s : UserRuntime × Stacks X64SyscallFrame) (event : x64Path.Event),
      runsOn s event = true →
        x64Path.system.enabled s event ∧ TransitionSystem.anyStep s event := by
    intro s event h
    cases event with
    | trap _ => exact ⟨⟨h, trivial⟩, trivial⟩
    | userStores _ => exact ⟨⟨h, trivial⟩, trivial⟩
    | fault _ _ => cases h
  have hlive : (bootRuntime 2).LiveThread 0 := rfl
  have hstart : x64Path.system.init (bootStarted 2, fun _ => []) := ⟨bootStarted_started hlive, rfl⟩
  obtain ⟨s, hreach, hrunnable, hother⟩ := TransitionSystem.exists_reachable
    (P := fun s => s.1.hasRunnableThread = true ∧ returnsOther s clientExit 0 = true)
    (servedRegistration [trapFrame 1 0x9000 0 0 0x1800]) hok hstart (by decide +kernel)
  exact ⟨s, hreach, hrunnable, returnsOther_sound hother⟩

/-- The condition on a trap, for evaluation. -/
def answersOwn (s : UserRuntime × Stacks X64SyscallFrame) : x64Path.Event → Bool
  | .trap trap =>
    let frame : X64SyscallFrame := trap
    s.1.hasRunnableThread && match s.1.currentThread with
      | none => true
      | some active =>
        (Syscall.ofNumber frame.rax ≠ some .rpcCall ||
          ((s.1.modifyThread active frame.saveTo).resolveCall active frame.context).toOption.all
            fun target => target.2 ≠ active) &&
        (Syscall.ofNumber frame.rax ≠ some .rpcComplete ||
          match s.1.findPendingChannelByServerThread active, s.2 active with
          | none, _ => true
          | some ref, .callback c :: .syscall _ (some status) :: _ =>
            c = ref && (s.1.thread active).pendingSyscallStatus = status
          | _, _ => false)
  | _ => false

theorem answersOwn_sound {s : UserRuntime × Stacks X64SyscallFrame} {event : x64Path.Event}
    (h : answersOwn s event = true) :
    x64Path.system.enabled s event ∧ x64Path.AnswersOwn s event := by
  cases event with
  | fault _ _ => cases h
  | userStores _ => cases h
  | trap trap =>
    simp only [answersOwn, Bool.and_eq_true] at h
    obtain ⟨hrunnable, h⟩ := h
    refine ⟨⟨hrunnable, trivial⟩, fun active hcurrent => ?_⟩
    simp only [hcurrent, Bool.and_eq_true, Bool.or_eq_true, decide_eq_true_eq] at h
    obtain ⟨hcall, hcomplete⟩ := h
    refine ⟨fun ref haccepts => ?_, fun hsyscall ref call hfirst _ => ?_⟩
    · have htarget := hcall.resolve_left fun hne => hne haccepts.syscall
      have hown : (s.1.modifyThread active (X64SyscallFrame.saveTo trap)).resolveCall active
          (X64SyscallFrame.context trap) = .ok (ref, active) := haccepts.own
      rw [hown] at htarget
      exact absurd rfl (of_decide_eq_true htarget)
    · have hmatch := hcomplete.resolve_left fun hne => hne hsyscall
      rw [hfirst] at hmatch
      split at hmatch
      · rename_i hnone
        cases hnone
      · rename_i first c below status rest hsome hstack
        obtain rfl := Option.some.inj hsome
        simp only [Bool.and_eq_true, decide_eq_true_eq] at hmatch
        obtain ⟨rfl, hstatus⟩ := hmatch
        refine ⟨⟨_, hstack⟩, fun other known deeper hother => ?_⟩
        rw [hstack] at hother
        cases hother
        exact hstatus
      · cases hmatch

/-- A callback that only completes leaves the registration its status. -/
theorem quietCallback_returnsOwn :
    ∃ s, x64Path.system.Reachable x64Path.AnswersOwn s ∧
      (∃ loaded after, x64HandleSyscall clientExit s.1 = .ok (some loaded, after) ∧
        loaded.rax = signExtendStatus Status.ok) ∧ X64ReturnsOwn s clientExit := by
  have hlive : (bootRuntime 2).LiveThread 0 := rfl
  have hstart : x64Path.system.init (bootStarted 2, fun _ => []) := ⟨bootStarted_started hlive, rfl⟩
  obtain ⟨s, hreach, hguard, hloads⟩ := TransitionSystem.exists_reachable
    (P := fun s => answersOwn s (.trap clientExit) = true ∧
      ((x64HandleSyscall clientExit s.1).toOption.bind Prod.fst).any
        (fun loaded => loaded.rax = signExtendStatus Status.ok) = true)
    (servedRegistration []) (fun _ _ => answersOwn_sound) hstart (by decide +kernel)
  obtain ⟨henabled, hanswers⟩ := answersOwn_sound hguard
  refine ⟨s, hreach, ?_, ?_⟩
  · obtain ⟨loaded, hloaded, hrax⟩ := (Option.any_eq_true _ _).mp hloads
    cases hok : x64HandleSyscall clientExit s.1 with
    | error message =>
      rw [hok] at hloaded
      cases hloaded
    | ok result =>
      rw [hok] at hloaded
      obtain ⟨first, after⟩ := result
      obtain rfl : first = some loaded := hloaded
      exact ⟨loaded, after, rfl, of_decide_eq_true hrax⟩
  · exact (reachable_returnsOwn s (s.1, fun _ => [])).1 clientExit hreach henabled.1 hanswers

end Ringos.Arch

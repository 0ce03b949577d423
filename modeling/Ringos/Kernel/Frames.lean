import Ringos.Kernel.Syscall

/-!
# What each write leaves alone

Field lemmas for the primitive writes of the runtime, and the one description
of a thread switch that every later proof uses: each thread keeps its whole
record except for its state, which `switchedState` gives.
-/

namespace Ringos.Kernel

open Ringos.Core

namespace UserRuntime

variable {runtime : UserRuntime}

/-- The slot of a thread is occupied. -/
def LiveThread (runtime : UserRuntime) (ref : ThreadRef) : Prop :=
  (runtime.threads.items ref).isSome = true

section Fields

variable (runtime : UserRuntime)

@[simp] theorem modifyThread_channels (ref : ThreadRef) (f : Thread → Thread) :
    (runtime.modifyThread ref f).channels = runtime.channels := rfl

@[simp] theorem modifyThread_endpoints (ref : ThreadRef) (f : Thread → Thread) :
    (runtime.modifyThread ref f).endpoints = runtime.endpoints := rfl

@[simp] theorem modifyThread_currentThread (ref : ThreadRef) (f : Thread → Thread) :
    (runtime.modifyThread ref f).currentThread = runtime.currentThread := rfl

@[simp] theorem modifyThread_processes (ref : ThreadRef) (f : Thread → Thread) :
    (runtime.modifyThread ref f).processes = runtime.processes := rfl

@[simp] theorem modifyThread_memory (ref : ThreadRef) (f : Thread → Thread) :
    (runtime.modifyThread ref f).memory = runtime.memory := rfl

@[simp] theorem modifyThread_nextHandleValue (ref : ThreadRef) (f : Thread → Thread) :
    (runtime.modifyThread ref f).nextHandleValue = runtime.nextHandleValue := rfl

@[simp] theorem modifyChannel_threads (ref : ChannelRef) (f : RpcChannel → RpcChannel) :
    (runtime.modifyChannel ref f).threads = runtime.threads := rfl

@[simp] theorem modifyChannel_endpoints (ref : ChannelRef) (f : RpcChannel → RpcChannel) :
    (runtime.modifyChannel ref f).endpoints = runtime.endpoints := rfl

@[simp] theorem modifyChannel_currentThread (ref : ChannelRef) (f : RpcChannel → RpcChannel) :
    (runtime.modifyChannel ref f).currentThread = runtime.currentThread := rfl

@[simp] theorem modifyChannel_nextHandleValue (ref : ChannelRef) (f : RpcChannel → RpcChannel) :
    (runtime.modifyChannel ref f).nextHandleValue = runtime.nextHandleValue := rfl

@[simp] theorem modifyEndpoint_threads (ref : EndpointRef) (f : RpcEndpoint → RpcEndpoint) :
    (runtime.modifyEndpoint ref f).threads = runtime.threads := rfl

@[simp] theorem modifyEndpoint_channels (ref : EndpointRef) (f : RpcEndpoint → RpcEndpoint) :
    (runtime.modifyEndpoint ref f).channels = runtime.channels := rfl

@[simp] theorem modifyEndpoint_currentThread (ref : EndpointRef) (f : RpcEndpoint → RpcEndpoint) :
    (runtime.modifyEndpoint ref f).currentThread = runtime.currentThread := rfl

@[simp] theorem modifyEndpoint_nextHandleValue (ref : EndpointRef)
    (f : RpcEndpoint → RpcEndpoint) :
    (runtime.modifyEndpoint ref f).nextHandleValue = runtime.nextHandleValue := rfl

end Fields

@[simp] theorem liveThread_modifyThread {ref other : ThreadRef} {f : Thread → Thread} :
    (runtime.modifyThread ref f).LiveThread other ↔ runtime.LiveThread other := by
  simp only [LiveThread, modifyThread, KernelObjectPool.modify_items_isSome]

theorem thread_modifyThread_self {ref : ThreadRef} (h : runtime.LiveThread ref)
    (f : Thread → Thread) : (runtime.modifyThread ref f).thread ref = f (runtime.thread ref) :=
  KernelObjectPool.get_modify_self h f

theorem thread_modifyThread_of_ne {ref other : ThreadRef} (h : other ≠ ref)
    (f : Thread → Thread) : (runtime.modifyThread ref f).thread other = runtime.thread other :=
  KernelObjectPool.get_modify_of_ne _ h f

/-- The thread table after a write to a live thread. -/
theorem thread_modifyThread {ref : ThreadRef} (h : runtime.LiveThread ref)
    (f : Thread → Thread) (other : ThreadRef) :
    (runtime.modifyThread ref f).thread other =
      if other = ref then f (runtime.thread ref) else runtime.thread other := by
  by_cases he : other = ref
  · subst he
    rw [if_pos rfl, thread_modifyThread_self h]
  · rw [if_neg he, thread_modifyThread_of_ne he]

/-- What a write to a thread keeps is kept for every thread, live or not. -/
theorem thread_modifyThread_keeps {β : Type} {ref : ThreadRef} {f : Thread → Thread}
    (g : Thread → β) (hf : ∀ thread, g (f thread) = g thread) (other : ThreadRef) :
    g ((runtime.modifyThread ref f).thread other) = g (runtime.thread other) := by
  by_cases hlive : runtime.LiveThread ref
  · rw [thread_modifyThread hlive]
    split
    · rename_i he
      rw [hf, he]
    · rfl
  · by_cases he : other = ref
    · subst he
      have hitem : runtime.threads.items other = none := by
        simpa [LiveThread, Option.isNone_iff_eq_none] using hlive
      simp only [thread, modifyThread, KernelObjectPool.get, KernelObjectPool.modify_items_self,
        hitem, Option.map_none]
    · rw [thread_modifyThread_of_ne he]

/-- What the write of a trap context keeps. -/
theorem thread_enterSyscall_keeps {β : Type} {active : ThreadRef} {context : UserSyscallContext}
    (g : Thread → β) (hg : ∀ userContext thread, g (thread.setUserContext userContext) = g thread)
    (other : ThreadRef) :
    g ((runtime.enterSyscall active context).thread other) = g (runtime.thread other) :=
  thread_modifyThread_keeps g (hg _) other

/-- An empty slot reads as a thread in state `empty`. -/
theorem liveThread_of_state {ref : ThreadRef} (h : (runtime.thread ref).state ≠ .empty) :
    runtime.LiveThread ref := by
  unfold LiveThread
  cases ht : runtime.threads.items ref with
  | some _ => rfl
  | none =>
    refine absurd ?_ h
    simp only [thread, KernelObjectPool.get, ht, Option.getD_none]
    rfl

/-- The state `demoteCurrentThread` leaves a thread in. -/
def demotedState (runtime : UserRuntime) (next : Option ThreadRef) (ref : ThreadRef) :
    UserThreadState :=
  if runtime.currentThread = some ref ∧ some ref ≠ next ∧ (runtime.thread ref).state = .running
  then .ready else (runtime.thread ref).state

/-- The state `setCurrentThread` leaves a thread in. -/
def switchedState (runtime : UserRuntime) (next : Option ThreadRef) (ref : ThreadRef) :
    UserThreadState :=
  if next = some ref ∧ runtime.demotedState next ref = .ready then .running
  else runtime.demotedState next ref

theorem thread_demoteCurrentThread (runtime : UserRuntime) (next : Option ThreadRef)
    (ref : ThreadRef) :
    (runtime.demoteCurrentThread next).thread ref =
      (runtime.thread ref).setState (runtime.demotedState next ref) := by
  unfold demoteCurrentThread demotedState
  cases hc : runtime.currentThread with
  | none => simp [Thread.setState]
  | some previous =>
    by_cases hdemote : some previous ≠ next ∧ (runtime.thread previous).state = .running
    · have hlive : runtime.LiveThread previous := liveThread_of_state (by simp [hdemote.2])
      simp only [if_pos hdemote, thread_modifyThread hlive, Option.some.injEq]
      by_cases hr : ref = previous
      · subst hr
        rw [if_pos rfl, if_pos ⟨rfl, hdemote⟩]
      · rw [if_neg hr, if_neg fun h => hr h.1.symm]
        rfl
    · simp only [if_neg hdemote, Option.some.injEq]
      rw [if_neg]
      · rfl
      · rintro ⟨rfl, h⟩
        exact hdemote h

/-- Promotion writes the thread table only. -/
theorem promoteCurrentThread_eq (runtime : UserRuntime) :
    runtime.promoteCurrentThread =
      { runtime with threads := runtime.promoteCurrentThread.threads } := by
  unfold promoteCurrentThread
  split
  · rfl
  · split <;> rfl

/-- Demotion writes the thread table only. -/
theorem demoteCurrentThread_eq (runtime : UserRuntime) (next : Option ThreadRef) :
    runtime.demoteCurrentThread next =
      { runtime with threads := (runtime.demoteCurrentThread next).threads } := by
  unfold demoteCurrentThread
  split
  · rfl
  · split <;> rfl

theorem thread_promoteCurrentThread (runtime : UserRuntime) (ref : ThreadRef) :
    runtime.promoteCurrentThread.thread ref = (runtime.thread ref).setState
      (if runtime.currentThread = some ref ∧ (runtime.thread ref).state = .ready then .running
        else (runtime.thread ref).state) := by
  unfold promoteCurrentThread
  cases hc : runtime.currentThread with
  | none => simp [Thread.setState]
  | some selected =>
    by_cases hready : (runtime.thread selected).state = .ready
    · have hlive : runtime.LiveThread selected := liveThread_of_state (by simp [hready])
      simp only [if_pos hready, thread_modifyThread hlive, Option.some.injEq]
      by_cases hr : ref = selected
      · subst hr
        rw [if_pos rfl, if_pos ⟨rfl, hready⟩]
      · rw [if_neg hr, if_neg fun h => hr h.1.symm]
        rfl
    · simp only [if_neg hready, Option.some.injEq]
      rw [if_neg]
      · rfl
      · rintro ⟨rfl, h⟩
        exact hready h

/-- A switch writes the thread table and the current thread only. -/
theorem setCurrentThread_eq (runtime : UserRuntime) (next : Option ThreadRef) :
    runtime.setCurrentThread next =
      { runtime with
        threads := (runtime.setCurrentThread next).threads
        currentThread := next } := by
  unfold setCurrentThread
  rw [promoteCurrentThread_eq, demoteCurrentThread_eq]

@[simp] theorem setCurrentThread_currentThread (runtime : UserRuntime) (next : Option ThreadRef) :
    (runtime.setCurrentThread next).currentThread = next := by
  rw [setCurrentThread_eq]

@[simp] theorem setCurrentThread_channels (runtime : UserRuntime) (next : Option ThreadRef) :
    (runtime.setCurrentThread next).channels = runtime.channels := by
  rw [setCurrentThread_eq]

@[simp] theorem setCurrentThread_endpoints (runtime : UserRuntime) (next : Option ThreadRef) :
    (runtime.setCurrentThread next).endpoints = runtime.endpoints := by
  rw [setCurrentThread_eq]

@[simp] theorem setCurrentThread_processes (runtime : UserRuntime) (next : Option ThreadRef) :
    (runtime.setCurrentThread next).processes = runtime.processes := by
  rw [setCurrentThread_eq]

@[simp] theorem setCurrentThread_memory (runtime : UserRuntime) (next : Option ThreadRef) :
    (runtime.setCurrentThread next).memory = runtime.memory := by
  rw [setCurrentThread_eq]

@[simp] theorem setCurrentThread_nextHandleValue (runtime : UserRuntime)
    (next : Option ThreadRef) :
    (runtime.setCurrentThread next).nextHandleValue = runtime.nextHandleValue := by
  rw [setCurrentThread_eq]

/-- Scheduling writes the thread table and the current thread only. -/
theorem scheduleNextReadyThread_eq (runtime : UserRuntime) :
    runtime.scheduleNextReadyThread.2 =
      { runtime with
        threads := runtime.scheduleNextReadyThread.2.threads
        currentThread := runtime.scheduleNextReadyThread.2.currentThread } := by
  unfold scheduleNextReadyThread
  split
  · rfl
  · rw [setCurrentThread_eq]

/-- Scheduling keeps what a switch keeps. -/
theorem scheduleNextReadyThread_keeps {β : Type} (f : UserRuntime → β) (runtime : UserRuntime)
    (hswitch : ∀ next, f (runtime.setCurrentThread next) = f runtime)
    (hidle : f { runtime with currentThread := none } = f runtime) :
    f runtime.scheduleNextReadyThread.2 = f runtime := by
  unfold scheduleNextReadyThread
  split
  · exact hidle
  · next afterThread _ => exact hswitch (some afterThread)

/-- A switch changes nothing of a thread but its state. -/
@[simp] theorem thread_setCurrentThread (runtime : UserRuntime) (next : Option ThreadRef)
    (ref : ThreadRef) :
    (runtime.setCurrentThread next).thread ref =
      (runtime.thread ref).setState (runtime.switchedState next ref) := by
  have hdemoted := thread_demoteCurrentThread runtime next ref
  rw [setCurrentThread, thread_promoteCurrentThread]
  change ((runtime.demoteCurrentThread next).thread ref).setState
    (if next = some ref ∧ ((runtime.demoteCurrentThread next).thread ref).state = .ready
      then .running else ((runtime.demoteCurrentThread next).thread ref).state) = _
  rw [hdemoted]
  rfl

theorem demoteCurrentThread_live (runtime : UserRuntime) (next : Option ThreadRef)
    (ref : ThreadRef) :
    ((runtime.demoteCurrentThread next).threads.items ref).isSome =
      (runtime.threads.items ref).isSome := by
  unfold demoteCurrentThread
  cases runtime.currentThread with
  | none => rfl
  | some previous =>
    dsimp only
    split
    · simp only [modifyThread, KernelObjectPool.modify_items_isSome]
    · rfl

@[simp] theorem liveThread_setCurrentThread (runtime : UserRuntime) (next : Option ThreadRef)
    (ref : ThreadRef) : (runtime.setCurrentThread next).LiveThread ref ↔ runtime.LiveThread ref := by
  unfold LiveThread setCurrentThread promoteCurrentThread
  rw [← demoteCurrentThread_live runtime next ref]
  cases next with
  | none => rfl
  | some selected =>
    dsimp only
    split
    · simp only [modifyThread, KernelObjectPool.modify_items_isSome]
    · rfl

/-- A reported thread is ready. -/
theorem findNextReadyThread_ready {afterThread : Option ThreadRef} {next : ThreadRef}
    (h : runtime.findNextReadyThread afterThread = some next) :
    (runtime.thread next).state = .ready := by
  have hready : runtime.isReadySlot next = true := by
    unfold findNextReadyThread at h
    dsimp only at h
    split at h
    · rename_i candidate hf
      obtain rfl := Option.some.inj h
      simpa using (Bool.and_eq_true_iff.mp (firstIndex_some hf)).2
    · exact (Bool.and_eq_true_iff.mp (firstIndex_some h)).2
  unfold isReadySlot at hready
  split at hready
  · cases hready
  · rename_i candidate hs
    rw [thread, KernelObjectPool.get_of_items hs]
    exact eq_of_beq hready

/-- When none is reported, no thread is ready. -/
theorem findNextReadyThread_none {afterThread : Option ThreadRef}
    (h : runtime.findNextReadyThread afterThread = none) (ref : ThreadRef) :
    (runtime.thread ref).state ≠ .ready := by
  intro hready
  have hslot : runtime.isReadySlot ref = true := by
    have hlive : runtime.LiveThread ref := liveThread_of_state (by simp [hready])
    obtain ⟨thread, ht⟩ := Option.isSome_iff_exists.mp hlive
    rw [UserRuntime.thread, KernelObjectPool.get_of_items ht] at hready
    simp only [isReadySlot, ht, hready, beq_self_eq_true]
  unfold findNextReadyThread at h
  dsimp only at h
  split at h
  · cases h
  · rename_i hlater
    have hbehind := firstIndex_eq_none.mp hlater ref
    have hbefore := firstIndex_eq_none.mp h ref
    simp only [hslot, Bool.and_true, decide_eq_false_iff_not] at hbehind hbefore
    omega

end UserRuntime

end Ringos.Kernel

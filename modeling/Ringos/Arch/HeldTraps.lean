import Ringos.Arch.OwnStatus

/-!
# The traps whose registers the kernel holds

A thread keeps the registers of its last trap until it is resumed. A call saves
those of its server, and the completion gives them back, so what a thread is
resumed with is not always what it trapped with last. The traps that the
registers come from are kept beside the runtime, for every path into the kernel
and for every run.
-/

namespace Ringos.Arch

open Ringos.Core Ringos.Kernel Ringos.Scheduler UserRuntime

/-- The traps whose registers are held, by the threads that have not been resumed since and by the
calls that have saved them. -/
structure HeldTraps (Trap : Type) where
  thread : ThreadRef → Option Trap
  call : ChannelRef → Option Trap

namespace HeldTraps

variable {Trap : Type}

/-- No thread has trapped. -/
def empty : HeldTraps Trap := ⟨fun _ => none, fun _ => none⟩

/-- A thread traps. -/
def take (held : HeldTraps Trap) (active : ThreadRef) (trap : Trap) : HeldTraps Trap :=
  { held with thread := Function.update held.thread active (some trap) }

/-- A step of the thread on the CPU. A call that begins saves the trap of its server, and the call
that the step has completed gives the thread the trap it had saved. -/
def pass (held : HeldTraps Trap) (before after : UserRuntime) (active : ThreadRef)
    (completed : Option ChannelRef) : HeldTraps Trap where
  thread t :=
    if (after.thread t).state = .exited then none
    else if t = active then completed.elim (held.thread t) held.call
    else held.thread t
  call c :=
    match before.pending c, after.pending c with
    | _, none => none
    | none, some call => held.thread call.serverThread
    | some _, some _ => held.call c

/-- The thread on the CPU goes on in its code or in a callback. -/
def release (held : HeldTraps Trap) (after : UserRuntime) : HeldTraps Trap :=
  { held with thread := fun t => if after.currentThread = some t then none else held.thread t }

section Moves

variable {held : HeldTraps Trap} {before after : UserRuntime} {active : ThreadRef}
  {completed : Option ChannelRef} {trap : Trap}

/-- Where a thread has its trap from. -/
theorem pass_thread {t : ThreadRef}
    (h : (held.pass before after active completed).thread t = some trap) :
    (t = active → completed = none) ∧ held.thread t = some trap ∨
      t = active ∧ ∃ c, completed = some c ∧ held.call c = some trap := by
  simp only [pass] at h
  split at h
  · cases h
  split at h
  · rename_i ht
    cases completed with
    | none => exact .inl ⟨fun _ => rfl, h⟩
    | some c => exact .inr ⟨ht, c, rfl, h⟩
  · rename_i ht
    exact .inl ⟨fun heq => absurd heq ht, h⟩

/-- Where a call has its trap from. -/
theorem pass_call {c : ChannelRef}
    (h : (held.pass before after active completed).call c = some trap) :
    ∃ call, after.pending c = some call ∧
      (before.pending c = none ∧ held.thread call.serverThread = some trap ∨
        (before.pending c).isSome ∧ held.call c = some trap) := by
  simp only [pass] at h
  split at h
  · cases h
  · rename_i call hidle hcall
    exact ⟨call, hcall, .inl ⟨hidle, h⟩⟩
  · rename_i saved call hbusy hcall
    exact ⟨call, hcall, .inr ⟨by rw [hbusy]; rfl, h⟩⟩

/-- Every held trap has a property. -/
structure All (Q : Trap → Prop) (held : HeldTraps Trap) : Prop where
  thread : ∀ t trap, held.thread t = some trap → Q trap
  call : ∀ c trap, held.call c = some trap → Q trap

variable {Q : Trap → Prop}

theorem all_empty : (empty : HeldTraps Trap).All Q :=
  ⟨fun _ _ h => (by cases h), fun _ _ h => (by cases h)⟩

theorem All.take (h : held.All Q) (active : ThreadRef) (htrap : Q trap) :
    (held.take active trap).All Q := by
  refine ⟨fun t other hother => ?_, h.call⟩
  simp only [HeldTraps.take, Function.update_apply] at hother
  split at hother
  · exact Option.some.inj hother ▸ htrap
  · exact h.thread t other hother

theorem All.pass (h : held.All Q) : (held.pass before after active completed).All Q := by
  constructor
  · intro t trap htrap
    rcases pass_thread htrap with ⟨_, hheld⟩ | ⟨_, c, _, hheld⟩
    · exact h.thread t trap hheld
    · exact h.call c trap hheld
  · intro c trap htrap
    obtain ⟨call, _, ⟨_, hheld⟩ | ⟨_, hheld⟩⟩ := pass_call htrap
    · exact h.thread call.serverThread trap hheld
    · exact h.call c trap hheld

theorem All.release (h : held.All Q) (after : UserRuntime) : (held.release after).All Q := by
  refine ⟨fun t trap htrap => ?_, h.call⟩
  simp only [HeldTraps.release] at htrap
  split at htrap
  · cases htrap
  · exact h.thread t trap htrap

end Moves

end HeldTraps

namespace TrapPath

variable (P : TrapPath)

/-- The channel on which a trap completes a call. -/
def completes (trap : P.Trap) (active : ThreadRef) (runtime : UserRuntime) : Option ChannelRef :=
  if Syscall.ofNumber (P.context trap).syscallNumber = some .rpcComplete then
    runtime.findPendingChannelByServerThread active
  else none

/-- The held traps once an event is over, before the thread on the CPU goes on. -/
def holding (runtime : UserRuntime) (event : P.Event) (held : HeldTraps P.Trap) :
    HeldTraps P.Trap :=
  match runtime.currentThread, event with
  | some active, .trap trap =>
    (held.take active trap).pass runtime (P.next runtime (.trap trap)) active
      (P.completes trap active runtime)
  | some active, .fault exitStatus peerFailureStatus =>
    held.pass runtime (P.next runtime (.fault exitStatus peerFailureStatus)) active none
  | _, _ => held

/-- The runs of a machine, with the traps whose registers the kernel holds. -/
def heldSystem : TransitionSystem (UserRuntime × HeldTraps P.Trap) P.Event where
  init s := Started s.1 ∧ s.2 = .empty
  enabled s event := s.1.hasRunnableThread = true ∧
    match event with
    | .fault _ _ => P.arch = .arm64
    | _ => True
  next s event := (P.next s.1 event, (P.holding s.1 event s.2).release (P.next s.1 event))

/-- The path whose traps carry something else along. -/
def beside (Tag : Type) : TrapPath where
  arch := P.arch
  Trap := P.Trap × Tag
  Frame := P.Frame
  context trap := P.context trap.1
  registers trap := P.registers trap.1
  simdQwords trap := P.simdQwords trap.1
  load := P.load
  returning trap := P.returning trap.1
  load_returning := P.load_returning

variable {P} {Tag : Type}

/-- An event that carries something else along. -/
def Event.beside (tag : Tag) : P.Event → (P.beside Tag).Event
  | .trap frame => .trap (frame, tag)
  | .fault exitStatus peerFailureStatus => .fault exitStatus peerFailureStatus
  | .userStores memory => .userStores memory

/-- The runtime does not depend on it. -/
theorem next_beside (runtime : UserRuntime) (event : P.Event) (tag : Tag) :
    (P.beside Tag).next runtime (event.beside tag) = P.next runtime event := by
  cases event with
  | trap _ => rfl
  | fault _ _ => rfl
  | userStores _ => rfl

/-- The traps that an event takes have a property, and those held before as well. -/
theorem holding_all {Q : P.Trap → Prop} {held : HeldTraps P.Trap} (h : held.All Q)
    (runtime : UserRuntime) {event : P.Event} (htrap : ∀ trap, event = .trap trap → Q trap) :
    (P.holding runtime event held).All Q := by
  unfold holding
  split
  · exact (h.take _ (htrap _ rfl)).pass
  · exact h.pass
  · exact h

end TrapPath

/-- The registers that the kernel keeps with a thread. -/
def heldRegisters (thread : Thread) : ThreadContext × PreservedRegisters × PreservedSimdQwords :=
  (thread.userContext, thread.archPreservedRegisters, thread.archPreservedSimdQwords)

/-- The registers that a call has saved of its server. -/
def savedRegisters (call : PendingCall) :
    ThreadContext × PreservedRegisters × PreservedSimdQwords :=
  (call.savedServerContext, call.savedServerRegisters, call.savedServerSimdQwords)

/-- The registers are those that a trap has captured. -/
def TrapPath.Of (P : TrapPath) (trap : P.Trap)
    (registers : ThreadContext × PreservedRegisters × PreservedSimdQwords) : Prop :=
  CapturedBy (P.context trap) (P.registers trap) (P.simdQwords trap) registers.1 registers.2.1
    registers.2.2

/-- Threads and calls hold the registers of their traps. -/
structure TrapPath.Holds (P : TrapPath) (runtime : UserRuntime) (held : HeldTraps P.Trap) :
    Prop where
  thread : ∀ t trap, held.thread t = some trap → P.Of trap (heldRegisters (runtime.thread t))
  call : ∀ c trap, held.call c = some trap →
    ∃ call, runtime.pending c = some call ∧ P.Of trap (savedRegisters call)

section Steps

variable {P : TrapPath} {before after runtime : UserRuntime} {active : ThreadRef}
  {held : HeldTraps P.Trap}

theorem heldRegisters_unwritten : Unwritten heldRegisters :=
  ⟨fun _ _ => rfl, fun _ _ _ => rfl, fun _ _ _ _ _ _ => rfl⟩

/-- A step that writes the registers of no thread but the one that completes a call, and that
begins calls with the registers of their servers. -/
structure Hands (before after : UserRuntime) (active : ThreadRef) (completed : Option ChannelRef) :
    Prop where
  kept : ∀ t, (t = active → completed = none) →
    heldRegisters (after.thread t) = heldRegisters (before.thread t)
  restored : ∀ c, completed = some c → ∃ call, before.pending c = some call ∧
    heldRegisters (after.thread active) = savedRegisters call
  pending : ∀ c call, after.pending c = some call → before.pending c = some call ∨
    before.pending c = none ∧ completed = none ∧
      savedRegisters call = heldRegisters (after.thread call.serverThread)

/-- Such a step hands on the traps with their registers. -/
theorem TrapPath.Holds.pass {completed : Option ChannelRef} (h : P.Holds before held)
    (hstep : Hands before after active completed) :
    P.Holds after (held.pass before after active completed) := by
  have hkept : ∀ t trap, (t = active → completed = none) → held.thread t = some trap →
      P.Of trap (heldRegisters (after.thread t)) := by
    intro t trap hnone htrap
    rw [hstep.kept t hnone]
    exact h.thread t trap htrap
  constructor
  · intro t trap htrap
    rcases HeldTraps.pass_thread htrap with ⟨hnone, hheld⟩ | ⟨rfl, c, hcompleted, hheld⟩
    · exact hkept t trap hnone hheld
    · obtain ⟨call, hcall, hrestored⟩ := hstep.restored c hcompleted
      obtain ⟨saved, hsaved, hof⟩ := h.call c trap hheld
      obtain rfl : call = saved := Option.some.inj (hcall.symm.trans hsaved)
      rwa [hrestored]
  · intro c trap htrap
    obtain ⟨call, hcall, ⟨hidle, hheld⟩ | ⟨hbusy, hheld⟩⟩ := HeldTraps.pass_call htrap
    · refine ⟨call, hcall, ?_⟩
      rcases hstep.pending c call hcall with hbefore | ⟨_, hnone, hsaved⟩
      · rw [hidle] at hbefore
        cases hbefore
      · rw [hsaved]
        exact hkept call.serverThread trap (fun _ => hnone) hheld
    · obtain ⟨found, hfound, hof⟩ := h.call c trap hheld
      rcases hstep.pending c call hcall with hbefore | ⟨hidle, _⟩
      · obtain rfl : found = call := Option.some.inj (hfound.symm.trans hbefore)
        exact ⟨found, hcall, hof⟩
      · rw [hidle] at hbusy
        cases hbusy

/-- The same once the thread on the CPU has gone on. -/
theorem TrapPath.Holds.release (h : P.Holds runtime held) (after : UserRuntime) :
    P.Holds runtime (held.release after) := by
  refine ⟨fun t trap htrap => ?_, h.call⟩
  simp only [HeldTraps.release] at htrap
  split at htrap
  · cases htrap
  · exact h.thread t trap htrap

/-- A call that a step begins has saved the registers that its server is left with. -/
theorem savedRegisters_of_begun {c : ChannelRef} {call : PendingCall}
    (hcall : after.pending c = some call)
    (hbegun : begunAt before after c = some (Begun.ofPending c call)) :
    before.pending c = none ∧
      savedRegisters call = heldRegisters (after.thread call.serverThread) := by
  unfold begunAt at hbegun
  split at hbegun
  · rename_i begun hidle hfound
    obtain rfl : call = begun := Option.some.inj (hcall.symm.trans hfound)
    simp only [Option.some.injEq, Begun.ofPending, Begun.mk.injEq] at hbegun
    obtain ⟨_, _, _, _, hcontext, hregisters, hsimd⟩ := hbegun
    refine ⟨hidle, ?_⟩
    simp only [savedRegisters, heldRegisters, hcontext, hregisters, hsimd]
  · cases hbegun

/-- A step that writes no registers hands nothing over but begins calls. -/
theorem hands_of_callKept
    (hkept : ∀ t, heldRegisters (after.thread t) = heldRegisters (before.thread t))
    (hcalls : ∀ c, CallKept before after c) : Hands before after active none := by
  refine ⟨fun t _ => hkept t, fun c hc => (by cases hc), fun c call hcall => ?_⟩
  rcases hcalls c with hsame | hnone | ⟨begun, hbegun, hat⟩
  · exact .inl (hsame.symm.trans hcall)
  · rw [hnone] at hcall
    cases hcall
  · obtain rfl : begun = call := Option.some.inj (hbegun.symm.trans hcall)
    obtain ⟨hidle, hsaved⟩ := savedRegisters_of_begun hbegun hat
    exact .inr ⟨hidle, rfl, hsaved⟩

/-- The exit of a thread writes no registers. -/
theorem terminateCurrentThread_hands (arch : Arch) (exitStatus : UInt64)
    (peerFailureStatus : Int32) :
    Hands runtime (runtime.terminateCurrentThread arch exitStatus peerFailureStatus).2 active
      none :=
  hands_of_callKept
    (fun _ => terminateCurrentThread_keeps heldRegisters_unwritten exitStatus peerFailureStatus
      fun _ _ _ => rfl)
    (terminateCurrentThread_callKept arch runtime exitStatus peerFailureStatus)

/-- The dispatch of a syscall writes the trap context of its thread and, if it completes a call,
what the call has saved. -/
theorem dispatchSyscall_hands (arch : Arch) (hw : WellFormed runtime)
    (htidy : Tidy runtime.picture) (hcurrent : runtime.currentThread = some active)
    (context : UserSyscallContext) :
    Hands (runtime.enterSyscall active context) (runtime.dispatchSyscall arch context).2 active
      (if Syscall.ofNumber context.syscallNumber = some .rpcComplete then
        runtime.findPendingChannelByServerThread active
      else none) := by
  have hdispatch : runtime.dispatchSyscall arch context =
      (runtime.enterSyscall active context).dispatchActive arch active context := by
    simp only [dispatchSyscall, hcurrent]
  have houtcome := dispatchActive_outcome arch (runtime.enterSyscall active context) active context
  rw [← hdispatch] at houtcome
  by_cases hcompletes : Syscall.ofNumber context.syscallNumber = some .rpcComplete ∧
      ∃ ref, runtime.findPendingChannelByServerThread active = some ref
  · obtain ⟨hsyscall, ref, hfind⟩ := hcompletes
    obtain ⟨call, hcall, hserver⟩ := findPendingChannel_some hfind
    have hanswers := complete_answers arch hw htidy hcurrent hsyscall hfind hcall
    obtain ⟨_, hcontext, hregisters, hsimd⟩ := hanswers.restores
    rw [if_pos hsyscall, hfind]
    constructor
    · intro t ht
      refine outcome_keeps heldRegisters_unwritten houtcome (fun _ _ _ => rfl) ?_
      intro other found _ hother hfound hserver' thread
      obtain rfl : ref = other := Option.some.inj (hfind.symm.trans hother)
      obtain rfl : call = found := Option.some.inj (hcall.symm.trans hfound)
      cases ht (hserver'.trans hserver)
    · intro c hc
      obtain rfl := Option.some.inj hc
      refine ⟨call, hcall, ?_⟩
      simp only [heldRegisters, hcontext, hregisters, hsimd]
      rfl
    · intro c found hfound
      rw [hanswers.finishes] at hfound
      exact .inl (pending_of_update_none hfound)
  · have hnone : (if Syscall.ofNumber context.syscallNumber = some .rpcComplete then
        runtime.findPendingChannelByServerThread active else none) = none := by
      split
      · rename_i hsyscall
        exact Option.eq_none_iff_forall_ne_some.mpr fun ref href => hcompletes ⟨hsyscall, ref, href⟩
      · rfl
    rw [hnone]
    refine hands_of_callKept (fun t => ?_) fun c => outcome_callKept houtcome c
    refine outcome_keeps heldRegisters_unwritten houtcome (fun _ _ _ => rfl) ?_
    intro ref call hsyscall hfind
    exact absurd ⟨hsyscall, ref, hfind⟩ hcompletes

/-- A trap takes the registers of its thread and hands the others on. -/
theorem TrapPath.Holds.trap (h : P.Holds runtime held)
    (hreach : (runtimeSystem P.arch).Reachable WhileRunnable runtime)
    (hrunnable : runtime.hasRunnableThread = true)
    (hcurrent : runtime.currentThread = some active) (trap : P.Trap) :
    P.Holds (P.next runtime (.trap trap)) ((held.take active trap).pass runtime
      (P.next runtime (.trap trap)) active (P.completes trap active runtime)) := by
  have hlive := (reachable_wellFormed hreach).currentLive active hcurrent
  have hsaved : (runtimeSystem P.arch).Reachable WhileRunnable
      (runtime.modifyThread active (P.saveTo trap)) :=
    saveTo_reachable hreach (fun _ => hrunnable) hcurrent rfl
  have hhands := dispatchSyscall_hands P.arch (reachable_wellFormed hsaved) (reachable_tidy hsaved)
    hcurrent (P.context trap)
  -- In the kernel the thread holds the registers of this trap.
  have hentered : P.Holds (P.entered trap active runtime) (held.take active trap) := by
    refine ⟨fun t other hother => ?_, h.call⟩
    simp only [HeldTraps.take, Function.update_apply] at hother
    split at hother
    · rename_i ht
      obtain rfl := Option.some.inj hother
      rw [ht, P.entered_self trap hlive]
      exact ⟨rfl, runtime.thread active, rfl, rfl⟩
    · rename_i ht
      rw [P.entered_of_ne trap ht]
      exact h.thread t other hother
  have hdispatched := hentered.pass hhands
  -- The end of the trap rebuilds a resume record and writes no registers.
  have hnext : P.next runtime (.trap trap) = P.resume active (P.dispatch trap active runtime) := by
    simp only [TrapPath.next, hcurrent]
  have hthread : ∀ t, heldRegisters ((P.next runtime (.trap trap)).thread t) =
      heldRegisters ((P.dispatch trap active runtime).2.thread t) ∧
        ((P.next runtime (.trap trap)).thread t).state =
          ((P.dispatch trap active runtime).2.thread t).state := by
    intro t
    rw [hnext, TrapPath.resume]
    split
    · generalize (P.dispatch trap active runtime).1 = status
      have hregisters : ∀ thread, heldRegisters (Thread.prepareSyscallResume P.arch status thread) =
          heldRegisters thread := fun _ => rfl
      have hstate : ∀ thread, (Thread.prepareSyscallResume P.arch status thread).state =
          thread.state := fun _ => rfl
      exact ⟨thread_modifyThread_keeps heldRegisters hregisters t,
        thread_modifyThread_keeps Thread.state hstate t⟩
    · exact ⟨rfl, rfl⟩
  have hpending : (P.next runtime (.trap trap)).pending =
      (P.dispatch trap active runtime).2.pending := by
    rw [hnext, TrapPath.resume]
    split
    · rfl
    · rfl
  have hpass : (held.take active trap).pass runtime (P.next runtime (.trap trap)) active
      (P.completes trap active runtime) = (held.take active trap).pass
        (P.entered trap active runtime) (P.dispatch trap active runtime).2 active
          (P.completes trap active runtime) := by
    simp only [HeldTraps.pass, (hthread _).2, hpending]
    rfl
  rw [hpass]
  refine ⟨fun t other hother => ?_, fun c other hother => ?_⟩
  · rw [(hthread t).1]
    exact hdispatched.thread t other hother
  · rw [hpending]
    exact hdispatched.call c other hother

/-- Every event hands the traps on with their registers. -/
theorem TrapPath.Holds.holding (h : P.Holds runtime held)
    (hreach : (runtimeSystem P.arch).Reachable WhileRunnable runtime)
    (hrunnable : runtime.hasRunnableThread = true) (event : P.Event) :
    P.Holds (P.next runtime event) (P.holding runtime event held) := by
  obtain ⟨active, hcurrent⟩ := current_of_runnable hrunnable
  simp only [TrapPath.holding, hcurrent]
  cases event with
  | trap trap => exact h.trap hreach hrunnable hcurrent trap
  | fault exitStatus peerFailureStatus =>
    exact h.pass (terminateCurrentThread_hands P.arch exitStatus peerFailureStatus)
  | userStores memory => exact ⟨h.thread, h.call⟩

/-- In every run threads and calls hold the registers of their traps. -/
theorem TrapPath.reachable_holds {s : UserRuntime × HeldTraps P.Trap}
    (h : P.heldSystem.Reachable TransitionSystem.anyStep s) :
    (runtimeSystem P.arch).Reachable WhileRunnable s.1 ∧ P.Holds s.1 s.2 := by
  refine h.invariant (P := fun s => (runtimeSystem P.arch).Reachable WhileRunnable s.1 ∧
    P.Holds s.1 s.2) (fun s hs => ?_) fun s event _ hholds henabled _ => ?_
  · refine ⟨.init hs.1, ?_⟩
    rw [hs.2]
    exact ⟨fun t trap htrap => (by cases htrap), fun c trap htrap => (by cases htrap)⟩
  · obtain ⟨hreach, hheld⟩ := hholds
    exact ⟨P.next_reachable (fun _ _ h => h) hreach henabled.1 event,
      (hheld.holding hreach henabled.1 event).release _⟩

end Steps

end Ringos.Arch

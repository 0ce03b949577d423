import Mathlib.Tactic.FinCases
import Ringos.Arch.HeldTraps

/-!
# Callee-saved SIMD registers of native arm64 threads

The kernel of arm64 is compiled for the general registers only, and a trap frame
has no SIMD registers. So a thread is resumed with the SIMD registers that the
last user code has left, whoever that was. They are those of the thread's own
trap as long as no user code changes `v8` to `v15` while another thread is
between its trap and its resumption.
-/

namespace Ringos.Arch

open Ringos.Core Ringos.Kernel Ringos.Scheduler Ringos.Emulator UserRuntime

/-- `v0` to `v31`. -/
abbrev SimdRegisters := Fin 32 → BitVec 128

/-- The low halves of `v8` to `v15`, which a function keeps for its caller. -/
def calleeSaved (simd : SimdRegisters) (index : Fin 8) : BitVec 64 :=
  (simd ⟨8 + index.val, by omega⟩).extractLsb' 0 64

/-- The arm64 traps, with the SIMD registers of the CPU when they happen. -/
def simdPath : TrapPath := arm64Path.beside SimdRegisters

/-- The runtime, the SIMD registers of the CPU, and the traps whose general registers the kernel
holds. -/
structure Arm64Machine where
  runtime : UserRuntime
  simd : SimdRegisters
  held : HeldTraps simdPath.Trap

/-- Native user code runs and leaves the SIMD registers changed, or something happens that the
kernel handles. -/
inductive Arm64Event where
  | userCode (simd : SimdRegisters)
  | event (event : arm64Path.Event)

namespace Arm64Machine

/-- The held traps once an event is over, before the thread on the CPU goes on. -/
def holding (s : Arm64Machine) (event : arm64Path.Event) : HeldTraps simdPath.Trap :=
  simdPath.holding s.runtime (event.beside s.simd) s.held

/-- The kernel leaves the SIMD registers alone. -/
def next (s : Arm64Machine) : Arm64Event → Arm64Machine
  | .userCode simd => { s with simd := simd }
  | .event event =>
    { s with
      runtime := arm64Path.next s.runtime event
      held := (s.holding event).release (arm64Path.next s.runtime event) }

/-- The runs of an arm64 machine. Native user code runs on behalf of a native thread. -/
def system : TransitionSystem Arm64Machine Arm64Event where
  init s := Started s.runtime ∧ s.held = .empty
  enabled s event := s.runtime.hasRunnableThread = true ∧
    match event with
    | .userCode _ => ∀ t, s.runtime.currentThread = some t →
        executionBackendOf s.runtime t = .native
    | .event _ => True
  next := next

/-- No native thread is between its trap and its resumption, and no call has saved the trap of
one. -/
def NoneWaits (s : Arm64Machine) : Prop :=
  s.held.All fun trap => trap.1.isLeft = false

/-- The condition on an event: native user code leaves the low halves of `v8` to `v15` as it found
them, unless no other thread waits for its resumption. -/
def LeavesCalleeSaved (s : Arm64Machine) : Arm64Event → Prop
  | .userCode simd => calleeSaved simd = calleeSaved s.simd ∨ s.NoneWaits
  | .event _ => True

/-- A native thread that an event resumes finds the low halves of `v8` to `v15` as they were at the
trap that the kernel has held for it. The native handler loads the other registers that a function
keeps, `x19` to `x29`, from that trap. -/
structure ResumesCalleeSaved (s : Arm64Machine) : Prop where
  event : ∀ event t trap simd, (arm64Path.next s.runtime event).currentThread = some t →
    (s.holding event).thread t = some (.inl trap, simd) → calleeSaved s.simd = calleeSaved simd
  handler : s.runtime.hasRunnableThread = true → ∀ frame loaded after,
    arm64HandleSyscall frame s.runtime = .ok (some loaded, after) →
      ∀ t trap simd, after.currentThread = some t →
        (s.holding (.trap (.inl frame))).thread t = some (.inl trap, simd) →
          calleeSaved s.simd = calleeSaved simd ∧
            ∀ slot, slot ≠ 11 → loaded.preservedRegisters slot = trap.preservedRegisters slot

/-- All held traps of native threads have the same low halves of `v8` to `v15` as the CPU. -/
def Uniform (s : Arm64Machine) : Prop :=
  s.held.All fun trap => trap.1.isLeft = true → calleeSaved trap.2 = calleeSaved s.simd

variable {s : Arm64Machine}

theorem Uniform.holding (h : s.Uniform) (event : arm64Path.Event) :
    (s.holding event).All fun trap =>
      trap.1.isLeft = true → calleeSaved trap.2 = calleeSaved s.simd := by
  refine TrapPath.holding_all h s.runtime fun trap htrap => ?_
  cases event with
  | trap _ =>
    cases htrap
    exact fun _ => rfl
  | fault _ _ => cases htrap
  | userStores _ => cases htrap

theorem Uniform.step (h : s.Uniform) {event : Arm64Event} (hguard : s.LeavesCalleeSaved event) :
    (s.next event).Uniform := by
  cases event with
  | userCode simd =>
    rcases hguard with hsame | hnone
    · exact ⟨fun t trap htrap hnative => (h.thread t trap htrap hnative).trans hsame.symm,
        fun c trap htrap hnative => (h.call c trap htrap hnative).trans hsame.symm⟩
    · refine ⟨fun t trap htrap hnative => ?_, fun c trap htrap hnative => ?_⟩
      · cases (hnone.thread t trap htrap).symm.trans hnative
      · cases (hnone.call c trap htrap).symm.trans hnative
  | event event => exact (h.holding event).release _

theorem reachable_uniform (h : system.Reachable LeavesCalleeSaved s) : s.Uniform := by
  refine h.invariant (P := Uniform) (fun s hs => ?_) fun s event _ hs _ hguard => hs.step hguard
  unfold Uniform
  rw [hs.2]
  exact HeldTraps.all_empty

/-- A run of the machine is one of its runtime and held traps. -/
theorem reachable_held {guard : Arm64Machine → Arm64Event → Prop} (h : system.Reachable guard s) :
    simdPath.heldSystem.Reachable TransitionSystem.anyStep (s.runtime, s.held) := by
  refine h.invariant (P := fun s => simdPath.heldSystem.Reachable TransitionSystem.anyStep
    (s.runtime, s.held)) (fun s hs => .init hs) fun s event _ hreach henabled _ => ?_
  cases event with
  | userCode simd => exact hreach
  | event event =>
    have hstep := hreach.step (a := event.beside s.simd) ⟨henabled.1, ?_⟩ trivial
    · have hnext : simdPath.heldSystem.next (s.runtime, s.held) (event.beside s.simd) =
          ((s.next (.event event)).runtime, (s.next (.event event)).held) := by
        simp only [TrapPath.heldSystem, next, holding, simdPath, TrapPath.next_beside]
      rw [hnext] at hstep
      exact hstep
    · cases event with
      | trap _ => trivial
      | fault _ _ => rfl
      | userStores _ => trivial

/-- The native handler loads the registers of the held trap, but for the link register. -/
theorem loaded_preserved {guard : Arm64Machine → Arm64Event → Prop}
    (h : system.Reachable guard s) (hrunnable : s.runtime.hasRunnableThread = true)
    {frame loaded trap : Arm64SyscallFrame} {after : UserRuntime} {t : ThreadRef}
    {simd : SimdRegisters}
    (hok : arm64HandleSyscall frame s.runtime = .ok (some loaded, after))
    (hcurrent : after.currentThread = some t)
    (hheld : (s.holding (.trap (.inl frame))).thread t = some (.inl trap, simd))
    {slot : Fin archPreservedRegisterCount} (hslot : slot ≠ 11) :
    loaded.preservedRegisters slot = trap.preservedRegisters slot := by
  obtain ⟨rfl, _, hloaded⟩ := arm64HandleSyscall_next hok
  obtain ⟨hreach, hholds⟩ := TrapPath.reachable_holds (reachable_held h)
  have hnext := (hholds.holding hreach hrunnable
    (TrapPath.Event.beside s.simd (.trap (.inl frame)))).thread t _ hheld
  have hruntime : simdPath.next s.runtime (TrapPath.Event.beside s.simd (.trap (.inl frame))) =
      arm64Path.next s.runtime (.trap (.inl frame)) := TrapPath.next_beside _ _ _
  rw [hruntime] at hnext
  obtain ⟨_, _, hregisters, _⟩ := hnext
  have hpreserved : ((arm64Path.next s.runtime (.trap (.inl frame))).thread
      t).archPreservedRegisters = trap.preservedRegisters := hregisters
  rw [← hpreserved, hloaded t hcurrent]
  fin_cases slot
  all_goals first
    | rfl
    | exact absurd rfl hslot

/-- In every run in which native user code leaves the low halves of `v8` to `v15` alone while
another thread waits, every thread is resumed with those of its own trap. -/
theorem reachable_resumesCalleeSaved (h : system.Reachable LeavesCalleeSaved s) :
    s.ResumesCalleeSaved := by
  have huniform := reachable_uniform h
  refine ⟨fun event t trap simd _ hheld => ?_, fun hrunnable frame loaded after hok t trap simd
    hcurrent hheld => ⟨?_, fun slot hslot => loaded_preserved h hrunnable hok hcurrent hheld hslot⟩⟩
  · exact ((huniform.holding event).thread t _ hheld rfl).symm
  · exact ((huniform.holding _).thread t _ hheld rfl).symm

/-- Two native processes with a thread each. -/
def twoProcesses : UserRuntime :=
  let process (runtime : UserRuntime) (hostAddress : UInt64) : UserRuntime :=
    (runtime.createProcess ⟨.arm64, .ringos, .native⟩
      (addAddressSpaceMapping ⟨0, []⟩ 0x1000 hostAddress 0x1000).2).2
  let processes := process (process (reset bootMemory) 0x1000) 0x2000
  ((processes.createThread 0 ⟨0x1000, 0x1800, 0, 0⟩).2.createThread 1 ⟨0x1000, 0x1800, 0, 0⟩).2

/-- The frame of a native trap. -/
def svcFrame (number argument0 argument1 argument2 stackPointer : UInt64) : Arm64SyscallFrame where
  x0 := argument0
  x1 := argument1
  x2 := argument2
  x3 := 0
  x4 := 0
  x5 := 0
  x6 := 0
  x7 := 0
  x8 := number
  elr := 0x1010
  spsr := 0
  spEl0 := stackPointer
  esr := esrExceptionClassSvc64 <<< 26
  x19 := 0
  x20 := 0
  x21 := 0
  x22 := 0
  x23 := 0
  x24 := 0
  x25 := 0
  x26 := 0
  x27 := 0
  x28 := 0
  x29 := 0
  x30 := 0

/-- The first thread is on the CPU. -/
def twoStarted : Arm64Machine where
  runtime := twoProcesses.setCurrentThread (some 0)
  simd := fun _ => 0
  held := .empty

/-- It has registered an endpoint, and the second thread has run and left its SIMD registers. -/
def secondRan (simd : SimdRegisters) : Arm64Machine :=
  (twoStarted.next (.event (.trap (.inl (svcFrame 3 0x1100 0x1200 0x1210 0x1800))))).next
    (.userCode simd)

/-- The exit of the second thread, after which the first one returns from its registration. -/
def secondExit : Arm64SyscallFrame := svcFrame 2 0 0 0 0x1800

theorem secondRan_reachable {guard : Arm64Machine → Arm64Event → Prop}
    (hevent : ∀ s event, guard s (.event event)) (simd : SimdRegisters)
    (huserCode : ∀ s : Arm64Machine, s.simd = twoStarted.simd → guard s (.userCode simd)) :
    system.Reachable guard (secondRan simd) := by
  have hcreated : Created twoProcesses :=
    .thread _ (.thread _ (.process _ _ (.process _ _ (.reset bootMemory))) rfl) rfl
  have hinit : system.init twoStarted := ⟨⟨twoProcesses, 0, hcreated, rfl, rfl⟩, rfl⟩
  have hregistered := (TransitionSystem.Reachable.init hinit).step
    (a := .event (.trap (.inl (svcFrame 3 0x1100 0x1200 0x1210 0x1800))))
    ⟨by decide +kernel, trivial⟩ (hevent _ _)
  refine hregistered.step ⟨by decide +kernel, fun t ht => ?_⟩ (huserCode _ rfl)
  have hcurrent : (twoStarted.next (.event (.trap
      (.inl (svcFrame 3 0x1100 0x1200 0x1210 0x1800))))).runtime.currentThread = some 1 := by
    decide +kernel
  obtain rfl : t = 1 := Option.some.inj (ht.symm.trans hcurrent)
  decide +kernel

/-- The exit of the second thread resumes the first one, whose trap had no SIMD register set. -/
def resumesFirst (s : Arm64Machine) : Bool :=
  match arm64HandleSyscall secondExit s.runtime with
  | .ok (some _, after) => after.currentThread = some 0 &&
    ((s.holding (.trap (.inl secondExit))).thread 0).any fun trap =>
      trap.1.isLeft && calleeSaved trap.2 0 = 0
  | _ => false

theorem resumesFirst_sound {s : Arm64Machine} (h : resumesFirst s = true) :
    ∃ loaded after trap simd, arm64HandleSyscall secondExit s.runtime = .ok (some loaded, after) ∧
      after.currentThread = some 0 ∧
      (s.holding (.trap (.inl secondExit))).thread 0 = some (.inl trap, simd) ∧
      calleeSaved simd 0 = 0 := by
  unfold resumesFirst at h
  split at h
  · rename_i loaded after hok
    simp only [Bool.and_eq_true, decide_eq_true_eq] at h
    obtain ⟨hcurrent, hany⟩ := h
    obtain ⟨⟨trap, simd⟩, hheld, hnative⟩ := (Option.any_eq_true _ _).mp hany
    simp only [Bool.and_eq_true, decide_eq_true_eq] at hnative
    cases trap with
    | inl frame => exact ⟨loaded, after, frame, simd, hok, hcurrent, hheld, hnative.2⟩
    | inr state => cases hnative.1
  · cases h

/-- A second thread that changes `v8` hands the change to the first one. -/
theorem changedSimd_resumed :
    ¬ ∀ s, system.Reachable TransitionSystem.anyStep s → s.ResumesCalleeSaved := by
  intro h
  have hreach : system.Reachable TransitionSystem.anyStep (secondRan fun _ => 1) :=
    secondRan_reachable (fun _ _ => trivial) _ fun _ _ => trivial
  have hresumes : resumesFirst (secondRan fun _ => 1) = true := by decide +kernel
  obtain ⟨loaded, after, trap, simd, hok, hcurrent, hheld, hzero⟩ := resumesFirst_sound hresumes
  obtain ⟨rfl, _⟩ := arm64HandleSyscall_next hok
  have hsame := (h _ hreach).event _ 0 trap simd hcurrent hheld
  have hone := (congrFun hsame 0).trans hzero
  exact absurd hone (by decide)

/-- A second thread that changes `v0` leaves the first one its registers. -/
theorem changedScratch_resumed :
    ∃ s, system.Reachable LeavesCalleeSaved s ∧
      (∃ loaded after trap simd,
        arm64HandleSyscall secondExit s.runtime = .ok (some loaded, after) ∧
        after.currentThread = some 0 ∧
        (s.holding (.trap (.inl secondExit))).thread 0 = some (.inl trap, simd)) ∧
      s.simd 0 = 1 ∧ s.ResumesCalleeSaved := by
  have hreach : system.Reachable LeavesCalleeSaved
      (secondRan fun index => if index = 0 then 1 else 0) :=
    secondRan_reachable (fun _ _ => trivial) _ fun s hs => .inl (by rw [hs]; decide +kernel)
  have hresumes : resumesFirst (secondRan fun index => if index = 0 then 1 else 0) = true := by
    decide +kernel
  obtain ⟨loaded, after, trap, simd, hok, hcurrent, hheld, _⟩ := resumesFirst_sound hresumes
  exact ⟨_, hreach, ⟨loaded, after, trap, simd, hok, hcurrent, hheld⟩, rfl,
    reachable_resumesCalleeSaved hreach⟩

end Arm64Machine

end Ringos.Arch

import Ringos.Arch.InitialRuntime
import Ringos.Arch.RequestDelivery

/-!
# Runtimes that come from a boot

Syscalls create no process and move no thread to another one. So a runtime that
comes from a boot holds the processes of its configurations, and every thread
belongs to one of them. The processor runs under the tables of the process of the
current thread.
-/

namespace Ringos.Arch

open Ringos.Core Ringos.Kernel UserRuntime

/-- The process behind the current thread. -/
def activeProcess (runtime : UserRuntime) : Option Process :=
  runtime.currentThread.map fun ref => runtime.process (runtime.thread ref).process

/-- `arch_activate_process_address_space`, on the register that holds the root of the tables. -/
def activateProcessAddressSpace (root : UInt64) (processContext : Option Process) : UInt64 :=
  match processContext with
  | none => root
  | some processContext =>
    if processContext.addressSpaceInfo.archRootTable = 0 then root
    else processContext.addressSpaceInfo.archRootTable

/-- The processes are those before it, and so is the process of every thread. -/
structure SameProcesses (before after : UserRuntime) : Prop where
  processes : after.processes = before.processes
  threads : ∀ ref, (after.thread ref).process = (before.thread ref).process

/-- A runtime that comes from a boot with these configurations. -/
structure BootedRuntime (configurations : List InitialProcessConfiguration)
    (runtime : UserRuntime) : Prop where
  processes : SlotsHold runtime.processes.items configurations
    (fun process => (process.metadata, process.addressSpaceInfo))
    fun _ configuration => (configuration.metadata, configuration.addressSpace)
  threads : ∀ ref, (runtime.thread ref).process.val < configurations.length

section Same

variable {before middle after : UserRuntime}

theorem SameProcesses.trans (hfirst : SameProcesses before middle)
    (hsecond : SameProcesses middle after) : SameProcesses before after :=
  ⟨hsecond.processes.trans hfirst.processes,
    fun ref => (hsecond.threads ref).trans (hfirst.threads ref)⟩

theorem sameProcesses_act (arch : Arch) (runtime : UserRuntime) (action : Action) :
    SameProcesses runtime (runtime.act arch action) :=
  ⟨act_processes arch runtime action, act_process action⟩

theorem sameProcesses_modifyThread (runtime : UserRuntime) (ref : ThreadRef) {f : Thread → Thread}
    (hkept : ∀ thread, (f thread).process = thread.process) :
    SameProcesses runtime (runtime.modifyThread ref f) :=
  ⟨rfl, thread_modifyThread_keeps Thread.process hkept⟩

/-- A current thread that stays current is one of the same process. -/
theorem SameProcesses.activeProcess (h : SameProcesses before after)
    (hcurrent : after.currentThread = before.currentThread) :
    activeProcess after = activeProcess before := by
  simp only [Arch.activeProcess, hcurrent, UserRuntime.process, h.processes, h.threads]

end Same

section Booted

variable {configurations : List InitialProcessConfiguration} {runtime after : UserRuntime}

theorem BootedRuntime.same (h : BootedRuntime configurations runtime)
    (hsame : SameProcesses runtime after) : BootedRuntime configurations after :=
  ⟨hsame.processes ▸ h.processes,
    fun ref => (congrArg Fin.val (hsame.threads ref)).trans_lt (h.threads ref)⟩

/-- A process stands in the slot of its configuration. -/
theorem BootedRuntime.process (h : BootedRuntime configurations runtime) {ref : ProcessRef}
    {process : Process} (hitem : runtime.processes.items ref = some process) :
    ∃ configuration, configurations[ref.val]? = some configuration ∧
      configuration.metadata = process.metadata ∧
      configuration.addressSpace = process.addressSpaceInfo := by
  have hslot := h.processes ref
  rw [hitem] at hslot
  obtain ⟨configuration, hconfiguration, hheld⟩ := Option.map_eq_some_iff.mp hslot.symm
  obtain ⟨hmetadata, hspace⟩ := Prod.mk.inj hheld
  exact ⟨configuration, hconfiguration, hmetadata, hspace⟩

/-- Every thread belongs to a process. -/
theorem BootedRuntime.owner (h : BootedRuntime configurations runtime) (ref : ThreadRef) :
    ∃ process, runtime.processes.items (runtime.thread ref).process = some process :=
  Option.isSome_iff_exists.mp ((h.processes.taken _).mpr (h.threads ref))

theorem activeProcess_of_items {active : ThreadRef} {process : Process}
    (hcurrent : runtime.currentThread = some active)
    (hitem : runtime.processes.items (runtime.thread active).process = some process) :
    activeProcess runtime = some process := by
  rw [activeProcess, hcurrent, Option.map_some, UserRuntime.process,
    KernelObjectPool.get_of_items hitem]

/-- Where no root table is null, the process of the current thread is activated under its own. -/
theorem BootedRuntime.activated (h : BootedRuntime configurations runtime)
    (hroots : ∀ configuration ∈ configurations, configuration.addressSpace.archRootTable ≠ 0)
    {process : Process} (hactive : activeProcess runtime = some process) (root : UInt64) :
    activateProcessAddressSpace root (activeProcess runtime) =
      process.addressSpaceInfo.archRootTable := by
  obtain ⟨active, hcurrent, -⟩ := Option.map_eq_some_iff.mp hactive
  obtain ⟨owner, hitem⟩ := h.owner active
  obtain rfl := Option.some.inj (hactive.symm.trans (activeProcess_of_items hcurrent hitem))
  obtain ⟨configuration, hconfiguration, -, hspace⟩ := h.process hitem
  have hroot := hroots configuration (List.mem_of_getElem? hconfiguration)
  rw [hspace] at hroot
  rw [hactive, activateProcessAddressSpace, if_neg hroot]

/-- A runtime that can run has a thread on the CPU. -/
theorem exists_current (h : runtime.hasRunnableThread = true) :
    ∃ active, runtime.currentThread = some active := by
  unfold hasRunnableThread at h
  split at h
  · cases h
  · exact ⟨_, ‹_›⟩

/-- The kernel starts with the processes of the configurations, in the memory of the platform, and
with the initial thread on the CPU. -/
theorem runInitialUserRuntime_booted
    {initializePlatform : ByteMemory → Except String (InitialUserRuntimeBootstrap × ByteMemory)}
    {memory initialized : ByteMemory} {bootstrap : InitialUserRuntimeBootstrap}
    (hplatform : initializePlatform memory = .ok (bootstrap, initialized))
    (hindex : bootstrap.initialProcessIndex < bootstrap.initialProcesses.length)
    (hcount : bootstrap.initialProcesses.length ≤ userRuntimeMaxInitialProcesses) :
    ∃ initial started, runInitialUserRuntime initializePlatform memory = .ok (initial, started) ∧
      BootedRuntime bootstrap.initialProcesses started ∧ started.memory = initialized ∧
      started.hasRunnableThread = true ∧
      activeProcess started = some (started.process initial.1) := by
  obtain ⟨initial, created, hrun, hprocess, hthread, hmemory, hslots, hstarted⟩ :=
    runInitialUserRuntime_started hplatform hindex hcount
  have hcurrent := setCurrentThread_currentThread created (some initial.2)
  have hthreads : ∀ ref, (created.thread ref).process.val < bootstrap.initialProcesses.length := by
    intro ref
    have hslot := hslots.threads ref
    unfold UserRuntime.thread KernelObjectPool.get
    cases hitem : created.threads.items ref with
    | none => exact Nat.lt_of_le_of_lt (Nat.zero_le _) hindex
    | some thread =>
      rw [hitem] at hslot
      obtain ⟨configuration, hconfiguration, hvalues⟩ := Option.map_eq_some_iff.mp hslot.symm
      obtain ⟨hlt, -⟩ := List.getElem?_eq_some_iff.mp hconfiguration
      obtain ⟨href, -⟩ := Prod.mk.inj hvalues
      exact href ▸ hlt
  refine ⟨initial, _, hrun, ⟨?_, fun ref => ?_⟩, ?_, ?_, ?_⟩
  · rw [setCurrentThread_processes]
    exact hslots.processes
  · rw [thread_setCurrentThread]
    exact hthreads ref
  · rw [setCurrentThread_memory, hmemory]
  · have hstate : ((created.setCurrentThread (some initial.2)).thread initial.2).state = .running :=
      hstarted.sound.currentRunning initial.2 hcurrent
    rw [hasRunnableThread, hcurrent]
    dsimp only
    rw [hstate]
    rfl
  · have hslot := hslots.threads initial.2
    obtain ⟨thread, hitem⟩ :=
      Option.isSome_iff_exists.mp ((hslots.threads.taken initial.2).mpr (by omega))
    rw [hitem] at hslot
    obtain ⟨configuration, -, hvalues⟩ := Option.map_eq_some_iff.mp hslot.symm
    obtain ⟨href, -⟩ := Prod.mk.inj hvalues
    have hthreadItem : created.thread initial.2 = thread := KernelObjectPool.get_of_items hitem
    have hsame : ((created.setCurrentThread (some initial.2)).thread initial.2).process =
        initial.1 := by
      rw [thread_setCurrentThread]
      refine Fin.ext ?_
      change (created.thread initial.2).process.val = _
      rw [hthreadItem, ← href, hthread, hprocess]
    rw [activeProcess, hcurrent, Option.map_some, hsame]

end Booted

end Ringos.Arch

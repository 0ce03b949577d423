import Ringos.Arch.BootedRuntime
import Ringos.Arch.TrapReturn
import Ringos.Arch.X64Boot

/-!
# Isolation of x64 processes

The machine runs user code under the root table of the process of the current
thread. User code reaches memory through the page tables alone, and the kernel
writes only behind user addresses. So the tables stay what boot has made them,
whatever user code does, and a process reaches its own pages and nothing else.
-/

namespace Ringos.Arch

open Ringos.Core Ringos.Kernel Ringos.Image UserRuntime

section Machine

/-- The machine: the runtime with the memory, the root of the page tables in use, and whether the
kernel has stopped to run user code. -/
structure X64Machine where
  runtime : UserRuntime
  cr3 : UInt64
  halted : Bool

/-- `arch_run_initial_user_runtime` up to the first instruction of user code, from what the
page-table register holds at boot. -/
def X64Platform.run (platform : X64Platform) (terminalServiceImage testAppImage : List UInt8)
    (cr3 : UInt64) (memory : ByteMemory) : Except String X64Machine :=
  (runInitialUserRuntime (platform.initializeBootstrap terminalServiceImage testAppImage)
    memory).map fun started =>
      ⟨started.2, activateProcessAddressSpace cr3 (some (started.2.process started.1.1)), false⟩

/-- What user code can do to the machine. -/
inductive X64Event where
  /-- A store of a byte; one that is not translated faults and changes nothing. -/
  | store (address : UInt64) (byte : UInt8)
  /-- A syscall with the given registers. -/
  | syscall (frame : X64SyscallFrame)

/-- The translation of a store of user code. -/
def x64StoreTranslation (cr3 : UInt64) (memory : ByteMemory) (address : UInt64) : Option UInt64 :=
  x64Translate memory cr3 ⟨true, true⟩ address

/-- The effect of an event. Every change of the current thread goes through `set_current_thread`,
which activates the address space of its process. -/
def X64Machine.next (machine : X64Machine) : X64Event → X64Machine
  | .store address byte =>
    { machine with
      runtime := { machine.runtime with
        memory := storeThrough x64StoreTranslation machine.cr3 machine.runtime.memory address
          byte } }
  | .syscall frame =>
    match x64HandleSyscall frame machine.runtime with
    | .error _ => { machine with halted := true }
    | .ok (loaded, after) =>
      { runtime := after
        cr3 := if after.currentThread = machine.runtime.currentThread then machine.cr3
          else activateProcessAddressSpace machine.cr3 (activeProcess after)
        halted := loaded.isNone }

/-- The machine from boot on, with images whose sections fit. -/
def x64MachineSystem (platform : X64Platform) : TransitionSystem X64Machine X64Event where
  init machine := ∃ terminalServiceImage testAppImage cr3 memory,
    SectionsFit terminalServiceImage
        (x64Pe64LoadConfig x64UserImageVirtualAddress x64UserRegionSize) ∧
      SectionsFit testAppImage (x64Pe64LoadConfig x64UserImageVirtualAddress x64UserRegionSize) ∧
      platform.run terminalServiceImage testAppImage cr3 memory = .ok machine
  enabled machine _ := machine.halted = false
  next := X64Machine.next

end Machine

section Invariant

variable (platform : X64Platform) (configurations : List InitialProcessConfiguration)

/-- The processes that have been booted. -/
abbrev BootedIndex : Type :=
  { processIndex : Fin userRuntimeMaxInitialProcesses //
    processIndex.val < configurations.length }

/-- The translation of a store of a booted process. -/
def bootedTranslation (processIndex : BootedIndex configurations) :
    ByteMemory → UInt64 → Option UInt64 :=
  x64StoreTranslation (pml4 (platform.processStorage processIndex.val)).start.toUInt64

/-- A byte of the tables of a booted process. -/
def TableByte (target : UInt64) : Prop :=
  ∃ processIndex : BootedIndex configurations, ∃ offset < userImagePagesOffset,
    target = (platform.processStorage processIndex.val + offset).toUInt64

/-- A machine that has come from a boot with these configurations. -/
structure X64Machine.BootedFrom (booted : ByteMemory) (machine : X64Machine) : Prop where
  runtime : BootedRuntime configurations machine.runtime
  memory : Relation.ReflTransGen
    (MemoryStep (bootedTranslation platform configurations) (TableByte platform configurations))
    booted machine.runtime.memory
  running : machine.halted = false → machine.runtime.hasRunnableThread = true
  root : ∀ process ∈ activeProcess machine.runtime,
    machine.cr3 = process.addressSpaceInfo.archRootTable

end Invariant

section Translations

variable {platform : X64Platform} {configurations : List InitialProcessConfiguration}
  {booted memory : ByteMemory}

/-- A booted process has a configuration. -/
theorem BootedIndex.configuration (processIndex : BootedIndex configurations) :
    ∃ configuration, configurations[processIndex.val.val]? = some configuration :=
  ⟨_, List.getElem?_eq_getElem processIndex.property⟩

/-- While the tables are what they were at boot, so are the translations. -/
theorem bootedTranslation_eq (hplaced : platform.Placed)
    (hbooted : platform.Booted configurations booted) (processIndex : BootedIndex configurations)
    (hsame : ∀ target, TableByte platform configurations target → memory target = booted target)
    (access : PageAccess) (address : UInt64) :
    x64Translate memory (pml4 (platform.processStorage processIndex.val)).start.toUInt64 access
        address =
      if address.toNat < x64UserImageVirtualAddress.toNat then
        (if access.user then none else some address)
      else if address.toNat < userRegionLimit then
        some (platform.processStorage processIndex.val + userImagePagesOffset +
          (address.toNat - x64UserImageVirtualAddress.toNat)).toUInt64
      else none := by
  obtain ⟨configuration, hconfiguration⟩ := processIndex.configuration
  obtain ⟨-, hstored⟩ := hbooted.spaces processIndex.val configuration hconfiguration
  have hheld := (hstored.congr fun offset hoffset =>
    hsame _ ⟨processIndex, offset, hoffset, rfl⟩).heldAt
  exact x64Translate_eq hheld (hplaced.storage processIndex.val) access

/-- The storages lie one behind the other in the low 4 MiB. -/
theorem X64Platform.Placed.bounds (hplaced : platform.Placed)
    (processIndex : Fin userRuntimeMaxInitialProcesses) :
    platform.processStorage processIndex = platform.address + processIndex.val * (15 * 4096) ∧
      platform.address + 2 * (15 * 4096) ≤ 0x400000 ∧ processIndex.val < 2 :=
  ⟨rfl, hplaced.low, processIndex.isLt⟩

/-- No page of a process is part of the tables of one. -/
theorem not_tableByte (hplaced : platform.Placed)
    (processIndex : Fin userRuntimeMaxInitialProcesses) {distance : Nat}
    (hdistance : distance < userImageSize + pageSize) :
    ¬ TableByte platform configurations
      (platform.processStorage processIndex + userImagePagesOffset + distance).toUInt64 := by
  rintro ⟨other, offset, hoffset, htarget⟩
  obtain ⟨hstorage, hlow, hindex⟩ := hplaced.bounds processIndex
  obtain ⟨hother, -, hotherIndex⟩ := hplaced.bounds other.val
  have hpages : userImagePagesOffset = 6 * 4096 := rfl
  have hsize : userImageSize + pageSize = 9 * 4096 := rfl
  have hnat := congrArg UInt64.toNat htarget
  rw [toNat_toUInt64_of_lt (by omega), toNat_toUInt64_of_lt (by omega)] at hnat
  omega

/-- No store of user code changes a translation, and nothing else that leaves the tables alone
does. -/
theorem memory_kept (hplaced : platform.Placed) (hbooted : platform.Booted configurations booted)
    (h : Relation.ReflTransGen (MemoryStep (bootedTranslation platform configurations)
      (TableByte platform configurations)) booted memory) :
    ∀ target, TableByte platform configurations target → memory target = booted target := by
  refine (memorySteps_protected (fun processIndex memory' hsame => ?_)
    (fun processIndex address target hleads => ?_) h).1
  · funext address
    exact (bootedTranslation_eq hplaced hbooted processIndex hsame ⟨true, true⟩ address).trans
      (bootedTranslation_eq hplaced hbooted processIndex (fun _ _ => rfl) ⟨true, true⟩ address).symm
  · have hlimit : userRegionLimit =
        x64UserImageVirtualAddress.toNat + (userImageSize + pageSize) := rfl
    have heq := (bootedTranslation_eq hplaced hbooted processIndex (fun _ _ => rfl) ⟨true, true⟩
      address).symm.trans hleads
    split at heq
    · cases heq
    split at heq
    · obtain rfl := Option.some.inj heq
      exact not_tableByte hplaced processIndex.val (by omega)
    · cases heq

end Translations

section Syscalls

variable {runtime after : UserRuntime} {frame : X64SyscallFrame} {loaded : Option X64SyscallFrame}

/-- Resuming touches neither memory nor processes. -/
theorem x64Resume_leaves {active : ThreadRef} {status : Int32}
    (h : x64Resume active status runtime = (loaded, after)) :
    after.memory = runtime.memory ∧ SameProcesses runtime after ∧
      (loaded.isSome = true → after.hasRunnableThread = true) := by
  unfold x64Resume at h
  split at h
  · obtain ⟨rfl, rfl⟩ := Prod.mk.inj h
    exact ⟨rfl, ⟨rfl, fun _ => rfl⟩, fun hloaded => by cases hloaded⟩
  split at h
  · obtain ⟨rfl, rfl⟩ := Prod.mk.inj h
    exact ⟨rfl, ⟨rfl, fun _ => rfl⟩, fun hloaded => by cases hloaded⟩
  next resumed hresumed =>
    have hrunnable {prepared : UserRuntime} (hloaded : (if prepared.hasRunnableThread then
        some (loadUserThreadFrame (prepared.thread resumed)) else none).isSome = true) :
        prepared.hasRunnableThread = true := by
      by_contra hnot
      rw [if_neg hnot] at hloaded
      cases hloaded
    dsimp only at h
    split at h
    · obtain ⟨rfl, rfl⟩ := Prod.mk.inj h
      exact ⟨rfl, sameProcesses_modifyThread _ _ fun _ => rfl, hrunnable⟩
    · obtain ⟨rfl, rfl⟩ := Prod.mk.inj h
      exact ⟨rfl, ⟨rfl, fun _ => rfl⟩, hrunnable⟩

/-- What the trap handler leaves of the dispatched syscall, and what no syscall changes. -/
theorem x64HandleSyscall_leaves (h : x64HandleSyscall frame runtime = .ok (loaded, after)) :
    ∃ active, runtime.currentThread = some active ∧
      after.memory = ((runtime.modifyThread active frame.saveTo).dispatchSyscall .x64
        frame.context).2.memory ∧
      SameProcesses runtime after ∧
      (loaded.isSome = true → after.hasRunnableThread = true) := by
  unfold x64HandleSyscall at h
  cases hcurrent : runtime.currentThread with
  | none =>
    rw [hcurrent] at h
    cases h
  | some active =>
    rw [hcurrent] at h
    have hsaved : SameProcesses runtime (runtime.modifyThread active frame.saveTo) :=
      sameProcesses_modifyThread _ _ fun _ => rfl
    have hdispatched := sameProcesses_act .x64 (runtime.modifyThread active frame.saveTo)
      (.syscall frame.context)
    obtain ⟨hmemory, hresumed, hrunnable⟩ := x64Resume_leaves (Except.ok.inj h)
    exact ⟨active, rfl, hmemory, (hsaved.trans hdispatched).trans hresumed, hrunnable⟩

/-- Saving the registers of a trap changes nothing that a call is resolved by. -/
theorem resolveCall_saveTo (active : ThreadRef) (frame : X64SyscallFrame)
    (context : UserSyscallContext) :
    (runtime.modifyThread active frame.saveTo).resolveCall active context =
      runtime.resolveCall active context := by
  have hprocess : ∀ ref, ((runtime.modifyThread active frame.saveTo).thread ref).process =
      (runtime.thread ref).process := thread_modifyThread_keeps Thread.process fun _ => rfl
  have hstate : ∀ ref, ((runtime.modifyThread active frame.saveTo).thread ref).state =
      (runtime.thread ref).state := thread_modifyThread_keeps Thread.state fun _ => rfl
  have hchannel (ownerProcess : ProcessRef) (handleValue : Handle) :
      (runtime.modifyThread active frame.saveTo).resolveChannel ownerProcess handleValue =
        runtime.resolveChannel ownerProcess handleValue := by
    have hthreads : (runtime.modifyThread active frame.saveTo).threads.findByHandle handleValue =
        runtime.threads.findByHandle handleValue :=
      KernelObjectPool.findByHandle_modify _ active (f := frame.saveTo) (fun _ => rfl) handleValue
    have hobject : (runtime.modifyThread active frame.saveTo).hasObjectWithHandle handleValue =
        runtime.hasObjectWithHandle handleValue := by
      simp only [hasObjectWithHandle, hthreads]
      rfl
    simp only [resolveChannel, hobject]
    rfl
  simp only [resolveCall, hchannel, hprocess, hstate]
  rfl

/-- Nor does it change a saved stack pointer. -/
theorem savedStackPointer_saveTo (active server : ThreadRef) (frame : X64SyscallFrame)
    (context : UserSyscallContext) :
    (runtime.modifyThread active frame.saveTo).savedStackPointer active context server =
      runtime.savedStackPointer active context server := by
  by_cases hserver : server = active
  · subst hserver
    simp only [savedStackPointer, enterSyscall, modifyThread, UserRuntime.thread,
      KernelObjectPool.get, KernelObjectPool.modify_items_self]
    cases runtime.threads.items server with
    | none => rfl
    | some thread => rfl
  · simp only [savedStackPointer, enterSyscall, modifyThread, UserRuntime.thread,
      KernelObjectPool.get, KernelObjectPool.modify_items_of_ne _ hserver]

end Syscalls

section Steps

variable {platform : X64Platform} {configurations : List InitialProcessConfiguration}
  {booted : ByteMemory} {machine : X64Machine}

/-- A process of the machine is one of the booted ones. -/
theorem X64Machine.BootedFrom.process (hbooted : platform.Booted configurations booted)
    (h : machine.BootedFrom platform configurations booted) {ref : ProcessRef} {process : Process}
    (hitem : machine.runtime.processes.items ref = some process) :
    ∃ processIndex : BootedIndex configurations, processIndex.val.val = ref.val ∧
      bootstrapAddressSpace (platform.processStorage processIndex.val) =
        some process.addressSpaceInfo := by
  obtain ⟨configuration, hconfiguration, -, hspace⟩ := h.runtime.process hitem
  obtain ⟨hlt, -⟩ := List.getElem?_eq_some_iff.mp hconfiguration
  have hcount := hbooted.count
  refine ⟨⟨⟨ref.val, by omega⟩, hlt⟩, rfl, ?_⟩
  obtain ⟨hbootstrap, -⟩ := hbooted.spaces ⟨ref.val, by omega⟩ configuration hconfiguration
  exact hbootstrap.trans (congrArg some hspace)

/-- The running thread belongs to a booted process, and its root table is in use. -/
theorem X64Machine.BootedFrom.active (hbooted : platform.Booted configurations booted)
    (h : machine.BootedFrom platform configurations booted) {active : ThreadRef}
    (hcurrent : machine.runtime.currentThread = some active) :
    ∃ process, machine.runtime.processes.items (machine.runtime.thread active).process =
        some process ∧
      ∃ processIndex : BootedIndex configurations,
        processIndex.val.val = (machine.runtime.thread active).process.val ∧
        bootstrapAddressSpace (platform.processStorage processIndex.val) =
          some process.addressSpaceInfo ∧
        machine.cr3 = (pml4 (platform.processStorage processIndex.val)).start.toUInt64 := by
  obtain ⟨process, hitem⟩ := h.runtime.owner active
  obtain ⟨processIndex, hindex, hspace⟩ := h.process hbooted hitem
  refine ⟨process, hitem, processIndex, hindex, hspace, ?_⟩
  rw [← bootstrapAddressSpace_root hspace]
  exact h.root process (activeProcess_of_items hcurrent hitem)

/-- No booted process has a null root table. -/
theorem X64Platform.Booted.root_ne_zero (hplaced : platform.Placed)
    (hbooted : platform.Booted configurations booted) :
    ∀ configuration ∈ configurations, configuration.addressSpace.archRootTable ≠ 0 := by
  intro configuration hmem
  obtain ⟨index, hindex⟩ := List.mem_iff_getElem?.mp hmem
  obtain ⟨hlt, -⟩ := List.getElem?_eq_some_iff.mp hindex
  obtain ⟨hbootstrap, -⟩ := hbooted.spaces ⟨index, hlt.trans_le hbooted.count⟩ configuration hindex
  rw [bootstrapAddressSpace_root hbootstrap]
  exact (hplaced.storage _).ne_zero (show 0 < sizeofX64ProcessStorage by decide)

theorem X64Machine.BootedFrom.builtSpaces (hbooted : platform.Booted configurations booted)
    (h : machine.BootedFrom platform configurations booted) : BuiltSpaces machine.runtime := by
  intro ref process hitem
  obtain ⟨_, -, hspace⟩ := h.process hbooted hitem
  exact bootstrapAddressSpace_built hspace

/-- What the kernel takes for the byte behind a user address is the byte that it is translated
to. -/
theorem X64Machine.BootedFrom.backs (hplaced : platform.Placed)
    (hbooted : platform.Booted configurations booted)
    (h : machine.BootedFrom platform configurations booted) {ref : ProcessRef}
    {userAddress host : UInt64}
    (hbacks : Backs (machine.runtime.process ref).addressSpaceInfo userAddress host) :
    ∃ process, machine.runtime.processes.items ref = some process ∧
      byteTranslation process.addressSpaceInfo userAddress = some host := by
  unfold UserRuntime.process KernelObjectPool.get at hbacks
  cases hitem : machine.runtime.processes.items ref with
  | none =>
    rw [hitem] at hbacks
    obtain ⟨mapping, hmem, -⟩ := hbacks
    exact absurd hmem List.not_mem_nil
  | some process =>
    rw [hitem, Option.getD_some] at hbacks
    obtain ⟨processIndex, -, hspace⟩ := h.process hbooted hitem
    obtain ⟨mapping, hmem, hrange⟩ := hbacks
    have hplaced := hplaced.storage processIndex.val
    refine ⟨process, rfl, (byteTranslation_eq_some_iff (bootstrapAddressSpace_built hspace)).mpr
      ⟨mapping, hmem, ?_, hrange⟩⟩
    rw [bootstrapAddressSpace_mappings hspace, List.mem_cons, List.mem_singleton] at hmem
    rcases hmem with rfl | rfl
    · exact hplaced.ne_zero (show userImagePagesOffset < sizeofX64ProcessStorage by decide)
    · exact hplaced.ne_zero (show userStackPageOffset < sizeofX64ProcessStorage by decide)

/-- A translated byte lies in the pages of its process. -/
theorem byteTranslation_booted (hplaced : platform.Placed)
    {processIndex : Fin userRuntimeMaxInitialProcesses} {addressSpaceInfo : AddressSpace}
    (hspace : bootstrapAddressSpace (platform.processStorage processIndex) = some addressSpaceInfo)
    {address host : UInt64} (h : byteTranslation addressSpaceInfo address = some host) :
    ∃ distance < userImageSize + pageSize, host =
      (platform.processStorage processIndex + userImagePagesOffset + distance).toUInt64 := by
  have hlimit : userRegionLimit =
    x64UserImageVirtualAddress.toNat + (userImageSize + pageSize) := rfl
  rw [byteTranslation_bootstrap (hplaced.storage processIndex) hspace] at h
  split at h
  · cases h
  split at h
  · exact ⟨_, by omega, (Option.some.inj h).symm⟩
  · cases h

/-- Every event keeps the machine one that has come from its boot. -/
theorem X64Machine.BootedFrom.next (hplaced : platform.Placed)
    (hbooted : platform.Booted configurations booted)
    (h : machine.BootedFrom platform configurations booted) (hrunning : machine.halted = false)
    (event : X64Event) : (machine.next event).BootedFrom platform configurations booted := by
  cases event with
  | store address byte =>
    obtain ⟨active, hcurrent⟩ := exists_current (h.running hrunning)
    obtain ⟨-, -, processIndex, -, -, hroot⟩ := h.active hbooted hcurrent
    refine ⟨⟨h.runtime.processes, h.runtime.threads⟩, h.memory.tail ?_, h.running, h.root⟩
    have hstep : MemoryStep (bootedTranslation platform configurations)
        (TableByte platform configurations) machine.runtime.memory
        (storeThrough (bootedTranslation platform configurations) processIndex
          machine.runtime.memory address byte) := .user _ processIndex address byte
    have hsame : storeThrough (bootedTranslation platform configurations) processIndex
        machine.runtime.memory address byte =
          storeThrough x64StoreTranslation machine.cr3 machine.runtime.memory address byte := by
      rw [hroot]
      rfl
    rwa [hsame] at hstep
  | syscall frame =>
    cases hok : x64HandleSyscall frame machine.runtime with
    | error text =>
      simp only [X64Machine.next, hok]
      exact ⟨h.runtime, h.memory, (nomatch ·), h.root⟩
    | ok result =>
      obtain ⟨loaded, after⟩ := result
      obtain ⟨active, hcurrent, hmemory, hsame, hrunnable⟩ := x64HandleSyscall_leaves hok
      have hruntime := h.runtime.same hsame
      simp only [X64Machine.next, hok]
      refine ⟨hruntime, h.memory.tail (.kernel fun target htarget => ?_), fun hhalted => ?_,
        fun process hactive => ?_⟩
      · by_contra hchanged
        rw [hmemory] at hchanged
        have hbuilt : BuiltSpaces (machine.runtime.modifyThread active frame.saveTo) :=
          h.builtSpaces hbooted
        obtain ⟨ref, userAddress, hbacks⟩ :=
          backs_of_mayWrite (mayWrite_of_changed .x64 hbuilt hcurrent frame.context hchanged)
        obtain ⟨process, hitem, htranslation⟩ := h.backs hplaced hbooted hbacks
        obtain ⟨processIndex, -, hspace⟩ := h.process hbooted hitem
        obtain ⟨distance, hdistance, rfl⟩ := byteTranslation_booted hplaced hspace htranslation
        exact not_tableByte hplaced processIndex.val hdistance htarget
      · refine hrunnable ?_
        cases loaded with
        | none => cases hhalted
        | some _ => rfl
      · split
        · next hkept =>
          exact h.root process (hsame.activeProcess hkept ▸ hactive)
        · exact hruntime.activated (hbooted.root_ne_zero hplaced) hactive machine.cr3

/-- The boot puts the machine under the root table of its first process. -/
theorem run_bootedFrom (hplaced : platform.Placed) {terminalServiceImage testAppImage : List UInt8}
    (hservice : SectionsFit terminalServiceImage
      (x64Pe64LoadConfig x64UserImageVirtualAddress x64UserRegionSize))
    (hclient : SectionsFit testAppImage
      (x64Pe64LoadConfig x64UserImageVirtualAddress x64UserRegionSize))
    {cr3 : UInt64} {memory : ByteMemory}
    (h : platform.run terminalServiceImage testAppImage cr3 memory = .ok machine) :
    ∃ configurations booted, platform.Booted configurations booted ∧
      machine.BootedFrom platform configurations booted := by
  cases hplatform : platform.initializeBootstrap terminalServiceImage testAppImage memory with
  | error text =>
    rw [X64Platform.run, runInitialUserRuntime, hplatform] at h
    cases h
  | ok result =>
    obtain ⟨bootstrap, initialized⟩ := result
    obtain ⟨hindex, hbooted⟩ := initializeBootstrap_booted hplaced hservice hclient hplatform
    obtain ⟨initial, started, hrun, hruntime, hmemory, hrunnable, hactive⟩ :=
      runInitialUserRuntime_booted hplatform hindex hbooted.count
    rw [X64Platform.run, hrun] at h
    obtain rfl := Except.ok.inj h
    refine ⟨bootstrap.initialProcesses, initialized, hbooted, hruntime, hmemory ▸ .refl,
      fun _ => hrunnable, fun process hprocess => ?_⟩
    dsimp only
    rw [← hactive]
    exact hruntime.activated (hbooted.root_ne_zero hplaced) hprocess cr3

theorem reachable_bootedFrom (hplaced : platform.Placed)
    (h : (x64MachineSystem platform).Reachable TransitionSystem.anyStep machine) :
    ∃ configurations booted, platform.Booted configurations booted ∧
      machine.BootedFrom platform configurations booted := by
  refine h.invariant (P := fun s => ∃ configurations booted,
    platform.Booted configurations booted ∧ s.BootedFrom platform configurations booted)
    (fun s hinit => ?_) fun s event _ hs hrunning _ => ?_
  · obtain ⟨_, _, _, _, hservice, hclient, hrun⟩ := hinit
    exact run_bootedFrom hplaced hservice hclient hrun
  · obtain ⟨configurations, booted, hbooted, hfrom⟩ := hs
    exact ⟨configurations, booted, hbooted, hfrom.next hplaced hbooted hrunning event⟩

end Steps

section Isolation

variable {platform : X64Platform} {configurations : List InitialProcessConfiguration}
  {booted : ByteMemory} {machine : X64Machine}

/-- User code of the active thread reaches what its own address space maps and nothing else, the
kernel finds the bytes behind user addresses where it looks for them, and no byte is behind two
addresses. -/
structure X64Machine.Isolates (machine : X64Machine) (active : ThreadRef) : Prop where
  own : ∀ store address, x64Translate machine.runtime.memory machine.cr3 ⟨true, store⟩ address =
    byteTranslation (machine.runtime.process
      (machine.runtime.thread active).process).addressSpaceInfo address
  kernel : ∀ ref address host,
    byteTranslation (machine.runtime.process ref).addressSpaceInfo address = some host →
      ∀ store, x64Translate machine.runtime.memory machine.cr3 ⟨false, store⟩ host = some host
  apart : ∀ ref other address address' host,
    byteTranslation (machine.runtime.process ref).addressSpaceInfo address = some host →
    byteTranslation (machine.runtime.process other).addressSpaceInfo address' = some host →
      ref = other ∧ address = address'

/-- A translated byte, by the storage of its process and the user address. -/
theorem X64Machine.BootedFrom.translated (hplaced : platform.Placed)
    (hbooted : platform.Booted configurations booted)
    (h : machine.BootedFrom platform configurations booted) {ref : ProcessRef}
    {address host : UInt64}
    (hbyte : byteTranslation (machine.runtime.process ref).addressSpaceInfo address = some host) :
    ∃ processIndex : Fin userRuntimeMaxInitialProcesses, processIndex.val = ref.val ∧
      x64UserImageVirtualAddress.toNat ≤ address.toNat ∧ address.toNat < userRegionLimit ∧
      host.toNat = platform.processStorage processIndex + userImagePagesOffset +
        (address.toNat - x64UserImageVirtualAddress.toNat) := by
  unfold UserRuntime.process KernelObjectPool.get at hbyte
  cases hitem : machine.runtime.processes.items ref with
  | none =>
    rw [hitem] at hbyte
    cases hbyte
  | some process =>
    rw [hitem, Option.getD_some] at hbyte
    obtain ⟨processIndex, hindex, hspace⟩ := h.process hbooted hitem
    refine ⟨processIndex.val, hindex, ?_⟩
    obtain ⟨-, hlow, -⟩ := hplaced.bounds processIndex.val
    have hbound := (hplaced.storage processIndex.val).bounded
    have hsize : sizeofX64ProcessStorage = 15 * 4096 := rfl
    have hpages : userImagePagesOffset = 6 * 4096 := rfl
    have hlimit : userRegionLimit = x64UserImageVirtualAddress.toNat + 9 * 4096 := rfl
    rw [byteTranslation_bootstrap (hplaced.storage processIndex.val) hspace] at hbyte
    split at hbyte
    · cases hbyte
    split at hbyte
    · obtain rfl := Option.some.inj hbyte
      refine ⟨by omega, by omega, toNat_toUInt64_of_lt (by omega)⟩
    · cases hbyte

/-- No byte is behind two user addresses. -/
theorem X64Machine.BootedFrom.unique (hplaced : platform.Placed)
    (hbooted : platform.Booted configurations booted)
    (h : machine.BootedFrom platform configurations booted) {ref other : ProcessRef}
    {address address' host : UInt64}
    (hbyte : byteTranslation (machine.runtime.process ref).addressSpaceInfo address = some host)
    (hbyte' : byteTranslation (machine.runtime.process other).addressSpaceInfo address' =
      some host) : ref = other ∧ address = address' := by
  obtain ⟨first, hfirst, hlow, hlimit, hhost⟩ := h.translated hplaced hbooted hbyte
  obtain ⟨second, hsecond, hlow', hlimit', hhost'⟩ := h.translated hplaced hbooted hbyte'
  obtain ⟨hstorage, -, hindex⟩ := hplaced.bounds first
  obtain ⟨hstorage', -, hindex'⟩ := hplaced.bounds second
  have hpages : userImagePagesOffset = 6 * 4096 := rfl
  have hend : userRegionLimit = x64UserImageVirtualAddress.toNat + 9 * 4096 := rfl
  exact ⟨Fin.ext (by omega), UInt64.toNat_inj.mp (by omega)⟩

/-- Two processes with the same image boot on a platform at 1 MiB. -/
theorem tenPageImage_boots :
    ∃ machine, (x64MachineSystem ⟨0x100000⟩).Reachable TransitionSystem.anyStep machine ∧
      machine.halted = false ∧ machine.runtime.currentThread = some 0 ∧
      (machine.runtime.thread 0).process = 0 ∧
      byteTranslation (machine.runtime.process 1).addressSpaceInfo 0x400000 = some 0x115000 := by
  have hruns : ((X64Platform.mk 0x100000).run tenPageImage tenPageImage 0
      fun _ => 0).toOption.any (fun machine => decide (machine.halted = false ∧
        machine.runtime.currentThread = some 0 ∧ (machine.runtime.thread 0).process = 0 ∧
        byteTranslation (machine.runtime.process 1).addressSpaceInfo 0x400000 =
          some 0x115000)) = true := by decide +kernel
  obtain ⟨machine, hmachine, hchecks⟩ := ok_of_any hruns
  have hfit : SectionsFit tenPageImage
      (x64Pe64LoadConfig x64UserImageVirtualAddress x64UserRegionSize) := by decide +kernel
  exact ⟨machine, .init ⟨tenPageImage, tenPageImage, 0, fun _ => 0, hfit, hfit, hmachine⟩,
    of_decide_eq_true hchecks⟩

theorem placed_tenPageImage : (X64Platform.mk 0x100000).Placed :=
  ⟨by decide, by decide, by decide⟩

/-- In every state that a boot and any user code lead to, the processes are isolated. -/
theorem reachable_isolates (hplaced : platform.Placed)
    (h : (x64MachineSystem platform).Reachable TransitionSystem.anyStep machine)
    (hrunning : machine.halted = false) :
    ∃ active, machine.runtime.currentThread = some active ∧ machine.Isolates active := by
  obtain ⟨configurations, booted, hbooted, hfrom⟩ := reachable_bootedFrom hplaced h
  obtain ⟨active, hcurrent⟩ := exists_current (hfrom.running hrunning)
  obtain ⟨process, hitem, processIndex, -, hspace, hroot⟩ := hfrom.active hbooted hcurrent
  have hkept := memory_kept hplaced hbooted hfrom.memory
  have htranslate := bootedTranslation_eq hplaced hbooted processIndex hkept
  rw [← hroot] at htranslate
  refine ⟨active, hcurrent, fun store address => ?_, fun ref address host hbyte store => ?_,
    fun ref other address address' host hbyte hbyte' => ?_⟩
  · rw [htranslate, UserRuntime.process, KernelObjectPool.get_of_items hitem,
      byteTranslation_bootstrap (hplaced.storage processIndex.val) hspace]
    rfl
  · obtain ⟨other, -, -, hlimit, hhost⟩ := hfrom.translated hplaced hbooted hbyte
    obtain ⟨hstorage, hlow, hindex⟩ := hplaced.bounds other
    have hpages : userImagePagesOffset = 6 * 4096 := rfl
    have hbase : x64UserImageVirtualAddress.toNat = 0x400000 := rfl
    have hend : userRegionLimit = x64UserImageVirtualAddress.toNat + 9 * 4096 := rfl
    rw [htranslate, if_pos (by omega)]
    rfl
  · exact hfrom.unique hplaced hbooted hbyte hbyte'

/-- The processes that boot with that image are isolated. -/
theorem reachable_isolates_tenPageImage :
    ∃ machine, (x64MachineSystem ⟨0x100000⟩).Reachable TransitionSystem.anyStep machine ∧
      ∃ active, machine.runtime.currentThread = some active ∧ machine.Isolates active := by
  obtain ⟨machine, hreachable, hrunning, -⟩ := tenPageImage_boots
  exact ⟨machine, hreachable, reachable_isolates placed_tenPageImage hreachable hrunning⟩

/-- A byte of another process changes only when the active thread calls an endpoint of that
process, and then it is one of the request on the server's stack. -/
theorem foreignByte_changes (hplaced : platform.Placed)
    (h : (x64MachineSystem platform).Reachable TransitionSystem.anyStep machine)
    {active : ThreadRef} (hcurrent : machine.runtime.currentThread = some active)
    {ref : ProcessRef} (hforeign : ref ≠ (machine.runtime.thread active).process)
    {address host : UInt64}
    (hbyte : byteTranslation (machine.runtime.process ref).addressSpaceInfo address = some host)
    (event : X64Event) :
    (machine.next event).runtime.memory host = machine.runtime.memory host ∨
      ∃ frame channel server, event = .syscall frame ∧
        Syscall.ofNumber frame.rax = some .rpcCall ∧
        machine.runtime.resolveCall active frame.context = .ok (channel, server) ∧
        (machine.runtime.endpointOf channel).ownerProcess = some ref ∧
        requestLow (machine.runtime.savedStackPointer active frame.context server) frame.rdx ≤
          address.toNat ∧
        address.toNat < (machine.runtime.savedStackPointer active frame.context server).toNat := by
  obtain ⟨configurations, booted, hbooted, hfrom⟩ := reachable_bootedFrom hplaced h
  have hunique {other : ProcessRef} {address' : UInt64}
      (hbacks : Backs (machine.runtime.process other).addressSpaceInfo address' host) :
      ref = other ∧ address = address' := by
    obtain ⟨process, hitem, hbyte'⟩ := hfrom.backs hplaced hbooted hbacks
    have hprocess : machine.runtime.process other = process := KernelObjectPool.get_of_items hitem
    exact hfrom.unique hplaced hbooted hbyte (hprocess ▸ hbyte')
  cases event with
  | store target byte =>
    obtain ⟨process, hitem, processIndex, -, hspace, hroot⟩ := hfrom.active hbooted hcurrent
    refine .inl (storeThrough_apart fun hleads => hforeign ?_)
    have hown : byteTranslation (machine.runtime.process
        (machine.runtime.thread active).process).addressSpaceInfo target = some host := by
      rw [UserRuntime.process, KernelObjectPool.get_of_items hitem,
        byteTranslation_bootstrap (hplaced.storage processIndex.val) hspace]
      rw [x64StoreTranslation, hroot, bootedTranslation_eq hplaced hbooted processIndex
        (memory_kept hplaced hbooted hfrom.memory)] at hleads
      exact hleads
    exact (hfrom.unique hplaced hbooted hbyte hown).1
  | syscall frame =>
    rw [or_iff_not_imp_left]
    intro hchanged
    cases hok : x64HandleSyscall frame machine.runtime with
    | error text =>
      exact absurd (by simp only [X64Machine.next, hok]) hchanged
    | ok result =>
      obtain ⟨loaded, after⟩ := result
      obtain ⟨current, hsame, hmemory, -⟩ := x64HandleSyscall_leaves hok
      obtain rfl : active = current := Option.some.inj (hcurrent.symm.trans hsame)
      simp only [X64Machine.next, hok] at hchanged
      rw [hmemory] at hchanged
      have hbuilt : BuiltSpaces (machine.runtime.modifyThread active frame.saveTo) :=
        hfrom.builtSpaces hbooted
      have hwrites := mayWrite_of_changed .x64 hbuilt hcurrent frame.context hchanged
      have hprocess : ∀ ref : ThreadRef,
          ((machine.runtime.modifyThread active frame.saveTo).thread ref).process =
            (machine.runtime.thread ref).process :=
        thread_modifyThread_keeps Thread.process fun _ => rfl
      unfold MayWrite at hwrites
      split at hwrites
      · obtain ⟨userAddress, -, -, hbacks⟩ := hwrites
        rw [hprocess] at hbacks
        exact absurd (hunique hbacks).1 hforeign
      · next hsyscall =>
        obtain ⟨channel, server, serverProcess, hresolve, howner, userAddress, hlow, hhigh,
          hbacks⟩ := hwrites
        obtain ⟨rfl, rfl⟩ := hunique hbacks
        rw [resolveCall_saveTo] at hresolve
        rw [savedStackPointer_saveTo] at hlow hhigh
        exact ⟨frame, channel, server, rfl, hsyscall, hresolve, howner, hlow, hhigh⟩
      · cases hwrites

/-- A store of the first process leaves the image of the second one alone. -/
theorem foreignByte_changes_tenPageImage :
    ∃ machine, (x64MachineSystem ⟨0x100000⟩).Reachable TransitionSystem.anyStep machine ∧
      machine.halted = false ∧
      byteTranslation (machine.runtime.process 1).addressSpaceInfo 0x400000 = some 0x115000 ∧
      (machine.next (.store 0x400000 7)).runtime.memory 0x115000 =
        machine.runtime.memory 0x115000 := by
  obtain ⟨machine, hreachable, hrunning, hcurrent, hprocess, hbyte⟩ := tenPageImage_boots
  refine ⟨machine, hreachable, hrunning, hbyte, ?_⟩
  have hforeign : (1 : ProcessRef) ≠ (machine.runtime.thread 0).process := by
    rw [hprocess]
    decide
  obtain hkept | ⟨frame, channel, server, hevent, -⟩ := foreignByte_changes placed_tenPageImage
    hreachable hcurrent hforeign hbyte (.store 0x400000 7)
  · exact hkept
  · exact (nomatch hevent)

end Isolation

end Ringos.Arch

import Ringos.Arch.Arm64Boot
import Ringos.Arch.BootedRuntime
import Ringos.Arch.CalleeSaved
import Ringos.Arch.GuestEndings
import Ringos.Emulator.Sandbox

/-!
# Isolation of arm64 processes

User code of native processes reaches memory through the translation tables, and
the guests of emulated ones through the emulator, which stays inside the user
region of its process. The kernel writes only behind user addresses. So the tables
stay what boot has made them, whatever native code and guests do, and a process
reaches its own bytes and nothing else.
-/

namespace Ringos.Arch

open Ringos.Core Ringos.Kernel Ringos.Image Ringos.Emulator UserRuntime

section Machine

/-- The machine: the runtime with the memory, the guest state of each process storage, the root of
the translation tables in use, and whether the kernel has parked the processor. -/
structure Arm64MemoryMachine where
  runtime : UserRuntime
  guestStates : Fin userRuntimeMaxInitialProcesses → EmulatorState
  ttbr0 : UInt64
  halted : Bool

/-- What `initialize_process_storage` leaves in `x64_guest_state`. -/
def clearedGuestState : EmulatorState where
  generalRegisters := Vector.replicate 16 0
  simdRegisters := Vector.replicate 16 (Vector.replicate 16 0)
  instructionPointer := 0
  flags := 0

/-- The loop of `enter_user_thread` up to the choice of the backend, less the lines that it logs. -/
def Arm64MemoryMachine.enterUserThread (machine : Arm64MemoryMachine) : Arm64MemoryMachine :=
  if machine.runtime.hasRunnableThread then
    { machine with
      ttbr0 := activateProcessAddressSpace machine.ttbr0 (activeProcess machine.runtime) }
  else { machine with halted := true }

/-- `get_process_storage`, by the root table of a process; `none` is the panic. -/
def Arm64Platform.getProcessStorage (platform : Arm64Platform) (processContext : Process) :
    Option (Fin userRuntimeMaxInitialProcesses) :=
  (List.finRange userRuntimeMaxInitialProcesses).find? fun processIndex =>
    (platform.processStorage processIndex).toUInt64 = processContext.addressSpaceInfo.archRootTable

variable {platform : Arm64Platform}

/-- A process storage as the emulator takes it. -/
def Arm64Platform.Placed.guestStorage (hplaced : platform.Placed)
    (processIndex : Fin userRuntimeMaxInitialProcesses) (state : EmulatorState) :
    ProcessStorage where
  userRegionStorage := (platform.processStorage processIndex + userRegionStorageOffset).toUInt64
  x64GuestState := state
  nonnull := fun hzero => by
    have hnumber := congrArg UInt64.toNat hzero
    rw [(hplaced.storage processIndex).toNat (by decide), UInt64.toNat_zero] at hnumber
    have hlow := (hplaced.storage processIndex).low
    have hbase : kernelIdentityBase = 0x40000000 := rfl
    omega
  fits := by
    have hhigh := (hplaced.storage processIndex).high
    have hbase : kernelIdentityBase = 0x40000000 := rfl
    have hidentity : kernelIdentitySize = 0x2000000 := rfl
    have hsize : sizeofArm64ProcessStorage = 0x4000 + 2 * 2 ^ 21 := rfl
    have hoffset : userRegionStorageOffset = 0x4000 := rfl
    have hlarge : largePageSize.toNat = 2 ^ 21 := rfl
    rw [(hplaced.storage processIndex).toNat (by decide)]
    omega

/-- What runs on the machine. -/
inductive Arm64MemoryEvent where
  /-- A store of a byte by native user code; one that is not translated changes nothing. -/
  | store (address : UInt64) (byte : UInt8)
  /-- A trap of native user code. -/
  | syscall (frame : Arm64SyscallFrame)
  /-- A turn of the emulator. -/
  | runGuest

/-- The backend that an event takes. -/
def Arm64MemoryEvent.backend : Arm64MemoryEvent → ProcessExecutionBackend
  | .store _ _ | .syscall _ => .native
  | .runGuest => .x64Emulator

/-- What the loop does with the end of a turn of the emulator. -/
def Arm64MemoryMachine.leaveX64Emulator (machine : Arm64MemoryMachine)
    (processIndex : Fin userRuntimeMaxInitialProcesses) :
    Except String (ProcessStorage × UserRuntime) → Arm64MemoryMachine
  | .error _ => { machine with halted := true }
  | .ok (storage, after) =>
    { machine with
      runtime := after
      guestStates := Function.update machine.guestStates processIndex
        storage.x64GuestState }.enterUserThread

/-- The effect of an event. A trap that goes on with a native thread returns to it, under the
address space that `set_current_thread` has activated; every other one and a turn of the emulator
go back to the loop of `enter_user_thread`. -/
def Arm64MemoryMachine.next (hplaced : platform.Placed) (machine : Arm64MemoryMachine) :
    Arm64MemoryEvent → Arm64MemoryMachine
  | .store address byte =>
    { machine with
      runtime := { machine.runtime with
        memory := storeThrough (fun root memory => arm64Translate memory root ⟨true, true⟩)
          machine.ttbr0 machine.runtime.memory address byte } }
  | .syscall frame =>
    match arm64HandleSyscall frame machine.runtime with
    | .error _ => { machine with halted := true }
    | .ok (some _, after) =>
      { machine with
        runtime := after
        ttbr0 := if after.currentThread = machine.runtime.currentThread then machine.ttbr0
          else activateProcessAddressSpace machine.ttbr0 (activeProcess after) }
    | .ok (none, after) => { machine with runtime := after }.enterUserThread
  | .runGuest =>
    match machine.runtime.currentThread,
      (activeProcess machine.runtime).bind platform.getProcessStorage with
    | some currentThread, some processIndex =>
      machine.leaveX64Emulator processIndex (runX64EmulatorThread machine.runtime
        (hplaced.guestStorage processIndex (machine.guestStates processIndex)) currentThread)
    | _, _ => { machine with halted := true }

/-- `run_initial_user_runtime` up to the first instruction of user code, from what the register of
the root table holds at boot. -/
def Arm64Platform.run (platform : Arm64Platform) (terminalServiceImage testAppImage : List UInt8)
    (ttbr0 : UInt64) (memory : ByteMemory) : Except String Arm64MemoryMachine :=
  (runInitialUserRuntime (platform.initializeBootstrap terminalServiceImage testAppImage)
    memory).map fun started =>
      Arm64MemoryMachine.enterUserThread ⟨started.2, fun _ => clearedGuestState, ttbr0, false⟩

/-- The machine from boot on, with images whose sections fit. -/
def arm64MemorySystem (hplaced : platform.Placed) :
    TransitionSystem Arm64MemoryMachine Arm64MemoryEvent where
  init machine := ∃ terminalServiceImage testAppImage ttbr0 memory,
    Arm64ImagesFit terminalServiceImage testAppImage ∧
      platform.run terminalServiceImage testAppImage ttbr0 memory = .ok machine
  enabled machine event := machine.halted = false ∧
    (activeProcess machine.runtime).map (fun process => process.metadata.executionBackend) =
      some event.backend
  next := Arm64MemoryMachine.next hplaced

end Machine

section Translations

variable {storage : Nat} {size : UInt64} {addressSpaceInfo : AddressSpace}

theorem arm64AddressSpace_root (h : arm64AddressSpace storage size = some addressSpaceInfo) :
    addressSpaceInfo.archRootTable = storage.toUInt64 := by
  simp only [arm64AddressSpace, addAddressSpaceMapping] at h
  split_ifs at h <;> simp_all
  rw [← h]

theorem arm64UserRegion_ne_zero (hplaced : PlacedArm64Storage storage) :
    arm64UserRegion storage ≠ 0 := fun hzero => by
  have hnumber := congrArg UInt64.toNat hzero
  have hbehind := hplaced.userRegion.behind
  have hlow := hplaced.low
  have hbase : kernelIdentityBase = 0x40000000 := rfl
  rw [UInt64.toNat_zero] at hnumber
  omega

/-- The address space of a process maps a first part of the user region. -/
theorem byteTranslation_arm64 (hplaced : PlacedArm64Storage storage)
    (hspace : arm64AddressSpace storage size = some addressSpaceInfo) (address : UInt64) :
    byteTranslation addressSpaceInfo address =
      if x64UserImageVirtualAddress.toNat ≤ address.toNat ∧
          address.toNat < x64UserImageVirtualAddress.toNat + size.toNat then
        some (arm64UserRegion storage + (address - x64UserImageVirtualAddress))
      else none := by
  have hbuilt := arm64AddressSpace_built hspace
  have hmappings := arm64AddressSpace_mappings hspace
  split
  · next hmapped =>
    have hmem : ⟨x64UserImageVirtualAddress, arm64UserRegion storage, size⟩ ∈
        addressSpaceInfo.mappings := by
      rw [hmappings]
      exact List.mem_cons_self
    exact byteTranslation_of_holds hbuilt hmem (arm64UserRegion_ne_zero hplaced) hmapped
  · next hunmapped =>
    refine byteTranslation_of_unmapped hbuilt fun h => hunmapped ?_
    obtain ⟨mapping, hmem, -, hholds⟩ := (mappedAt_iff hbuilt).mp h
    rw [hmappings, List.mem_singleton] at hmem
    subst hmem
    exact hholds

/-- A mapped byte lies in the user region of its process. -/
theorem byteTranslation_arm64_some (hplaced : PlacedArm64Storage storage)
    (hspace : arm64AddressSpace storage size = some addressSpaceInfo)
    (hsize : size.toNat ≤ arm64UserRegionSize.toNat) {address host : UInt64}
    (h : byteTranslation addressSpaceInfo address = some host) :
    x64UserImageVirtualAddress.toNat ≤ address.toNat ∧
      address.toNat < x64UserImageVirtualAddress.toNat + size.toNat ∧
      host.toNat = (arm64UserRegion storage).toNat +
        (address.toNat - x64UserImageVirtualAddress.toNat) := by
  rw [byteTranslation_arm64 hplaced hspace] at h
  split at h
  · next hmapped =>
    obtain ⟨hlow, hhigh⟩ := hmapped
    obtain rfl := Option.some.inj h
    have hinside := hplaced.userRegion.inside
    have hbound := hplaced.high
    have hbase : kernelIdentityBase = 0x40000000 := rfl
    have hidentity : kernelIdentitySize = 0x2000000 := rfl
    refine ⟨hlow, hhigh, ?_⟩
    rw [UInt64.toNat_add, UInt64.toNat_sub_of_le _ _ (UInt64.le_iff_toNat_le.mpr hlow)]
    omega
  · cases h

theorem mappedRegionSize_le (backend : ProcessExecutionBackend) :
    (mappedRegionSize backend).toNat ≤ arm64UserRegionSize.toNat := by
  cases backend <;> decide

end Translations

section Memory

variable {platform : Arm64Platform} {configurations : List InitialProcessConfiguration}
  {booted memory : ByteMemory}

/-- A byte of the tables of a booted process. -/
def IsTableByte (configurations : List InitialProcessConfiguration) (target : UInt64) : Prop :=
  ∃ configuration ∈ configurations,
    InRange configuration.addressSpace.archRootTable (3 * arm64PageSize) target

/-- The translation of a store of user code of a booted process. -/
def arm64StoreTranslation
    (configuration : { configuration // configuration ∈ configurations }) :
    ByteMemory → UInt64 → Option UInt64 := fun memory address =>
  arm64Translate memory configuration.val.addressSpace.archRootTable ⟨true, true⟩ address

/-- User code of a native process reaches what its address space maps and nothing else, the kernel
finds the bytes behind user addresses where it looks for them whatever process is active, and no
byte is behind two user addresses. -/
structure Arm64Isolated (configurations : List InitialProcessConfiguration)
    (memory : ByteMemory) : Prop where
  own : ∀ configuration ∈ configurations, configuration.metadata.executionBackend = .native →
    ∀ store address, arm64Translate memory configuration.addressSpace.archRootTable ⟨true, store⟩
        address = byteTranslation configuration.addressSpace address
  kernel : ∀ active ∈ configurations, ∀ configuration ∈ configurations, ∀ address host,
    byteTranslation configuration.addressSpace address = some host → ∀ store,
      arm64Translate memory active.addressSpace.archRootTable ⟨false, store⟩ host = some host
  apart : ∀ (i j : Nat) (configuration other : InitialProcessConfiguration),
    configurations[i]? = some configuration → configurations[j]? = some other →
      ∀ address address' host, byteTranslation configuration.addressSpace address = some host →
        byteTranslation other.addressSpace address' = some host → i = j ∧ address = address'

/-- A booted process has a storage. -/
theorem Arm64Platform.Booted.storage (h : platform.Booted configurations booted)
    {configuration : InitialProcessConfiguration} (hmem : configuration ∈ configurations) :
    ∃ processIndex, BootedIn booted (platform.processStorage processIndex) configuration := by
  obtain ⟨index, hindex⟩ := List.mem_iff_getElem?.mp hmem
  obtain ⟨hlt, -⟩ := List.getElem?_eq_some_iff.mp hindex
  exact ⟨⟨index, hlt.trans_le h.count⟩, h.processes ⟨index, hlt.trans_le h.count⟩ _ hindex⟩

/-- While the tables are what they were at boot, so are the translations. -/
theorem bootedTranslation_arm64 (hplaced : platform.Placed)
    {processIndex : Fin userRuntimeMaxInitialProcesses}
    {configuration : InitialProcessConfiguration} (hmem : configuration ∈ configurations)
    (hbooted : BootedIn booted (platform.processStorage processIndex) configuration)
    (hsame : ∀ target, IsTableByte configurations target → memory target = booted target)
    (access : PageAccess) (address : UInt64) :
    arm64Translate memory configuration.addressSpace.archRootTable access address =
      if x64UserImageVirtualAddress.toNat ≤ address.toNat ∧
          address.toNat < x64UserImageVirtualAddress.toNat + arm64UserRegionSize.toNat then
        some (arm64UserRegion (platform.processStorage processIndex) +
          (address - x64UserImageVirtualAddress))
      else if kernelIdentityBase ≤ address.toNat ∧
          address.toNat < kernelIdentityBase + kernelIdentitySize then
        (if access.user then none else some address)
      else none := by
  have hpage : arm64PageSize = 4096 := rfl
  have hroot := arm64AddressSpace_root hbooted.space
  have hstored : (arm64ProcessTables (platform.processStorage processIndex)).StoredAt memory
      (platform.processStorage processIndex) := by
    refine hbooted.stored.congr fun offset hoffset => hsame _ ⟨configuration, hmem, ?_⟩
    rw [hroot, InRange, toNat_distance (by omega)]
    exact hoffset
  rw [hroot, arm64Translate_eq hstored.heldAt (hplaced.storage processIndex)]

/-- The storages lie one behind the other, each with its user region behind its tables. -/
theorem Arm64Platform.Placed.region (hplaced : platform.Placed)
    (processIndex : Fin userRuntimeMaxInitialProcesses) :
    platform.processStorage processIndex =
        platform.address + processIndex.val * (0x4000 + 2 * 2 ^ 21) ∧
      platform.processStorage processIndex + 0x4000 ≤
        (arm64UserRegion (platform.processStorage processIndex)).toNat ∧
      (arm64UserRegion (platform.processStorage processIndex)).toNat + 2 ^ 21 ≤
        platform.processStorage processIndex + (0x4000 + 2 * 2 ^ 21) :=
  ⟨rfl, (hplaced.storage processIndex).userRegion.behind,
    (hplaced.storage processIndex).userRegion.inside⟩

/-- No byte of a user region is part of the tables of a process. -/
theorem not_isTableByte (hplaced : platform.Placed)
    (hbooted : platform.Booted configurations booted)
    (processIndex : Fin userRuntimeMaxInitialProcesses) {target : UInt64}
    (hlow : (arm64UserRegion (platform.processStorage processIndex)).toNat ≤ target.toNat)
    (hhigh : target.toNat <
      (arm64UserRegion (platform.processStorage processIndex)).toNat + 2 ^ 21) :
    ¬ IsTableByte configurations target := by
  rintro ⟨configuration, hmem, hin⟩
  obtain ⟨other, hother⟩ := hbooted.storage hmem
  obtain ⟨hstorage, hbehind, hinside⟩ := hplaced.region processIndex
  obtain ⟨hotherStorage, -, -⟩ := hplaced.region other
  have hbound := (hplaced.storage other).high
  have hbase : kernelIdentityBase = 0x40000000 := rfl
  have hidentity : kernelIdentitySize = 0x2000000 := rfl
  have hsize : sizeofArm64ProcessStorage = 0x4000 + 2 * 2 ^ 21 := rfl
  have hpage : arm64PageSize = 4096 := rfl
  rw [arm64AddressSpace_root hother.space, show target = target.toNat.toUInt64 from
    (UInt64.ofNat_toNat ..).symm, inRange_toUInt64 (by omega) target.toNat_lt] at hin
  omega

/-- No store of user code changes a byte of the tables, and nothing else that leaves them alone
does. -/
theorem arm64Memory_kept (hplaced : platform.Placed)
    (hbooted : platform.Booted configurations booted)
    (h : Relation.ReflTransGen (MemoryStep (@arm64StoreTranslation configurations)
      (IsTableByte configurations)) booted memory) :
    ∀ target, IsTableByte configurations target → memory target = booted target := by
  refine (memorySteps_protected (fun configuration memory' hsame => ?_)
    (fun configuration address target hleads => ?_) h).1
  · obtain ⟨processIndex, hin⟩ := hbooted.storage configuration.property
    funext address
    exact (bootedTranslation_arm64 hplaced configuration.property hin hsame ⟨true, true⟩
      address).trans (bootedTranslation_arm64 hplaced configuration.property hin (fun _ _ => rfl)
        ⟨true, true⟩ address).symm
  · obtain ⟨processIndex, hin⟩ := hbooted.storage configuration.property
    have hregion : arm64UserRegionSize.toNat = 2 ^ 21 := rfl
    obtain ⟨-, -, hinside⟩ := hplaced.region processIndex
    have hbound := (hplaced.storage processIndex).high
    have hbase : kernelIdentityBase = 0x40000000 := rfl
    have hidentity : kernelIdentitySize = 0x2000000 := rfl
    have hsize : sizeofArm64ProcessStorage = 0x4000 + 2 * 2 ^ 21 := rfl
    have heq := (bootedTranslation_arm64 hplaced configuration.property hin (fun _ _ => rfl)
      ⟨true, true⟩ address).symm.trans hleads
    split at heq
    · next hmapped =>
      obtain rfl := Option.some.inj heq
      have hnumber : (arm64UserRegion (platform.processStorage processIndex) +
          (address - x64UserImageVirtualAddress)).toNat =
            (arm64UserRegion (platform.processStorage processIndex)).toNat +
              (address.toNat - x64UserImageVirtualAddress.toNat) := by
        rw [UInt64.toNat_add, UInt64.toNat_sub_of_le _ _ (UInt64.le_iff_toNat_le.mpr hmapped.1)]
        omega
      exact not_isTableByte hplaced hbooted processIndex (by omega) (by omega)
    · split at heq
      · cases heq
      · cases heq

/-- A mapped byte of a booted process, by its distance from the start of the user region. -/
theorem BootedIn.byte (hplaced : platform.Placed)
    {processIndex : Fin userRuntimeMaxInitialProcesses}
    {configuration : InitialProcessConfiguration}
    (h : BootedIn booted (platform.processStorage processIndex) configuration)
    {address host : UInt64}
    (hbyte : byteTranslation configuration.addressSpace address = some host) :
    x64UserImageVirtualAddress.toNat ≤ address.toNat ∧
      address.toNat < x64UserImageVirtualAddress.toNat + 2 ^ 21 ∧
      host.toNat = (arm64UserRegion (platform.processStorage processIndex)).toNat +
        (address.toNat - x64UserImageVirtualAddress.toNat) := by
  have hle : _ ≤ 2 ^ 21 := mappedRegionSize_le configuration.metadata.executionBackend
  obtain ⟨hlow, hhigh, hhost⟩ :=
    byteTranslation_arm64_some (hplaced.storage processIndex) h.space hle hbyte
  exact ⟨hlow, by omega, hhost⟩

/-- Along every sequence of stores of user code, and of changes that leave the tables alone, the
processes that a boot has set up are isolated. -/
theorem Arm64Platform.Booted.isolated (hplaced : platform.Placed)
    (hbooted : platform.Booted configurations booted)
    (hsteps : Relation.ReflTransGen (MemoryStep (@arm64StoreTranslation configurations)
      (IsTableByte configurations)) booted memory) :
    Arm64Isolated configurations memory := by
  have hkept := arm64Memory_kept hplaced hbooted hsteps
  refine ⟨fun configuration hmem hnative store address => ?_,
    fun active hactive configuration hmem address host htranslates store => ?_,
    fun i j configuration other hi hj address address' host hfirst hsecond => ?_⟩
  · obtain ⟨processIndex, hin⟩ := hbooted.storage hmem
    have hspace : arm64AddressSpace (platform.processStorage processIndex) arm64UserRegionSize =
        some configuration.addressSpace := by
      have hmapped := hin.space
      rw [hnative] at hmapped
      exact hmapped
    rw [bootedTranslation_arm64 hplaced hmem hin hkept,
      byteTranslation_arm64 (hplaced.storage processIndex) hspace]
    split
    · rfl
    split
    · rfl
    · rfl
  · obtain ⟨running, hrunning⟩ := hbooted.storage hactive
    obtain ⟨processIndex, hin⟩ := hbooted.storage hmem
    obtain ⟨hlow, hhigh, hhost⟩ := hin.byte hplaced htranslates
    obtain ⟨-, hbehind, hinside⟩ := hplaced.region processIndex
    have hstorage := (hplaced.storage processIndex).low
    have hbound := (hplaced.storage processIndex).high
    have hbase : kernelIdentityBase = 0x40000000 := rfl
    have hidentity : kernelIdentitySize = 0x2000000 := rfl
    have hsize : sizeofArm64ProcessStorage = 0x4000 + 2 * 2 ^ 21 := rfl
    have huser : x64UserImageVirtualAddress.toNat = 0x400000 := rfl
    have hregion : arm64UserRegionSize.toNat = 2 ^ 21 := rfl
    rw [bootedTranslation_arm64 hplaced hactive hrunning hkept, if_neg (by omega),
      if_pos (by omega)]
    rfl
  · obtain ⟨hfirstLt, -⟩ := List.getElem?_eq_some_iff.mp hi
    obtain ⟨hsecondLt, -⟩ := List.getElem?_eq_some_iff.mp hj
    have hcount := hbooted.count
    obtain ⟨hlow, hhigh, hhost⟩ :=
      (hbooted.processes ⟨i, hfirstLt.trans_le hcount⟩ configuration hi).byte hplaced hfirst
    obtain ⟨hlow', hhigh', hhost'⟩ :=
      (hbooted.processes ⟨j, hsecondLt.trans_le hcount⟩ other hj).byte hplaced hsecond
    obtain ⟨hstorage, hbehind, hinside⟩ := hplaced.region ⟨i, hfirstLt.trans_le hcount⟩
    obtain ⟨hstorage', hbehind', hinside'⟩ := hplaced.region ⟨j, hsecondLt.trans_le hcount⟩
    dsimp only at hstorage hstorage'
    have hindex : i = j := by
      have hmax : userRuntimeMaxInitialProcesses = 2 := rfl
      omega
    subst hindex
    exact ⟨rfl, UInt64.toNat_inj.mp (by omega)⟩

end Memory

section Kernel

variable {platform : Arm64Platform} {configurations : List InitialProcessConfiguration}
  {booted : ByteMemory} {runtime middle after : UserRuntime}

/-- The processes are those before, and so are the bytes of their tables. -/
structure SparesTables (configurations : List InitialProcessConfiguration)
    (before after : UserRuntime) : Prop where
  same : SameProcesses before after
  tables : ∀ target, IsTableByte configurations target → after.memory target = before.memory target

theorem SparesTables.refl (runtime : UserRuntime) : SparesTables configurations runtime runtime :=
  ⟨⟨rfl, fun _ => rfl⟩, fun _ _ => rfl⟩

theorem SparesTables.trans (hfirst : SparesTables configurations runtime middle)
    (hsecond : SparesTables configurations middle after) :
    SparesTables configurations runtime after :=
  ⟨hfirst.same.trans hsecond.same, fun target htarget =>
    (hsecond.tables target htarget).trans (hfirst.tables target htarget)⟩

theorem sparesTables_modifyThread (runtime : UserRuntime) (ref : ThreadRef) {f : Thread → Thread}
    (hkept : ∀ thread, (f thread).process = thread.process) :
    SparesTables configurations runtime (runtime.modifyThread ref f) :=
  ⟨sameProcesses_modifyThread runtime ref hkept, fun _ _ => rfl⟩

section Booted

variable (hplaced : platform.Placed) (hbooted : platform.Booted configurations booted)
  (h : BootedRuntime configurations runtime)

include hbooted h

/-- A process of the runtime stands in its storage. -/
theorem BootedRuntime.storage {ref : ProcessRef} {process : Process}
    (hitem : runtime.processes.items ref = some process) :
    ∃ (processIndex : Fin userRuntimeMaxInitialProcesses) (configuration : _),
      processIndex.val = ref.val ∧ configurations[ref.val]? = some configuration ∧
      BootedIn booted (platform.processStorage processIndex) configuration ∧
      configuration.metadata = process.metadata ∧
      configuration.addressSpace = process.addressSpaceInfo := by
  obtain ⟨configuration, hconfiguration, hmetadata, hspace⟩ := h.process hitem
  obtain ⟨hlt, -⟩ := List.getElem?_eq_some_iff.mp hconfiguration
  exact ⟨⟨ref.val, hlt.trans_le hbooted.count⟩, configuration, rfl, hconfiguration,
    hbooted.processes ⟨ref.val, hlt.trans_le hbooted.count⟩ configuration hconfiguration,
    hmetadata, hspace⟩

theorem BootedRuntime.builtSpaces : BuiltSpaces runtime := by
  intro ref process hitem
  obtain ⟨_, _, -, -, hin, -, hspace⟩ := h.storage hbooted hitem
  exact hspace ▸ arm64AddressSpace_built hin.space

include hplaced

/-- No byte behind a user address is one of the tables. -/
theorem BootedRuntime.backs_apart {ref : ProcessRef} {userAddress hostAddress : UInt64}
    (hbacks : Backs (runtime.process ref).addressSpaceInfo userAddress hostAddress) :
    ¬ IsTableByte configurations hostAddress := by
  unfold UserRuntime.process KernelObjectPool.get at hbacks
  cases hitem : runtime.processes.items ref with
  | none =>
    rw [hitem] at hbacks
    obtain ⟨mapping, hmem, -⟩ := hbacks
    exact absurd hmem List.not_mem_nil
  | some process =>
    rw [hitem, Option.getD_some] at hbacks
    obtain ⟨processIndex, configuration, -, -, hin, -, hspace⟩ := h.storage hbooted hitem
    obtain ⟨mapping, hmem, hrange⟩ := hbacks
    have hmapped := hmem
    rw [← hspace, arm64AddressSpace_mappings hin.space, List.mem_singleton] at hmapped
    have hnonnull : mapping.hostAddress ≠ 0 := by
      rw [hmapped]
      exact arm64UserRegion_ne_zero (hplaced.storage processIndex)
    have hbyte : byteTranslation process.addressSpaceInfo userAddress = some hostAddress :=
      (byteTranslation_eq_some_iff (hspace ▸ arm64AddressSpace_built hin.space)).mpr
        ⟨mapping, hmem, hnonnull, hrange⟩
    rw [← hspace] at hbyte
    obtain ⟨hlow, hhigh, hhost⟩ := hin.byte hplaced hbyte
    exact not_isTableByte hplaced hbooted processIndex (by omega) (by omega)

/-- A syscall writes behind user addresses only, and so spares the tables. -/
theorem dispatchSyscall_spares (context : UserSyscallContext) :
    SparesTables configurations runtime (runtime.dispatchSyscall .arm64 context).2 := by
  refine ⟨sameProcesses_act .arm64 runtime (.syscall context), fun target htarget => ?_⟩
  cases hcurrent : runtime.currentThread with
  | none => simp only [dispatchSyscall, hcurrent]
  | some active =>
    by_contra hchanged
    obtain ⟨ref, userAddress, hbacks⟩ := backs_of_mayWrite
      (mayWrite_of_changed .arm64 (h.builtSpaces hbooted) hcurrent context hchanged)
    exact h.backs_apart hplaced hbooted hbacks htarget

/-- So does the syscall of a guest. -/
theorem dispatchX64Syscall_spares (state : EmulatorState) :
    SparesTables configurations runtime (dispatchX64Syscall state runtime).2 := by
  unfold dispatchX64Syscall
  split
  · exact .refl runtime
  · next active hcurrent =>
    have hsaved : SparesTables configurations runtime
        (runtime.modifyThread active (storeX64EmulatorPreservedState state)) :=
      sparesTables_modifyThread _ _ fun _ => rfl
    have hdispatched := hsaved.trans (dispatchSyscall_spares hplaced hbooted (h.same hsaved.same)
      (x64SyscallContext state))
    dsimp only
    split
    · exact hdispatched.trans (sparesTables_modifyThread _ _ fun _ => rfl)
    split
    · exact hdispatched
    · exact hdispatched

end Booted

/-- What the emulator keeps of the tables while a guest runs. -/
theorem emulatorCallbacks_spares (hplaced : platform.Placed)
    (hbooted : platform.Booted configurations booted) (h : BootedRuntime configurations runtime)
    (processIndex : Fin userRuntimeMaxInitialProcesses) (state : EmulatorState)
    (active : ThreadRef) :
    KeptOutside (guestMachine runtime (hplaced.guestStorage processIndex state) active).memory
      emulatorCallbacks fun host world =>
        SparesTables configurations runtime (withMemory world host) where
  stores host host' world hout hkept := by
    refine ⟨⟨hkept.same.processes, hkept.same.threads⟩, fun target htarget =>
      (hout target fun hin => ?_).trans (hkept.tables target htarget)⟩
    obtain ⟨-, -, hinside⟩ := hplaced.region processIndex
    have hbound := (hplaced.storage processIndex).high
    have hbase : kernelIdentityBase = 0x40000000 := rfl
    have hidentity : kernelIdentitySize = 0x2000000 := rfl
    have hsize : sizeofArm64ProcessStorage = 0x4000 + 2 * 2 ^ 21 := rfl
    have hregion : x64UserRegionSize.toNat = 10 * 4096 := rfl
    have hstays : InRange (arm64UserRegion (platform.processStorage processIndex))
        x64UserRegionSize.toNat target := hin
    obtain ⟨offset, hoffset, hnumber⟩ := hstays.toNat_eq (by omega)
    exact not_isTableByte hplaced hbooted processIndex (by omega) (by omega) htarget
  calls handleSyscall guest host world answer host' world' hhandle hcall hkept := by
    obtain rfl := Option.some.inj hhandle
    obtain ⟨-, hleft⟩ := Prod.mk.inj hcall
    obtain ⟨rfl, rfl⟩ := Prod.mk.inj hleft
    exact hkept.trans (dispatchX64Syscall_spares hplaced hbooted (h.same hkept.same) guest)

/-- What follows a run of the guest spares the tables, if the run does. -/
theorem finishX64EmulatorThread_spares {storage left : ProcessStorage}
    {final : ExecutionContext UserRuntime}
    (hkept : SparesTables configurations runtime
      (withMemory final.machine.world final.machine.host))
    (hok : finishX64EmulatorThread storage final = .ok (left, after)) :
    SparesTables configurations runtime after := by
  unfold finishX64EmulatorThread at hok
  dsimp only at hok
  split at hok
  · cases hok
  split at hok
  · obtain ⟨-, rfl⟩ := Prod.mk.inj (Except.ok.inj hok)
    have hlogged : SparesTables configurations runtime (debugLogX64EmulatorFault final.result
        (withMemory final.machine.world final.machine.host)) :=
      ⟨⟨hkept.same.processes, hkept.same.threads⟩, hkept.tables⟩
    have hterminated (faulted : UserRuntime) (exitStatus : UInt64) (peerFailureStatus : Int32) :
        SparesTables configurations faulted
          (faulted.terminateCurrentThread .arm64 exitStatus peerFailureStatus).2 :=
      ⟨sameProcesses_act .arm64 faulted (.terminate exitStatus peerFailureStatus),
        fun target _ => congrFun
          (terminateCurrentThread_memory .arm64 faulted exitStatus peerFailureStatus) target⟩
    exact hlogged.trans (hterminated _ _ _)
  split at hok
  · cases hok
  · obtain ⟨-, rfl⟩ := Prod.mk.inj (Except.ok.inj hok)
    exact hkept

/-- A turn of the emulator spares the tables. -/
theorem runX64EmulatorThread_spares (hplaced : platform.Placed)
    (hbooted : platform.Booted configurations booted) (h : BootedRuntime configurations runtime)
    {processIndex : Fin userRuntimeMaxInitialProcesses} {state : EmulatorState}
    {active : ThreadRef} {left : ProcessStorage}
    (hrun : runX64EmulatorThread runtime (hplaced.guestStorage processIndex state) active =
      .ok (left, after)) : SparesTables configurations runtime after := by
  have hstart : SparesTables configurations runtime (withMemory runtime runtime.memory) :=
    .refl runtime
  rw [runX64EmulatorThread_eq] at hrun
  exact finishX64EmulatorThread_spares
    ((emulatorCallbacks_spares hplaced hbooted h processIndex state active).run hstart) hrun

/-- Resuming spares them. -/
theorem arm64Resume_spares {active : ThreadRef} {status : Int32}
    {loaded : Option Arm64SyscallFrame}
    (hok : arm64Resume active status runtime = (loaded, after)) :
    SparesTables configurations runtime after ∧
      (loaded.isSome = true → after.hasRunnableThread = true) := by
  unfold arm64Resume at hok
  split at hok
  · obtain ⟨rfl, rfl⟩ := Prod.mk.inj hok
    exact ⟨.refl runtime, fun hloaded => by cases hloaded⟩
  split at hok
  · obtain ⟨rfl, rfl⟩ := Prod.mk.inj hok
    exact ⟨.refl runtime, fun hloaded => by cases hloaded⟩
  next resumeThread hresumed =>
    have hprepared : SparesTables configurations runtime (if resumeThread = active then
        runtime.modifyThread resumeThread (Thread.prepareSyscallResume .arm64 status)
      else runtime) := by
      split
      · exact sparesTables_modifyThread _ _ fun _ => rfl
      · exact .refl runtime
    dsimp only at hok
    generalize (if resumeThread = active then
        runtime.modifyThread resumeThread (Thread.prepareSyscallResume .arm64 status)
      else runtime) = prepared at hprepared hok
    split at hok
    · obtain ⟨rfl, rfl⟩ := Prod.mk.inj hok
      exact ⟨hprepared, fun hloaded => by cases hloaded⟩
    · obtain ⟨rfl, rfl⟩ := Prod.mk.inj hok
      refine ⟨hprepared, fun hloaded => ?_⟩
      by_contra hnot
      rw [if_neg hnot] at hloaded
      cases hloaded

/-- A trap spares them, and goes on with a thread that can run. -/
theorem arm64HandleSyscall_spares (hplaced : platform.Placed)
    (hbooted : platform.Booted configurations booted) (h : BootedRuntime configurations runtime)
    {frame : Arm64SyscallFrame} {loaded : Option Arm64SyscallFrame}
    (hok : arm64HandleSyscall frame runtime = .ok (loaded, after)) :
    SparesTables configurations runtime after ∧
      (loaded.isSome = true → after.hasRunnableThread = true) := by
  unfold arm64HandleSyscall at hok
  split at hok
  · cases hok
  cases hcurrent : runtime.currentThread with
  | none =>
    rw [hcurrent] at hok
    cases hok
  | some active =>
    rw [hcurrent] at hok
    dsimp only at hok
    split at hok
    · cases hok
    split at hok
    · cases hok
    have hsaved : SparesTables configurations runtime
        (runtime.modifyThread active frame.saveTo) := sparesTables_modifyThread _ _ fun _ => rfl
    have hdispatched := hsaved.trans
      (dispatchSyscall_spares hplaced hbooted (h.same hsaved.same) frame.context)
    obtain ⟨hresumed, hrunnable⟩ :=
      @arm64Resume_spares configurations _ _ _ _ _ (Except.ok.inj hok)
    exact ⟨hdispatched.trans hresumed, hrunnable⟩

end Kernel

section Steps

variable {platform : Arm64Platform} {configurations : List InitialProcessConfiguration}
  {booted : ByteMemory} {machine : Arm64MemoryMachine}

/-- A machine that has come from a boot with these configurations. -/
structure Arm64MemoryMachine.BootedFrom (configurations : List InitialProcessConfiguration)
    (booted : ByteMemory) (machine : Arm64MemoryMachine) : Prop where
  runtime : BootedRuntime configurations machine.runtime
  memory : Relation.ReflTransGen (MemoryStep (@arm64StoreTranslation configurations)
    (IsTableByte configurations)) booted machine.runtime.memory
  running : machine.halted = false → machine.runtime.hasRunnableThread = true
  root : machine.halted = false → ∀ process ∈ activeProcess machine.runtime,
    machine.ttbr0 = process.addressSpaceInfo.archRootTable

/-- No booted process has a null root table. -/
theorem Arm64Platform.Booted.root_ne_zero (hplaced : platform.Placed)
    (hbooted : platform.Booted configurations booted) :
    ∀ configuration ∈ configurations, configuration.addressSpace.archRootTable ≠ 0 := by
  intro configuration hmem hzero
  obtain ⟨processIndex, hin⟩ := hbooted.storage hmem
  have hnumber :=
    (hplaced.storage processIndex).toNat (show 0 < sizeofArm64ProcessStorage by decide)
  have hlow := (hplaced.storage processIndex).low
  have hbase : kernelIdentityBase = 0x40000000 := rfl
  rw [Nat.add_zero, ← arm64AddressSpace_root hin.space, hzero, UInt64.toNat_zero] at hnumber
  omega

/-- The loop enters the current thread under the tables of its process, or parks the processor. -/
theorem Arm64MemoryMachine.BootedFrom.enter (hplaced : platform.Placed)
    (hbooted : platform.Booted configurations booted)
    (hruntime : BootedRuntime configurations machine.runtime)
    (hmemory : Relation.ReflTransGen (MemoryStep (@arm64StoreTranslation configurations)
      (IsTableByte configurations)) booted machine.runtime.memory) :
    machine.enterUserThread.BootedFrom configurations booted := by
  unfold Arm64MemoryMachine.enterUserThread
  split
  · next hrunnable =>
    exact ⟨hruntime, hmemory, fun _ => hrunnable, fun _ process hactive =>
      hruntime.activated (hbooted.root_ne_zero hplaced) hactive machine.ttbr0⟩
  · exact ⟨hruntime, hmemory, (nomatch ·), (nomatch ·)⟩

/-- A store of native code keeps the machine one that has come from its boot. -/
theorem Arm64MemoryMachine.BootedFrom.store (hplaced : platform.Placed)
    (hbooted : platform.Booted configurations booted)
    (h : machine.BootedFrom configurations booted) (hrunning : machine.halted = false)
    {process : Process} (hactive : activeProcess machine.runtime = some process)
    (address : UInt64) (byte : UInt8) :
    (machine.next hplaced (.store address byte)).BootedFrom configurations booted := by
  obtain ⟨active, hcurrent, -⟩ := Option.map_eq_some_iff.mp hactive
  obtain ⟨owner, hitem⟩ := h.runtime.owner active
  obtain rfl := Option.some.inj (hactive.symm.trans (activeProcess_of_items hcurrent hitem))
  obtain ⟨-, configuration, -, hconfiguration, -, -, hspace⟩ := h.runtime.storage hbooted hitem
  refine ⟨⟨h.runtime.processes, h.runtime.threads⟩, h.memory.tail ?_, h.running, h.root⟩
  have hmem := List.mem_of_getElem? hconfiguration
  have hstep : MemoryStep (@arm64StoreTranslation configurations) (IsTableByte configurations)
      machine.runtime.memory (storeThrough arm64StoreTranslation
        ⟨configuration, hmem⟩ machine.runtime.memory address byte) := .user _ _ address byte
  have hsame : storeThrough (@arm64StoreTranslation configurations)
      ⟨configuration, hmem⟩ machine.runtime.memory address byte =
        storeThrough (fun root memory => arm64Translate memory root ⟨true, true⟩) machine.ttbr0
          machine.runtime.memory address byte := by
    rw [h.root hrunning process hactive, ← hspace]
    rfl
  rwa [hsame] at hstep

/-- So does a trap. -/
theorem Arm64MemoryMachine.BootedFrom.syscall (hplaced : platform.Placed)
    (hbooted : platform.Booted configurations booted)
    (h : machine.BootedFrom configurations booted) (hrunning : machine.halted = false)
    (frame : Arm64SyscallFrame) :
    (machine.next hplaced (.syscall frame)).BootedFrom configurations booted := by
  cases hok : arm64HandleSyscall frame machine.runtime with
  | error text =>
    simp only [Arm64MemoryMachine.next, hok]
    exact ⟨h.runtime, h.memory, (nomatch ·), (nomatch ·)⟩
  | ok result =>
    obtain ⟨loaded, after⟩ := result
    obtain ⟨hspares, hrunnable⟩ := arm64HandleSyscall_spares hplaced hbooted h.runtime hok
    have hruntime := h.runtime.same hspares.same
    have hmemory := h.memory.tail (.kernel hspares.tables)
    cases loaded with
    | none =>
      simp only [Arm64MemoryMachine.next, hok]
      exact .enter hplaced hbooted hruntime hmemory
    | some frame =>
      simp only [Arm64MemoryMachine.next, hok]
      refine ⟨hruntime, hmemory, fun _ => hrunnable rfl, fun _ process hactive => ?_⟩
      dsimp only at hactive ⊢
      split
      · next hkept => exact h.root hrunning process (hspares.same.activeProcess hkept ▸ hactive)
      · exact hruntime.activated (hbooted.root_ne_zero hplaced) hactive machine.ttbr0

/-- So does a turn of the emulator. -/
theorem Arm64MemoryMachine.BootedFrom.leaveX64Emulator (hplaced : platform.Placed)
    (hbooted : platform.Booted configurations booted)
    (h : machine.BootedFrom configurations booted)
    {turn : Except String (ProcessStorage × UserRuntime)}
    (hturn : ∀ left after, turn = .ok (left, after) →
      SparesTables configurations machine.runtime after)
    (processIndex : Fin userRuntimeMaxInitialProcesses) :
    (machine.leaveX64Emulator processIndex turn).BootedFrom configurations booted := by
  cases turn with
  | error text => exact ⟨h.runtime, h.memory, (nomatch ·), (nomatch ·)⟩
  | ok result =>
    have hspares := hturn result.1 result.2 rfl
    exact .enter hplaced hbooted (h.runtime.same hspares.same)
      (h.memory.tail (.kernel hspares.tables))

theorem Arm64MemoryMachine.BootedFrom.runGuest (hplaced : platform.Placed)
    (hbooted : platform.Booted configurations booted)
    (h : machine.BootedFrom configurations booted) :
    (machine.next hplaced .runGuest).BootedFrom configurations booted := by
  unfold Arm64MemoryMachine.next
  dsimp only
  split
  · next active processIndex hcurrent hstorage =>
    exact h.leaveX64Emulator hplaced hbooted (fun left after hrun =>
      runX64EmulatorThread_spares hplaced hbooted h.runtime hrun) processIndex
  · exact ⟨h.runtime, h.memory, (nomatch ·), (nomatch ·)⟩

theorem Arm64MemoryMachine.BootedFrom.next (hplaced : platform.Placed)
    (hbooted : platform.Booted configurations booted)
    (h : machine.BootedFrom configurations booted) {event : Arm64MemoryEvent}
    (henabled : (arm64MemorySystem hplaced).enabled machine event) :
    (machine.next hplaced event).BootedFrom configurations booted := by
  obtain ⟨hrunning, hbackend⟩ := henabled
  cases event with
  | store address byte =>
    obtain ⟨process, hactive, -⟩ := Option.map_eq_some_iff.mp hbackend
    exact h.store hplaced hbooted hrunning hactive address byte
  | syscall frame => exact h.syscall hplaced hbooted hrunning frame
  | runGuest => exact h.runGuest hplaced hbooted

/-- The boot puts the machine under the tables of its first process. -/
theorem arm64Run_bootedFrom (hplaced : platform.Placed)
    {terminalServiceImage testAppImage : List UInt8}
    (hfit : Arm64ImagesFit terminalServiceImage testAppImage) {ttbr0 : UInt64}
    {memory : ByteMemory}
    (h : platform.run terminalServiceImage testAppImage ttbr0 memory = .ok machine) :
    ∃ configurations booted, platform.Booted configurations booted ∧
      machine.BootedFrom configurations booted := by
  cases hplatform : platform.initializeBootstrap terminalServiceImage testAppImage memory with
  | error text =>
    rw [Arm64Platform.run, runInitialUserRuntime, hplatform] at h
    cases h
  | ok result =>
    obtain ⟨bootstrap, initialized⟩ := result
    obtain ⟨hcount, hindex, -⟩ := Arm64Platform.initializeBootstrap_maps hplatform
    have hbooted := Arm64Platform.initializeBootstrap_booted hplaced hfit hplatform
    obtain ⟨initial, started, hrun, hruntime, hmemory, -, -⟩ :=
      runInitialUserRuntime_booted hplatform hindex hcount
    rw [Arm64Platform.run, hrun] at h
    obtain rfl := Except.ok.inj h
    exact ⟨bootstrap.initialProcesses, initialized, hbooted,
      .enter hplaced hbooted hruntime (hmemory ▸ .refl)⟩

theorem reachable_arm64BootedFrom (hplaced : platform.Placed)
    (h : (arm64MemorySystem hplaced).Reachable TransitionSystem.anyStep machine) :
    ∃ configurations booted, platform.Booted configurations booted ∧
      machine.BootedFrom configurations booted := by
  refine h.invariant (P := fun s => ∃ configurations booted,
    platform.Booted configurations booted ∧ s.BootedFrom configurations booted)
    (fun s hinit => ?_) fun s event _ hs henabled _ => ?_
  · obtain ⟨_, _, _, _, hfit, hrun⟩ := hinit
    exact arm64Run_bootedFrom hplaced hfit hrun
  · obtain ⟨configurations, booted, hbooted, hfrom⟩ := hs
    exact ⟨configurations, booted, hbooted, hfrom.next hplaced hbooted henabled⟩

end Steps

section Isolation

variable {platform : Arm64Platform} {configurations : List InitialProcessConfiguration}
  {booted : ByteMemory} {machine : Arm64MemoryMachine}

/-- Where the emulator finds a byte of the guest. -/
def guestByteAddress (memory : EmulatorMemory) (address : UInt64) : Option UInt64 :=
  (memory.offsetOf address 1).map (memory.bytes + ·)

/-- What the user code of a thread reaches, under the tables in use where it is native and through
the emulator where it is a guest, is what the address space of its process maps and nothing else.
The kernel finds the bytes behind user addresses where it looks for them whatever process is active,
and no byte is behind two user addresses. -/
structure Arm64MemoryMachine.Isolates (hplaced : platform.Placed) (machine : Arm64MemoryMachine)
    (active : ThreadRef) (process : Process) : Prop where
  own : process.metadata.executionBackend = .native → ∀ store address,
    arm64Translate machine.runtime.memory machine.ttbr0 ⟨true, store⟩ address =
      byteTranslation process.addressSpaceInfo address
  guest : process.metadata.executionBackend = .x64Emulator →
    ∃ processIndex, platform.getProcessStorage process = some processIndex ∧
      ∀ address, guestByteAddress (guestMachine machine.runtime
        (hplaced.guestStorage processIndex (machine.guestStates processIndex)) active).memory
          address = byteTranslation process.addressSpaceInfo address
  kernel : ∀ ref address host,
    byteTranslation (machine.runtime.process ref).addressSpaceInfo address = some host →
      ∀ store, arm64Translate machine.runtime.memory machine.ttbr0 ⟨false, store⟩ host = some host
  apart : ∀ ref other address address' host,
    byteTranslation (machine.runtime.process ref).addressSpaceInfo address = some host →
      byteTranslation (machine.runtime.process other).addressSpaceInfo address' = some host →
        ref = other ∧ address = address'

/-- The root table of a process names its storage. -/
theorem getProcessStorage_eq (hplaced : platform.Placed)
    (processIndex : Fin userRuntimeMaxInitialProcesses) {process : Process}
    (hroot : process.addressSpaceInfo.archRootTable =
      (platform.processStorage processIndex).toUInt64) :
    platform.getProcessStorage process = some processIndex := by
  unfold Arm64Platform.getProcessStorage
  cases hfound : (List.finRange userRuntimeMaxInitialProcesses).find? fun processIndex =>
      (platform.processStorage processIndex).toUInt64 =
        process.addressSpaceInfo.archRootTable with
  | none =>
    have hmissing := List.find?_eq_none.mp hfound processIndex (List.mem_finRange processIndex)
    exact absurd (decide_eq_true hroot.symm) hmissing
  | some other =>
    have hother : (platform.processStorage other).toUInt64 =
        process.addressSpaceInfo.archRootTable := by
      have hheld := List.find?_some hfound
      exact of_decide_eq_true hheld
    have hnumber := congrArg UInt64.toNat (hother.trans hroot)
    have hplace (index : Fin userRuntimeMaxInitialProcesses) :
        (platform.processStorage index).toUInt64.toNat = platform.processStorage index := by
      have hstart := (hplaced.storage index).toNat
        (show 0 < sizeofArm64ProcessStorage by decide)
      rwa [Nat.add_zero] at hstart
    obtain ⟨hstorage, -⟩ := hplaced.region processIndex
    obtain ⟨hstorage', -⟩ := hplaced.region other
    rw [hplace, hplace] at hnumber
    exact congrArg some (Fin.ext (by omega))

/-- The emulator gives a guest the bytes that the address space of its process maps. -/
theorem guestByteAddress_booted (hplaced : platform.Placed)
    {processIndex : Fin userRuntimeMaxInitialProcesses}
    {configuration : InitialProcessConfiguration}
    (hin : BootedIn booted (platform.processStorage processIndex) configuration)
    (hguest : configuration.metadata.executionBackend = .x64Emulator) (runtime : UserRuntime)
    (state : EmulatorState) (active : ThreadRef) (address : UInt64) :
    guestByteAddress (guestMachine runtime (hplaced.guestStorage processIndex state)
      active).memory address = byteTranslation configuration.addressSpace address := by
  have hspace : arm64AddressSpace (platform.processStorage processIndex) x64UserRegionSize =
      some configuration.addressSpace := by
    have hmapped := hin.space
    rw [hguest] at hmapped
    exact hmapped
  have hadmits := (guestMachine runtime (hplaced.guestStorage processIndex state)
    active).memory.contains_byte address
  rw [byteTranslation_arm64 (hplaced.storage processIndex) hspace]
  split
  · next hmapped =>
    rw [guestByteAddress, EmulatorMemory.offsetOf, if_pos (hadmits.mpr hmapped)]
    rfl
  · next hunmapped =>
    rw [guestByteAddress, EmulatorMemory.offsetOf, if_neg (hunmapped ∘ hadmits.mp)]
    rfl

/-- Along every run the machine keeps the processes apart. -/
theorem reachable_arm64Isolates (hplaced : platform.Placed)
    (h : (arm64MemorySystem hplaced).Reachable TransitionSystem.anyStep machine)
    (hrunning : machine.halted = false) :
    ∃ active, machine.runtime.currentThread = some active ∧
      machine.Isolates hplaced active
        (machine.runtime.process (machine.runtime.thread active).process) := by
  obtain ⟨configurations, booted, hbooted, hfrom⟩ := reachable_arm64BootedFrom hplaced h
  obtain ⟨active, hcurrent⟩ := exists_current (hfrom.running hrunning)
  obtain ⟨process, hitem⟩ := hfrom.runtime.owner active
  obtain ⟨processIndex, configuration, -, hconfiguration, hin, hmetadata, hspace⟩ :=
    hfrom.runtime.storage hbooted hitem
  have hroot := hfrom.root hrunning process (activeProcess_of_items hcurrent hitem)
  have hisolated := hbooted.isolated hplaced hfrom.memory
  have hmem := List.mem_of_getElem? hconfiguration
  have hmapped {ref : ProcessRef} {address host : UInt64}
      (hbyte : byteTranslation (machine.runtime.process ref).addressSpaceInfo address =
        some host) : ∃ owner : InitialProcessConfiguration,
      configurations[ref.val]? = some owner ∧
        byteTranslation owner.addressSpace address = some host := by
    unfold UserRuntime.process KernelObjectPool.get at hbyte
    cases hslot : machine.runtime.processes.items ref with
    | none =>
      rw [hslot] at hbyte
      cases hbyte
    | some owner =>
      rw [hslot, Option.getD_some] at hbyte
      obtain ⟨held, hheld, -, hspace⟩ := hfrom.runtime.process hslot
      exact ⟨held, hheld, hspace ▸ hbyte⟩
  have hprocess : machine.runtime.process (machine.runtime.thread active).process = process :=
    KernelObjectPool.get_of_items hitem
  refine ⟨active, hcurrent, ?_⟩
  rw [hprocess]
  refine ⟨fun hnative store address => ?_, fun hguest => ?_, fun ref address host hbyte store => ?_,
    fun ref other address address' host hfirst hsecond => ?_⟩
  · rw [hroot, ← hspace]
    exact hisolated.own configuration hmem (hmetadata ▸ hnative) store address
  · refine ⟨processIndex, getProcessStorage_eq hplaced processIndex ?_, fun address => ?_⟩
    · rw [← hspace, arm64AddressSpace_root hin.space]
    · rw [← hspace]
      exact guestByteAddress_booted hplaced hin (hmetadata ▸ hguest) machine.runtime _ active
        address
  · obtain ⟨owner, howner, hbyte⟩ := hmapped hbyte
    rw [hroot, ← hspace]
    exact hisolated.kernel configuration hmem owner (List.mem_of_getElem? howner) address host
      hbyte store
  · obtain ⟨owner, howner, hfirst⟩ := hmapped hfirst
    obtain ⟨holder, hholder, hsecond⟩ := hmapped hsecond
    obtain ⟨hindex, haddress⟩ := hisolated.apart ref.val other.val owner holder howner hholder
      address address' host hfirst hsecond
    exact ⟨Fin.ext hindex, haddress⟩

/-- The ten pages as an image for arm64. -/
def arm64TenPageImage : List UInt8 := tenPageImage.set 69 0xAA

theorem placed_arm64TenPageImage : (Arm64Platform.mk 0x40100000).Placed :=
  ⟨by decide, by decide, by decide⟩

/-- What a service leaves that stores a byte and exits. -/
def afterServiceExit (machine : Arm64MemoryMachine) : Arm64MemoryMachine :=
  (machine.next placed_arm64TenPageImage (.store 0x400000 7)).next placed_arm64TenPageImage
    (.syscall (Arm64Machine.svcFrame 2 0 0 0 0x401000))

/-- A native service and an emulated client boot, and the client is what follows the service. -/
theorem arm64TenPageImage_boots :
    ∃ machine, (arm64MemorySystem placed_arm64TenPageImage).Reachable TransitionSystem.anyStep
        (afterServiceExit machine) ∧ (afterServiceExit machine).halted = false ∧
      (activeProcess (afterServiceExit machine).runtime).map
        (fun process => process.metadata.executionBackend) = some .x64Emulator := by
  have hruns : ((Arm64Platform.mk 0x40100000).run arm64TenPageImage tenPageImage 0
      fun _ => 0).toOption.any (fun machine => decide (machine.halted = false ∧
        (activeProcess machine.runtime).map (fun process => process.metadata.executionBackend) =
          some .native ∧
        (afterServiceExit machine).halted = false ∧
        (activeProcess (afterServiceExit machine).runtime).map
          (fun process => process.metadata.executionBackend) = some .x64Emulator)) = true := by
    decide +kernel
  obtain ⟨machine, hmachine, hchecks⟩ := ok_of_any hruns
  obtain ⟨hrunning, hnative, hleft, hguest⟩ := of_decide_eq_true hchecks
  have hfit : Arm64ImagesFit arm64TenPageImage tenPageImage :=
    ⟨by decide +kernel, by decide +kernel, by decide +kernel⟩
  have hboots : (arm64MemorySystem placed_arm64TenPageImage).Reachable TransitionSystem.anyStep
      machine := .init ⟨arm64TenPageImage, tenPageImage, 0, fun _ => 0, hfit, hmachine⟩
  have hstores : (arm64MemorySystem placed_arm64TenPageImage).enabled machine
      (.store 0x400000 7) := ⟨hrunning, hnative⟩
  have hexits : (arm64MemorySystem placed_arm64TenPageImage).enabled
      (machine.next placed_arm64TenPageImage (.store 0x400000 7))
      (.syscall (Arm64Machine.svcFrame 2 0 0 0 0x401000)) := ⟨hrunning, hnative⟩
  exact ⟨machine, (hboots.step hstores trivial).step hexits trivial, hleft, hguest⟩

/-- That client is apart from the service, in the emulator. -/
theorem reachable_arm64Isolates_client :
    ∃ machine, (arm64MemorySystem placed_arm64TenPageImage).Reachable TransitionSystem.anyStep
        machine ∧
      ∃ active, machine.runtime.currentThread = some active ∧
        machine.Isolates placed_arm64TenPageImage active
          (machine.runtime.process (machine.runtime.thread active).process) ∧
        (machine.runtime.process
          (machine.runtime.thread active).process).metadata.executionBackend = .x64Emulator := by
  obtain ⟨machine, hreachable, hrunning, hguest⟩ := arm64TenPageImage_boots
  obtain ⟨active, hcurrent, hisolates⟩ :=
    reachable_arm64Isolates placed_arm64TenPageImage hreachable hrunning
  rw [activeProcess, hcurrent] at hguest
  exact ⟨afterServiceExit machine, hreachable, active, hcurrent, hisolates,
    Option.some.inj hguest⟩

end Isolation

end Ringos.Arch

import Ringos.Arch.Arm64TranslationTables
import Ringos.Arch.X64Boot

/-!
# Booting on arm64

The signature of the attached application chooses how its process runs: natively
or in the emulator. A terminal service, when there is one, is always native and
comes first. Both kinds of process are set up the same way; they differ in the
loader, in how much of the user region is mapped, and in the first context. A load
stays in the user region as long as the sections of the image fit, so every process
boots with its tables in memory.
-/

namespace Ringos.Arch

open Ringos.Core Ringos.Kernel Ringos.Image

section Storage

/-- The platform object, by its address: the process storages come first. -/
structure Arm64Platform where
  address : Nat

/-- `m_process_storage[processIndex]`. -/
def Arm64Platform.processStorage (platform : Arm64Platform)
    (processIndex : Fin userRuntimeMaxInitialProcesses) : Nat :=
  platform.address + processIndex.val * sizeofArm64ProcessStorage

/-- A word of a process storage by its index, behind the tables zero. -/
def Arm64ProcessTables.word (tables : Arm64ProcessTables) (index : Nat) : UInt64 :=
  let tableIndex := index / 512
  if tableIndex = 0 then tables.rootTable (wordEntry index)
  else if tableIndex = 1 then tables.lowerBlockTable (wordEntry index)
  else if tableIndex = 2 then tables.kernelBlockTable (wordEntry index)
  else 0

/-- The memory behind `initialize_process_storage` and `initialize_translation_tables`. -/
def storeArm64ProcessStorage (storage : Nat) (memory : ByteMemory) : ByteMemory := fun address =>
  if InRange storage.toUInt64 sizeofArm64ProcessStorage address then
    wordsByte (arm64ProcessTables storage).word (address - storage.toUInt64).toNat
  else memory address

end Storage

section Images

/-- The `load_config` of `initialize_arm64_pe_image`. -/
def arm64PeLoadConfig : PeImageLoadConfig where
  expectedMachine := peMachineArm64
  expectedImageBase := x64UserImageVirtualAddress
  expectedSectionAlignment := arm64PageSize.toUInt32
  expectedFileAlignment := arm64PageSize.toUInt32
  loadedImageSize := arm64UserRegionSize
  allowImports := false
  allowRelocations := false

/-- `initialize_arm64_pe_image`: the entry point and the memory; a panic is an error with its
text. -/
def initializeArm64PeImage (storage : Nat) (imageBytes : List UInt8) (memory : ByteMemory) :
    Except String (UInt64 × ByteMemory) :=
  let userRegion := arm64UserRegion storage
  let loaded := loadPe32PlusImage (some imageBytes) true true
    (fun offset => memory (userRegion + offset.toUInt64)) default arm64PeLoadConfig
  if loaded.status ≠ .ok then .error (describePeImageLoadStatus loaded.status)
  else .ok (loaded.outResult.entryPoint,
    fun address => loaded.loadedImage (address - userRegion).toNat)

/-- `initialize_x64_emulator_image`: the region is cleared, and behind the load the word at the top
of the stack. -/
def initializeX64EmulatorImage (storage : Nat) (imageBytes : List UInt8) (memory : ByteMemory) :
    Except String (UInt64 × ByteMemory) :=
  let userRegion := arm64UserRegion storage
  let cleared : ByteMemory := fun address =>
    if InRange userRegion arm64UserRegionSize.toNat address then 0 else memory address
  let loaded := loadX64Pe64Image imageBytes x64UserImageVirtualAddress
    (fun offset => cleared (userRegion + offset.toUInt64)) x64UserRegionSize none
  if loaded.status ≠ .ok then .error (describeX64Pe64ImageLoadStatus loaded.status)
  else .ok (loaded.info.entryPoint,
    storeBytes (fun address => loaded.imports.loadedImage (address - userRegion).toNat)
      (userRegion + x64UserRegionSize - 8) (toLittleEndian 8 0))

end Images

section Bootstrap

/-- The address space of a process, of which a first part of the user region is mapped; `none` is
the panic. -/
def arm64AddressSpace (storage : Nat) (size : UInt64) : Option AddressSpace :=
  let mapped := addAddressSpaceMapping ⟨storage.toUInt64, []⟩ x64UserImageVirtualAddress
    (arm64UserRegion storage) size
  if mapped.1 then some mapped.2 else none

/-- What `populate_native_bootstrap_for_process` and `populate_x64_emulator_bootstrap` share. -/
def populateArm64Process
    (initializeImage : Nat → List UInt8 → ByteMemory → Except String (UInt64 × ByteMemory))
    (metadata : ProcessMetadata) (size : UInt64) (mappingFailure : String)
    (stackPointer flags : UInt64) (storage : Nat) (imageBytes : List UInt8) (memory : ByteMemory) :
    Except String (InitialProcessConfiguration × ByteMemory) :=
  match initializeImage storage imageBytes (storeArm64ProcessStorage storage memory) with
  | .error text => .error text
  | .ok (entryPoint, loaded) =>
    match arm64AddressSpace storage size with
    | none => .error mappingFailure
    | some addressSpaceInfo =>
      .ok (⟨metadata, addressSpaceInfo,
        { instructionPointer := entryPoint
          stackPointer := stackPointer
          flags := flags
          argument0 := 0 }⟩, loaded)

/-- `populate_native_bootstrap_for_process`. -/
def populateNativeBootstrapForProcess : Nat → List UInt8 → ByteMemory →
    Except String (InitialProcessConfiguration × ByteMemory) :=
  populateArm64Process initializeArm64PeImage ⟨.arm64, .ringos, .native⟩ arm64UserRegionSize
    "failed to initialize arm64 bootstrap mappings"
    (x64UserImageVirtualAddress + arm64UserRegionSize) 0

/-- `populate_x64_emulator_bootstrap`. -/
def populateX64EmulatorBootstrap : Nat → List UInt8 → ByteMemory →
    Except String (InitialProcessConfiguration × ByteMemory) :=
  populateArm64Process initializeX64EmulatorImage ⟨.x64, .ringos, .x64Emulator⟩ x64UserRegionSize
    "failed to initialize x64 emulator bootstrap mappings"
    (x64UserStackVirtualAddress + arm64PageSize.toUInt64 - 8 - windowsX64StackHomeSpaceSize) 0x202

/-- The two branches of `arm64_initial_user_runtime_platform::initialize` that set up processes,
over how they set up the client. An image that is not embedded is empty. -/
def Arm64Platform.initializeProcesses (platform : Arm64Platform)
    (populateClient : Nat → List UInt8 → ByteMemory →
      Except String (InitialProcessConfiguration × ByteMemory))
    (terminalServiceImage testAppImage : List UInt8) (memory : ByteMemory) :
    Except String (InitialUserRuntimeBootstrap × ByteMemory) :=
  if terminalServiceImage.isEmpty then do
    let client ← populateClient (platform.processStorage ⟨0, Nat.zero_lt_two⟩) testAppImage memory
    pure (⟨[client.1], 0⟩, client.2)
  else do
    let service ← populateNativeBootstrapForProcess
      (platform.processStorage ⟨0, Nat.zero_lt_two⟩) terminalServiceImage memory
    let client ← populateClient (platform.processStorage ⟨1, Nat.one_lt_two⟩) testAppImage service.2
    pure (⟨[service.1, client.1], 0⟩, client.2)

/-- `arm64_initial_user_runtime_platform::initialize`. -/
def Arm64Platform.initializeBootstrap (platform : Arm64Platform)
    (terminalServiceImage testAppImage : List UInt8) (memory : ByteMemory) :
    Except String (InitialUserRuntimeBootstrap × ByteMemory) :=
  if tryGetPeMachine testAppImage = some peMachineArm64 then
    platform.initializeProcesses populateNativeBootstrapForProcess terminalServiceImage testAppImage
      memory
  else if tryGetPeMachine testAppImage = some peMachineX64 then
    platform.initializeProcesses populateX64EmulatorBootstrap terminalServiceImage testAppImage
      memory
  else .error "arm64 attached user image has an unsupported signature"

end Bootstrap

section Spaces

variable {configuration : InitialProcessConfiguration} {bootstrap : InitialUserRuntimeBootstrap}
  {after : ByteMemory}

/-- The one mapping of a process. -/
theorem arm64AddressSpace_mappings {storage : Nat} {size : UInt64}
    {addressSpaceInfo : AddressSpace} (h : arm64AddressSpace storage size = some addressSpaceInfo) :
    addressSpaceInfo.mappings = [⟨x64UserImageVirtualAddress, arm64UserRegion storage, size⟩] := by
  simp only [arm64AddressSpace, addAddressSpaceMapping] at h
  split_ifs at h <;> simp_all
  rw [← h]

theorem arm64AddressSpace_built {storage : Nat} {size : UInt64} {addressSpaceInfo : AddressSpace}
    (h : arm64AddressSpace storage size = some addressSpaceInfo) :
    BuiltAddressSpace addressSpaceInfo := by
  simp only [arm64AddressSpace] at h
  split at h
  · obtain rfl := Option.some.inj h
    exact .add _ _ _ (.empty _)
  · cases h

/-- A process that is set up has the first part of its user region mapped. -/
theorem populateArm64Process_space
    {initializeImage : Nat → List UInt8 → ByteMemory → Except String (UInt64 × ByteMemory)}
    {metadata : ProcessMetadata} {size : UInt64} {mappingFailure : String}
    {stackPointer flags : UInt64} {storage : Nat} {imageBytes : List UInt8} {memory : ByteMemory}
    (h : populateArm64Process initializeImage metadata size mappingFailure stackPointer flags storage
      imageBytes memory = .ok (configuration, after)) :
    arm64AddressSpace storage size = some configuration.addressSpace := by
  unfold populateArm64Process at h
  split at h
  · cases h
  split at h
  · cases h
  · rename_i addressSpaceInfo hspace
    obtain ⟨rfl, rfl⟩ := Prod.mk.inj (Except.ok.inj h)
    exact hspace

/-- The address space maps a first part of a user region and nothing else. -/
def MapsUserRegion (addressSpaceInfo : AddressSpace) : Prop :=
  ∃ storage size, arm64AddressSpace storage size = some addressSpaceInfo

theorem Arm64Platform.initializeProcesses_maps {platform : Arm64Platform}
    {populateClient : Nat → List UInt8 → ByteMemory →
      Except String (InitialProcessConfiguration × ByteMemory)}
    (hpopulate : ∀ storage imageBytes memory configuration after,
      populateClient storage imageBytes memory = .ok (configuration, after) →
        MapsUserRegion configuration.addressSpace)
    {terminalServiceImage testAppImage : List UInt8} {memory : ByteMemory}
    (h : platform.initializeProcesses populateClient terminalServiceImage testAppImage memory =
      .ok (bootstrap, after)) : bootstrap.Maps MapsUserRegion := by
  unfold Arm64Platform.initializeProcesses at h
  split at h
  · obtain ⟨client, hclient, hdone⟩ := bind_ok h
    obtain ⟨rfl, rfl⟩ := Prod.mk.inj (Except.ok.inj hdone)
    exact maps_one (hpopulate _ _ _ _ _ hclient)
  · obtain ⟨service, hservice, hrest⟩ := bind_ok h
    obtain ⟨client, hclient, hdone⟩ := bind_ok hrest
    obtain ⟨rfl, rfl⟩ := Prod.mk.inj (Except.ok.inj hdone)
    exact maps_two ⟨_, _, populateArm64Process_space hservice⟩ (hpopulate _ _ _ _ _ hclient)

/-- Every process that is set up has the first part of its user region mapped, whatever the images
and however it runs. -/
theorem Arm64Platform.initializeBootstrap_maps {platform : Arm64Platform}
    {terminalServiceImage testAppImage : List UInt8} {memory : ByteMemory}
    (h : platform.initializeBootstrap terminalServiceImage testAppImage memory =
      .ok (bootstrap, after)) : bootstrap.Maps MapsUserRegion := by
  unfold Arm64Platform.initializeBootstrap at h
  split at h
  · exact initializeProcesses_maps
      (fun _ _ _ _ _ hclient => ⟨_, _, populateArm64Process_space hclient⟩) h
  split at h
  · exact initializeProcesses_maps
      (fun _ _ _ _ _ hclient => ⟨_, _, populateArm64Process_space hclient⟩) h
  · cases h

end Spaces

section Tables

variable {tables : Arm64ProcessTables} {memory : ByteMemory} {storage : Nat}

/-- The table pages of a storage hold the tables, byte by byte. -/
def Arm64ProcessTables.StoredAt (tables : Arm64ProcessTables) (memory : ByteMemory)
    (storage : Nat) : Prop :=
  ∀ offset < 3 * arm64PageSize, memory (storage + offset).toUInt64 = wordsByte tables.word offset

/-- An entry of a table is eight bytes of the storage. -/
theorem Arm64ProcessTables.StoredAt.entry (h : tables.StoredAt memory storage) {tableIndex : Nat}
    (htable : tableIndex < 3) (index : Fin 512) :
    tableAt memory (storage + tableIndex * 4096).toUInt64 index =
      tables.word (512 * tableIndex + index.val) := by
  have hpage : arm64PageSize = 4096 := rfl
  exact tableAt_of_bytes fun i hi => h _ (by omega)

/-- The words of a table follow those of the tables before it. -/
theorem Arm64ProcessTables.word_entry (tables : Arm64ProcessTables) (tableIndex : Nat)
    (index : Fin 512) :
    tables.word (512 * tableIndex + index.val) =
      if tableIndex = 0 then tables.rootTable index
      else if tableIndex = 1 then tables.lowerBlockTable index
      else if tableIndex = 2 then tables.kernelBlockTable index
      else 0 := by
  have htable : (512 * tableIndex + index.val) / 512 = tableIndex := by omega
  simp only [Arm64ProcessTables.word, htable, wordEntry_entry]

theorem Arm64ProcessTables.StoredAt.heldAt (h : tables.StoredAt memory storage) :
    tables.HeldAt memory storage where
  root := funext fun index =>
    (h.entry (show 0 < 3 by decide) index).trans (tables.word_entry 0 index)
  lower := funext fun index =>
    (h.entry (show 1 < 3 by decide) index).trans (tables.word_entry 1 index)
  kernel := funext fun index =>
    (h.entry (show 2 < 3 by decide) index).trans (tables.word_entry 2 index)

/-- Memory that agrees on the table pages holds the same tables. -/
theorem Arm64ProcessTables.StoredAt.congr {memory' : ByteMemory}
    (h : tables.StoredAt memory storage)
    (hsame : ∀ offset < 3 * arm64PageSize,
      memory' (storage + offset).toUInt64 = memory (storage + offset).toUInt64) :
    tables.StoredAt memory' storage :=
  fun offset hoffset => (hsame offset hoffset).trans (h offset hoffset)

theorem storeArm64ProcessStorage_storedAt (hplaced : PlacedArm64Storage storage)
    (memory : ByteMemory) :
    (arm64ProcessTables storage).StoredAt (storeArm64ProcessStorage storage memory) storage := by
  obtain ⟨-, -, hbound⟩ := hplaced
  have hbase : kernelIdentityBase = 0x40000000 := rfl
  have hidentity : kernelIdentitySize = 0x2000000 := rfl
  have hsize : sizeofArm64ProcessStorage = 0x4000 + 2 * 2 ^ 21 := rfl
  have hpage : arm64PageSize = 4096 := rfl
  intro offset hoffset
  have hin : InRange storage.toUInt64 sizeofArm64ProcessStorage (storage + offset).toUInt64 :=
    (inRange_toUInt64 (by omega) (by omega)).mpr (by omega)
  rw [storeArm64ProcessStorage, if_pos hin, toNat_distance (by omega)]

end Tables

section Loads

variable {storage : Nat} {imageBytes : List UInt8} {memory loaded : ByteMemory}
  {entryPoint address : UInt64}

/-- The load of an image changes nothing outside the user region. -/
def LoadsInside
    (initializeImage : Nat → List UInt8 → ByteMemory → Except String (UInt64 × ByteMemory))
    (imageBytes : List UInt8) : Prop :=
  ∀ storage memory entryPoint loaded,
    initializeImage storage imageBytes memory = .ok (entryPoint, loaded) →
      ∀ address, ¬ InRange (arm64UserRegion storage) arm64UserRegionSize.toNat address →
        loaded address = memory address

/-- The byte of a buffer behind an address is the one at that address. -/
theorem add_distance (start address : UInt64) :
    start + (address - start).toNat.toUInt64 = address := by
  rw [Nat.toUInt64_eq, UInt64.ofNat_toNat, UInt64.add_comm, UInt64.sub_add_cancel]

theorem initializeArm64PeImage_inside (hfit : SectionsFit imageBytes arm64PeLoadConfig) :
    LoadsInside initializeArm64PeImage imageBytes := by
  intro storage memory entryPoint loaded h address hout
  have hbehind := loadPe32PlusImage_behind hfit
    (fun offset => memory (arm64UserRegion storage + offset.toUInt64)) default (Nat.not_lt.mp hout)
  rw [add_distance] at hbehind
  unfold initializeArm64PeImage at h
  dsimp only at h
  generalize loadPe32PlusImage (some imageBytes) true true _ default arm64PeLoadConfig = result
    at h hbehind
  split at h
  · cases h
  · obtain ⟨-, rfl⟩ := Prod.mk.inj (Except.ok.inj h)
    exact hbehind

theorem initializeX64EmulatorImage_inside
    (hfit : SectionsFit imageBytes
      (x64Pe64LoadConfig x64UserImageVirtualAddress x64UserRegionSize)) :
    LoadsInside initializeX64EmulatorImage imageBytes := by
  have hregion : arm64UserRegionSize.toNat = 2 ^ 21 := rfl
  have hsize : x64UserRegionSize.toNat = 10 * 4096 := rfl
  intro storage memory entryPoint loaded h address hout
  have hword : ¬ InRange (arm64UserRegion storage + x64UserRegionSize - 8)
      (toLittleEndian 8 0).length address := fun hin => by
    have hstart : arm64UserRegion storage + x64UserRegionSize - 8 =
        arm64UserRegion storage + (x64UserRegionSize - 8) := by
      rw [UInt64.sub_eq_add_neg, UInt64.add_assoc, ← UInt64.sub_eq_add_neg]
    have hoffset : (x64UserRegionSize - 8).toNat = 10 * 4096 - 8 := rfl
    rw [hstart] at hin
    exact hout (hin.within (by rw [hoffset, length_toLittleEndian, hregion]; omega)
      (by rw [hregion]; decide))
  have hfar : x64UserRegionSize.toNat ≤ (address - arm64UserRegion storage).toNat := by
    rw [InRange, hregion] at hout
    omega
  have hbehind := loadX64Pe64Image_behind hfit (fun offset =>
    if InRange (arm64UserRegion storage) arm64UserRegionSize.toNat
        (arm64UserRegion storage + offset.toUInt64) then 0
    else memory (arm64UserRegion storage + offset.toUInt64)) hfar
  rw [add_distance, if_neg hout] at hbehind
  unfold initializeX64EmulatorImage at h
  dsimp only at h
  generalize loadX64Pe64Image imageBytes x64UserImageVirtualAddress _ x64UserRegionSize none = result
    at h hbehind
  split at h
  · cases h
  · obtain ⟨-, rfl⟩ := Prod.mk.inj (Except.ok.inj h)
    rw [storeBytes_of_not_inRange (by decide) hword]
    exact hbehind

end Loads

section Processes

variable {storage : Nat} {configuration : InitialProcessConfiguration} {memory after : ByteMemory}

/-- The size of the mapping of a process, by the backend that runs it. -/
def mappedRegionSize : ProcessExecutionBackend → UInt64
  | .x64Emulator => x64UserRegionSize
  | .native | .unknown => arm64UserRegionSize

/-- A process is set up in a storage: its tables lie in memory. -/
structure BootedIn (memory : ByteMemory) (storage : Nat)
    (configuration : InitialProcessConfiguration) : Prop where
  space : arm64AddressSpace storage (mappedRegionSize configuration.metadata.executionBackend) =
    some configuration.addressSpace
  stored : (arm64ProcessTables storage).StoredAt memory storage

theorem BootedIn.congr {memory' : ByteMemory} (h : BootedIn memory storage configuration)
    (hsame : ∀ offset < 3 * arm64PageSize,
      memory' (storage + offset).toUInt64 = memory (storage + offset).toUInt64) :
    BootedIn memory' storage configuration :=
  ⟨h.space, h.stored.congr hsame⟩

/-- A process is set up in its storage, and nothing changes outside of it. -/
structure SetsUp (memory : ByteMemory) (storage : Nat) (configuration : InitialProcessConfiguration)
    (after : ByteMemory) : Prop where
  booted : BootedIn after storage configuration
  outside : ∀ address, ¬ InRange storage.toUInt64 sizeofArm64ProcessStorage address →
    after address = memory address

/-- The user region lies in its storage. -/
theorem UserRegionPlaced.inRange (h : UserRegionPlaced storage) (hplaced : PlacedArm64Storage storage)
    {address : UInt64}
    (hin : InRange (arm64UserRegion storage) arm64UserRegionSize.toNat address) :
    storage + userRegionStorageOffset ≤ address.toNat ∧
      address.toNat < storage + sizeofArm64ProcessStorage := by
  obtain ⟨-, hbehind, hinside⟩ := h
  have hhigh := hplaced.high
  have hbase : kernelIdentityBase = 0x40000000 := rfl
  have hidentity : kernelIdentitySize = 0x2000000 := rfl
  obtain ⟨offset, hoffset, haddress⟩ := hin.toNat_eq (by omega)
  omega

/-- A load that stays in the user region leaves the tables alone. -/
theorem populateArm64Process_setsUp (hplaced : PlacedArm64Storage storage)
    {initializeImage : Nat → List UInt8 → ByteMemory → Except String (UInt64 × ByteMemory)}
    {metadata : ProcessMetadata} {mappingFailure : String} {stackPointer flags : UInt64}
    {imageBytes : List UInt8} (hinside : LoadsInside initializeImage imageBytes)
    (h : populateArm64Process initializeImage metadata (mappedRegionSize metadata.executionBackend)
      mappingFailure stackPointer flags storage imageBytes memory = .ok (configuration, after)) :
    SetsUp memory storage configuration after := by
  have hspace := populateArm64Process_space h
  have hregion := @UserRegionPlaced.inRange _ hplaced.userRegion hplaced
  have hbound := hplaced.high
  have hbase : kernelIdentityBase = 0x40000000 := rfl
  have hidentity : kernelIdentitySize = 0x2000000 := rfl
  have hsize : sizeofArm64ProcessStorage = 0x4000 + 2 * 2 ^ 21 := rfl
  have hoffset : userRegionStorageOffset = 0x4000 := rfl
  have hpage : arm64PageSize = 0x1000 := rfl
  unfold populateArm64Process at h
  split at h
  · cases h
  rename_i entryPoint loaded hload
  split at h
  · cases h
  obtain ⟨rfl, rfl⟩ := Prod.mk.inj (Except.ok.inj h)
  have hloaded := hinside storage _ _ _ hload
  refine ⟨⟨hspace, ?_⟩, fun address hout => ?_⟩
  · refine (storeArm64ProcessStorage_storedAt hplaced memory).congr fun offset htable =>
      hloaded _ fun hin => ?_
    have hnumber : (storage + offset).toUInt64.toNat = storage + offset :=
      hplaced.toNat (by omega)
    have hlow := (hregion hin).1
    omega
  · have haddress : storage.toUInt64.toNat = storage := hplaced.toNat (show 0 < _ by omega)
    refine (hloaded address fun hin => hout ?_).trans (if_neg hout)
    obtain ⟨hlow, hhigh⟩ := hregion hin
    have hnumber : address = address.toNat.toUInt64 := (UInt64.ofNat_toNat ..).symm
    rw [hnumber, inRange_toUInt64 (by omega) address.toNat_lt]
    omega

theorem populateNativeBootstrapForProcess_setsUp (hplaced : PlacedArm64Storage storage)
    {imageBytes : List UInt8} (hfit : SectionsFit imageBytes arm64PeLoadConfig)
    (h : populateNativeBootstrapForProcess storage imageBytes memory =
      .ok (configuration, after)) : SetsUp memory storage configuration after := by
  unfold populateNativeBootstrapForProcess at h
  exact @populateArm64Process_setsUp _ _ _ _ hplaced _ ⟨.arm64, .ringos, .native⟩ _ _ _ _
    (initializeArm64PeImage_inside hfit) h

theorem populateX64EmulatorBootstrap_setsUp (hplaced : PlacedArm64Storage storage)
    {imageBytes : List UInt8} (hfit : SectionsFit imageBytes
      (x64Pe64LoadConfig x64UserImageVirtualAddress x64UserRegionSize))
    (h : populateX64EmulatorBootstrap storage imageBytes memory = .ok (configuration, after)) :
    SetsUp memory storage configuration after := by
  unfold populateX64EmulatorBootstrap at h
  exact @populateArm64Process_setsUp _ _ _ _ hplaced _ ⟨.x64, .ringos, .x64Emulator⟩ _ _ _ _
    (initializeX64EmulatorImage_inside hfit) h

end Processes

section Platform

variable {platform : Arm64Platform} {terminalServiceImage testAppImage : List UInt8}
  {bootstrap : InitialUserRuntimeBootstrap} {memory after : ByteMemory}

/-- The platform object lies in the memory of the kernel. -/
structure Arm64Platform.Placed (platform : Arm64Platform) : Prop where
  aligned : platform.address % arm64PageSize = 0
  low : kernelIdentityBase ≤ platform.address
  high : platform.address + userRuntimeMaxInitialProcesses * sizeofArm64ProcessStorage ≤
    kernelIdentityBase + kernelIdentitySize

theorem Arm64Platform.Placed.storage (h : platform.Placed)
    (processIndex : Fin userRuntimeMaxInitialProcesses) :
    PlacedArm64Storage (platform.processStorage processIndex) := by
  obtain ⟨haligned, hlow, hhigh⟩ := h
  have hpage : arm64PageSize = 4096 := rfl
  have hsize : sizeofArm64ProcessStorage = 0x4000 + 2 * 2 ^ 21 := rfl
  have hmax : userRuntimeMaxInitialProcesses = 2 := rfl
  have hindex : processIndex.val < 2 := processIndex.isLt
  rw [hpage] at haligned
  rw [hmax, hsize] at hhigh
  refine ⟨?_, ?_, ?_⟩ <;> rw [Arm64Platform.processStorage, hsize]
  · rw [hpage]
    omega
  · omega
  · omega

/-- The sections of the images fit for the loaders that may load them. -/
structure Arm64ImagesFit (terminalServiceImage testAppImage : List UInt8) : Prop where
  service : SectionsFit terminalServiceImage arm64PeLoadConfig
  native : SectionsFit testAppImage arm64PeLoadConfig
  emulated : SectionsFit testAppImage
    (x64Pe64LoadConfig x64UserImageVirtualAddress x64UserRegionSize)

/-- Every process that is set up has its tables in memory. -/
structure Arm64Platform.Booted (platform : Arm64Platform)
    (configurations : List InitialProcessConfiguration) (memory : ByteMemory) : Prop where
  count : configurations.length ≤ userRuntimeMaxInitialProcesses
  processes : ∀ (processIndex : Fin userRuntimeMaxInitialProcesses) (configuration),
    configurations[processIndex.val]? = some configuration →
      BootedIn memory (platform.processStorage processIndex) configuration

/-- The second process is set up outside the storage of the first one. -/
theorem Arm64Platform.initializeProcesses_booted (hplaced : platform.Placed)
    (hservice : SectionsFit terminalServiceImage arm64PeLoadConfig)
    {populateClient : Nat → List UInt8 → ByteMemory →
      Except String (InitialProcessConfiguration × ByteMemory)}
    (hclient : ∀ storage memory configuration after, PlacedArm64Storage storage →
      populateClient storage testAppImage memory = .ok (configuration, after) →
        SetsUp memory storage configuration after)
    (h : platform.initializeProcesses populateClient terminalServiceImage testAppImage memory =
      .ok (bootstrap, after)) :
    platform.Booted bootstrap.initialProcesses after := by
  have hzero : (⟨0, Nat.zero_lt_two⟩ : Fin userRuntimeMaxInitialProcesses) = 0 := rfl
  have hone : (⟨1, Nat.one_lt_two⟩ : Fin userRuntimeMaxInitialProcesses) = 1 := rfl
  unfold Arm64Platform.initializeProcesses at h
  rw [hzero, hone] at h
  split at h
  · obtain ⟨client, hrun, hdone⟩ := bind_ok h
    obtain ⟨rfl, rfl⟩ := Prod.mk.inj (Except.ok.inj hdone)
    have hup := hclient _ _ _ _ (hplaced.storage 0) hrun
    refine ⟨Nat.le_succ 1, fun processIndex configuration hslot => ?_⟩
    match processIndex, hslot with
    | 0, hslot =>
      obtain rfl : client.1 = configuration := Option.some.inj hslot
      exact hup.booted
    | 1, hslot => cases hslot
  · obtain ⟨service, hfirst, hrest⟩ := bind_ok h
    obtain ⟨client, hsecond, hdone⟩ := bind_ok hrest
    obtain ⟨rfl, rfl⟩ := Prod.mk.inj (Except.ok.inj hdone)
    have hserviceUp : SetsUp memory (platform.processStorage 0) service.1 service.2 :=
      populateNativeBootstrapForProcess_setsUp (hplaced.storage 0) hservice hfirst
    have hclientUp := hclient _ _ _ _ (hplaced.storage 1) hsecond
    refine ⟨Nat.le_refl 2, fun processIndex configuration hslot => ?_⟩
    match processIndex, hslot with
    | 0, hslot =>
      obtain rfl : service.1 = configuration := Option.some.inj hslot
      refine hserviceUp.booted.congr fun offset hoffset => hclientUp.outside _ fun hin => ?_
      have hbound := (hplaced.storage 1).high
      have hfirst : platform.processStorage 0 = platform.address := by
        rw [Arm64Platform.processStorage, Fin.val_zero, Nat.zero_mul, Nat.add_zero]
      have hsecond : platform.processStorage 1 =
          platform.address + sizeofArm64ProcessStorage := by
        rw [Arm64Platform.processStorage, Fin.val_one, Nat.one_mul]
      have hbase : kernelIdentityBase = 0x40000000 := rfl
      have hidentity : kernelIdentitySize = 0x2000000 := rfl
      have hsize : sizeofArm64ProcessStorage = 0x4000 + 2 * 2 ^ 21 := rfl
      have hpage : arm64PageSize = 4096 := rfl
      rw [inRange_toUInt64 (by omega) (by omega)] at hin
      omega
    | 1, hslot =>
      obtain rfl : client.1 = configuration := Option.some.inj hslot
      exact hclientUp.booted

/-- Every process boots with its tables in memory. -/
theorem Arm64Platform.initializeBootstrap_booted (hplaced : platform.Placed)
    (hfit : Arm64ImagesFit terminalServiceImage testAppImage)
    (h : platform.initializeBootstrap terminalServiceImage testAppImage memory =
      .ok (bootstrap, after)) :
    platform.Booted bootstrap.initialProcesses after := by
  unfold Arm64Platform.initializeBootstrap at h
  split at h
  · exact initializeProcesses_booted hplaced hfit.service (fun _ _ _ _ hstorage hclient =>
      populateNativeBootstrapForProcess_setsUp hstorage hfit.native hclient) h
  split at h
  · exact initializeProcesses_booted hplaced hfit.service (fun _ _ _ _ hstorage hclient =>
      populateX64EmulatorBootstrap_setsUp hstorage hfit.emulated hclient) h
  · cases h

end Platform

end Ringos.Arch

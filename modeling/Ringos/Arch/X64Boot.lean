import Ringos.Arch.InitialRuntime
import Ringos.Arch.X64PageTables
import Ringos.Image.LoadedBytes

/-!
# Booting on x64

The platform lays out the storage of one process after the other: the tables
first, then the image and the stack. The loader clears two pages more than the
image has, so the load of the first process runs over the root table of the
second one, which is written only afterwards; so every process boots with its
tables in memory, as long as the sections of the images fit.
-/

namespace Ringos.Arch

open Ringos.Core Ringos.Kernel Ringos.Image UserRuntime

section Storage

/-- A word of a process storage by its index, behind the tables zero. -/
def X64ProcessTables.word (tables : X64ProcessTables) (index : Nat) : UInt64 :=
  let tableIndex := index / 512
  if tableIndex = 0 then tables.pml4 (wordEntry index)
  else if tableIndex = 1 then tables.pdpt (wordEntry index)
  else if tableIndex = 2 then tables.pageDirectory (wordEntry index)
  else if hlow : tableIndex - 3 < x64LowPageTableCount then
    tables.lowPageTables ⟨tableIndex - 3, hlow⟩ (wordEntry index)
  else if tableIndex = 3 + x64LowPageTableCount then tables.userPageTable (wordEntry index)
  else 0

/-- A byte of a process storage. -/
def X64ProcessTables.byte (tables : X64ProcessTables) (offset : Nat) : UInt8 :=
  wordsByte tables.word offset

/-- The memory behind `initialize_process_storage`. -/
def storeProcessStorage (storage : Nat) (memory : ByteMemory) : ByteMemory := fun address =>
  if InRange storage.toUInt64 sizeofX64ProcessStorage address then
    (initializeProcessStorage storage).byte (address - storage.toUInt64).toNat
  else memory address

/-- The memory behind `initialize_user_image`: what the loader leaves, and the word at the top of
the stack. -/
def storeUserImage (storage : Nat) (imageBytes : List UInt8) (memory : ByteMemory) : ByteMemory :=
  let loadedImage := (userImagePages storage).start
  let result := loadX64Pe64Image imageBytes x64UserImageVirtualAddress
    (fun offset => memory (loadedImage + offset).toUInt64) x64UserRegionSize none
  storeBytes (fun address => result.imports.loadedImage (address - loadedImage.toUInt64).toNat)
    ((userStackPage storage).start + pageSize - 8).toUInt64 (toLittleEndian 8 0)

/-- `WINDOWS_X64_STACK_HOME_SPACE_SIZE`. -/
def windowsX64StackHomeSpaceSize : UInt64 := 32

/-- `populate_bootstrap_for_process`; a panic is an error with its text. -/
def populateBootstrapForProcess (storage : Nat) (imageBytes : List UInt8) (memory : ByteMemory) :
    Except String (InitialProcessConfiguration × ByteMemory) :=
  let initialized := storeProcessStorage storage memory
  match (initializeUserImage storage imageBytes fun address =>
      initialized address.toUInt64).entryPoint with
  | .error text => .error text
  | .ok entryPoint =>
    match bootstrapAddressSpace storage with
    | none => .error "failed to initialize x64 bootstrap mappings"
    | some addressSpaceInfo =>
      .ok (⟨⟨.x64, .ringos, .native⟩, addressSpaceInfo,
        { instructionPointer := entryPoint
          stackPointer := x64UserStackVirtualAddress + pageSize.toUInt64 - 8 -
            windowsX64StackHomeSpaceSize
          flags := 0x2
          argument0 := 0 }⟩, storeUserImage storage imageBytes initialized)

/-- `x64_initial_user_runtime_platform::initialize`. An image that is not embedded is empty. -/
def X64Platform.initializeBootstrap (platform : X64Platform)
    (terminalServiceImage testAppImage : List UInt8) (memory : ByteMemory) :
    Except String (InitialUserRuntimeBootstrap × ByteMemory) :=
  if terminalServiceImage.isEmpty then do
    let client ←
      populateBootstrapForProcess (platform.processStorage ⟨0, Nat.zero_lt_two⟩) testAppImage memory
    pure (⟨[client.1], 0⟩, client.2)
  else do
    let service ← populateBootstrapForProcess (platform.processStorage ⟨0, Nat.zero_lt_two⟩)
      terminalServiceImage memory
    let client ← populateBootstrapForProcess (platform.processStorage ⟨1, Nat.one_lt_two⟩)
      testAppImage service.2
    pure (⟨[service.1, client.1], 0⟩, client.2)

end Storage

section Tables

variable {tables : X64ProcessTables} {memory : ByteMemory} {storage : Nat}

/-- The table pages of a storage hold the tables, byte by byte. -/
def X64ProcessTables.StoredAt (tables : X64ProcessTables) (memory : ByteMemory)
    (storage : Nat) : Prop :=
  ∀ offset < userImagePagesOffset, memory (storage + offset).toUInt64 = tables.byte offset

/-- An entry of a table is eight bytes of the storage. -/
theorem X64ProcessTables.StoredAt.entry (h : tables.StoredAt memory storage) {tableIndex : Nat}
    (htable : tableIndex < 6) (index : Fin 512) :
    tableAt memory (storage + tableIndex * 4096).toUInt64 index =
      tables.word (512 * tableIndex + index.val) := by
  have hpages : userImagePagesOffset = 6 * 4096 := rfl
  exact tableAt_of_bytes fun i hi => h _ (by omega)

/-- The words of a table follow those of the tables before it. -/
theorem X64ProcessTables.word_entry (tables : X64ProcessTables) (tableIndex : Nat)
    (index : Fin 512) :
    tables.word (512 * tableIndex + index.val) =
      if tableIndex = 0 then tables.pml4 index
      else if tableIndex = 1 then tables.pdpt index
      else if tableIndex = 2 then tables.pageDirectory index
      else if hlow : tableIndex - 3 < x64LowPageTableCount then
        tables.lowPageTables ⟨tableIndex - 3, hlow⟩ index
      else if tableIndex = 3 + x64LowPageTableCount then tables.userPageTable index
      else 0 := by
  have htable : (512 * tableIndex + index.val) / 512 = tableIndex := by omega
  simp only [X64ProcessTables.word, htable, wordEntry_entry]

theorem X64ProcessTables.StoredAt.heldAt (h : tables.StoredAt memory storage) :
    tables.HeldAt memory storage where
  root := funext fun index =>
    (h.entry (show 0 < 6 by decide) index).trans (tables.word_entry 0 index)
  pointers := funext fun index =>
    (h.entry (show 1 < 6 by decide) index).trans (tables.word_entry 1 index)
  directory := funext fun index =>
    (h.entry (show 2 < 6 by decide) index).trans (tables.word_entry 2 index)
  low := by
    have hcount : x64LowPageTableCount = 2 := rfl
    intro tableIndex
    have hlt := tableIndex.isLt
    have hsub : 3 + tableIndex.val - 3 = tableIndex.val := by omega
    funext index
    refine (h.entry (show 3 + tableIndex.val < 6 by omega) index).trans ?_
    rw [tables.word_entry, if_neg (by omega), if_neg (by omega), if_neg (by omega),
      dif_pos (by omega)]
    simp only [hsub]
  user := funext fun index =>
    (h.entry (show 5 < 6 by decide) index).trans (tables.word_entry 5 index)

/-- Memory that agrees on the table pages holds the same tables. -/
theorem X64ProcessTables.StoredAt.congr {memory' : ByteMemory} (h : tables.StoredAt memory storage)
    (hsame : ∀ offset < userImagePagesOffset,
      memory' (storage + offset).toUInt64 = memory (storage + offset).toUInt64) :
    tables.StoredAt memory' storage :=
  fun offset hoffset => (hsame offset hoffset).trans (h offset hoffset)

end Tables

section Bootstrap

variable {storage : Nat} {imageBytes : List UInt8} {memory : ByteMemory}

/-- A range of addresses that does not wrap. -/
theorem inRange_toUInt64 {start length value : Nat} (hfit : start + length ≤ 2 ^ 64)
    (hvalue : value < 2 ^ 64) :
    InRange start.toUInt64 length value.toUInt64 ↔ start ≤ value ∧ value < start + length := by
  by_cases hlength : length = 0
  · subst hlength
    exact ⟨fun h => absurd h (Nat.not_lt_zero _), fun h => by omega⟩
  have hstart : start.toUInt64.toNat = start :=
    UInt64.toNat_ofNat_of_lt' (by show start < 2 ^ 64; omega)
  have hnat : value.toUInt64.toNat = value := UInt64.toNat_ofNat_of_lt' hvalue
  rw [InRange, UInt64.toNat_sub, hstart, hnat]
  omega

/-- How far an address lies behind the start of a range. -/
theorem toNat_distance {start offset : Nat} (hoffset : offset < 2 ^ 64) :
    ((start + offset).toUInt64 - start.toUInt64).toNat = offset := by
  have hsum : (start + offset).toUInt64 - start.toUInt64 = offset.toUInt64 := by
    rw [Nat.toUInt64_eq, UInt64.ofNat_add, UInt64.add_comm, Nat.toUInt64_eq,
      UInt64.add_sub_cancel, Nat.toUInt64_eq]
  rw [hsum]
  exact UInt64.toNat_ofNat_of_lt' hoffset

theorem storeProcessStorage_storedAt (hplaced : PlacedStorage storage) (memory : ByteMemory) :
    (initializeProcessStorage storage).StoredAt (storeProcessStorage storage memory) storage := by
  obtain ⟨-, -, hbound⟩ := hplaced
  have hsize : sizeofX64ProcessStorage = 15 * 4096 := rfl
  have hpages : userImagePagesOffset = 6 * 4096 := rfl
  intro offset hoffset
  have hin : InRange storage.toUInt64 sizeofX64ProcessStorage (storage + offset).toUInt64 :=
    (inRange_toUInt64 (by omega) (by omega)).mpr (by omega)
  rw [storeProcessStorage, if_pos hin, toNat_distance (by omega)]

/-- The tables of the first process, on a platform at 1 MiB. -/
theorem processTables_exact_first :
    ∃ addressSpaceInfo, bootstrapAddressSpace 0x100000 = some addressSpaceInfo ∧
      x64Translate (storeProcessStorage 0x100000 fun _ => 0) addressSpaceInfo.archRootTable
          ⟨true, true⟩ 0x400000 = byteTranslation addressSpaceInfo 0x400000 := by
  have hplaced : PlacedStorage 0x100000 := ⟨by decide, by decide, by decide⟩
  obtain ⟨addressSpaceInfo, hspace⟩ : ∃ addressSpaceInfo,
      bootstrapAddressSpace 0x100000 = some addressSpaceInfo :=
    Option.isSome_iff_exists.mp (by decide)
  exact ⟨addressSpaceInfo, hspace, (processTables_exact
    (storeProcessStorage_storedAt hplaced fun _ => 0).heldAt hplaced hspace true 0x400000).1⟩

/-- A load whose sections fit changes nothing outside the region that the loader is given. -/
theorem storeUserImage_apart
    (hfit : SectionsFit imageBytes (x64Pe64LoadConfig x64UserImageVirtualAddress x64UserRegionSize))
    {address : UInt64} (hout : ¬ InRange (userImagePages storage).start.toUInt64
      x64UserRegionSize.toNat address) :
    storeUserImage storage imageBytes memory address = memory address := by
  have hregion : x64UserRegionSize.toNat = userImageSize + 2 * pageSize := rfl
  have hpage : pageSize = 4096 := rfl
  have hstart : (userStackPage storage).start + pageSize - 8 =
      (userImagePages storage).start + (userImageSize + pageSize - 8) := by
    have himage : (userImagePages storage).start = storage + userImagePagesOffset := rfl
    have hstack : (userStackPage storage).start =
        storage + (userImagePagesOffset + userImageSize) := rfl
    omega
  have hword : ¬ InRange ((userStackPage storage).start + pageSize - 8).toUInt64
      (toLittleEndian 8 0).length address := fun hin => by
    have hoffset : (UInt64.ofNat (userImageSize + pageSize - 8)).toNat =
        userImageSize + pageSize - 8 := rfl
    rw [hstart, Nat.toUInt64_eq, UInt64.ofNat_add] at hin
    exact hout (hin.within (by rw [hoffset, length_toLittleEndian, hregion]; omega)
      (by rw [hregion]; decide))
  rw [storeUserImage, storeBytes_of_not_inRange (by decide) hword,
    loadX64Pe64Image_behind hfit _ (Nat.not_lt.mp hout)]
  have haddress : ((userImagePages storage).start +
      (address - (userImagePages storage).start.toUInt64).toNat).toUInt64 = address := by
    rw [Nat.toUInt64_eq, UInt64.ofNat_add, UInt64.ofNat_toNat, Nat.toUInt64_eq, UInt64.add_comm,
      UInt64.sub_add_cancel]
  rw [haddress]

/-- A process that is set up has its image and its stack mapped, and its tables written before its
image is loaded. -/
theorem populateBootstrapForProcess_eq {configuration : InitialProcessConfiguration}
    {after : ByteMemory}
    (h : populateBootstrapForProcess storage imageBytes memory = .ok (configuration, after)) :
    bootstrapAddressSpace storage = some configuration.addressSpace ∧
      after = storeUserImage storage imageBytes (storeProcessStorage storage memory) := by
  unfold populateBootstrapForProcess at h
  dsimp only at h
  cases hrun : (initializeUserImage storage imageBytes fun address =>
      storeProcessStorage storage memory address.toUInt64).entryPoint with
  | error text =>
    rw [hrun] at h
    cases h
  | ok entryPoint =>
    cases hspace : bootstrapAddressSpace storage with
    | none =>
      rw [hrun, hspace] at h
      cases h
    | some addressSpaceInfo =>
      rw [hrun, hspace] at h
      obtain ⟨rfl, rfl⟩ := Prod.mk.inj (Except.ok.inj h)
      exact ⟨rfl, rfl⟩

/-- A process is set up with its tables in memory, and nothing changes in front of its storage or
more than a page behind it. -/
theorem populateBootstrapForProcess_ok (hplaced : PlacedStorage storage)
    (hfit : SectionsFit imageBytes (x64Pe64LoadConfig x64UserImageVirtualAddress x64UserRegionSize))
    {configuration : InitialProcessConfiguration} {after : ByteMemory}
    (h : populateBootstrapForProcess storage imageBytes memory = .ok (configuration, after)) :
    bootstrapAddressSpace storage = some configuration.addressSpace ∧
      (initializeProcessStorage storage).StoredAt after storage ∧
      ∀ address, ¬ InRange storage.toUInt64 (sizeofX64ProcessStorage + pageSize) address →
        after address = memory address := by
  have hpage : pageSize = 4096 := rfl
  have hpages : userImagePagesOffset = 6 * 4096 := rfl
  have hsize : sizeofX64ProcessStorage = 15 * 4096 := rfl
  have hregion : x64UserRegionSize.toNat = 10 * 4096 := rfl
  have himages : (userImagePages storage).start = storage + userImagePagesOffset := rfl
  obtain ⟨hspace, rfl⟩ := populateBootstrapForProcess_eq h
  refine ⟨hspace, ?_, fun address hout => ?_⟩
  · refine (storeProcessStorage_storedAt hplaced memory).congr fun offset hoffset => ?_
    have hbound := hplaced.bounded
    refine storeUserImage_apart hfit fun hin => ?_
    rw [inRange_toUInt64 (by omega) (by omega)] at hin
    omega
  · have hload : ¬ InRange (userImagePages storage).start.toUInt64 x64UserRegionSize.toNat
        address := fun hin => by
      have hoffset : (UInt64.ofNat userImagePagesOffset).toNat = userImagePagesOffset := rfl
      rw [himages, Nat.toUInt64_eq, UInt64.ofNat_add] at hin
      exact hout (hin.within (by omega) (by omega))
    have hinit : ¬ InRange storage.toUInt64 sizeofX64ProcessStorage address := fun hin =>
      hout (Nat.lt_of_lt_of_le hin (Nat.le_add_right _ _))
    rw [storeUserImage_apart hfit hload, storeProcessStorage, if_neg hinit]

end Bootstrap

section Platform

variable {platform : X64Platform} {terminalServiceImage testAppImage : List UInt8}
  {memory : ByteMemory}

/-- The kernel image, and with it the platform object, lies in the low 4 MiB. -/
structure X64Platform.Placed (platform : X64Platform) : Prop where
  aligned : platform.address % pageSize = 0
  nonnull : 0 < platform.address
  low : platform.address + userRuntimeMaxInitialProcesses * sizeofX64ProcessStorage ≤
    x64UserImageVirtualAddress.toNat

theorem X64Platform.Placed.storage (h : platform.Placed)
    (processIndex : Fin userRuntimeMaxInitialProcesses) :
    PlacedStorage (platform.processStorage processIndex) := by
  obtain ⟨haligned, hnonnull, hlow⟩ := h
  have hpage : pageSize = 4096 := rfl
  have hsize : sizeofX64ProcessStorage = 15 * 4096 := rfl
  have hmax : userRuntimeMaxInitialProcesses = 2 := rfl
  have hbase : x64UserImageVirtualAddress.toNat = 0x400000 := rfl
  have hindex : processIndex.val < 2 := processIndex.isLt
  rw [hpage] at haligned
  refine ⟨?_, ?_, ?_⟩ <;> rw [X64Platform.processStorage, hsize]
  · rw [hpage]
    omega
  · omega
  · rw [hmax, hsize, hbase] at hlow
    omega

/-- Every process that is set up has its tables in memory. -/
structure X64Platform.Booted (platform : X64Platform)
    (configurations : List InitialProcessConfiguration) (memory : ByteMemory) : Prop where
  count : configurations.length ≤ userRuntimeMaxInitialProcesses
  spaces : ∀ (processIndex : Fin userRuntimeMaxInitialProcesses) (configuration),
    configurations[processIndex.val]? = some configuration →
      bootstrapAddressSpace (platform.processStorage processIndex) =
          some configuration.addressSpace ∧
        (initializeProcessStorage (platform.processStorage processIndex)).StoredAt memory
          (platform.processStorage processIndex)

/-- The load of the second process leaves the storage of the first one alone; the load of the
first one is over before the tables of the second one are written. -/
theorem initializeBootstrap_booted (hplaced : platform.Placed)
    (hservice : SectionsFit terminalServiceImage
      (x64Pe64LoadConfig x64UserImageVirtualAddress x64UserRegionSize))
    (hclient : SectionsFit testAppImage
      (x64Pe64LoadConfig x64UserImageVirtualAddress x64UserRegionSize))
    {bootstrap : InitialUserRuntimeBootstrap} {after : ByteMemory}
    (h : platform.initializeBootstrap terminalServiceImage testAppImage memory =
      .ok (bootstrap, after)) :
    bootstrap.initialProcessIndex < bootstrap.initialProcesses.length ∧
      platform.Booted bootstrap.initialProcesses after := by
  have hzero : (⟨0, Nat.zero_lt_two⟩ : Fin userRuntimeMaxInitialProcesses) = 0 := rfl
  have hone : (⟨1, Nat.one_lt_two⟩ : Fin userRuntimeMaxInitialProcesses) = 1 := rfl
  unfold X64Platform.initializeBootstrap at h
  rw [hzero, hone] at h
  split at h
  · obtain ⟨client, hrun, hdone⟩ := bind_ok h
    obtain ⟨rfl, rfl⟩ := Prod.mk.inj (Except.ok.inj hdone)
    obtain ⟨hspace, hstored, -⟩ :=
      populateBootstrapForProcess_ok (hplaced.storage 0) hclient hrun
    refine ⟨Nat.zero_lt_one, Nat.le_succ 1, fun processIndex configuration hslot => ?_⟩
    match processIndex, hslot with
    | 0, hslot =>
      obtain rfl : client.1 = configuration := Option.some.inj hslot
      exact ⟨hspace, hstored⟩
    | 1, hslot => cases hslot
  · obtain ⟨service, hfirst, hrest⟩ := bind_ok h
    obtain ⟨client, hsecond, hdone⟩ := bind_ok hrest
    obtain ⟨rfl, rfl⟩ := Prod.mk.inj (Except.ok.inj hdone)
    obtain ⟨hserviceSpace, hserviceStored, -⟩ :=
      populateBootstrapForProcess_ok (hplaced.storage 0) hservice hfirst
    obtain ⟨hclientSpace, hclientStored, hkept⟩ :=
      populateBootstrapForProcess_ok (hplaced.storage 1) hclient hsecond
    refine ⟨Nat.zero_lt_two, Nat.le_refl 2, fun processIndex configuration hslot => ?_⟩
    match processIndex, hslot with
    | 0, hslot =>
      obtain rfl : service.1 = configuration := Option.some.inj hslot
      refine ⟨hserviceSpace, hserviceStored.congr fun offset hoffset => hkept _ fun hin => ?_⟩
      have hbound := (hplaced.storage 1).bounded
      have hstart : platform.processStorage 0 = platform.address := by
        rw [X64Platform.processStorage, Fin.val_zero, Nat.zero_mul, Nat.add_zero]
      have hnext : platform.processStorage 1 = platform.address + sizeofX64ProcessStorage := by
        rw [X64Platform.processStorage, Fin.val_one, Nat.one_mul]
      have hpages : userImagePagesOffset = 6 * 4096 := rfl
      have hsize : sizeofX64ProcessStorage = 15 * 4096 := rfl
      have hpage : pageSize = 4096 := rfl
      rw [inRange_toUInt64 (by omega) (by omega)] at hin
      omega
    | 1, hslot =>
      obtain rfl : client.1 = configuration := Option.some.inj hslot
      exact ⟨hclientSpace, hclientStored⟩

/-- Every process that is set up has its image and its stack mapped, whatever the images. -/
theorem X64Platform.initializeBootstrap_maps {bootstrap : InitialUserRuntimeBootstrap}
    {after : ByteMemory} (h : platform.initializeBootstrap terminalServiceImage testAppImage memory =
      .ok (bootstrap, after)) :
    bootstrap.Maps fun addressSpaceInfo =>
      ∃ storage, bootstrapAddressSpace storage = some addressSpaceInfo := by
  unfold X64Platform.initializeBootstrap at h
  split at h
  · obtain ⟨client, hclient, hdone⟩ := bind_ok h
    obtain ⟨rfl, rfl⟩ := Prod.mk.inj (Except.ok.inj hdone)
    exact maps_one ⟨_, (populateBootstrapForProcess_eq hclient).1⟩
  · obtain ⟨service, hservice, hrest⟩ := bind_ok h
    obtain ⟨client, hclient, hdone⟩ := bind_ok hrest
    obtain ⟨rfl, rfl⟩ := Prod.mk.inj (Except.ok.inj hdone)
    exact maps_two ⟨_, (populateBootstrapForProcess_eq hservice).1⟩
      ⟨_, (populateBootstrapForProcess_eq hclient).1⟩

end Platform

end Ringos.Arch

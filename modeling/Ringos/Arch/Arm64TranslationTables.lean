import Ringos.Core.PageWalk
import Ringos.Arch.EmulatorThread
import Ringos.Calls.UserCopies

/-!
# The translation tables of an arm64 process

Each process storage starts with three tables: a root table of two entries, a
table whose only block is the user region, and a table of blocks that map the
memory of the kernel to itself. The processor translates the user region for
everybody and the memory of the kernel for the kernel alone. The address space
that is recorded for a process is the user region or a first part of it.
-/

namespace Ringos.Arch

open Ringos.Core Ringos.Kernel

section Storage

/-- `ARM64_USER_RUNTIME_PAGE_SIZE`. -/
def arm64PageSize : Nat := 4096
/-- `ARM64_USER_RUNTIME_USER_REGION_SIZE`. -/
def arm64UserRegionSize : UInt64 := largePageSize
/-- `KERNEL_IDENTITY_SIZE`. -/
def kernelIdentitySize : Nat := 0x2000000
/-- `KERNEL_IDENTITY_BASE`. -/
def kernelIdentityBase : Nat := 0x40000000
/-- `KERNEL_BLOCK_COUNT`. -/
def kernelBlockCount : Nat := kernelIdentitySize / largePageSize.toNat
/-- `USER_BLOCK_INDEX`. -/
def userBlockIndex : Fin 512 :=
  ⟨x64UserImageVirtualAddress.toNat / largePageSize.toNat, by decide⟩
/-- `KERNEL_ROOT_INDEX`. -/
def kernelRootIndex : Fin 512 := ⟨kernelIdentityBase >>> 30, by decide⟩

/-- `storage.lower_block_table`; the root table comes first. -/
def lowerBlockTable (storage : Nat) : Nat := storage + arm64PageSize
/-- `storage.kernel_block_table`. -/
def kernelBlockTable (storage : Nat) : Nat := storage + 2 * arm64PageSize
/-- The offset of `user_region_storage`; the guest state lies in the page between. -/
def userRegionStorageOffset : Nat := 4 * arm64PageSize
/-- `sizeof(arm64_process_storage)`. -/
def sizeofArm64ProcessStorage : Nat :=
  userRegionStorageOffset + arm64UserRegionSize.toNat + largePageSize.toNat

/-- `get_user_region`. -/
def arm64UserRegion (storage : Nat) : UInt64 :=
  alignUp (storage + userRegionStorageOffset).toUInt64 largePageSize

/-- `TABLE_DESCRIPTOR`. -/
def tableDescriptor : UInt64 := 0x3
/-- `BLOCK_DESCRIPTOR`. -/
def blockDescriptor : UInt64 := 0x1
/-- `ATTRIBUTE_INDEX_NORMAL`. -/
def attributeIndexNormal : UInt64 := (0 : UInt64) <<< 2
/-- `ACCESS_PERMISSION_USER_RW`. -/
def accessPermissionUserRw : UInt64 := (1 : UInt64) <<< 6
/-- `INNER_SHAREABLE`. -/
def innerShareable : UInt64 := (3 : UInt64) <<< 8
/-- `ACCESS_FLAG`. -/
def accessFlag : UInt64 := (1 : UInt64) <<< 10

/-- `make_table_descriptor`. -/
def makeTableDescriptor (address : UInt64) : UInt64 := (address &&& ~~~0xFFF) ||| tableDescriptor

/-- `make_block_descriptor`. -/
def makeBlockDescriptor (address flags : UInt64) : UInt64 :=
  (address &&& ~~~0x1FFFFF) ||| flags ||| blockDescriptor

/-- The tables of `arm64_process_storage`. -/
structure Arm64ProcessTables where
  rootTable : PageTable
  lowerBlockTable : PageTable
  kernelBlockTable : PageTable

/-- The tables behind `initialize_process_storage`. -/
def Arm64ProcessTables.cleared : Arm64ProcessTables where
  rootTable := fun _ => 0
  lowerBlockTable := fun _ => 0
  kernelBlockTable := fun _ => 0

/-- The entry of the kernel's table that the loop over its blocks writes. -/
def kernelBlockIndex (blockIndex : Fin kernelBlockCount) : Fin 512 :=
  ⟨blockIndex.val, blockIndex.isLt.trans (by decide)⟩

/-- `initialize_translation_tables`. -/
def initializeTranslationTables (storage : Nat) (tables : Arm64ProcessTables) :
    Arm64ProcessTables where
  rootTable := Function.update
    (Function.update tables.rootTable 0 (makeTableDescriptor (lowerBlockTable storage).toUInt64))
    kernelRootIndex (makeTableDescriptor (kernelBlockTable storage).toUInt64)
  lowerBlockTable := Function.update tables.lowerBlockTable userBlockIndex
    (makeBlockDescriptor (arm64UserRegion storage)
      (attributeIndexNormal ||| accessPermissionUserRw ||| innerShareable ||| accessFlag))
  kernelBlockTable := (List.finRange kernelBlockCount).foldl (fun current blockIndex =>
    Function.update current (kernelBlockIndex blockIndex)
      (makeBlockDescriptor (kernelIdentityBase + blockIndex.val * largePageSize.toNat).toUInt64
        (attributeIndexNormal ||| innerShareable ||| accessFlag))) tables.kernelBlockTable

/-- The tables of a process. -/
def arm64ProcessTables (storage : Nat) : Arm64ProcessTables :=
  initializeTranslationTables storage .cleared

/-- A process storage lies in the memory of the kernel. -/
structure PlacedArm64Storage (storage : Nat) : Prop where
  aligned : storage % arm64PageSize = 0
  low : kernelIdentityBase ≤ storage
  high : storage + sizeofArm64ProcessStorage ≤ kernelIdentityBase + kernelIdentitySize

end Storage

section Hardware

/-- How the processor reads a descriptor of the first two levels. The flags of a block are the access
flag in bit 10 and the permissions in bits 6 and 7; a table can take permissions away with bits 61
and 62. Output addresses have 32 bits, since `TCR_EL1` leaves their size at zero. -/
def decodeArm64Entry (shift : Nat) (entry : UInt64) : PageEntry PagePermission :=
  let bit := entry.toNat.testBit
  if bit 0 = false ∨ 2 ^ 32 ≤ entry.toNat % 2 ^ 48 then .empty
  else if bit 1 then .table (frameAddress 12 48 entry) ⟨!bit 62, !bit 61⟩
  else if bit 10 then .page (frameAddress shift 48 entry) ⟨!bit 7, bit 6⟩
  else .empty

/-- How the processor reads a descriptor of the last level. -/
def decodeArm64Page (entry : UInt64) : PageEntry PagePermission :=
  let bit := entry.toNat.testBit
  if bit 0 = false ∨ 2 ^ 32 ≤ entry.toNat % 2 ^ 48 then .empty
  else if bit 1 && bit 10 then .page (frameAddress 12 48 entry) ⟨!bit 7, bit 6⟩
  else .empty

/-- The levels of a walk with 4 KiB pages and 39 bits. -/
def arm64PageLevels : List (PageLevel PagePermission) :=
  [⟨30, decodeArm64Entry 30⟩, ⟨21, decodeArm64Entry 21⟩, ⟨12, decodeArm64Page⟩]

/-- The physical address of an access, or `none` for a fault. `TCR_EL1` sets 39 bits and leaves no
translation to the upper half of the addresses. -/
def arm64Translate (memory : ByteMemory) (ttbr0 : UInt64) (access : PageAccess)
    (address : UInt64) : Option UInt64 :=
  if address.toNat < 2 ^ 39 then
    (pageWalk memory arm64PageLevels (frameAddress 12 48 ttbr0) address).bind fun walked =>
      if access.allowedBy walked.2 then some walked.1 else none
  else none

end Hardware

section Decoding

variable {address : UInt64}

/-- A table descriptor leads to the table it was made for, and takes no permission away. -/
theorem decode_tableDescriptor (shift : Nat) (haligned : address.toNat % 2 ^ 12 = 0)
    (hbound : address.toNat < 2 ^ 32) :
    decodeArm64Entry shift (makeTableDescriptor address) = .table address ⟨true, true⟩ := by
  have hflags : tableDescriptor.toNat = 3 := rfl
  have hnumber : (makeTableDescriptor address).toNat =
      2 ^ 12 * (address.toNat / 2 ^ 12) + tableDescriptor.toNat :=
    toNat_entry rfl address (by decide)
  have hlow {bit : Nat} (hbit : bit < 12) :
      (makeTableDescriptor address).toNat.testBit bit = tableDescriptor.toNat.testBit bit :=
    testBit_entry rfl address (by decide) hbit
  have hhigh {bit : Nat} (hbit : 32 ≤ bit) :
      (makeTableDescriptor address).toNat.testBit bit = false :=
    Nat.testBit_lt_two_pow (Nat.lt_of_lt_of_le (by omega) (Nat.pow_le_pow_right (by decide) hbit))
  have hframe : frameAddress 12 48 (makeTableDescriptor address) = address :=
    frameAddress_entry rfl haligned (by omega) (by decide) (by decide)
  have hvalid : ¬ ((makeTableDescriptor address).toNat.testBit 0 = false ∨
      2 ^ 32 ≤ (makeTableDescriptor address).toNat % 2 ^ 48) := by
    rw [hlow (by decide), not_or]
    exact ⟨by decide, by omega⟩
  have htable : (makeTableDescriptor address).toNat.testBit 1 = true := hlow (by decide)
  rw [decodeArm64Entry, if_neg hvalid, if_pos htable, hframe, hhigh (by decide), hhigh (by decide)]
  rfl

/-- Flags that make a block which can be written, by user code if `user` is set. -/
structure BlockFlags (flags : UInt64) (user : Bool) : Prop where
  small : (flags ||| blockDescriptor).toNat < 2 ^ 12
  valid : (flags ||| blockDescriptor).toNat.testBit 0 = true
  block : (flags ||| blockDescriptor).toNat.testBit 1 = false
  access : (flags ||| blockDescriptor).toNat.testBit 6 = user
  writable : (flags ||| blockDescriptor).toNat.testBit 7 = false
  flag : (flags ||| blockDescriptor).toNat.testBit 10 = true

/-- A block descriptor leads to the block it was made for. -/
theorem decode_blockDescriptor {flags : UInt64} {user : Bool} (hflags : BlockFlags flags user)
    (haligned : address.toNat % 2 ^ 21 = 0) (hbound : address.toNat < 2 ^ 32) :
    decodeArm64Entry 21 (makeBlockDescriptor address flags) = .page address ⟨true, user⟩ := by
  obtain ⟨hsmall, hvalid, hblock, huser, hwritable, haccessed⟩ := hflags
  have hentry : makeBlockDescriptor address flags =
      (address &&& ~~~0x1FFFFF) ||| (flags ||| blockDescriptor) := UInt64.or_assoc ..
  have hfit : (flags ||| blockDescriptor).toNat < 2 ^ 21 := hsmall.trans (by decide)
  have hnumber := @toNat_entry 21 0x1FFFFF rfl address _ hfit
  have hbit {bit : Nat} (h : bit < 21) := @testBit_entry 21 0x1FFFFF rfl address _ hfit bit h
  have hframe := @frameAddress_entry 21 0x1FFFFF rfl 48 address _ haligned
    (hbound.trans (by decide)) hfit (by decide)
  rw [← hentry] at hnumber hframe
  rw [← hentry] at hbit
  have hdescribes : ¬ ((makeBlockDescriptor address flags).toNat.testBit 0 = false ∨
      2 ^ 32 ≤ (makeBlockDescriptor address flags).toNat % 2 ^ 48) := by
    rw [hbit (by decide), hvalid, not_or]
    exact ⟨by decide, by omega⟩
  have hends : ¬ (makeBlockDescriptor address flags).toNat.testBit 1 = true := by
    rw [hbit (by decide), hblock]
    exact Bool.false_ne_true
  have hset : (makeBlockDescriptor address flags).toNat.testBit 10 = true :=
    (hbit (by decide)).trans haccessed
  rw [decodeArm64Entry, if_neg hdescribes, if_neg hends, if_pos hset, @hbit 7 (by decide),
    @hbit 6 (by decide), hwritable, huser, hframe]
  rfl

theorem decode_noDescriptor (shift : Nat) : decodeArm64Entry shift 0 = .empty := by
  simp [decodeArm64Entry]

end Decoding

section Tables

variable {storage : Nat}

/-- The descriptor of the user region. -/
def userBlock (storage : Nat) : UInt64 :=
  makeBlockDescriptor (arm64UserRegion storage)
    (attributeIndexNormal ||| accessPermissionUserRw ||| innerShareable ||| accessFlag)

/-- The descriptor of a block of the kernel, by its index. -/
def kernelBlock (index : Fin 512) : UInt64 :=
  makeBlockDescriptor (kernelIdentityBase + index.val * largePageSize.toNat).toUInt64
    (attributeIndexNormal ||| innerShareable ||| accessFlag)

theorem userBlockFlags :
    BlockFlags (attributeIndexNormal ||| accessPermissionUserRw ||| innerShareable ||| accessFlag)
      true :=
  ⟨by decide, by decide, by decide, by decide, by decide, by decide⟩

theorem kernelBlockFlags :
    BlockFlags (attributeIndexNormal ||| innerShareable ||| accessFlag) false :=
  ⟨by decide, by decide, by decide, by decide, by decide, by decide⟩

theorem arm64ProcessTables_root (index : Fin 512) :
    (arm64ProcessTables storage).rootTable index =
      if index.val = 1 then makeTableDescriptor (kernelBlockTable storage).toUInt64
      else if index.val = 0 then makeTableDescriptor (lowerBlockTable storage).toUInt64
      else 0 := by
  have hkernel : kernelRootIndex.val = 1 := rfl
  have hlower : (0 : Fin 512).val = 0 := rfl
  simp only [arm64ProcessTables, initializeTranslationTables, Function.update_apply, Fin.ext_iff,
    hkernel, hlower]
  rfl

theorem arm64ProcessTables_lower (index : Fin 512) :
    (arm64ProcessTables storage).lowerBlockTable index =
      if index.val = 2 then userBlock storage else 0 := by
  have huser : userBlockIndex.val = 2 := rfl
  simp only [arm64ProcessTables, initializeTranslationTables, Function.update_apply, Fin.ext_iff,
    huser]
  rfl

theorem arm64ProcessTables_kernel (index : Fin 512) :
    (arm64ProcessTables storage).kernelBlockTable index =
      if index.val < kernelBlockCount then kernelBlock index else 0 := by
  have hmem : index ∈ (List.finRange kernelBlockCount).map kernelBlockIndex ↔
      index.val < kernelBlockCount := by
    rw [List.mem_map]
    constructor
    · rintro ⟨blockIndex, -, rfl⟩
      exact blockIndex.isLt
    · exact fun hlt => ⟨⟨index.val, hlt⟩, List.mem_finRange _, rfl⟩
  have hloop := foldl_update_apply kernelBlock
    ((List.finRange kernelBlockCount).map kernelBlockIndex)
    Arm64ProcessTables.cleared.kernelBlockTable index
  rw [List.foldl_map] at hloop
  simp only [hmem] at hloop
  exact hloop

end Tables

section Walks

variable {storage : Nat} {memory : ByteMemory} {address : UInt64}

/-- Memory holds the tables of a process storage. -/
structure Arm64ProcessTables.HeldAt (tables : Arm64ProcessTables) (memory : ByteMemory)
    (storage : Nat) : Prop where
  root : tableAt memory storage.toUInt64 = tables.rootTable
  lower : tableAt memory (Arch.lowerBlockTable storage).toUInt64 = tables.lowerBlockTable
  kernel : tableAt memory (Arch.kernelBlockTable storage).toUInt64 = tables.kernelBlockTable

/-- The user region is a large page of its storage, behind the tables. -/
structure UserRegionPlaced (storage : Nat) : Prop where
  aligned : (arm64UserRegion storage).toNat % 2 ^ 21 = 0
  behind : storage + userRegionStorageOffset ≤ (arm64UserRegion storage).toNat
  inside : (arm64UserRegion storage).toNat + arm64UserRegionSize.toNat ≤
    storage + sizeofArm64ProcessStorage

theorem PlacedArm64Storage.userRegion (h : PlacedArm64Storage storage) :
    UserRegionPlaced storage := by
  obtain ⟨-, hlow, hhigh⟩ := h
  have hbase : kernelIdentityBase = 0x40000000 := rfl
  have hidentity : kernelIdentitySize = 0x2000000 := rfl
  have hsize : sizeofArm64ProcessStorage = 0x4000 + 2 * 2 ^ 21 := rfl
  have hoffset : userRegionStorageOffset = 0x4000 := rfl
  have hregion : arm64UserRegionSize.toNat = 2 ^ 21 := rfl
  have hstart : (storage + userRegionStorageOffset).toUInt64.toNat = storage + 0x4000 :=
    UInt64.toNat_ofNat_of_lt' (by show storage + 0x4000 < 2 ^ 64; omega)
  have hnumber : (arm64UserRegion storage).toNat =
      2 ^ 21 * ((storage + 0x4000 + (2 ^ 21 - 1)) / 2 ^ 21) := by
    have hmask : (largePageSize - 1).toNat = 2 ^ 21 - 1 := rfl
    rw [arm64UserRegion, alignUp, toNat_clearLow hmask, UInt64.toNat_add, hstart, hmask]
    omega
  exact ⟨by omega, by omega, by omega⟩

/-- An address of a placed storage as a number. -/
theorem PlacedArm64Storage.toNat (h : PlacedArm64Storage storage) {offset : Nat}
    (hoffset : offset < sizeofArm64ProcessStorage) :
    (storage + offset).toUInt64.toNat = storage + offset := by
  have hhigh := h.high
  have hbase : kernelIdentityBase = 0x40000000 := rfl
  have hidentity : kernelIdentitySize = 0x2000000 := rfl
  exact UInt64.toNat_ofNat_of_lt' (by show storage + offset < 2 ^ 64; omega)

theorem pageWalk_noDescriptor {shift : Nat} {table : UInt64}
    {levels : List (PageLevel PagePermission)}
    (h : tableAt memory table (PageLevel.index ⟨shift, decodeArm64Entry shift⟩ address) = 0) :
    pageWalk memory (⟨shift, decodeArm64Entry shift⟩ :: levels) table address = none := by
  refine pageWalk_empty ?_
  rw [h]
  exact decode_noDescriptor shift

variable (hheld : (arm64ProcessTables storage).HeldAt memory storage)

include hheld

/-- The kernel's table maps its memory to itself. -/
theorem pageWalk_kernel (haddress : address.toNat / 2 ^ 30 = 1) :
    pageWalk memory [⟨21, decodeArm64Entry 21⟩, ⟨12, decodeArm64Page⟩]
        (kernelBlockTable storage).toUInt64 address =
      if address.toNat < kernelIdentityBase + kernelIdentitySize then
        some (address, [⟨true, false⟩])
      else none := by
  have hbase : kernelIdentityBase = 2 ^ 30 := rfl
  have hidentity : kernelIdentitySize = 16 * 2 ^ 21 := rfl
  have hcount : kernelBlockCount = 16 := rfl
  have hlarge : largePageSize.toNat = 2 ^ 21 := rfl
  have hentry := congrFun hheld.kernel (PageLevel.index ⟨21, decodeArm64Entry 21⟩ address)
  rw [arm64ProcessTables_kernel, kernelBlock, PageLevel.index_val] at hentry
  by_cases hkernel : address.toNat / 2 ^ 21 % 512 < kernelBlockCount
  · rw [if_pos hkernel] at hentry
    have hblock : kernelIdentityBase + address.toNat / 2 ^ 21 % 512 * largePageSize.toNat =
        address.toNat / 2 ^ 21 * 2 ^ 21 := by
      rw [hlarge]
      omega
    rw [hblock] at hentry
    have hnumber : (address.toNat / 2 ^ 21 * 2 ^ 21).toUInt64.toNat =
        address.toNat / 2 ^ 21 * 2 ^ 21 :=
      UInt64.toNat_ofNat_of_lt' (by show address.toNat / 2 ^ 21 * 2 ^ 21 < 2 ^ 64; omega)
    have hdecode := @decode_blockDescriptor (address.toNat / 2 ^ 21 * 2 ^ 21).toUInt64 _ _
      kernelBlockFlags (by rw [hnumber]; omega) (by rw [hnumber]; omega)
    rw [← hentry] at hdecode
    have hsum : (address.toNat / 2 ^ 21 * 2 ^ 21).toUInt64 +
        UInt64.ofNat (address.toNat % 2 ^ 21) = address := by
      rw [Nat.toUInt64_eq, ← UInt64.ofNat_add, Nat.div_add_mod', UInt64.ofNat_toNat]
    rw [if_pos (by omega), pageWalk_page hdecode]
    exact congrArg (fun target => some (target, _)) hsum
  · rw [if_neg hkernel] at hentry
    rw [if_neg (by omega)]
    exact pageWalk_noDescriptor hentry

variable (hplaced : PlacedArm64Storage storage)

include hplaced

/-- The lower table maps the user region. -/
theorem pageWalk_lower (haddress : address.toNat < 2 ^ 30) :
    pageWalk memory [⟨21, decodeArm64Entry 21⟩, ⟨12, decodeArm64Page⟩]
        (lowerBlockTable storage).toUInt64 address =
      if address.toNat / 2 ^ 21 = 2 then
        some (arm64UserRegion storage + UInt64.ofNat (address.toNat % 2 ^ 21), [⟨true, true⟩])
      else none := by
  obtain ⟨haligned, -, hinside⟩ := hplaced.userRegion
  have hhigh := hplaced.high
  have hbase : kernelIdentityBase = 0x40000000 := rfl
  have hidentity : kernelIdentitySize = 0x2000000 := rfl
  have hentry := congrFun hheld.lower (PageLevel.index ⟨21, decodeArm64Entry 21⟩ address)
  have hindex : address.toNat / 2 ^ 21 % 512 = address.toNat / 2 ^ 21 := by omega
  rw [arm64ProcessTables_lower, PageLevel.index_val, hindex] at hentry
  by_cases huser : address.toNat / 2 ^ 21 = 2
  · rw [if_pos huser] at hentry
    have hdecode := decode_blockDescriptor userBlockFlags haligned (by omega)
    rw [← userBlock, ← hentry] at hdecode
    rw [if_pos huser]
    exact pageWalk_page hdecode
  · rw [if_neg huser] at hentry
    rw [if_neg huser]
    exact pageWalk_noDescriptor hentry

/-- What a walk from the root finds for an address of 39 bits. -/
theorem pageWalk_arm64Root (haddress : address.toNat < 2 ^ 39) :
    pageWalk memory arm64PageLevels storage.toUInt64 address =
      if address.toNat / 2 ^ 21 = 2 then
        some (arm64UserRegion storage + UInt64.ofNat (address.toNat % 2 ^ 21),
          [⟨true, true⟩, ⟨true, true⟩])
      else if kernelIdentityBase ≤ address.toNat ∧
          address.toNat < kernelIdentityBase + kernelIdentitySize then
        some (address, [⟨true, true⟩, ⟨true, false⟩])
      else none := by
  have hbase : kernelIdentityBase = 2 ^ 30 := rfl
  have hidentity : kernelIdentitySize = 16 * 2 ^ 21 := rfl
  have hsize : sizeofArm64ProcessStorage = 0x4000 + 2 * 2 ^ 21 := rfl
  have hpage : arm64PageSize = 4096 := rfl
  obtain ⟨haligned, hlow, hhigh⟩ := id hplaced
  rw [hpage] at haligned
  have hindex : address.toNat / 2 ^ 30 % 512 = address.toNat / 2 ^ 30 := by omega
  have hentry := congrFun hheld.root (PageLevel.index ⟨30, decodeArm64Entry 30⟩ address)
  rw [arm64ProcessTables_root, PageLevel.index_val, hindex] at hentry
  have htable {offset : Nat} (hoffset : offset % 4096 = 0 ∧ offset < 0x4000) :
      decodeArm64Entry 30 (makeTableDescriptor (storage + offset).toUInt64) =
        .table (storage + offset).toUInt64 ⟨true, true⟩ := by
    have hnumber : (storage + offset).toUInt64.toNat = storage + offset :=
      hplaced.toNat (by omega)
    exact decode_tableDescriptor 30 (by rw [hnumber]; omega) (by rw [hnumber]; omega)
  by_cases hkernel : address.toNat / 2 ^ 30 = 1
  · rw [if_pos hkernel] at hentry
    have hdecode := @htable (2 * arm64PageSize) ⟨by decide, by decide⟩
    rw [← kernelBlockTable, ← hentry] at hdecode
    have hother : ¬ address.toNat / 2 ^ 21 = 2 := by omega
    rw [arm64PageLevels, pageWalk_table hdecode, pageWalk_kernel hheld hkernel, if_neg hother]
    by_cases hinside : address.toNat < kernelIdentityBase + kernelIdentitySize
    · rw [if_pos hinside, if_pos ⟨by omega, hinside⟩]
      rfl
    · rw [if_neg hinside, if_neg (by omega)]
      rfl
  rw [if_neg hkernel] at hentry
  by_cases hlower : address.toNat / 2 ^ 30 = 0
  · rw [if_pos hlower] at hentry
    have hdecode := @htable arm64PageSize ⟨by decide, by decide⟩
    rw [← lowerBlockTable, ← hentry] at hdecode
    rw [arm64PageLevels, pageWalk_table hdecode, pageWalk_lower hheld hplaced (by omega)]
    by_cases huser : address.toNat / 2 ^ 21 = 2
    · rw [if_pos huser, if_pos huser]
      rfl
    · rw [if_neg huser, if_neg huser, if_neg (by omega)]
      rfl
  · rw [if_neg hlower] at hentry
    rw [if_neg (by omega), if_neg (by omega)]
    exact pageWalk_noDescriptor hentry

/-- What the processor translates: the user region for everybody, and the memory of the kernel to
itself for the kernel alone. -/
theorem arm64Translate_eq (access : PageAccess) :
    arm64Translate memory storage.toUInt64 access address =
      if x64UserImageVirtualAddress.toNat ≤ address.toNat ∧
          address.toNat < x64UserImageVirtualAddress.toNat + arm64UserRegionSize.toNat then
        some (arm64UserRegion storage + (address - x64UserImageVirtualAddress))
      else if kernelIdentityBase ≤ address.toNat ∧
          address.toNat < kernelIdentityBase + kernelIdentitySize then
        (if access.user then none else some address)
      else none := by
  have hbase : kernelIdentityBase = 2 ^ 30 := rfl
  have hidentity : kernelIdentitySize = 16 * 2 ^ 21 := rfl
  have huser : x64UserImageVirtualAddress.toNat = 2 * 2 ^ 21 := rfl
  have hregion : arm64UserRegionSize.toNat = 2 ^ 21 := rfl
  have hroot : frameAddress 12 48 storage.toUInt64 = storage.toUInt64 := by
    have hnumber : storage.toUInt64.toNat = storage :=
      hplaced.toNat (show 0 < sizeofArm64ProcessStorage by decide)
    obtain ⟨haligned, -, hhigh⟩ := hplaced
    have hpage : arm64PageSize = 4096 := rfl
    rw [hpage] at haligned
    exact frameAddress_aligned (by rw [hnumber]; omega) (by rw [hnumber]; omega)
  unfold arm64Translate
  rw [hroot]
  by_cases haddress : address.toNat < 2 ^ 39
  swap
  · rw [if_neg haddress, if_neg (by omega), if_neg (by omega)]
  rw [if_pos haddress, pageWalk_arm64Root hheld hplaced haddress]
  obtain ⟨user, store⟩ := access
  have hblock : x64UserImageVirtualAddress.toNat ≤ address.toNat ∧
      address.toNat < x64UserImageVirtualAddress.toNat + arm64UserRegionSize.toNat ↔
        address.toNat / 2 ^ 21 = 2 := by omega
  by_cases hmapped : address.toNat / 2 ^ 21 = 2
  · have hoffset : UInt64.ofNat (address.toNat % 2 ^ 21) =
        address - x64UserImageVirtualAddress := by
      apply UInt64.toNat_inj.mp
      rw [UInt64.toNat_ofNat_of_lt' (by show address.toNat % 2 ^ 21 < 2 ^ 64; omega),
        UInt64.toNat_sub_of_le _ _ (UInt64.le_iff_toNat_le.mpr (by omega))]
      omega
    rw [if_pos hmapped, if_pos (hblock.mpr hmapped), hoffset]
    cases user <;> cases store <;> rfl
  rw [if_neg hmapped, if_neg (mt hblock.mp hmapped)]
  split
  · cases user <;> cases store <;> rfl
  · rfl

end Walks

end Ringos.Arch

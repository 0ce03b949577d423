import Ringos.Core.PageWalk
import Ringos.Arch.ProcessImage
import Ringos.Calls.UserCopies
import Mathlib.Tactic.FinCases

/-!
# The page tables of an x64 process

Each process storage starts with the four-level tables of the process: one entry
in each of the two upper tables, and a page directory whose first two entries
map the low 4 MiB for the kernel and whose third one maps the user region. What
the processor translates for user code is what the address space of the process
records, address by address.
-/

namespace Ringos.Arch

open Ringos.Core Ringos.Kernel Ringos.Image

section Entries

/-- `PAGE_PRESENT`. -/
def pagePresent : UInt64 := (1 : UInt64) <<< 0
/-- `PAGE_WRITABLE`. -/
def pageWritable : UInt64 := (1 : UInt64) <<< 1
/-- `PAGE_USER`. -/
def pageUser : UInt64 := (1 : UInt64) <<< 2

/-- `make_table_entry`. -/
def makeTableEntry (address flags : UInt64) : UInt64 := (address &&& ~~~0xFFF) ||| flags

end Entries

section Storage

/-- The tables of `x64_process_storage`. -/
structure X64ProcessTables where
  pml4 : PageTable
  pdpt : PageTable
  pageDirectory : PageTable
  lowPageTables : Fin x64LowPageTableCount → PageTable
  userPageTable : PageTable

/-- `storage.pdpt`. -/
def pdpt (storage : Nat) : AddressRange := ⟨storage + pageSize, pageSize⟩
/-- `storage.page_directory`. -/
def pageDirectory (storage : Nat) : AddressRange := ⟨storage + 2 * pageSize, pageSize⟩
/-- `storage.low_page_tables[tableIndex]`. -/
def lowPageTable (storage : Nat) (tableIndex : Fin x64LowPageTableCount) : AddressRange :=
  ⟨storage + (3 + tableIndex.val) * pageSize, pageSize⟩
/-- `storage.user_page_table`. -/
def userPageTable (storage : Nat) : AddressRange :=
  ⟨storage + (3 + x64LowPageTableCount) * pageSize, pageSize⟩
/-- `storage.user_image_pages[pageIndex]`. -/
def userImagePage (storage : Nat) (pageIndex : Fin x64UserImagePageCount) : AddressRange :=
  ⟨(userImagePages storage).start + pageIndex.val * pageSize, pageSize⟩

/-- The tables behind `memset(&storage, 0, sizeof(storage))`. -/
def X64ProcessTables.cleared : X64ProcessTables where
  pml4 := fun _ => 0
  pdpt := fun _ => 0
  pageDirectory := fun _ => 0
  lowPageTables := fun _ _ => 0
  userPageTable := fun _ => 0

/-- The inner loop of `initialize_low_identity_mappings`. -/
def fillLowPageTable (tableIndex : Fin x64LowPageTableCount) (table : PageTable) : PageTable :=
  let tableBaseAddress := tableIndex.val * 0x200000
  (List.finRange 512).foldl (fun current entryIndex =>
    let mappedAddress := tableBaseAddress + entryIndex.val * pageSize
    Function.update current entryIndex
      (makeTableEntry mappedAddress.toUInt64 (pagePresent ||| pageWritable))) table

-- Literals index the low tables.
instance instNeZeroLowPageTables : NeZero x64LowPageTableCount := ⟨by decide⟩

/-- The entry of `storage.page_directory` that the loop over the low tables writes. -/
def directoryIndex (tableIndex : Fin x64LowPageTableCount) : Fin 512 :=
  ⟨tableIndex.val, tableIndex.isLt.trans (by decide)⟩

/-- `initialize_low_identity_mappings`. -/
def initializeLowIdentityMappings (storage : Nat) (tables : X64ProcessTables) : X64ProcessTables :=
  let upper := { tables with
    pml4 := Function.update tables.pml4 0
      (makeTableEntry (pdpt storage).start.toUInt64 (pagePresent ||| pageWritable ||| pageUser))
    pdpt := Function.update tables.pdpt 0
      (makeTableEntry (pageDirectory storage).start.toUInt64
        (pagePresent ||| pageWritable ||| pageUser)) }
  (List.finRange x64LowPageTableCount).foldl (fun current tableIndex =>
    { current with
      lowPageTables := Function.update current.lowPageTables tableIndex
        (fillLowPageTable tableIndex (current.lowPageTables tableIndex))
      pageDirectory := Function.update current.pageDirectory (directoryIndex tableIndex)
        (makeTableEntry (lowPageTable storage tableIndex).start.toUInt64
          (pagePresent ||| pageWritable)) }) upper

/-- The entry of `storage.user_page_table` of an image page. -/
def imagePageIndex (pageIndex : Fin x64UserImagePageCount) : Fin 512 :=
  ⟨pageIndex.val, pageIndex.isLt.trans (by decide)⟩

/-- `initialize_user_region`. -/
def initializeUserRegion (storage : Nat) (tables : X64ProcessTables) : X64ProcessTables :=
  let images := (List.finRange x64UserImagePageCount).foldl (fun current pageIndex =>
    Function.update current (imagePageIndex pageIndex)
      (makeTableEntry (userImagePage storage pageIndex).start.toUInt64
        (pagePresent ||| pageWritable ||| pageUser))) tables.userPageTable
  { tables with
    pageDirectory := Function.update tables.pageDirectory 2
      (makeTableEntry (userPageTable storage).start.toUInt64
        (pagePresent ||| pageWritable ||| pageUser))
    userPageTable := Function.update images ⟨x64UserImagePageCount, by decide⟩
      (makeTableEntry (userStackPage storage).start.toUInt64
        (pagePresent ||| pageWritable ||| pageUser)) }

/-- `initialize_process_storage`. -/
def initializeProcessStorage (storage : Nat) : X64ProcessTables :=
  initializeUserRegion storage (initializeLowIdentityMappings storage X64ProcessTables.cleared)

end Storage

section Hardware

/-- How the processor reads an entry: bits 0, 1 and 2 tell whether it is present, writable and open
to user code, bits 12 to 51 are an address. -/
def decodeX64Entry (shift : Nat) (endsWalk : UInt64 → Bool) (entry : UInt64) :
    PageEntry PagePermission :=
  let permission := ⟨entry.toNat.testBit 1, entry.toNat.testBit 2⟩
  if entry.toNat.testBit 0 = false then .empty
  else if endsWalk entry then .page (frameAddress shift 52 entry) permission
  else .table (frameAddress 12 52 entry) permission

/-- Bit 7 of an entry of the two middle levels makes it a large page. -/
def isLargePage (entry : UInt64) : Bool := entry.toNat.testBit 7

/-- The four levels of a walk. -/
def x64PageLevels : List (PageLevel PagePermission) :=
  [⟨39, decodeX64Entry 39 fun _ => false⟩, ⟨30, decodeX64Entry 30 isLargePage⟩,
    ⟨21, decodeX64Entry 21 isLargePage⟩, ⟨12, decodeX64Entry 12 fun _ => true⟩]

/-- The upper bits of an address repeat bit 47. -/
def isCanonical (address : UInt64) : Bool :=
  decide (address.toNat < 2 ^ 47) || decide (2 ^ 64 - 2 ^ 47 ≤ address.toNat)

/-- The physical address of an access, or `none` for a page fault. -/
def x64Translate (memory : ByteMemory) (cr3 : UInt64) (access : PageAccess) (address : UInt64) :
    Option UInt64 :=
  if isCanonical address then
    (pageWalk memory x64PageLevels (frameAddress 12 52 cr3) address).bind fun walked =>
      if access.allowedBy walked.2 then some walked.1 else none
  else none

end Hardware

section Exactness

/-- Memory holds the tables of a process storage. -/
structure X64ProcessTables.HeldAt (tables : X64ProcessTables) (memory : ByteMemory)
    (storage : Nat) : Prop where
  root : tableAt memory (Arch.pml4 storage).start.toUInt64 = tables.pml4
  pointers : tableAt memory (Arch.pdpt storage).start.toUInt64 = tables.pdpt
  directory : tableAt memory (Arch.pageDirectory storage).start.toUInt64 = tables.pageDirectory
  low : ∀ tableIndex, tableAt memory (lowPageTable storage tableIndex).start.toUInt64 =
    tables.lowPageTables tableIndex
  user : tableAt memory (Arch.userPageTable storage).start.toUInt64 = tables.userPageTable

/-- A process storage lies at an aligned physical address. -/
structure PlacedStorage (storage : Nat) : Prop where
  aligned : storage % pageSize = 0
  nonnull : 0 < storage
  bounded : storage + sizeofX64ProcessStorage ≤ 2 ^ 52

/-- Flags that mark an entry as present, and not as a large page. -/
structure TableFlags (flags : UInt64) : Prop where
  small : flags.toNat < 2 ^ 7
  present : flags.toNat.testBit 0 = true

theorem supervisorFlags : TableFlags (pagePresent ||| pageWritable) := ⟨by decide, by decide⟩

theorem userFlags : TableFlags (pagePresent ||| pageWritable ||| pageUser) :=
  ⟨by decide, by decide⟩

section Decoding

variable {flags address : UInt64} (hflags : TableFlags flags)
  (haligned : address.toNat % 2 ^ 12 = 0) (hbound : address.toNat < 2 ^ 52)

include hflags

theorem makeTableEntry_testBit {bit : Nat} (hbit : bit < 12) :
    (makeTableEntry address flags).toNat.testBit bit = flags.toNat.testBit bit :=
  testBit_entry rfl address (hflags.small.trans (by decide)) hbit

theorem isLargePage_makeTableEntry : isLargePage (makeTableEntry address flags) = false := by
  rw [isLargePage, makeTableEntry_testBit hflags (by decide)]
  exact Nat.testBit_lt_two_pow hflags.small

include haligned hbound

/-- An entry of an upper level leads to the table it was made for. -/
theorem decode_table {shift : Nat} {endsWalk : UInt64 → Bool}
    (hends : endsWalk (makeTableEntry address flags) = false) :
    decodeX64Entry shift endsWalk (makeTableEntry address flags) =
      .table address ⟨flags.toNat.testBit 1, flags.toNat.testBit 2⟩ := by
  have hframe : frameAddress 12 52 (makeTableEntry address flags) = address :=
    frameAddress_entry rfl haligned hbound (hflags.small.trans (by decide)) (by decide)
  simp only [decodeX64Entry, makeTableEntry_testBit hflags (show 0 < 12 by decide),
    makeTableEntry_testBit hflags (show 1 < 12 by decide),
    makeTableEntry_testBit hflags (show 2 < 12 by decide), hflags.present, hends, hframe,
    Bool.true_eq_false, Bool.false_eq_true, if_false]

/-- An entry of the last level leads to the page it was made for. -/
theorem decode_page :
    decodeX64Entry 12 (fun _ => true) (makeTableEntry address flags) =
      .page address ⟨flags.toNat.testBit 1, flags.toNat.testBit 2⟩ := by
  have hframe : frameAddress 12 52 (makeTableEntry address flags) = address :=
    frameAddress_entry rfl haligned hbound (hflags.small.trans (by decide)) (by decide)
  simp only [decodeX64Entry, makeTableEntry_testBit hflags (show 0 < 12 by decide),
    makeTableEntry_testBit hflags (show 1 < 12 by decide),
    makeTableEntry_testBit hflags (show 2 < 12 by decide), hflags.present, hframe,
    Bool.true_eq_false, if_false, if_true]

end Decoding

theorem decode_zero (shift : Nat) (endsWalk : UInt64 → Bool) :
    decodeX64Entry shift endsWalk 0 = .empty := by
  simp [decodeX64Entry]

end Exactness

section Tables

variable {storage : Nat}

/-- What the loop over the low tables writes. -/
theorem initializeLowIdentityMappings_eq (tables : X64ProcessTables) :
    initializeLowIdentityMappings storage tables =
      { pml4 := Function.update tables.pml4 0 (makeTableEntry (pdpt storage).start.toUInt64
          (pagePresent ||| pageWritable ||| pageUser))
        pdpt := Function.update tables.pdpt 0 (makeTableEntry (pageDirectory storage).start.toUInt64
          (pagePresent ||| pageWritable ||| pageUser))
        pageDirectory := Function.update (Function.update tables.pageDirectory (directoryIndex 0)
            (makeTableEntry (lowPageTable storage 0).start.toUInt64
              (pagePresent ||| pageWritable)))
          (directoryIndex 1) (makeTableEntry (lowPageTable storage 1).start.toUInt64
            (pagePresent ||| pageWritable))
        lowPageTables := fun tableIndex =>
          fillLowPageTable tableIndex (tables.lowPageTables tableIndex)
        userPageTable := tables.userPageTable } := by
  have hindices : List.finRange x64LowPageTableCount = [0, 1] := by decide
  have hlow : Function.update (Function.update tables.lowPageTables 0
      (fillLowPageTable 0 (tables.lowPageTables 0))) 1
        (fillLowPageTable 1 (tables.lowPageTables 1)) =
      fun tableIndex => fillLowPageTable tableIndex (tables.lowPageTables tableIndex) := by
    funext tableIndex
    fin_cases tableIndex
    · rfl
    · rfl
  rw [initializeLowIdentityMappings, hindices]
  simp only [List.foldl_cons, List.foldl_nil]
  rw [← hlow]
  rfl

/-- An entry of a low table maps its page to itself. -/
theorem fillLowPageTable_apply (tableIndex : Fin x64LowPageTableCount) (table : PageTable)
    (index : Fin 512) :
    fillLowPageTable tableIndex table index =
      makeTableEntry (tableIndex.val * 0x200000 + index.val * pageSize).toUInt64
        (pagePresent ||| pageWritable) := by
  rw [fillLowPageTable, foldl_update_apply (fun entryIndex : Fin 512 =>
    makeTableEntry (tableIndex.val * 0x200000 + entryIndex.val * pageSize).toUInt64
      (pagePresent ||| pageWritable)), if_pos (List.mem_finRange index)]

variable (storage) in
/-- The entry of the user region for one of its pages, the stack page being the last one. -/
def userPageEntry (index : Fin 512) : UInt64 :=
  makeTableEntry (storage + userImagePagesOffset + index.val * pageSize).toUInt64
    (pagePresent ||| pageWritable ||| pageUser)

theorem userPageEntry_imagePage (pageIndex : Fin x64UserImagePageCount) :
    userPageEntry storage (imagePageIndex pageIndex) =
      makeTableEntry (userImagePage storage pageIndex).start.toUInt64
        (pagePresent ||| pageWritable ||| pageUser) := by
  rw [userPageEntry, userImagePage, userImagePages, imagePageIndex]

theorem initializeProcessStorage_pml4 (index : Fin 512) :
    (initializeProcessStorage storage).pml4 index =
      if index.val = 0 then makeTableEntry (pdpt storage).start.toUInt64
        (pagePresent ||| pageWritable ||| pageUser) else 0 := by
  rw [initializeProcessStorage, initializeLowIdentityMappings_eq]
  simp only [initializeUserRegion, Function.update_apply, Fin.ext_iff]
  rfl

theorem initializeProcessStorage_pdpt (index : Fin 512) :
    (initializeProcessStorage storage).pdpt index =
      if index.val = 0 then makeTableEntry (pageDirectory storage).start.toUInt64
        (pagePresent ||| pageWritable ||| pageUser) else 0 := by
  rw [initializeProcessStorage, initializeLowIdentityMappings_eq]
  simp only [initializeUserRegion, Function.update_apply, Fin.ext_iff]
  rfl

theorem initializeProcessStorage_low (tableIndex : Fin x64LowPageTableCount) (index : Fin 512) :
    (initializeProcessStorage storage).lowPageTables tableIndex index =
      makeTableEntry (tableIndex.val * 0x200000 + index.val * pageSize).toUInt64
        (pagePresent ||| pageWritable) := by
  rw [initializeProcessStorage, initializeLowIdentityMappings_eq, initializeUserRegion]
  dsimp only
  rw [fillLowPageTable_apply]

theorem initializeProcessStorage_directory (index : Fin 512) :
    (initializeProcessStorage storage).pageDirectory index =
      if index.val = 2 then makeTableEntry (userPageTable storage).start.toUInt64
        (pagePresent ||| pageWritable ||| pageUser)
      else if hlow : index.val < x64LowPageTableCount then
        makeTableEntry (lowPageTable storage ⟨index.val, hlow⟩).start.toUInt64
          (pagePresent ||| pageWritable)
      else 0 := by
  rw [initializeProcessStorage, initializeLowIdentityMappings_eq]
  simp only [initializeUserRegion, Function.update_apply, Fin.ext_iff, directoryIndex]
  simp only [show ((2 : Fin 512)).val = 2 from rfl, show ((1 : Fin x64LowPageTableCount)).val = 1
    from rfl, show ((0 : Fin x64LowPageTableCount)).val = 0 from rfl]
  by_cases huser : index.val = 2
  · rw [if_pos huser, if_pos huser]
  rw [if_neg huser, if_neg huser]
  by_cases hone : index.val = 1
  · have hindex : index = 1 := Fin.ext hone
    subst hindex
    rfl
  by_cases hzero : index.val = 0
  · have hindex : index = 0 := Fin.ext hzero
    subst hindex
    rfl
  have hcount : x64LowPageTableCount = 2 := rfl
  rw [if_neg hone, if_neg hzero, dif_neg (by omega)]
  rfl

theorem initializeProcessStorage_user (index : Fin 512) :
    (initializeProcessStorage storage).userPageTable index =
      if index.val ≤ x64UserImagePageCount then userPageEntry storage index else 0 := by
  have hcount : x64UserImagePageCount = 8 := rfl
  have hloop (table : PageTable) : (List.finRange x64UserImagePageCount).foldl
      (fun current pageIndex => Function.update current (imagePageIndex pageIndex)
        (makeTableEntry (userImagePage storage pageIndex).start.toUInt64
          (pagePresent ||| pageWritable ||| pageUser))) table index =
      if index ∈ (List.finRange x64UserImagePageCount).map imagePageIndex
        then userPageEntry storage index else table index := by
    rw [← foldl_update_apply (userPageEntry storage), List.foldl_map]
    simp only [userPageEntry_imagePage]
  have hmem : index ∈ (List.finRange x64UserImagePageCount).map imagePageIndex ↔
      index.val < x64UserImagePageCount := by
    rw [List.mem_map]
    constructor
    · rintro ⟨pageIndex, -, rfl⟩
      exact pageIndex.isLt
    · exact fun hlt => ⟨⟨index.val, hlt⟩, List.mem_finRange _, rfl⟩
  rw [initializeProcessStorage, initializeLowIdentityMappings_eq]
  simp only [initializeUserRegion, Function.update_apply, hloop, hmem, Fin.ext_iff]
  by_cases hstack : index.val = x64UserImagePageCount
  · rw [if_pos hstack, if_pos hstack.le, userPageEntry, hstack, userStackPage, userStackPageOffset,
      userImageSize, Nat.add_assoc]
  rw [if_neg hstack]
  by_cases himage : index.val < x64UserImagePageCount
  · rw [if_pos himage, if_pos himage.le]
  · rw [if_neg himage, if_neg (by omega)]
    rfl

end Tables

section Walks

/-- What an entry for the kernel only allows. -/
def kernelPermission : PagePermission := ⟨true, false⟩
/-- What an entry of the user region allows. -/
def userPermission : PagePermission := ⟨true, true⟩

/-- The user region maps nine pages from the image base on. -/
def userRegionLimit : Nat := x64UserImageVirtualAddress.toNat + userImageSize + pageSize

variable {storage : Nat} {memory : ByteMemory} {address : UInt64}

theorem pml4_start : (pml4 storage).start = storage := rfl

theorem pdpt_start : (pdpt storage).start = storage + 4096 := rfl

theorem pageDirectory_start : (pageDirectory storage).start = storage + 2 * 4096 := rfl

theorem lowPageTable_start (tableIndex : Fin x64LowPageTableCount) :
    (lowPageTable storage tableIndex).start = storage + (3 + tableIndex.val) * 4096 := rfl

theorem userPageTable_start : (userPageTable storage).start = storage + 5 * 4096 := rfl

theorem toNat_toUInt64_of_lt {value : Nat} (h : value < 2 ^ 52) : value.toUInt64.toNat = value :=
  UInt64.toNat_ofNat_of_lt' (by show value < 2 ^ 64; omega)

/-- No address of a process storage is null. -/
theorem PlacedStorage.ne_zero (h : PlacedStorage storage) {offset : Nat}
    (hoffset : offset < sizeofX64ProcessStorage) : (storage + offset).toUInt64 ≠ 0 := by
  obtain ⟨-, hnonnull, hbound⟩ := h
  intro hzero
  have hnumber := congrArg UInt64.toNat hzero
  rw [toNat_toUInt64_of_lt (by omega), show (0 : UInt64).toNat = 0 from rfl] at hnumber
  omega

/-- An aligned number below the physical limit, as an entry takes it. -/
theorem aligned_toUInt64 (value : Nat) (haligned : value % 2 ^ 12 = 0) (hbound : value < 2 ^ 52) :
    value.toUInt64.toNat % 2 ^ 12 = 0 ∧ value.toUInt64.toNat < 2 ^ 52 := by
  rw [toNat_toUInt64_of_lt hbound]
  exact ⟨haligned, hbound⟩

theorem decode_kernelTable (value shift : Nat) (endsWalk : UInt64 → Bool)
    (haligned : value % 2 ^ 12 = 0) (hbound : value < 2 ^ 52)
    (hends : endsWalk (makeTableEntry value.toUInt64 (pagePresent ||| pageWritable)) = false) :
    decodeX64Entry shift endsWalk (makeTableEntry value.toUInt64 (pagePresent ||| pageWritable)) =
      .table value.toUInt64 kernelPermission := by
  obtain ⟨haligned, hbound⟩ := aligned_toUInt64 value haligned hbound
  rw [decode_table supervisorFlags haligned hbound hends]
  rfl

theorem decode_userTable (value shift : Nat) (endsWalk : UInt64 → Bool)
    (haligned : value % 2 ^ 12 = 0) (hbound : value < 2 ^ 52)
    (hends : endsWalk (makeTableEntry value.toUInt64
      (pagePresent ||| pageWritable ||| pageUser)) = false) :
    decodeX64Entry shift endsWalk (makeTableEntry value.toUInt64
      (pagePresent ||| pageWritable ||| pageUser)) =
      .table value.toUInt64 userPermission := by
  obtain ⟨haligned, hbound⟩ := aligned_toUInt64 value haligned hbound
  rw [decode_table userFlags haligned hbound hends]
  rfl

/-- The page of an address and the offset in it make up the translated address. -/
theorem toUInt64_add_offset (value : Nat) (level : PageLevel PagePermission) (hshift : level.shift = 12) :
    value.toUInt64 + level.offset address = (value + address.toNat % 2 ^ 12).toUInt64 := by
  rw [PageLevel.offset, hshift]
  exact (UInt64.ofNat_add ..).symm

theorem pageWalk_of_zero {shift : Nat} {endsWalk : UInt64 → Bool} {table : UInt64}
    {levels : List (PageLevel PagePermission)}
    (h : tableAt memory table (PageLevel.index ⟨shift, decodeX64Entry shift endsWalk⟩ address) = 0) :
    pageWalk memory (⟨shift, decodeX64Entry shift endsWalk⟩ :: levels) table address = none := by
  refine pageWalk_empty ?_
  rw [h]
  exact decode_zero shift endsWalk

variable (hheld : (initializeProcessStorage storage).HeldAt memory storage)

include hheld

/-- A low table maps each of its addresses to itself. -/
theorem pageWalk_low (tableIndex : Fin x64LowPageTableCount)
    (haddress : address.toNat / 2 ^ 21 = tableIndex.val) :
    pageWalk memory [⟨12, decodeX64Entry 12 fun _ => true⟩]
        (lowPageTable storage tableIndex).start.toUInt64 address =
      some (address, [kernelPermission]) := by
  have hcount : tableIndex.val < 2 := tableIndex.isLt
  have hpage : pageSize = 4096 := rfl
  have hvalue (level : PageLevel PagePermission) (hshift : level.shift = 12) :
      tableIndex.val * 0x200000 + (level.index address).val * pageSize =
        address.toNat / 2 ^ 12 * 2 ^ 12 := by
    rw [PageLevel.index_val, hshift, hpage]
    omega
  have hentry : tableAt memory (lowPageTable storage tableIndex).start.toUInt64
      (PageLevel.index ⟨12, decodeX64Entry 12 fun _ => true⟩ address) =
        makeTableEntry (address.toNat / 2 ^ 12 * 2 ^ 12).toUInt64
          (pagePresent ||| pageWritable) := by
    rw [hheld.low, initializeProcessStorage_low, hvalue _ rfl]
  obtain ⟨haligned, hbound⟩ := aligned_toUInt64 (address.toNat / 2 ^ 12 * 2 ^ 12)
    (by omega) (by omega)
  have hdecode := decode_page supervisorFlags haligned hbound
  rw [← hentry] at hdecode
  rw [pageWalk_page hdecode, toUInt64_add_offset _ _ rfl, Nat.div_add_mod']
  simp only [Nat.toUInt64_eq, UInt64.ofNat_toNat]
  rfl

variable (hplaced : PlacedStorage storage)

include hplaced

variable (address) in
/-- The table of the user region maps its first nine pages. -/
theorem pageWalk_user :
    pageWalk memory [⟨12, decodeX64Entry 12 fun _ => true⟩]
        (userPageTable storage).start.toUInt64 address =
      if address.toNat % 2 ^ 21 < userImageSize + pageSize then
        some ((storage + userImagePagesOffset + address.toNat % 2 ^ 21).toUInt64, [userPermission])
      else none := by
  obtain ⟨haligned, -, hbound⟩ := hplaced
  have hpage : pageSize = 4096 := rfl
  have hcount : x64UserImagePageCount = 8 := rfl
  have himage : userImageSize = 8 * 4096 := rfl
  have hoffset : userImagePagesOffset = 6 * 4096 := rfl
  have hsize : sizeofX64ProcessStorage = 15 * 4096 := rfl
  rw [hpage] at haligned
  have hval (level : PageLevel PagePermission) (hshift : level.shift = 12) :
      (level.index address).val = address.toNat / 2 ^ 12 % 512 := by
    rw [PageLevel.index_val, hshift]
  have hentry : tableAt memory (userPageTable storage).start.toUInt64
      (PageLevel.index ⟨12, decodeX64Entry 12 fun _ => true⟩ address) =
        if address.toNat / 2 ^ 12 % 512 ≤ 8 then
          makeTableEntry (storage + userImagePagesOffset +
            address.toNat / 2 ^ 12 % 512 * 4096).toUInt64
              (pagePresent ||| pageWritable ||| pageUser)
        else 0 := by
    rw [hheld.user, initializeProcessStorage_user, userPageEntry, hval _ rfl, hcount, hpage]
  by_cases hmapped : address.toNat / 2 ^ 12 % 512 ≤ 8
  · rw [if_pos hmapped] at hentry
    obtain ⟨halignedPage, hboundPage⟩ := aligned_toUInt64
      (storage + userImagePagesOffset + address.toNat / 2 ^ 12 % 512 * 4096)
      (by omega) (by omega)
    have hdecode := decode_page userFlags halignedPage hboundPage
    rw [← hentry] at hdecode
    have htarget : storage + userImagePagesOffset + address.toNat / 2 ^ 12 % 512 * 4096 +
        address.toNat % 2 ^ 12 = storage + userImagePagesOffset + address.toNat % 2 ^ 21 := by
      omega
    rw [pageWalk_page hdecode, toUInt64_add_offset _ _ rfl, htarget, if_pos (by omega)]
    rfl
  · rw [if_neg hmapped] at hentry
    rw [pageWalk_of_zero hentry, if_neg (by omega)]

/-- The page directory maps the low 4 MiB for the kernel, and the user region. -/
theorem pageWalk_directory (haddress : address.toNat < 2 ^ 30) :
    pageWalk memory [⟨21, decodeX64Entry 21 isLargePage⟩, ⟨12, decodeX64Entry 12 fun _ => true⟩]
        (pageDirectory storage).start.toUInt64 address =
      if address.toNat < x64UserImageVirtualAddress.toNat then
        some (address, [kernelPermission, kernelPermission])
      else if address.toNat < userRegionLimit then
        some ((storage + userImagePagesOffset +
          (address.toNat - x64UserImageVirtualAddress.toNat)).toUInt64,
          [userPermission, userPermission])
      else none := by
  obtain ⟨haligned, -, hbound⟩ := id hplaced
  have hpage : pageSize = 4096 := rfl
  have hcount : x64LowPageTableCount = 2 := rfl
  have hsize : sizeofX64ProcessStorage = 15 * 4096 := rfl
  have hbase : x64UserImageVirtualAddress.toNat = 2 * 2 ^ 21 := rfl
  have hlimit : userRegionLimit = 2 * 2 ^ 21 + (userImageSize + pageSize) := rfl
  have himage : userImageSize = 8 * 4096 := rfl
  rw [hpage] at haligned
  have hval (level : PageLevel PagePermission) (hshift : level.shift = 21) :
      (level.index address).val = address.toNat / 2 ^ 21 := by
    rw [PageLevel.index_val, hshift]
    omega
  have hentry := congrFun hheld.directory
    (PageLevel.index ⟨21, decodeX64Entry 21 isLargePage⟩ address)
  rw [initializeProcessStorage_directory, hval _ rfl] at hentry
  by_cases huser : address.toNat / 2 ^ 21 = 2
  · rw [if_pos huser] at hentry
    have hdecode := decode_userTable (userPageTable storage).start 21 isLargePage
      (by rw [userPageTable_start]; omega)
      (by rw [userPageTable_start]; omega) (isLargePage_makeTableEntry userFlags)
    rw [← hentry] at hdecode
    have hwalk := pageWalk_user address hheld hplaced
    have hoffset : address.toNat % 2 ^ 21 = address.toNat - x64UserImageVirtualAddress.toNat := by
      omega
    have hbelow : ¬ address.toNat < x64UserImageVirtualAddress.toNat := by omega
    rw [pageWalk_table hdecode, hwalk, hoffset, if_neg hbelow]
    by_cases hregion : address.toNat < userRegionLimit
    · rw [if_pos hregion, if_pos (by omega)]
      rfl
    · rw [if_neg hregion, if_neg (by omega)]
      rfl
  rw [if_neg huser] at hentry
  by_cases hlow : address.toNat / 2 ^ 21 < x64LowPageTableCount
  · rw [dif_pos hlow] at hentry
    have hdecode := decode_kernelTable
      (lowPageTable storage ⟨address.toNat / 2 ^ 21, hlow⟩).start 21 isLargePage
      (by rw [lowPageTable_start]; omega) (by rw [lowPageTable_start]; omega)
      (isLargePage_makeTableEntry supervisorFlags)
    rw [← hentry] at hdecode
    have hwalk := pageWalk_low hheld ⟨address.toNat / 2 ^ 21, hlow⟩ rfl
    rw [pageWalk_table hdecode, hwalk, if_pos (by omega)]
    rfl
  · rw [dif_neg hlow] at hentry
    rw [pageWalk_of_zero hentry, if_neg (by omega), if_neg (by omega)]

/-- What a walk from the root finds for an address below the canonical gap. -/
theorem pageWalk_root (hcanonical : isCanonical address = true) :
    pageWalk memory x64PageLevels (pml4 storage).start.toUInt64 address =
      if address.toNat < x64UserImageVirtualAddress.toNat then
        some (address, [userPermission, userPermission, kernelPermission, kernelPermission])
      else if address.toNat < userRegionLimit then
        some ((storage + userImagePagesOffset +
          (address.toNat - x64UserImageVirtualAddress.toNat)).toUInt64,
          [userPermission, userPermission, userPermission, userPermission])
      else none := by
  obtain ⟨haligned, -, hbound⟩ := id hplaced
  have hpage : pageSize = 4096 := rfl
  have hsize : sizeofX64ProcessStorage = 15 * 4096 := rfl
  have hbase : x64UserImageVirtualAddress.toNat = 0x400000 := rfl
  have hlimit : userRegionLimit = 0x409000 := rfl
  rw [hpage] at haligned
  have haddress : address.toNat < 2 ^ 47 ∨ 2 ^ 64 - 2 ^ 47 ≤ address.toNat := by
    simpa [isCanonical] using hcanonical
  have hlt := address.toNat_lt
  -- The root has one entry, and so has the table behind it.
  have hroot := congrFun hheld.root (PageLevel.index ⟨39, decodeX64Entry 39 fun _ => false⟩ address)
  rw [initializeProcessStorage_pml4, PageLevel.index_val] at hroot
  by_cases hfirst : address.toNat / 2 ^ 39 % 512 = 0
  swap
  · rw [if_neg hfirst] at hroot
    rw [x64PageLevels, pageWalk_of_zero hroot, if_neg (by omega), if_neg (by omega)]
  rw [if_pos hfirst] at hroot
  have hdecode := decode_userTable (pdpt storage).start 39 (fun _ => false)
    (by rw [pdpt_start]; omega) (by rw [pdpt_start]; omega) rfl
  rw [← hroot] at hdecode
  rw [x64PageLevels, pageWalk_table hdecode]
  have hpointers := congrFun hheld.pointers
    (PageLevel.index ⟨30, decodeX64Entry 30 isLargePage⟩ address)
  rw [initializeProcessStorage_pdpt, PageLevel.index_val] at hpointers
  by_cases hsecond : address.toNat / 2 ^ 30 % 512 = 0
  swap
  · rw [if_neg hsecond] at hpointers
    rw [pageWalk_of_zero hpointers, if_neg (by omega), if_neg (by omega)]
    rfl
  rw [if_pos hsecond] at hpointers
  have hdecode := decode_userTable (pageDirectory storage).start 30 isLargePage
    (by rw [pageDirectory_start]; omega)
    (by rw [pageDirectory_start]; omega) (isLargePage_makeTableEntry userFlags)
  rw [← hpointers] at hdecode
  rw [pageWalk_table hdecode, pageWalk_directory hheld hplaced (by omega)]
  split
  · rfl
  split
  · rfl
  · rfl

/-- What the processor translates: the low 4 MiB to themselves, for the kernel only, and the user
region to its pages. -/
theorem x64Translate_eq (access : PageAccess) :
    x64Translate memory (pml4 storage).start.toUInt64 access address =
      if address.toNat < x64UserImageVirtualAddress.toNat then
        (if access.user then none else some address)
      else if address.toNat < userRegionLimit then
        some (storage + userImagePagesOffset +
          (address.toNat - x64UserImageVirtualAddress.toNat)).toUInt64
      else none := by
  have hbase : x64UserImageVirtualAddress.toNat = 0x400000 := rfl
  have hlimit : userRegionLimit = 0x409000 := rfl
  have hroot : frameAddress 12 52 (pml4 storage).start.toUInt64 = (pml4 storage).start.toUInt64 := by
    obtain ⟨haligned, -, hbound⟩ := hplaced
    have hsize : sizeofX64ProcessStorage = 15 * 4096 := rfl
    obtain ⟨haligned, hbound⟩ := aligned_toUInt64 (pml4 storage).start haligned
      (by rw [pml4_start]; omega)
    exact frameAddress_aligned haligned hbound
  unfold x64Translate
  rw [hroot]
  by_cases hcanonical : isCanonical address = true
  swap
  · have hbeyond : ¬ address.toNat < 2 ^ 47 := fun hlt => hcanonical (by
      rw [isCanonical, decide_eq_true hlt, Bool.true_or])
    rw [if_neg hcanonical, if_neg (by omega), if_neg (by omega)]
  rw [if_pos hcanonical, pageWalk_root hheld hplaced hcanonical]
  obtain ⟨user, store⟩ := access
  split
  · cases user <;> cases store <;> rfl
  split
  · cases user <;> cases store <;> rfl
  · rfl

end Walks

section AddressSpaces

variable {storage : Nat} {addressSpaceInfo : AddressSpace}

theorem bootstrapAddressSpace_root (hspace : bootstrapAddressSpace storage = some addressSpaceInfo) :
    addressSpaceInfo.archRootTable = (pml4 storage).start.toUInt64 := by
  simp only [bootstrapAddressSpace, addAddressSpaceMapping] at hspace
  split_ifs at hspace <;> simp_all
  rw [← hspace]

theorem bootstrapAddressSpace_built
    (hspace : bootstrapAddressSpace storage = some addressSpaceInfo) :
    BuiltAddressSpace addressSpaceInfo := by
  simp only [bootstrapAddressSpace] at hspace
  split at hspace
  · obtain rfl := Option.some.inj hspace
    exact .add _ _ _ (.add _ _ _ (.empty _))
  · cases hspace

/-- The address space of a process maps the user region to its pages. -/
theorem byteTranslation_bootstrap (hplaced : PlacedStorage storage)
    (hspace : bootstrapAddressSpace storage = some addressSpaceInfo) (address : UInt64) :
    byteTranslation addressSpaceInfo address =
      if address.toNat < x64UserImageVirtualAddress.toNat then none
      else if address.toNat < userRegionLimit then
        some (storage + userImagePagesOffset +
          (address.toNat - x64UserImageVirtualAddress.toNat)).toUInt64
      else none := by
  have hpos := @PlacedStorage.ne_zero storage hplaced
  obtain ⟨-, hnonnull, hbound⟩ := hplaced
  have hbase : x64UserImageVirtualAddress.toNat = 0x400000 := rfl
  have hstack : x64UserStackVirtualAddress.toNat = 0x408000 := rfl
  have hlimit : userRegionLimit = 0x409000 := rfl
  have hoffset : userImagePagesOffset = 0x6000 := rfl
  have hsize : sizeofX64ProcessStorage = 0xF000 := rfl
  have himage : (userImagePages storage).start = storage + 0x6000 := rfl
  have hpage : (userStackPage storage).start = storage + 0xE000 := rfl
  have himageSize : (userImageSize.toUInt64).toNat = 0x8000 := rfl
  have hpageSize : (pageSize.toUInt64).toNat = 0x1000 := rfl
  have hbuilt := bootstrapAddressSpace_built hspace
  have hmappings := bootstrapAddressSpace_mappings hspace
  rw [himage, hpage] at hmappings
  have hhost {value : Nat} (h : value < 0xF000) :
      (storage + value).toUInt64.toNat = storage + value :=
    toNat_toUInt64_of_lt (by omega)
  -- Either mapping puts an address of its own at the same offset from the image pages.
  have hmapped {start size : UInt64} {host : Nat}
      (hmem : ⟨start, (storage + host).toUInt64, size⟩ ∈ addressSpaceInfo.mappings)
      (hlow : start.toNat ≤ address.toNat) (hhigh : address.toNat < start.toNat + size.toNat)
      (hfit : host + size.toNat ≤ 0xF000) (hlt : host < 0xF000)
      (hsame : start.toNat - 0x400000 = host - 0x6000) (hstart : 0x400000 ≤ start.toNat)
      (hfirst : 0x6000 ≤ host) :
      byteTranslation addressSpaceInfo address =
        some (storage + 0x6000 + (address.toNat - 0x400000)).toUInt64 := by
    rw [byteTranslation_of_holds hbuilt hmem (hpos hlt) ⟨hlow, hhigh⟩]
    refine congrArg some (UInt64.toNat_inj.mp ?_)
    rw [UInt64.toNat_add, UInt64.toNat_sub_of_le _ _ (UInt64.le_iff_toNat_le.mpr hlow), hhost hlt,
      toNat_toUInt64_of_lt (by omega)]
    omega
  rw [hbase, hlimit, hoffset]
  by_cases hbelow : address.toNat < 0x400000
  · rw [if_pos hbelow]
    refine byteTranslation_of_unmapped hbuilt fun h => ?_
    obtain ⟨mapping, hmem, -, hlow, hhigh⟩ := (mappedAt_iff hbuilt).mp h
    rw [hmappings, List.mem_cons, List.mem_singleton] at hmem
    rcases hmem with rfl | rfl
    · dsimp only at hlow
      omega
    · dsimp only at hlow
      omega
  rw [if_neg hbelow]
  by_cases himages : address.toNat < 0x408000
  · rw [if_pos (by omega)]
    exact hmapped (by rw [hmappings]; exact List.mem_cons_self) (by omega) (by omega) (by omega)
      (by omega) (by omega) (by omega) (by omega)
  by_cases hstacked : address.toNat < 0x409000
  · rw [if_pos hstacked]
    exact hmapped (by rw [hmappings]; exact List.mem_cons_of_mem _ List.mem_cons_self) (by omega)
      (by omega) (by omega) (by omega) (by omega) (by omega) (by omega)
  · rw [if_neg hstacked]
    refine byteTranslation_of_unmapped hbuilt fun h => ?_
    obtain ⟨mapping, hmem, -, hlow, hhigh⟩ := (mappedAt_iff hbuilt).mp h
    rw [hmappings, List.mem_cons, List.mem_singleton] at hmem
    rcases hmem with rfl | rfl
    · dsimp only at hhigh
      omega
    · dsimp only at hhigh
      omega

/-- The processor and the address space of a process agree on every user address, and the kernel
reaches the low 4 MiB under the tables of any process. -/
theorem processTables_exact {memory : ByteMemory}
    (hheld : (initializeProcessStorage storage).HeldAt memory storage)
    (hplaced : PlacedStorage storage)
    (hspace : bootstrapAddressSpace storage = some addressSpaceInfo) (store : Bool)
    (address : UInt64) :
    x64Translate memory addressSpaceInfo.archRootTable ⟨true, store⟩ address =
        byteTranslation addressSpaceInfo address ∧
      x64Translate memory addressSpaceInfo.archRootTable ⟨false, store⟩ address =
        if address < x64UserImageVirtualAddress then some address
        else byteTranslation addressSpaceInfo address := by
  rw [bootstrapAddressSpace_root hspace, x64Translate_eq hheld hplaced, x64Translate_eq hheld hplaced,
    byteTranslation_bootstrap hplaced hspace]
  simp only [if_true, UInt64.lt_iff_toNat_lt, Bool.false_eq_true, if_false, true_and]
  split
  · rfl
  · rfl

end AddressSpaces

end Ringos.Arch

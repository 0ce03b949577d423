import Ringos.Image.LoaderBounds
import Ringos.Image.X64Pe64Image
import Ringos.Arch.EmulatorThread

/-!
# Loading a process image on x64

The x64 kernel loads an image into the image pages of the process storage, but
gives the loader the size of the whole user region, which is two pages more. The
loader clears the buffer it is given before it looks at the image, so every load
runs over the stack page and over the page behind the storage. For the first
process that page is the root page table of the second one; for the second it
starts with the block of the CPU.
-/

namespace Ringos.Arch

open Ringos.Core Ringos.Kernel Ringos.Image

/-- A range of host addresses. -/
structure AddressRange where
  start : Nat
  length : Nat
  deriving DecidableEq

/-- The address lies in the range. -/
def AddressRange.Contains (range : AddressRange) (address : Nat) : Prop :=
  range.start ≤ address ∧ address < range.start + range.length

section Layout

/-- `PAGE_SIZE`. -/
def pageSize : Nat := x64UserImagePageSize.toNat
/-- `X64_USER_IMAGE_PAGE_COUNT`. -/
def x64UserImagePageCount : Nat := 8
/-- `X64_LOW_PAGE_TABLE_COUNT`. -/
def x64LowPageTableCount : Nat := 0x400000 / 0x200000
/-- `USER_IMAGE_SIZE`. -/
def userImageSize : Nat := x64UserImagePageCount * pageSize
/-- `X64_USER_STACK_VIRTUAL_ADDRESS`. -/
def x64UserStackVirtualAddress : UInt64 := x64UserImageVirtualAddress + userImageSize.toUInt64
/-- `USER_RUNTIME_MAX_INITIAL_PROCESSES`. -/
abbrev userRuntimeMaxInitialProcesses : Nat := 2

/-- The offset of `user_image_pages` in `x64_process_storage`, behind the three upper page tables,
the low ones and the one of the user region. -/
def userImagePagesOffset : Nat := (3 + x64LowPageTableCount + 1) * pageSize
/-- The offset of `user_stack_page`. -/
def userStackPageOffset : Nat := userImagePagesOffset + userImageSize
/-- `sizeof(x64_process_storage)`. -/
def sizeofX64ProcessStorage : Nat := userStackPageOffset + pageSize

/-- The platform object, by its address: the process storages and behind them the CPU's block. -/
structure X64Platform where
  address : Nat

/-- `m_process_storage[processIndex]`. -/
def X64Platform.processStorage (platform : X64Platform)
    (processIndex : Fin userRuntimeMaxInitialProcesses) : Nat :=
  platform.address + processIndex.val * sizeofX64ProcessStorage

/-- `m_cpu_local`, two 64-bit words. -/
def X64Platform.cpuLocal (platform : X64Platform) : AddressRange :=
  ⟨platform.address + userRuntimeMaxInitialProcesses * sizeofX64ProcessStorage, 16⟩

/-- `storage.pml4`. -/
def pml4 (storage : Nat) : AddressRange := ⟨storage, pageSize⟩
/-- `storage.user_image_pages`. -/
def userImagePages (storage : Nat) : AddressRange := ⟨storage + userImagePagesOffset, userImageSize⟩
/-- `storage.user_stack_page`. -/
def userStackPage (storage : Nat) : AddressRange := ⟨storage + userStackPageOffset, pageSize⟩

end Layout

/-- What `initialize_user_image` leaves: the entry point or the text of its panic, the image
information, and the ranges it has written. -/
structure UserImageRun where
  entryPoint : Except String UInt64
  info : X64Pe64ImageInfo
  writes : List AddressRange

/-- The ranges behind a buffer that a log of the loader has written. -/
def loaderWrites (loadedImage : Nat) (result : X64LoadResult) : List AddressRange :=
  (result.base.accesses.filterMap fun
    | .writeLoaded offset length => some ⟨loadedImage + offset, length⟩
    | .readImage _ _ => none) ++
  result.imports.accesses.filterMap fun
    | .write offset length => some ⟨loadedImage + offset, length⟩
    | .read _ _ => none

/-- `initialize_user_image`, over what the host memory holds. -/
def initializeUserImage (storage : Nat) (imageBytes : List UInt8) (memory : Nat → UInt8) :
    UserImageRun :=
  let loadedImage := (userImagePages storage).start
  let result := loadX64Pe64Image imageBytes x64UserImageVirtualAddress
    (fun offset => memory (loadedImage + offset)) x64UserRegionSize none
  let writes := loaderWrites loadedImage result
  if result.status ≠ .ok then
    ⟨.error (describeX64Pe64ImageLoadStatus result.status), result.info, writes⟩
  else
    ⟨.ok result.info.entryPoint, result.info,
      ⟨(userStackPage storage).start + pageSize - 8, 8⟩ :: writes⟩

/-- The part of `populate_bootstrap_for_process` that maps the image and the stack; `none` is its
panic. -/
def bootstrapAddressSpace (storage : Nat) : Option AddressSpace :=
  let image := addAddressSpaceMapping ⟨(pml4 storage).start.toUInt64, []⟩
    x64UserImageVirtualAddress (userImagePages storage).start.toUInt64 userImageSize.toUInt64
  let stack := addAddressSpaceMapping image.2 x64UserStackVirtualAddress
    (userStackPage storage).start.toUInt64 pageSize.toUInt64
  if image.1 && stack.1 then some stack.2 else none

/-- Only the image pages and the stack page of the process are written, and the range of a loaded
image lies in the pages that are mapped for it. -/
structure StaysInProcess (platform : X64Platform)
    (processIndex : Fin userRuntimeMaxInitialProcesses) (imageBytes : List UInt8)
    (memory : Nat → UInt8) : Prop where
  writes : ∀ range ∈ (initializeUserImage (platform.processStorage processIndex) imageBytes
      memory).writes, ∀ address, range.Contains address →
    (userImagePages (platform.processStorage processIndex)).Contains address ∨
      (userStackPage (platform.processStorage processIndex)).Contains address
  range : (initializeUserImage (platform.processStorage processIndex) imageBytes
      memory).entryPoint.isOk = true →
    x64UserImageVirtualAddress.toNat + (initializeUserImage (platform.processStorage processIndex)
      imageBytes memory).info.imageSize.toNat ≤ x64UserImageVirtualAddress.toNat + userImageSize

/-- What follows the storage of a process: the root page table of the next one, or the block of the
CPU. -/
def X64Platform.behindStorage (platform : X64Platform) :
    Fin userRuntimeMaxInitialProcesses → AddressRange
  | 0 => pml4 (platform.processStorage 1)
  | 1 => platform.cpuLocal

/-- Every byte of the range is written. -/
def UserImageRun.Overwrites (run : UserImageRun) (range : AddressRange) : Prop :=
  ∃ written ∈ run.writes, ∀ address, range.Contains address → written.Contains address

/-- The mappings of a process: the image pages and the stack page. -/
theorem bootstrapAddressSpace_mappings {storage : Nat} {addressSpaceInfo : AddressSpace}
    (h : bootstrapAddressSpace storage = some addressSpaceInfo) :
    addressSpaceInfo.mappings =
      [⟨x64UserImageVirtualAddress, (userImagePages storage).start.toUInt64,
          userImageSize.toUInt64⟩,
        ⟨x64UserStackVirtualAddress, (userStackPage storage).start.toUInt64,
          pageSize.toUInt64⟩] := by
  simp only [bootstrapAddressSpace, addAddressSpaceMapping] at h
  split_ifs at h <;> simp_all
  rw [← h]

/-- The loader runs over the whole region, whatever the image. -/
theorem initializeUserImage_clears (storage : Nat) (imageBytes : List UInt8)
    (memory : Nat → UInt8) :
    ⟨(userImagePages storage).start, x64UserRegionSize.toNat⟩ ∈
      (initializeUserImage storage imageBytes memory).writes := by
  have hclears := loadPe32PlusImage_clears imageBytes
    (fun offset => memory ((userImagePages storage).start + offset)) default
    (x64Pe64LoadConfig x64UserImageVirtualAddress x64UserRegionSize)
  have hwritten : (⟨(userImagePages storage).start, x64UserRegionSize.toNat⟩ : AddressRange) ∈
      loaderWrites (userImagePages storage).start (loadX64Pe64Image imageBytes
        x64UserImageVirtualAddress (fun offset => memory ((userImagePages storage).start + offset))
        x64UserRegionSize none) := by
    refine List.mem_append_left _ (List.mem_filterMap.mpr
      ⟨.writeLoaded 0 x64UserRegionSize.toNat, ?_, rfl⟩)
    unfold loadX64Pe64Image
    dsimp only
    split
    · exact hclears
    · split
      · exact hclears
      · exact hclears
  unfold initializeUserImage
  dsimp only
  split
  · exact hwritten
  · exact List.mem_cons_of_mem _ hwritten

/-- The pages of the region that belong to nobody: the image pages and the stack page are followed
by the end of the storage. -/
theorem not_own_of_behind {storage address : Nat}
    (h : storage + sizeofX64ProcessStorage ≤ address) :
    ¬ (userImagePages storage).Contains address ∧ ¬ (userStackPage storage).Contains address := by
  simp only [AddressRange.Contains, userImagePages, userStackPage, sizeofX64ProcessStorage,
    userStackPageOffset] at h ⊢
  omega

/-- It lies in the page behind the storage. -/
theorem behindStorage_contains {platform : X64Platform}
    {processIndex : Fin userRuntimeMaxInitialProcesses} {address : Nat}
    (h : (platform.behindStorage processIndex).Contains address) :
    platform.processStorage processIndex + sizeofX64ProcessStorage ≤ address ∧
      address < platform.processStorage processIndex + sizeofX64ProcessStorage + pageSize := by
  have hpage : pageSize = 4096 := rfl
  match processIndex, h with
  | 0, h =>
    simp only [X64Platform.behindStorage, pml4, AddressRange.Contains, X64Platform.processStorage,
      Fin.val_zero, Fin.val_one] at h ⊢
    omega
  | 1, h =>
    simp only [X64Platform.behindStorage, X64Platform.cpuLocal, AddressRange.Contains,
      X64Platform.processStorage, userRuntimeMaxInitialProcesses, Fin.val_one] at h ⊢
    omega

/-- No load stays in its process: every one clears what follows the storage. -/
theorem initializeUserImage_overruns (platform : X64Platform)
    (processIndex : Fin userRuntimeMaxInitialProcesses) (imageBytes : List UInt8)
    (memory : Nat → UInt8) :
    ¬ StaysInProcess platform processIndex imageBytes memory ∧
      (initializeUserImage (platform.processStorage processIndex) imageBytes memory).Overwrites
        (platform.behindStorage processIndex) := by
  have hclears := initializeUserImage_clears (platform.processStorage processIndex) imageBytes
    memory
  have hregion : x64UserRegionSize.toNat = userImageSize + 2 * pageSize := rfl
  have hpositive : 0 < pageSize := by decide
  refine ⟨fun hstays => ?_, _, hclears, fun address haddress => ?_⟩
  · obtain ⟨himage, hstack⟩ := not_own_of_behind
      (Nat.le_refl (platform.processStorage processIndex + sizeofX64ProcessStorage))
    have howned := hstays.writes _ hclears
      (platform.processStorage processIndex + sizeofX64ProcessStorage) (by
        simp only [AddressRange.Contains, userImagePages, sizeofX64ProcessStorage,
          userStackPageOffset, hregion]
        omega)
    exact howned.elim himage hstack
  · obtain ⟨hbehind, hpage⟩ := behindStorage_contains haddress
    simp only [sizeofX64ProcessStorage, userStackPageOffset] at hbehind hpage
    simp only [AddressRange.Contains, userImagePages, hregion]
    omega

/-- An image of ten pages with one section that is empty in the file. -/
def tenPageImage : List UInt8 := overlongImage.set 344 0

/-- The image is accepted and its range runs over the stack page and behind it. -/
theorem tenPageImage_overruns :
    (initializeUserImage ((X64Platform.mk 0x100000).processStorage 0) tenPageImage
        fun _ => 0).entryPoint.isOk = true ∧
      userImageSize < (initializeUserImage ((X64Platform.mk 0x100000).processStorage 0) tenPageImage
        fun _ => 0).info.imageSize.toNat ∧
      ¬ StaysInProcess ⟨0x100000⟩ 0 tenPageImage fun _ => 0 := by
  have haccepted : (initializeUserImage ((X64Platform.mk 0x100000).processStorage 0) tenPageImage
      fun _ => 0).entryPoint.isOk = true := by decide +kernel
  have hsize : userImageSize < (initializeUserImage ((X64Platform.mk 0x100000).processStorage 0)
      tenPageImage fun _ => 0).info.imageSize.toNat := by decide +kernel
  refine ⟨haccepted, hsize, fun hstays => ?_⟩
  have hrange := hstays.range haccepted
  omega

end Ringos.Arch

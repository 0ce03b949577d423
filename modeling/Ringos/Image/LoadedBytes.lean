import Ringos.Image.ImageLayout
import Ringos.Image.X64Pe64Image

/-!
# The bytes that a load changes

A byte that a load has changed lies in a range that it has logged as written. So
a load that stays inside the loaded image leaves the memory behind it alone.
Without a resolver the phase of the imports refuses the first one and writes
nothing.
-/

namespace Ringos.Image

open Ringos.Core Load

/-- Every byte that is not what it was before lies in a range that has been written. -/
def LoadState.Logs (before : Nat → UInt8) (state : LoadState) : Prop :=
  ∀ offset, state.loadedImage offset ≠ before offset →
    ∃ start length, BufferAccess.writeLoaded start length ∈ state.accesses ∧
      start ≤ offset ∧ offset < start + length

section Log

variable {before : Nat → UInt8}

/-- A logged write. -/
theorem LoadState.Logs.put {state : LoadState} (h : state.Logs before) {start length : Nat}
    {bytes : List UInt8} (hlength : bytes.length ≤ length) {accesses : List BufferAccess}
    (hwritten : .writeLoaded start length ∈ accesses)
    (hkept : ∀ access ∈ state.accesses, access ∈ accesses) :
    LoadState.Logs before { state with
      loadedImage := putBytes state.loadedImage start bytes
      accesses := accesses } := by
  intro offset hchanged
  by_cases hinside : start ≤ offset ∧ offset < start + length
  · exact ⟨start, length, hwritten, hinside⟩
  · have hsame : putBytes state.loadedImage start bytes offset = state.loadedImage offset :=
      putBytes_outside (by omega)
    obtain ⟨earlier, size, hmem, hrange⟩ := h offset (hsame ▸ hchanged)
    exact ⟨earlier, size, hkept _ hmem, hrange⟩

instance note_logs (access : BufferAccess) :
    Attempt.Keeps (LoadState.Logs before) (note access) :=
  .update fun _ h offset hchanged => by
    obtain ⟨start, length, hmem, hrange⟩ := h offset hchanged
    exact ⟨start, length, List.mem_cons_of_mem access hmem, hrange⟩

instance refuse_logs {α : Type} (status : PeImageLoadStatus) :
    Attempt.Keeps (LoadState.Logs before) (refuse status : Load α) :=
  have _ : Attempt.Keeps (LoadState.Logs before) (Attempt.update fun state : LoadState =>
      { state with status := status }) := .update fun _ h => h
  .bind _ _

instance check_logs {α : Type} (result : Except PeImageLoadStatus α) :
    Attempt.Keeps (LoadState.Logs before) (check result) := by
  cases result with
  | ok _ => exact inferInstanceAs (Attempt.Keeps _ (pure _))
  | error status => exact refuse_logs status

instance clearLoaded_logs (offset length : Nat) :
    Attempt.Keeps (LoadState.Logs before) (clearLoaded offset length) where
  kept h := h.put (Nat.le_of_eq List.length_replicate) List.mem_cons_self
    fun _ hmem => List.mem_cons_of_mem _ hmem

instance copyToLoaded_logs (imageBytes : List UInt8) (offset source length : Nat) :
    Attempt.Keeps (LoadState.Logs before) (copyToLoaded imageBytes offset source length) where
  kept h := h.put (List.length_take_le ..) List.mem_cons_self
    fun _ hmem => List.mem_cons_of_mem _ (List.mem_cons_of_mem _ hmem)

instance copyEmbeddedRecord_logs (imageBytes : List UInt8) (recordSize offset : Nat)
    (status : PeImageLoadStatus) :
    Attempt.Keeps (LoadState.Logs before)
      (copyEmbeddedRecord imageBytes recordSize offset status) := by
  unfold copyEmbeddedRecord
  infer_instance

instance loadSection_logs (imageBytes : List UInt8) (ntHeadersOffset : Nat)
    (ntHeaders : PeNtHeaders) (sectionIndex : Nat) :
    Attempt.Keeps (LoadState.Logs before)
      (loadSection imageBytes ntHeadersOffset ntHeaders sectionIndex) := by
  unfold loadSection copySectionData clearSectionTail
  infer_instance

instance loadSections_logs (imageBytes : List UInt8) (ntHeadersOffset : Nat)
    (ntHeaders : PeNtHeaders) (indices : List Nat) :
    Attempt.Keeps (LoadState.Logs before)
      (loadSections imageBytes ntHeadersOffset ntHeaders indices) := by
  induction indices with
  | nil => exact inferInstanceAs (Attempt.Keeps _ (pure _))
  | cons sectionIndex rest ih => exact .bind _ _

instance readHeaders_logs (imageBytes : List UInt8) (config : PeImageLoadConfig) :
    Attempt.Keeps (LoadState.Logs before) (readHeaders imageBytes config) := by
  unfold readHeaders
  infer_instance

instance layOutImage_logs (imageBytes : List UInt8) (config : PeImageLoadConfig)
    (ntHeadersOffset : Nat) (ntHeaders : PeNtHeaders) (importDirectory : PeDataDirectory) :
    Attempt.Keeps (LoadState.Logs before)
      (layOutImage imageBytes config ntHeadersOffset ntHeaders importDirectory) := by
  have _ : Attempt.Keeps (LoadState.Logs before) (Attempt.update fun state : LoadState =>
      { state with
        outResult :=
          { entryPoint := config.expectedImageBase + ntHeaders.addressOfEntryPoint.toUInt64
            imageSize := ntHeaders.sizeOfImage
            importDirectory := importDirectory }
        status := .ok }) := .update fun _ h => h
  unfold layOutImage
  infer_instance

instance loadImage_logs (imageBytes : List UInt8) (config : PeImageLoadConfig) :
    Attempt.Keeps (LoadState.Logs before) (loadImage imageBytes config) := by
  have _ : Attempt.Keeps (LoadState.Logs before) (Attempt.update fun state : LoadState =>
      { state with outResult := ⟨0, 0, ⟨0, 0⟩⟩ }) := .update fun _ h => h
  unfold loadImage
  infer_instance

end Log

/-- A load whose sections fit touches nothing outside its buffers. -/
theorem loadImage_within {imageBytes : List UInt8} {config : PeImageLoadConfig}
    (hfit : SectionsFit imageBytes config) {state : LoadState}
    (hstate : state.Within imageBytes.length config.loadedImageSize.toNat) :
    (loadImage imageBytes config state).2.Within imageBytes.length
      config.loadedImageSize.toNat := by
  have hclear : 0 + config.loadedImageSize.toNat ≤ config.loadedImageSize.toNat := by omega
  obtain ⟨cleared, hcleared, hwithin⟩ := clearLoaded_within imageBytes.length hclear state
  have hstart : LoadState.Within imageBytes.length config.loadedImageSize.toNat
      { cleared with outResult := ⟨0, 0, ⟨0, 0⟩⟩ } := hwithin.mpr hstate
  unfold loadImage
  rw [Attempt.bind_of_some hcleared, Attempt.update_bind]
  obtain ⟨read, hread, ⟨-, hrun⟩ | ⟨ntHeadersOffset, ntHeaders, _, haccepted, hcheck, hrun⟩⟩ :=
    readHeaders_spec imageBytes config config.loadedImageSize.toNat
      { cleared with outResult := ⟨0, 0, ⟨0, 0⟩⟩ }
  · rw [Attempt.bind_of_none hrun]
    exact hread.mpr hstart
  · rw [Attempt.bind_of_some hrun]
    exact (layOutImage_within hcheck (hread.mpr hstart)).mpr
      (hfit (ntHeadersOffset, ntHeaders) haccepted)

/-- A load whose sections fit leaves the memory behind the loaded image alone. -/
theorem loadPe32PlusImage_behind {imageBytes : List UInt8} {config : PeImageLoadConfig}
    (hfit : SectionsFit imageBytes config) (loadedImage : Nat → UInt8)
    (outResult : PeImageLoadResult) {offset : Nat} (hbehind : config.loadedImageSize.toNat ≤ offset) :
    (loadPe32PlusImage (some imageBytes) true true loadedImage outResult config).loadedImage offset =
      loadedImage offset := by
  let start : LoadState :=
    { loadedImage := loadedImage, outResult := outResult, status := .ok, accesses := [] }
  have hlogs : (loadImage imageBytes config start).2.Logs loadedImage :=
    Attempt.Keeps.kept (fun _ h => absurd rfl h)
  have hwithin := @loadImage_within _ _ hfit start fun _ h => absurd h List.not_mem_nil
  by_contra hchanged
  obtain ⟨first, length, hmem, hfirst, hlast⟩ := hlogs offset hchanged
  have hlt := hwithin _ hmem (offset - first) (by omega)
  omega

section Imports

open Binding

variable {config : BindConfig} {contents : Nat → UInt8}

instance refuse_contents {α : Type} (status : X64Pe64ImageLoadStatus) :
    Attempt.Keeps (fun state : BindState => state.loadedImage = contents)
      (Binding.refuse status : Binding α) where
  kept h := h

instance outOfFuel_contents {α : Type} :
    Attempt.Keeps (fun state : BindState => state.loadedImage = contents)
      (outOfFuel : Binding α) where
  kept h := h

instance readLoaded_contents (offset length : Nat) :
    Attempt.Keeps (fun state : BindState => state.loadedImage = contents)
      (readLoaded offset length) where
  kept h := h

instance copyLoadedRecord_contents (recordSize : Nat) (loadedImageSize rva : UInt32) :
    Attempt.Keeps (fun state : BindState => state.loadedImage = contents)
      (copyLoadedRecord recordSize loadedImageSize rva) := by
  unfold copyLoadedRecord
  infer_instance

instance readAsciiFrom_contents (loadedImageSize rva : UInt32) (remaining : Nat) :
    Attempt.Keeps (fun state : BindState => state.loadedImage = contents)
      (readAsciiFrom loadedImageSize rva remaining) := by
  induction remaining generalizing rva with
  | zero =>
    unfold readAsciiFrom
    infer_instance
  | succ remaining ih =>
    unfold readAsciiFrom
    infer_instance

instance readLoadedAsciiString_contents (loadedImageSize rva : UInt32) :
    Attempt.Keeps (fun state : BindState => state.loadedImage = contents)
      (readLoadedAsciiString loadedImageSize rva) := readAsciiFrom_contents _ _ _

variable (hresolver : config.importResolver = none)

include hresolver

/-- Without a resolver an iteration ends before it patches anything. -/
theorem bindThunk_contents (dllName : List UInt8) (lookupEntryRva addressEntryRva : UInt32) :
    Attempt.Keeps (fun state : BindState => state.loadedImage = contents)
      (bindThunk config dllName lookupEntryRva addressEntryRva) := by
  have hrefused (functionName : List UInt8) :
      Attempt.Keeps (fun state : BindState => state.loadedImage = contents)
        (resolveX64Import config.importResolver dllName functionName config.expectedImageBase
            config.loadedImageSize >>= fun resolvedAddress => do
          patchAddressEntry dllName functionName addressEntryRva resolvedAddress
          pure true) := by
    rw [hresolver]
    exact ⟨fun h => h⟩
  unfold bindThunk
  dsimp only
  refine @Attempt.Keeps.bind _ _ _ _ _ _ inferInstance fun lookupBytes => ?_
  split
  · infer_instance
  split
  · infer_instance
  split
  · infer_instance
  split
  · infer_instance
  · infer_instance

theorem bindThunks_contents (dllName : List UInt8) (lookupTableRva firstThunkRva : UInt32)
    (fuel : Nat) (thunkIndex : UInt32) :
    Attempt.Keeps (fun state : BindState => state.loadedImage = contents)
      (bindThunks config dllName lookupTableRva firstThunkRva fuel thunkIndex) := by
  induction fuel generalizing thunkIndex with
  | zero =>
    unfold bindThunks
    infer_instance
  | succ fuel ih =>
    have _ := @bindThunk_contents config contents hresolver
    unfold bindThunks
    infer_instance

theorem bindDescriptor_contents (descriptor : PeImportDescriptor) :
    Attempt.Keeps (fun state : BindState => state.loadedImage = contents)
      (bindDescriptor config descriptor) := by
  have _ := @bindThunks_contents config contents hresolver
  unfold bindDescriptor
  split
  · infer_instance
  · infer_instance

theorem bindDescriptors_contents (directoryRva : UInt32) (indices : List Nat) :
    Attempt.Keeps (fun state : BindState => state.loadedImage = contents)
      (bindDescriptors config directoryRva indices) := by
  induction indices with
  | nil => exact .pure _
  | cons descriptorIndex rest ih =>
    have _ := @bindDescriptor_contents config contents hresolver
    unfold bindDescriptors
    infer_instance

theorem bindImports_contents (importDirectory : PeDataDirectory) :
    Attempt.Keeps (fun state : BindState => state.loadedImage = contents)
      (bindImports config importDirectory) := by
  have _ := @bindDescriptors_contents config contents hresolver
  unfold bindImports
  infer_instance

end Imports

/-- An x64 load without a resolver leaves the memory behind the loaded image alone. -/
theorem loadX64Pe64Image_behind {imageBytes : List UInt8}
    {expectedImageBase loadedImageSize : UInt64}
    (hfit : SectionsFit imageBytes (x64Pe64LoadConfig expectedImageBase loadedImageSize))
    (loadedImage : Nat → UInt8) {offset : Nat} (hbehind : loadedImageSize.toNat ≤ offset) :
    (loadX64Pe64Image imageBytes expectedImageBase loadedImage loadedImageSize
      none).imports.loadedImage offset = loadedImage offset := by
  have hbase := loadPe32PlusImage_behind hfit loadedImage default hbehind
  unfold loadX64Pe64Image
  dsimp only
  split
  · exact hbase
  generalize loadPe32PlusImage (some imageBytes) true true loadedImage default
    (x64Pe64LoadConfig expectedImageBase loadedImageSize) = base at hbase ⊢
  have hbound := (@bindImports_contents (bindConfig none expectedImageBase loadedImageSize base)
    base.loadedImage rfl base.outResult.importDirectory).kept
      (show (BindState.start base).loadedImage = base.loadedImage from rfl)
  split
  · next bound hrun =>
    rw [hrun] at hbound
    exact (congrFun hbound offset).trans hbase
  · next bound hrun =>
    rw [hrun] at hbound
    exact (congrFun hbound offset).trans hbase

end Ringos.Image

import Ringos.Image.PeImage

/-!
# The x64 image loader and its imports

The x64 loader runs the PE32+ loader and then binds the imports in the loaded
image: it reads the descriptors, the lookup tables and the names back from the
image, asks the resolver for an address and patches it into the address table.
Tables are read again as they are at that moment, so a patch may change what a
later step reads. The accesses to the loaded image are logged by offset, and the
imports in the order in which they are bound.
-/

namespace Ringos.Image

open Ringos.Core

/-- `X64_USER_IMAGE_PAGE_SIZE`. -/
def x64UserImagePageSize : UInt32 := 4096

/-- `PE_IMPORT_BY_ORDINAL_MASK64`. -/
def peImportByOrdinalMask64 : UInt64 := (1 : UInt64) <<< 63

/-- `x64_pe64_import_resolution_status` other than `OK`. -/
inductive ImportResolutionError where
  | invalidArgument
  | unsupportedImport
  | importStubOutOfRange
  deriving DecidableEq, Repr

/-- `x64_pe64_image_load_status`. -/
inductive X64Pe64ImageLoadStatus where
  | ok
  | invalidArgument
  | missingDosHeader
  | invalidDosHeader
  | missingNtHeaders
  | invalidNtSignature
  | wrongMachine
  | missingSections
  | unsupportedOptionalHeader
  | unsupportedMagic
  | unexpectedImageBase
  | unsupportedAlignment
  | imageTooLarge
  | headersOutOfRange
  | entryPointOutOfRange
  | invalidImportDirectory
  | unexpectedImports
  | unexpectedRelocations
  | truncatedSectionTable
  | sectionOutOfRange
  | sectionDataOutOfRange
  | importTableOutOfRange
  | importNameOutOfRange
  | unsupportedImport
  | unsupportedImportOrdinal
  | importStubOutOfRange
  deriving DecidableEq, Repr

/-- `map_common_load_status`. -/
def mapCommonLoadStatus : PeImageLoadStatus → X64Pe64ImageLoadStatus
  | .ok => .ok
  | .invalidArgument => .invalidArgument
  | .missingDosHeader => .missingDosHeader
  | .invalidDosHeader => .invalidDosHeader
  | .missingNtHeaders => .missingNtHeaders
  | .invalidNtSignature => .invalidNtSignature
  | .wrongMachine => .wrongMachine
  | .missingSections => .missingSections
  | .unsupportedOptionalHeader => .unsupportedOptionalHeader
  | .unsupportedMagic => .unsupportedMagic
  | .unexpectedImageBase => .unexpectedImageBase
  | .unsupportedAlignment => .unsupportedAlignment
  | .imageTooLarge => .imageTooLarge
  | .headersOutOfRange => .headersOutOfRange
  | .entryPointOutOfRange => .entryPointOutOfRange
  | .invalidImportDirectory => .invalidImportDirectory
  | .unexpectedImports => .unexpectedImports
  | .unexpectedRelocations => .unexpectedRelocations
  | .truncatedSectionTable => .truncatedSectionTable
  | .sectionOutOfRange => .sectionOutOfRange
  | .sectionDataOutOfRange => .sectionDataOutOfRange

/-- `describe_x64_pe64_image_load_status`. -/
def describeX64Pe64ImageLoadStatus : X64Pe64ImageLoadStatus → String
  | .ok => "x64 PE64 image loaded successfully"
  | .invalidArgument => "x64 PE64 image loader received an invalid argument"
  | .missingDosHeader => "x64 PE64 image is missing the DOS header"
  | .invalidDosHeader => "x64 PE64 image has an invalid DOS header"
  | .missingNtHeaders => "x64 PE64 image is missing the NT headers"
  | .invalidNtSignature => "x64 PE64 image has an invalid NT signature"
  | .wrongMachine => "x64 PE64 image targets the wrong machine"
  | .missingSections => "x64 PE64 image does not define any sections"
  | .unsupportedOptionalHeader => "x64 PE64 image has an unsupported optional header size"
  | .unsupportedMagic => "x64 PE64 image is not PE32+"
  | .unexpectedImageBase => "x64 PE64 image uses an unexpected image base"
  | .unsupportedAlignment => "x64 PE64 image must use 4 KiB section alignment"
  | .imageTooLarge => "x64 PE64 image does not fit in the initial user region"
  | .headersOutOfRange => "x64 PE64 image headers are out of range"
  | .entryPointOutOfRange => "x64 PE64 image entry point is out of range"
  | .invalidImportDirectory => "x64 PE64 image has an invalid import directory"
  | .unexpectedImports => "x64 PE64 image unexpectedly imports system libraries"
  | .unexpectedRelocations => "x64 PE64 image unexpectedly requires relocations"
  | .truncatedSectionTable => "x64 PE64 image section table is truncated"
  | .sectionOutOfRange => "x64 PE64 image section exceeds the declared image size"
  | .sectionDataOutOfRange => "x64 PE64 image section data is out of range"
  | .importTableOutOfRange => "x64 PE64 image import table is out of range"
  | .importNameOutOfRange => "x64 PE64 image import name is out of range"
  | .unsupportedImport => "x64 PE64 image imports an unsupported Windows symbol"
  | .unsupportedImportOrdinal =>
    "x64 PE64 image imports by ordinal, which is not supported yet"
  | .importStubOutOfRange => "x64 PE64 image import thunks do not fit in the initial user region"

/-- `x64_pe64_image_info`. -/
structure X64Pe64ImageInfo where
  entryPoint : UInt64
  imageSize : UInt32
  importCount : UInt32
  deriving DecidableEq, Inhabited

/-- `pe_import_descriptor`. -/
structure PeImportDescriptor where
  originalFirstThunk : UInt32
  timeDateStamp : UInt32
  forwarderChain : UInt32
  name : UInt32
  firstThunk : UInt32

/-- `sizeof(pe_import_descriptor)`. -/
def sizeofPeImportDescriptor : Nat := 20

def PeImportDescriptor.ofBytes (bytes : List UInt8) : PeImportDescriptor where
  originalFirstThunk := (field bytes 0 4).toUInt32
  timeDateStamp := (field bytes 4 4).toUInt32
  forwarderChain := (field bytes 8 4).toUInt32
  name := (field bytes 12 4).toUInt32
  firstThunk := (field bytes 16 4).toUInt32

/-- `is_empty_import_descriptor`. -/
def PeImportDescriptor.isEmpty (descriptor : PeImportDescriptor) : Bool :=
  descriptor.originalFirstThunk == 0 && descriptor.timeDateStamp == 0 &&
    descriptor.forwarderChain == 0 && descriptor.name == 0 && descriptor.firstThunk == 0

/-- A use of the loaded image while imports are bound, by its offset. -/
inductive LoadedAccess where
  | read (offset length : Nat)
  | write (offset length : Nat)
  deriving DecidableEq

/-- An import that has been bound: its names, the offset of its address-table entry and the
address that was put there. -/
structure BoundImport where
  dllName : List UInt8
  functionName : List UInt8
  addressEntryRva : UInt32
  address : UInt64
  deriving DecidableEq

/-- The state of the binding of imports. `finished` is false once the fuel of a loop has run out;
`bound` has the latest import first. -/
structure BindState where
  loadedImage : Nat → UInt8
  nextStubOffset : Nat
  importCount : UInt32
  status : X64Pe64ImageLoadStatus
  accesses : List LoadedAccess
  bound : List BoundImport
  finished : Bool

/-- A part of the binding of imports: it goes on with a value or returns a status. -/
abbrev Binding (α : Type) := Attempt BindState α

/-- `x64_pe64_import_resolver`, given the names, the image base and the size of the loaded image. -/
abbrev ImportResolver :=
  (dllName functionName : List UInt8) → (imageBase : UInt64) → (loadedImageSize : UInt32) →
    Binding (Except ImportResolutionError UInt64)

/-- The bytes at an offset. -/
def takeBytes (contents : Nat → UInt8) (offset length : Nat) : List UInt8 :=
  (List.range length).map fun index => contents (offset + index)

namespace Binding

/-- Return a status other than `X64_PE64_IMAGE_LOAD_STATUS_OK`. -/
def refuse {α : Type} (status : X64Pe64ImageLoadStatus) : Binding α := do
  Attempt.update fun state => { state with status := status }
  Attempt.fail

/-- A loop that has no fuel left. -/
def outOfFuel {α : Type} : Binding α := do
  Attempt.update fun state => { state with finished := false }
  Attempt.fail

/-- Read from the loaded image. -/
def readLoaded (offset length : Nat) : Binding (List UInt8) := do
  Attempt.update fun state => { state with accesses := .read offset length :: state.accesses }
  Attempt.read fun state => takeBytes state.loadedImage offset length

/-- Write to the loaded image. -/
def writeLoaded (offset : Nat) (bytes : List UInt8) : Binding Unit :=
  Attempt.update fun state =>
    { state with
      loadedImage := putBytes state.loadedImage offset bytes
      accesses := .write offset bytes.length :: state.accesses }

end Binding

open Binding

/-- The range check of `copy_loaded_record` and `translate_loaded_rva`. -/
def outOfLoaded (loadedImageSize rva : UInt32) (length : Nat) : Bool :=
  rva > loadedImageSize || length > (loadedImageSize - rva).toNat

/-- `copy_loaded_record` and the status its callers return when it fails. No caller passes a null
pointer. -/
def copyLoadedRecord (recordSize : Nat) (loadedImageSize rva : UInt32) : Binding (List UInt8) :=
  if outOfLoaded loadedImageSize rva recordSize then refuse .importTableOutOfRange
  else readLoaded rva.toNat recordSize

/-- The loop of `read_loaded_ascii_string` over the part of the buffer that is left. -/
def readAsciiFrom (loadedImageSize rva : UInt32) : Nat → Binding (List UInt8)
  | 0 => refuse .importNameOutOfRange
  | remaining + 1 =>
    if outOfLoaded loadedImageSize rva 1 then refuse .importNameOutOfRange
    else do
      let bytes ← readLoaded rva.toNat 1
      let character := bytes.headD 0
      if character = 0 then pure []
      else do
        let rest ← readAsciiFrom loadedImageSize (rva + 1) remaining
        pure (character :: rest)

/-- `read_loaded_ascii_string` into a buffer of 64 characters, and the status its callers return
when it fails. -/
def readLoadedAsciiString (loadedImageSize rva : UInt32) : Binding (List UInt8) :=
  readAsciiFrom loadedImageSize rva 64

/-- `try_resolve_import_name_rva`. -/
def tryResolveImportNameRva (rawNameReference expectedImageBase : UInt64) (imageSize : UInt32) :
    Option UInt32 :=
  if rawNameReference ≤ 0xFFFFFFFF ∧ rawNameReference < imageSize.toUInt64 then
    some rawNameReference.toUInt32
  else if rawNameReference < expectedImageBase then none
  else
    let relativeReference := rawNameReference - expectedImageBase
    if relativeReference > 0xFFFFFFFF ∨ relativeReference ≥ imageSize.toUInt64 then none
    else some relativeReference.toUInt32

/-- `try_resolve_import_table_rva`. -/
def tryResolveImportTableRva (rawRvaOrVa : UInt32) (expectedImageBase : UInt64)
    (imageSize : UInt32) : Option UInt32 :=
  tryResolveImportNameRva rawRvaOrVa.toUInt64 expectedImageBase imageSize

/-- `resolve_x64_import`. No caller passes a null pointer. -/
def resolveX64Import (importResolver : Option ImportResolver) (dllName functionName : List UInt8)
    (expectedImageBase : UInt64) (loadedImageSize : UInt32) : Binding UInt64 :=
  match importResolver with
  | none => refuse .unsupportedImport
  | some resolveImport => do
    match ← resolveImport dllName functionName expectedImageBase loadedImageSize with
    | .ok address => pure address
    | .error .invalidArgument => refuse .invalidImportDirectory
    | .error .unsupportedImport => refuse .unsupportedImport
    | .error .importStubOutOfRange => refuse .importStubOutOfRange

section Imports

/-- What the import loops do not change: the resolver, the image base, `load_result.image_size`
and `loaded_image_size32`. -/
structure BindConfig where
  importResolver : Option ImportResolver
  expectedImageBase : UInt64
  imageSize : UInt32
  loadedImageSize : UInt32

variable (config : BindConfig)

/-- The end of an iteration of the thunk loop: patch the address table and count. -/
def patchAddressEntry (dllName functionName : List UInt8) (addressEntryRva : UInt32)
    (resolvedAddress : UInt64) : Binding Unit := do
  writeLoaded addressEntryRva.toNat (toLittleEndian 8 resolvedAddress)
  Attempt.update fun state =>
    { state with
      importCount := state.importCount + 1
      bound := ⟨dllName, functionName, addressEntryRva, resolvedAddress⟩ :: state.bound }

/-- An iteration of the thunk loop; false is its `break`. -/
def bindThunk (dllName : List UInt8) (lookupEntryRva addressEntryRva : UInt32) : Binding Bool := do
  let lookupBytes ← copyLoadedRecord 8 config.imageSize lookupEntryRva
  let lookupEntry := ofLittleEndian lookupBytes
  if outOfLoaded config.imageSize addressEntryRva 8 then refuse .importTableOutOfRange
  else if lookupEntry = 0 then pure false
  else if lookupEntry &&& peImportByOrdinalMask64 ≠ 0 then refuse .unsupportedImportOrdinal
  else
    match tryResolveImportNameRva (lookupEntry &&& ~~~peImportByOrdinalMask64)
        config.expectedImageBase config.imageSize with
    | none => refuse .importTableOutOfRange
    | some importNameRva => do
      let functionName ← readLoadedAsciiString config.imageSize (importNameRva + 2)
      let resolvedAddress ← resolveX64Import config.importResolver dllName functionName
        config.expectedImageBase config.loadedImageSize
      patchAddressEntry dllName functionName addressEntryRva resolvedAddress
      pure true

/-- The thunk loop. The offsets are cut to 32 bits. -/
def bindThunks (dllName : List UInt8) (lookupTableRva firstThunkRva : UInt32) :
    Nat → UInt32 → Binding Unit
  | 0, _ => outOfFuel
  | fuel + 1, thunkIndex => do
    let more ← bindThunk config dllName (lookupTableRva + thunkIndex * 8)
      (firstThunkRva + thunkIndex * 8)
    if more then bindThunks dllName lookupTableRva firstThunkRva fuel (thunkIndex + 1)
    else pure ()

/-- The three table references of a descriptor: name, address table and lookup table. -/
def resolveDescriptor (descriptor : PeImportDescriptor) : Option (UInt32 × UInt32 × UInt32) := do
  let dllNameRva ←
    tryResolveImportTableRva descriptor.name config.expectedImageBase config.imageSize
  let firstThunkRva ←
    tryResolveImportTableRva descriptor.firstThunk config.expectedImageBase config.imageSize
  let lookupTableRva ←
    if descriptor.originalFirstThunk ≠ 0 then
      tryResolveImportTableRva descriptor.originalFirstThunk config.expectedImageBase
        config.imageSize
    else some firstThunkRva
  pure (dllNameRva, firstThunkRva, lookupTableRva)

/-- The body of the descriptor loop behind the check for the terminator. The entries of a lookup
table lie in the image, so there are no more iterations than the fuel. -/
def bindDescriptor (descriptor : PeImportDescriptor) : Binding Unit :=
  match resolveDescriptor config descriptor with
  | none => refuse .importTableOutOfRange
  | some (dllNameRva, firstThunkRva, lookupTableRva) => do
    let dllName ← readLoadedAsciiString config.imageSize dllNameRva
    bindThunks config dllName lookupTableRva firstThunkRva (config.imageSize.toNat / 8 + 1) 0

/-- The descriptor loop over the indices that are left; whether it saw the terminator. -/
def bindDescriptors (directoryRva : UInt32) : List Nat → Binding Bool
  | [] => pure false
  | descriptorIndex :: rest => do
    let bytes ← copyLoadedRecord sizeofPeImportDescriptor config.imageSize
      (directoryRva + (sizeofPeImportDescriptor * descriptorIndex).toUInt32)
    let descriptor := PeImportDescriptor.ofBytes bytes
    if descriptor.isEmpty then pure true
    else do
      bindDescriptor config descriptor
      bindDescriptors directoryRva rest

/-- The import phase of `load_x64_pe64_image`. The descriptor at an index is still inside the
directory exactly when the index is below `size / 20`. -/
def bindImports (importDirectory : PeDataDirectory) : Binding Unit :=
  if importDirectory.virtualAddress ≠ 0 then
    if importDirectory.virtualAddress > config.imageSize ∨
        importDirectory.size > config.imageSize - importDirectory.virtualAddress then
      refuse .importTableOutOfRange
    else do
      let sawTerminator ← bindDescriptors config importDirectory.virtualAddress
        (List.range (importDirectory.size.toNat / sizeofPeImportDescriptor))
      if sawTerminator then pure () else refuse .invalidImportDirectory
  else pure ()

end Imports

/-- The `pe_image_load_config` of `load_x64_pe64_image`. -/
def x64Pe64LoadConfig (expectedImageBase loadedImageSize : UInt64) : PeImageLoadConfig where
  expectedMachine := peMachineX64
  expectedImageBase := expectedImageBase
  expectedSectionAlignment := x64UserImagePageSize
  expectedFileAlignment := x64UserImagePageSize
  loadedImageSize := loadedImageSize
  allowImports := true
  allowRelocations := false

/-- What a run of `load_x64_pe64_image` leaves: its status, the image information, and the two
phases with their logs. -/
structure X64LoadResult where
  status : X64Pe64ImageLoadStatus
  info : X64Pe64ImageInfo
  base : LoadState
  imports : BindState

/-- The state in which the import phase starts. -/
def BindState.start (base : LoadState) : BindState where
  loadedImage := base.loadedImage
  nextStubOffset := base.outResult.imageSize.toNat
  importCount := 0
  status := .ok
  accesses := []
  bound := []
  finished := true

/-- The constants of the import phase. -/
def bindConfig (importResolver : Option ImportResolver) (expectedImageBase loadedImageSize : UInt64)
    (base : LoadState) : BindConfig where
  importResolver := importResolver
  expectedImageBase := expectedImageBase
  imageSize := base.outResult.imageSize
  loadedImageSize := loadedImageSize.toUInt32

/-- `load_x64_pe64_image` for pointers that are not null. -/
def loadX64Pe64Image (imageBytes : List UInt8) (expectedImageBase : UInt64)
    (loadedImage : Nat → UInt8) (loadedImageSize : UInt64)
    (importResolver : Option ImportResolver) : X64LoadResult :=
  let base := loadPe32PlusImage (some imageBytes) true true loadedImage default
    (x64Pe64LoadConfig expectedImageBase loadedImageSize)
  let start := BindState.start base
  let baseLoadStatus := mapCommonLoadStatus base.status
  if baseLoadStatus ≠ .ok then ⟨baseLoadStatus, ⟨0, 0, 0⟩, base, start⟩
  else
    match bindImports (bindConfig importResolver expectedImageBase loadedImageSize base)
        base.outResult.importDirectory start with
    | (none, bound) => ⟨bound.status, ⟨0, 0, bound.importCount⟩, base, bound⟩
    | (some (), bound) =>
      ⟨.ok, ⟨base.outResult.entryPoint, base.outResult.imageSize, bound.importCount⟩, base, bound⟩

end Ringos.Image

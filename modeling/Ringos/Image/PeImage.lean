import Ringos.Core.Attempt
import Ringos.Core.ByteMemory

/-!
# The PE32+ loader

The loader copies the headers of an image file into records, checks them, and
lays the headers and the sections out in the loaded image. A record is read
from its bytes at the offsets of the packed structure, and only the fields that
the loader uses are kept. Sizes are natural numbers: an offset is a sum of a few
32-bit fields, so `size_t` does not wrap. What the loader reads of the file and
writes to the loaded image is logged, also where it is out of bounds.
-/

namespace Ringos.Image

open Ringos.Core

/-- `PE_DOS_SIGNATURE`. -/
def peDosSignature : UInt16 := 0x5A4D
/-- `PE_NT_SIGNATURE`. -/
def peNtSignature : UInt32 := 0x00004550
/-- `PE_MACHINE_ARM64`. -/
def peMachineArm64 : UInt16 := 0xAA64
/-- `PE_MACHINE_X64`. -/
def peMachineX64 : UInt16 := 0x8664
/-- `PE32_PLUS_MAGIC`. -/
def pe32PlusMagic : UInt16 := 0x20B
/-- `PE_IMPORT_DIRECTORY_INDEX`. -/
def peImportDirectoryIndex : Fin 16 := 1
/-- `PE_BASE_RELOCATION_DIRECTORY_INDEX`. -/
def peBaseRelocationDirectoryIndex : Fin 16 := 5

/-- `pe_image_load_status`. -/
inductive PeImageLoadStatus where
  | ok
  | invalidArgument
  | missingDosHeader
  | invalidDosHeader
  | missingNtHeaders
  | invalidNtSignature
  | wrongMachine
  | missingSections
  | unsupportedOptionalHeader
  | unsupportedMagic
  | unexpectedImageBase
  | unsupportedAlignment
  | imageTooLarge
  | headersOutOfRange
  | entryPointOutOfRange
  | invalidImportDirectory
  | unexpectedImports
  | unexpectedRelocations
  | truncatedSectionTable
  | sectionOutOfRange
  | sectionDataOutOfRange
  deriving DecidableEq, Repr

section Records

/-- A field of a packed record. -/
def field (bytes : List UInt8) (offset width : Nat) : UInt64 :=
  ofLittleEndian ((bytes.drop offset).take width)

/-- `pe_dos_header`. -/
structure PeDosHeader where
  eMagic : UInt16
  eLfanew : Int32

/-- `sizeof(pe_dos_header)`. -/
def sizeofPeDosHeader : Nat := 64

def PeDosHeader.ofBytes (bytes : List UInt8) : PeDosHeader where
  eMagic := (field bytes 0 2).toUInt16
  eLfanew := (field bytes 60 4).toUInt32.toInt32

/-- `pe_data_directory`. -/
structure PeDataDirectory where
  virtualAddress : UInt32
  size : UInt32
  deriving DecidableEq, Inhabited

/-- `pe_nt_headers64` with its file header and its optional header. -/
structure PeNtHeaders where
  signature : UInt32
  machine : UInt16
  numberOfSections : UInt16
  sizeOfOptionalHeader : UInt16
  magic : UInt16
  addressOfEntryPoint : UInt32
  imageBase : UInt64
  sectionAlignment : UInt32
  fileAlignment : UInt32
  sizeOfImage : UInt32
  sizeOfHeaders : UInt32
  numberOfRvaAndSizes : UInt32
  dataDirectories : Fin 16 → PeDataDirectory

/-- `sizeof(pe_file_header)`. -/
def sizeofPeFileHeader : Nat := 20
/-- `sizeof(pe_optional_header64)`. -/
def sizeofPeOptionalHeader : Nat := 240
/-- `sizeof(pe_nt_headers64)`. -/
def sizeofPeNtHeaders : Nat := 4 + sizeofPeFileHeader + sizeofPeOptionalHeader

def PeNtHeaders.ofBytes (bytes : List UInt8) : PeNtHeaders where
  signature := (field bytes 0 4).toUInt32
  machine := (field bytes 4 2).toUInt16
  numberOfSections := (field bytes 6 2).toUInt16
  sizeOfOptionalHeader := (field bytes 20 2).toUInt16
  magic := (field bytes 24 2).toUInt16
  addressOfEntryPoint := (field bytes 40 4).toUInt32
  imageBase := field bytes 48 8
  sectionAlignment := (field bytes 56 4).toUInt32
  fileAlignment := (field bytes 60 4).toUInt32
  sizeOfImage := (field bytes 80 4).toUInt32
  sizeOfHeaders := (field bytes 84 4).toUInt32
  numberOfRvaAndSizes := (field bytes 132 4).toUInt32
  dataDirectories index :=
    { virtualAddress := (field bytes (136 + 8 * index.val) 4).toUInt32
      size := (field bytes (140 + 8 * index.val) 4).toUInt32 }

/-- `pe_section_header`. -/
structure PeSectionHeader where
  virtualSize : UInt32
  virtualAddress : UInt32
  sizeOfRawData : UInt32
  pointerToRawData : UInt32

/-- `sizeof(pe_section_header)`. -/
def sizeofPeSectionHeader : Nat := 40

def PeSectionHeader.ofBytes (bytes : List UInt8) : PeSectionHeader where
  virtualSize := (field bytes 8 4).toUInt32
  virtualAddress := (field bytes 12 4).toUInt32
  sizeOfRawData := (field bytes 16 4).toUInt32
  pointerToRawData := (field bytes 20 4).toUInt32

end Records

/-- `pe_image_load_config`. -/
structure PeImageLoadConfig where
  expectedMachine : UInt16
  expectedImageBase : UInt64
  expectedSectionAlignment : UInt32
  expectedFileAlignment : UInt32
  loadedImageSize : UInt64
  allowImports : Bool
  allowRelocations : Bool

/-- `pe_image_load_result`. -/
structure PeImageLoadResult where
  entryPoint : UInt64
  imageSize : UInt32
  importDirectory : PeDataDirectory
  deriving DecidableEq, Inhabited

/-- A use of one of the two buffers, by its offset from the buffer's start. -/
inductive BufferAccess where
  | readImage (offset length : Nat)
  | writeLoaded (offset length : Nat)
  deriving DecidableEq

/-- The state of a load. The bytes behind `loaded_image` are known by their offset, also beyond
the end of the buffer. -/
structure LoadState where
  loadedImage : Nat → UInt8
  outResult : PeImageLoadResult
  status : PeImageLoadStatus
  accesses : List BufferAccess

/-- A part of the loader: it goes on with a value or returns a status. -/
abbrev Load (α : Type) := Attempt LoadState α

/-- Put bytes at an offset. -/
def putBytes (contents : Nat → UInt8) (offset : Nat) (bytes : List UInt8) : Nat → UInt8 :=
  fun index => if offset ≤ index then bytes[index - offset]?.getD (contents index)
    else contents index

namespace Load

/-- Log an access. -/
def note (access : BufferAccess) : Load Unit :=
  Attempt.update fun state => { state with accesses := access :: state.accesses }

/-- `return` of a status other than `PE_IMAGE_LOAD_STATUS_OK`. -/
def refuse {α : Type} (status : PeImageLoadStatus) : Load α := do
  Attempt.update fun state => { state with status := status }
  Attempt.fail

/-- Go on with the result of a check or return its status. -/
def check {α : Type} : Except PeImageLoadStatus α → Load α
  | .ok value => pure value
  | .error status => refuse status

/-- `memset(loaded_image + offset, 0, length)`. -/
def clearLoaded (offset length : Nat) : Load Unit := do
  note (.writeLoaded offset length)
  Attempt.update fun state =>
    { state with loadedImage := putBytes state.loadedImage offset (List.replicate length 0) }

/-- `memcpy(loaded_image + offset, image_bytes + source, length)`. -/
def copyToLoaded (imageBytes : List UInt8) (offset source length : Nat) : Load Unit := do
  note (.readImage source length)
  note (.writeLoaded offset length)
  Attempt.update fun state =>
    { state with
      loadedImage := putBytes state.loadedImage offset ((imageBytes.drop source).take length) }

/-- `copy_embedded_record` and the status its caller returns when it fails. No caller passes a
null pointer. -/
def copyEmbeddedRecord (imageBytes : List UInt8) (recordSize offset : Nat)
    (status : PeImageLoadStatus) : Load (List UInt8) :=
  if offset > imageBytes.length ∨ recordSize > imageBytes.length - offset then refuse status
  else do
    note (.readImage offset recordSize)
    pure ((imageBytes.drop offset).take recordSize)

end Load

section Checks

/-- The check of the DOS header: the offset of the NT headers. -/
def checkDosHeader (dosHeader : PeDosHeader) : Except PeImageLoadStatus Nat :=
  if dosHeader.eMagic ≠ peDosSignature ∨ dosHeader.eLfanew < 0 then .error .invalidDosHeader
  else .ok dosHeader.eLfanew.toInt.toNat

/-- The check of the import directory, which is empty when the headers have no entry for it. -/
def checkImportDirectory (ntHeaders : PeNtHeaders) (config : PeImageLoadConfig) :
    Except PeImageLoadStatus PeDataDirectory :=
  if ntHeaders.numberOfRvaAndSizes.toNat > peImportDirectoryIndex.val then
    let importDirectory := ntHeaders.dataDirectories peImportDirectoryIndex
    if (importDirectory.virtualAddress == 0) ≠ (importDirectory.size == 0) then
      .error .invalidImportDirectory
    else if !config.allowImports ∧
        (importDirectory.virtualAddress ≠ 0 ∨ importDirectory.size ≠ 0) then
      .error .unexpectedImports
    else .ok importDirectory
  else .ok ⟨0, 0⟩

/-- The check of the relocation directory. -/
def checkRelocationDirectory (ntHeaders : PeNtHeaders) (config : PeImageLoadConfig) :
    Except PeImageLoadStatus Unit :=
  let relocationDirectory := ntHeaders.dataDirectories peBaseRelocationDirectoryIndex
  if ntHeaders.numberOfRvaAndSizes.toNat > peBaseRelocationDirectoryIndex.val ∧
      !config.allowRelocations ∧
      (relocationDirectory.virtualAddress ≠ 0 ∨ relocationDirectory.size ≠ 0) then
    .error .unexpectedRelocations
  else .ok ()

/-- `section_headers_offset`. -/
def sectionHeadersOffset (ntHeadersOffset : Nat) (ntHeaders : PeNtHeaders) : Nat :=
  ntHeadersOffset + 4 + sizeofPeFileHeader + ntHeaders.sizeOfOptionalHeader.toNat

/-- `section_headers_size`. -/
def sectionHeadersSize (ntHeaders : PeNtHeaders) : Nat :=
  sizeofPeSectionHeader * ntHeaders.numberOfSections.toNat

/-- The check of the section table as a whole. -/
def checkSectionTable (imageSize ntHeadersOffset : Nat) (ntHeaders : PeNtHeaders) :
    Except PeImageLoadStatus Unit :=
  if sectionHeadersOffset ntHeadersOffset ntHeaders > imageSize ∨
      sectionHeadersSize ntHeaders > imageSize - sectionHeadersOffset ntHeadersOffset ntHeaders then
    .error .truncatedSectionTable
  else .ok ()

/-- The checks of the NT headers, up to the copy of the headers: the import directory. -/
def checkNtHeaders (imageSize ntHeadersOffset : Nat) (ntHeaders : PeNtHeaders)
    (config : PeImageLoadConfig) : Except PeImageLoadStatus PeDataDirectory :=
  if ntHeaders.signature ≠ peNtSignature then .error .invalidNtSignature
  else if ntHeaders.machine ≠ config.expectedMachine then .error .wrongMachine
  else if ntHeaders.numberOfSections = 0 then .error .missingSections
  else if ntHeaders.sizeOfOptionalHeader.toNat ≠ sizeofPeOptionalHeader then
    .error .unsupportedOptionalHeader
  else if ntHeaders.magic ≠ pe32PlusMagic then .error .unsupportedMagic
  else if ntHeaders.imageBase ≠ config.expectedImageBase then .error .unexpectedImageBase
  else if ntHeaders.sectionAlignment ≠ config.expectedSectionAlignment ∨
      ntHeaders.fileAlignment ≠ config.expectedFileAlignment then
    .error .unsupportedAlignment
  else if ntHeaders.sizeOfImage = 0 ∨
      ntHeaders.sizeOfImage.toNat > config.loadedImageSize.toNat then
    .error .imageTooLarge
  else if ntHeaders.sizeOfHeaders > ntHeaders.sizeOfImage ∨
      ntHeaders.sizeOfHeaders.toNat > imageSize then
    .error .headersOutOfRange
  else if ntHeaders.addressOfEntryPoint ≥ ntHeaders.sizeOfImage then
    .error .entryPointOutOfRange
  else
    match checkImportDirectory ntHeaders config with
    | .error status => .error status
    | .ok importDirectory =>
      match checkRelocationDirectory ntHeaders config with
      | .error status => .error status
      | .ok () =>
        match checkSectionTable imageSize ntHeadersOffset ntHeaders with
        | .error status => .error status
        | .ok () => .ok importDirectory

/-- `section_memory_size`. -/
def sectionMemorySize (sectionHeader : PeSectionHeader) : UInt32 :=
  if sectionHeader.virtualSize ≠ 0 then sectionHeader.virtualSize else sectionHeader.sizeOfRawData

/-- The check of a section against the declared size of the image. -/
def checkSectionRange (ntHeaders : PeNtHeaders) (sectionHeader : PeSectionHeader) :
    Except PeImageLoadStatus Unit :=
  if sectionHeader.virtualAddress > ntHeaders.sizeOfImage ∨
      sectionMemorySize sectionHeader > ntHeaders.sizeOfImage - sectionHeader.virtualAddress then
    .error .sectionOutOfRange
  else .ok ()

/-- The check of a section's raw data against the file; a section without raw data passes. -/
def checkSectionData (imageSize : Nat) (sectionHeader : PeSectionHeader) :
    Except PeImageLoadStatus Unit :=
  if sectionHeader.sizeOfRawData > 0 ∧
      (sectionHeader.pointerToRawData.toNat > imageSize ∨
        sectionHeader.sizeOfRawData.toNat > imageSize - sectionHeader.pointerToRawData.toNat) then
    .error .sectionDataOutOfRange
  else .ok ()

end Checks

section Loader

open Load

/-- The copy of a section's raw data. -/
def copySectionData (imageBytes : List UInt8) (sectionHeader : PeSectionHeader) : Load Unit :=
  if sectionHeader.sizeOfRawData > 0 then
    copyToLoaded imageBytes sectionHeader.virtualAddress.toNat
      sectionHeader.pointerToRawData.toNat sectionHeader.sizeOfRawData.toNat
  else pure ()

/-- The zeros between the raw data and the end of the section in memory. -/
def clearSectionTail (sectionHeader : PeSectionHeader) : Load Unit :=
  if sectionMemorySize sectionHeader > sectionHeader.sizeOfRawData then
    clearLoaded (sectionHeader.virtualAddress.toNat + sectionHeader.sizeOfRawData.toNat)
      ((sectionMemorySize sectionHeader).toNat - sectionHeader.sizeOfRawData.toNat)
  else pure ()

/-- The body of the section loop. -/
def loadSection (imageBytes : List UInt8) (ntHeadersOffset : Nat) (ntHeaders : PeNtHeaders)
    (sectionIndex : Nat) : Load Unit := do
  let bytes ← copyEmbeddedRecord imageBytes sizeofPeSectionHeader
    (sectionHeadersOffset ntHeadersOffset ntHeaders + sectionIndex * sizeofPeSectionHeader)
    .truncatedSectionTable
  let sectionHeader := PeSectionHeader.ofBytes bytes
  check (checkSectionRange ntHeaders sectionHeader)
  check (checkSectionData imageBytes.length sectionHeader)
  copySectionData imageBytes sectionHeader
  clearSectionTail sectionHeader

/-- The section loop over the indices that are left. -/
def loadSections (imageBytes : List UInt8) (ntHeadersOffset : Nat) (ntHeaders : PeNtHeaders) :
    List Nat → Load Unit
  | [] => pure ()
  | sectionIndex :: rest => do
    loadSection imageBytes ntHeadersOffset ntHeaders sectionIndex
    loadSections imageBytes ntHeadersOffset ntHeaders rest

/-- The part of `load_pe32_plus_image` that reads and checks the headers. -/
def readHeaders (imageBytes : List UInt8) (config : PeImageLoadConfig) :
    Load (Nat × PeNtHeaders × PeDataDirectory) := do
  let dosBytes ← copyEmbeddedRecord imageBytes sizeofPeDosHeader 0 .missingDosHeader
  let ntHeadersOffset ← check (checkDosHeader (.ofBytes dosBytes))
  let ntBytes ← copyEmbeddedRecord imageBytes sizeofPeNtHeaders ntHeadersOffset .missingNtHeaders
  let ntHeaders := PeNtHeaders.ofBytes ntBytes
  let importDirectory ←
    check (checkNtHeaders imageBytes.length ntHeadersOffset ntHeaders config)
  pure (ntHeadersOffset, ntHeaders, importDirectory)

/-- The part of `load_pe32_plus_image` behind the checks. -/
def layOutImage (imageBytes : List UInt8) (config : PeImageLoadConfig) (ntHeadersOffset : Nat)
    (ntHeaders : PeNtHeaders) (importDirectory : PeDataDirectory) : Load Unit := do
  copyToLoaded imageBytes 0 0 ntHeaders.sizeOfHeaders.toNat
  loadSections imageBytes ntHeadersOffset ntHeaders (List.range ntHeaders.numberOfSections.toNat)
  Attempt.update fun state =>
    { state with
      outResult :=
        { entryPoint := config.expectedImageBase + ntHeaders.addressOfEntryPoint.toUInt64
          imageSize := ntHeaders.sizeOfImage
          importDirectory := importDirectory }
      status := .ok }

/-- The body of `load_pe32_plus_image` behind the null checks. -/
def loadImage (imageBytes : List UInt8) (config : PeImageLoadConfig) : Load Unit := do
  clearLoaded 0 config.loadedImageSize.toNat
  Attempt.update fun state => { state with outResult := ⟨0, 0, ⟨0, 0⟩⟩ }
  let (ntHeadersOffset, ntHeaders, importDirectory) ← readHeaders imageBytes config
  layOutImage imageBytes config ntHeadersOffset ntHeaders importDirectory

/-- `load_pe32_plus_image`, from what its two output buffers hold; a null pointer is `none` or
`false`. -/
def loadPe32PlusImage (imageBytes : Option (List UInt8)) (hasLoadedImage hasOutResult : Bool)
    (loadedImage : Nat → UInt8) (outResult : PeImageLoadResult) (config : PeImageLoadConfig) :
    LoadState :=
  let start := { loadedImage := loadedImage, outResult := outResult, status := .ok, accesses := [] }
  match imageBytes with
  | none => { start with status := .invalidArgument }
  | some imageBytes =>
    if !hasLoadedImage ∨ !hasOutResult then { start with status := .invalidArgument }
    else (loadImage imageBytes config start).2

/-- `describe_pe_image_load_status`. -/
def describePeImageLoadStatus : PeImageLoadStatus → String
  | .ok => "PE image loaded successfully"
  | .invalidArgument => "PE image loader received an invalid argument"
  | .missingDosHeader => "PE image is missing the DOS header"
  | .invalidDosHeader => "PE image has an invalid DOS header"
  | .missingNtHeaders => "PE image is missing the NT headers"
  | .invalidNtSignature => "PE image has an invalid NT signature"
  | .wrongMachine => "PE image targets the wrong machine"
  | .missingSections => "PE image does not define any sections"
  | .unsupportedOptionalHeader => "PE image has an unsupported optional header size"
  | .unsupportedMagic => "PE image is not PE32+"
  | .unexpectedImageBase => "PE image uses an unexpected image base"
  | .unsupportedAlignment => "PE image uses an unsupported alignment"
  | .imageTooLarge => "PE image does not fit in the initial user region"
  | .headersOutOfRange => "PE image headers are out of range"
  | .entryPointOutOfRange => "PE image entry point is out of range"
  | .invalidImportDirectory => "PE image has an invalid import directory"
  | .unexpectedImports => "PE image unexpectedly imports system libraries"
  | .unexpectedRelocations => "PE image unexpectedly requires relocations"
  | .truncatedSectionTable => "PE image section table is truncated"
  | .sectionOutOfRange => "PE image section exceeds the declared image size"
  | .sectionDataOutOfRange => "PE image section data is out of range"

/-- `copy_embedded_record`, for a caller that logs nothing. -/
def embeddedRecord (imageBytes : List UInt8) (recordSize offset : Nat) : Option (List UInt8) :=
  if offset > imageBytes.length ∨ recordSize > imageBytes.length - offset then none
  else some ((imageBytes.drop offset).take recordSize)

/-- `try_get_pe_machine`; `none` is `false`. No caller passes a null pointer. -/
def tryGetPeMachine (imageBytes : List UInt8) : Option UInt16 := do
  let dosBytes ← embeddedRecord imageBytes sizeofPeDosHeader 0
  let ntHeadersOffset ← (checkDosHeader (.ofBytes dosBytes)).toOption
  let ntBytes ← embeddedRecord imageBytes sizeofPeNtHeaders ntHeadersOffset
  let ntHeaders := PeNtHeaders.ofBytes ntBytes
  if ntHeaders.signature ≠ peNtSignature ∨ ntHeaders.magic ≠ pe32PlusMagic then none
  else some ntHeaders.machine

end Loader

end Ringos.Image

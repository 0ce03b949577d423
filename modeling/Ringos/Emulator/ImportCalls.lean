import Ringos.Emulator.ImportStubs

/-!
# Calls of Windows imports through the address table

The entry of an import holds the address of its stub, unless it is overlapped
by the entry of an import bound later, and the interpreter reads the stub
there, unless the addresses of the stub wrap around.
-/

namespace Ringos.Emulator

open Ringos.Core Ringos.Image

variable {σ : Type}

/-- A number of eight bytes is loaded as it has been encoded. -/
theorem ofLittleEndian_eight (value : UInt64) :
    ofLittleEndian (toLittleEndian 8 value) = value := by
  have hdecoded := @ofLittleEndian_toLittleEndian 8 (by decide) value
  rw [Nat.mod_eq_of_lt (by have := value.toNat_lt; omega)] at hdecoded
  exact UInt64.toNat_inj.mp hdecoded

/-- A machine at the address that a bound import has in the address table, with an intact stub. -/
structure Machine.AtImport (machine : Machine σ) (imageBase loadedImageSize : UInt64)
    (loadedImage : Nat → UInt8) (imported : BoundImport) : Prop where
  contents : ∃ current, machine.HoldsImage imageBase loadedImageSize current ∧
    ∀ offset, (imported.address - imageBase).toNat ≤ offset →
      offset < (imported.address - imageBase).toNat + x64Win32ImportStubSize →
        current offset = loadedImage offset
  entry : machine.state.instructionPointer =
    ofLittleEndian (takeBytes loadedImage imported.addressEntryRva.toNat 8)

/-- The offset of a stub from its address. -/
theorem stubOffset_of_address {config : BindConfig} {contents : Nat → UInt8} {index : Nat}
    {imported : BoundImport} {loadedImageSize : UInt64} (hstub : imported.Stub config contents index)
    (hsize : config.loadedImageSize.toNat ≤ loadedImageSize.toNat) :
    (imported.address - config.expectedImageBase).toNat = stubOffset config.imageSize index := by
  have hwithin := hstub.within
  have hlt := loadedImageSize.toNat_lt
  rw [hstub.address, UInt64.add_comm, UInt64.add_sub_cancel, Nat.toUInt64,
    UInt64.toNat_ofNat_of_lt']
  show stubOffset config.imageSize index < 2 ^ 64
  omega

/-- The entry of a bound import that no later import overlaps leads to its stub, unless the stub
wraps around the address space. -/
theorem boundImport_holdsStub {imageBytes : List UInt8} {imageBase loadedImageSize : UInt64}
    {buffer : Nat → UInt8} {result : X64LoadResult}
    (hresult : result = loadX64Pe64Image imageBytes imageBase buffer loadedImageSize
      (some resolveX64Win32Import)) (hok : result.status = .ok)
    {later earlier : List BoundImport} {imported : BoundImport}
    (hbound : result.imports.bound = later ++ imported :: earlier)
    (hapart : ∀ other ∈ later, imported.Apart other)
    (hwraps : imported.address.toNat + x64Win32ImportStubSize ≤ 2 ^ 64)
    (hbase : imageBase ≤ imported.address) {machine : Machine σ}
    (hmachine : machine.AtImport imageBase loadedImageSize result.imports.loadedImage imported) :
    ∃ dllExport, resolvedExport imported.dllName imported.functionName = some dllExport ∧
      dllExport.syscallNumber.toUInt32.toUInt64 = dllExport.syscallNumber ∧
      machine.HoldsStub machine.state.instructionPointer dllExport.syscallNumber.toUInt32 := by
  have himports := loadX64Pe64Image_bound hresult hok
  have hstub := himports.stubs later imported earlier hbound
  have hentry := himports.entries later imported earlier hbound hapart
  obtain ⟨dllExport, hresolved, hnumber, hcode⟩ := hstub.code
  obtain ⟨current, himage, hintact⟩ := hmachine.contents
  have hsize : loadedImageSize.toUInt32.toNat ≤ loadedImageSize.toNat := by
    rw [UInt64.toNat_toUInt32]
    exact Nat.mod_le _ _
  have hoffset : (imported.address - imageBase).toNat =
      stubOffset result.base.outResult.imageSize earlier.length :=
    stubOffset_of_address hstub hsize
  have hsum : imageBase.toNat + stubOffset result.base.outResult.imageSize earlier.length =
      imported.address.toNat := by
    have hle := UInt64.le_iff_toNat_le.mp hbase
    rw [← hoffset, UInt64.toNat_sub_of_le _ _ hbase]
    omega
  rw [hoffset] at hintact
  have hpointer : machine.state.instructionPointer =
      imageBase + (stubOffset result.base.outResult.imageSize earlier.length).toUInt64 := by
    rw [hmachine.entry, hentry, ofLittleEndian_eight]
    exact hstub.address
  refine ⟨dllExport, hresolved, ?_, ?_⟩
  · have hlt := UInt64.le_iff_toNat_le.mp hnumber
    rw [show (0xFFFFFFFF : UInt64).toNat = 0xFFFFFFFF from rfl] at hlt
    rw [← UInt64.toNat_inj, UInt32.toNat_toUInt64, UInt64.toNat_toUInt32,
      Nat.mod_eq_of_lt (by omega)]
  · rw [hpointer]
    exact himage.stub (Nat.le_trans hstub.within hsize) (by rw [hsum]; exact hwraps)
      ((takeBytes_congr hintact).trans hcode)

/-- A bound import whose entry no later import overlaps, and whose stub does not wrap around the
address space, is served when it is called. -/
theorem boundImport_served {imageBytes : List UInt8} {imageBase loadedImageSize : UInt64}
    {buffer : Nat → UInt8} {result : X64LoadResult}
    (hresult : result = loadX64Pe64Image imageBytes imageBase buffer loadedImageSize
      (some resolveX64Win32Import)) (hok : result.status = .ok)
    {later earlier : List BoundImport} {imported : BoundImport}
    (hbound : result.imports.bound = later ++ imported :: earlier)
    (hapart : ∀ other ∈ later, imported.Apart other)
    (hwraps : imported.address.toNat + x64Win32ImportStubSize ≤ 2 ^ 64)
    (hbase : imageBase ≤ imported.address)
    {machine : Machine σ} (hbytes : machine.memory.bytes ≠ 0)
    (hmachine : machine.AtImport imageBase loadedImageSize result.imports.loadedImage imported)
    {returnAddress : UInt64}
    (hreturn : machine.quadAt (machine.register rsp) = some returnAddress) {options : Options}
    (hengine : options.engine = .interpreter) (hbudget : 4 ≤ options.instructionBudget.toNat)
    (handleSyscall : EmulatorState → ByteMemory → σ → SyscallResult × ByteMemory × σ) :
    ∃ dllExport, resolvedExport imported.dllName imported.functionName = some dllExport ∧
      ServesImport machine options dllExport.syscallNumber returnAddress handleSyscall := by
  obtain ⟨dllExport, hresolved, hzero, hholds⟩ :=
    boundImport_holdsStub hresult hok hbound hapart hwraps hbase hmachine
  have hserves : ServesImport machine options _ returnAddress handleSyscall :=
    servesImport hbytes hholds hengine hbudget hreturn
  rw [hzero] at hserves
  exact ⟨dllExport, hresolved, hserves⟩

/-- A file with its import tables in the headers: two descriptors with one lookup table and one
function. The address tables start at `0x1C0` and at `0x100` plus the given byte. -/
def importingImage (imageBase : UInt64) (secondThunkRva : UInt8) : List UInt8 :=
  takeBytes (putBytes (putBytes (putBytes (fun
    -- the DOS header
    | 0 => 0x4D | 1 => 0x5A | 60 => 0x40
    -- signature, machine, one section, size of the optional header
    | 64 => 0x50 | 65 => 0x45 | 68 => 0x64 | 69 => 0x86 | 70 => 1 | 84 => 0xF0
    -- magic, alignments, size of the image, size of the headers
    | 88 => 0x0B | 89 => 0x02 | 121 => 0x10 | 125 => 0x10 | 145 => 0x10 | 149 => 0x02
    -- the number of directories and the import directory
    | 196 => 16 | 208 => 0x70 | 209 => 0x01 | 212 => 60
    -- virtual size and virtual address of the section
    | 336 => 1 | 341 => 0x04
    -- the descriptors: lookup table, name, address table
    | 368 => 0xB0 | 369 => 0x01 | 380 => 0xE8 | 381 => 0x01 | 384 => 0xC0 | 385 => 0x01
    | 388 => 0xB0 | 389 => 0x01 | 400 => 0xE8 | 401 => 0x01 | 404 => secondThunkRva | 405 => 0x01
    -- the lookup table
    | 432 => 0xD8 | 433 => 0x01
    | _ => 0) 112 (toLittleEndian 8 imageBase)) 474 (nameBytes "ExitProcess"))
      488 (nameBytes "kernel32")) 0 512

/-- The image loaded into a region of two pages. -/
def importingResult (imageBase : UInt64) (secondThunkRva : UInt8) : X64LoadResult :=
  loadX64Pe64Image (importingImage imageBase secondThunkRva) imageBase (fun _ => 0) 0x2000
    (some resolveX64Win32Import)

/-- A guest over the loaded image that calls the first import, with its return address at the start
of the image. -/
def importingMachine (imageBase : UInt64) (secondThunkRva : UInt8) : Machine Unit where
  memory := ⟨imageBase, 0x100000, 0x2000⟩
  state :=
    { generalRegisters := (Vector.replicate 16 0).setIfInBounds 4 imageBase
      simdRegisters := Vector.replicate 16 (Vector.replicate 16 0)
      instructionPointer := ofLittleEndian
        (takeBytes (importingResult imageBase secondThunkRva).imports.loadedImage 0x1C0 8)
      flags := 0x202 }
  host address := (importingResult imageBase secondThunkRva).imports.loadedImage
    (address - 0x100000).toNat
  world := ()

/-- The first import of the image. -/
def exitProcessImport (imageBase : UInt64) : BoundImport :=
  ⟨nameBytes "kernel32", nameBytes "ExitProcess", 0x1C0, imageBase + 0x1000⟩

theorem importingMachine_atImport (imageBase : UInt64) (secondThunkRva : UInt8) :
    (importingMachine imageBase secondThunkRva).AtImport imageBase 0x2000
      (importingResult imageBase secondThunkRva).imports.loadedImage
        (exitProcessImport imageBase) := by
  have hentry : (exitProcessImport imageBase).addressEntryRva.toNat = 0x1C0 := by
    show (0x1C0 : UInt32).toNat = 0x1C0
    decide
  have hbytes : (0x100000 : UInt64) ≠ 0 := by decide
  refine ⟨⟨_, ⟨rfl, rfl, hbytes, fun offset hlt => ?_⟩, fun _ _ _ => rfl⟩, by rw [hentry]; rfl⟩
  have hlt' : offset < 0x2000 := hlt
  have hoffset : (0x100000 + offset.toUInt64 - 0x100000 : UInt64).toNat = offset := by
    rw [UInt64.add_comm, UInt64.add_sub_cancel, Nat.toUInt64, UInt64.toNat_ofNat_of_lt']
    show offset < 2 ^ 64
    omega
  simp only [importingMachine, hoffset]

/-- The callback that ends the thread. -/
def exitThread (_ : EmulatorState) (host : ByteMemory) (world : Unit) :
    SyscallResult × ByteMemory × Unit :=
  (⟨0, .exitThread⟩, host, world)

/-- With an intact entry the first import is served. -/
theorem exitProcess_served :
    ∃ dllExport, resolvedExport (nameBytes "kernel32") (nameBytes "ExitProcess") = some dllExport ∧
      ServesImport (importingMachine 0x400000 0xC8) ⟨.interpreter, 4⟩ dllExport.syscallNumber
        0x5A4D exitThread := by
  have hbound : (importingResult 0x400000 0xC8).imports.bound =
      [⟨nameBytes "kernel32", nameBytes "ExitProcess", 0x1C8, 0x401010⟩] ++
        exitProcessImport 0x400000 :: [] := by decide +kernel
  have hresult : importingResult 0x400000 0xC8 = loadX64Pe64Image (importingImage 0x400000 0xC8)
      0x400000 (fun _ => 0) 0x2000 (some resolveX64Win32Import) := rfl
  refine boundImport_served hresult (by decide +kernel) hbound ?_ (by decide) (by decide) (by decide)
    (importingMachine_atImport 0x400000 0xC8) (by decide +kernel) rfl (by decide) exitThread
  exact fun other hmem => List.mem_singleton.mp hmem ▸ .inl (by decide)

/-- The loader binds the first import of this image, but its entry is not served. -/
def Unserved (imageBase : UInt64) (secondThunkRva : UInt8) : Prop :=
  (importingResult imageBase secondThunkRva).status = .ok ∧
  exitProcessImport imageBase ∈ (importingResult imageBase secondThunkRva).imports.bound ∧
  (importingMachine imageBase secondThunkRva).AtImport imageBase 0x2000
    (importingResult imageBase secondThunkRva).imports.loadedImage (exitProcessImport imageBase) ∧
  (importingMachine imageBase secondThunkRva).quadAt imageBase = some 0x5A4D ∧
  ¬ ∃ syscallNumber, ServesImport (importingMachine imageBase secondThunkRva) ⟨.interpreter, 4⟩
    syscallNumber 0x5A4D exitThread

/-- A call that executes no instruction does not run the three of a stub. -/
theorem unserved_of_retired {imageBase : UInt64} {secondThunkRva : UInt8}
    (hloaded : (importingResult imageBase secondThunkRva).status = .ok ∧
      exitProcessImport imageBase ∈ (importingResult imageBase secondThunkRva).imports.bound ∧
      (importingMachine imageBase secondThunkRva).quadAt imageBase = some 0x5A4D)
    (hretired : (runX64Emulator (importingMachine imageBase secondThunkRva) ⟨some exitThread⟩
      ⟨.interpreter, 4⟩).result.retiredInstructions = 0) :
    Unserved imageBase secondThunkRva := by
  obtain ⟨hok, hmem, hreturn⟩ := hloaded
  refine ⟨hok, hmem, importingMachine_atImport imageBase secondThunkRva, hreturn, ?_⟩
  rintro ⟨syscallNumber, called, -, -, hcalled⟩
  have hthree := (hcalled ⟨0, .exitThread⟩ _ _ rfl).2.2
  rw [hretired] at hthree
  exact absurd hthree (by decide)

/-- An import is not served if a later entry overlaps its entry, and not if its stub lies behind
the end of the address space. -/
theorem exitProcess_notServed :
    Unserved 0x400000 0xC4 ∧ Unserved 0xFFFFFFFFFFFFF000 0xC8 := by
  constructor
  · apply unserved_of_retired <;> decide +kernel
  · apply unserved_of_retired <;> decide +kernel

end Ringos.Emulator

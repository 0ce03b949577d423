import Ringos.Image.X64Pe64Image

/-!
# The resolver of Windows imports

An import is resolved by name to a syscall. Its code is a stub that the resolver
puts behind the image, at the next multiple of sixteen: it moves the first
argument from RCX to RDI, loads the syscall number, traps and returns.
-/

namespace Ringos.Image

open Ringos.Core Binding

/-- `X64_WIN32_IMPORT_STUB_SIZE`. -/
def x64Win32ImportStubSize : Nat := 11

/-- `align_up`. -/
def alignUpSize (value alignment : Nat) : Nat :=
  if alignment = 0 then value
  else
    let remainder := value % alignment
    if remainder = 0 then value else value + (alignment - remainder)

/-- `to_lower_ascii`. -/
def toLowerAscii (value : UInt8) : UInt8 :=
  if 0x41 ≤ value ∧ value ≤ 0x5A then value - 0x41 + 0x61 else value

/-- `has_dll_suffix`, of the part of a name behind its dot. -/
def hasDllSuffix (value : List UInt8) : Bool := value.map toLowerAscii == [0x64, 0x6C, 0x6C]

/-- `dll_names_match`. Names are given without their terminators. -/
def dllNamesMatch : (importedName registeredName : List UInt8) → Bool
  | [], [] => true
  | dot :: suffix, [] => dot == 0x2E && hasDllSuffix suffix
  | [], _ :: _ => false
  | imported :: importedRest, registered :: registeredRest =>
    toLowerAscii imported == toLowerAscii registered && dllNamesMatch importedRest registeredRest

/-- `symbol_names_match`. -/
def symbolNamesMatch (left right : List UInt8) : Bool := left == right

/-- `x64_win32_dll_export`. -/
structure X64Win32DllExport where
  dllName : List UInt8
  symbolName : List UInt8
  syscallNumber : UInt64
  deriving DecidableEq

/-- The characters of a name. -/
def nameBytes (name : String) : List UInt8 := name.toList.map fun character => character.toNat.toUInt8

/-- `get_x64_win32_dll_exports`: the calls that log a string and that exit. -/
def x64Win32DllExports : List X64Win32DllExport :=
  [⟨nameBytes "kernel32", nameBytes "OutputDebugStringA", 1⟩,
    ⟨nameBytes "kernel32", nameBytes "ExitProcess", 2⟩]

/-- The loop over the exports. -/
def resolvedExport (dllName symbolName : List UInt8) : Option X64Win32DllExport :=
  x64Win32DllExports.find? fun currentExport =>
    dllNamesMatch dllName currentExport.dllName && symbolNamesMatch symbolName currentExport.symbolName

/-- The code of a stub: `mov rdi, rcx`, `mov eax, number`, `syscall`, `ret`. -/
def importStub (syscallNumber : UInt32) : List UInt8 :=
  [0x48, 0x89, 0xCF, 0xB8] ++ toLittleEndian 4 syscallNumber.toUInt64 ++ [0x0F, 0x05, 0xC3]

/-- `resolve_x64_win32_import`. Its caller passes no null pointer. -/
def resolveX64Win32Import : ImportResolver := fun dllName symbolName imageBase loadedImageSize =>
  match resolvedExport dllName symbolName with
  | none => pure (.error .unsupportedImport)
  | some currentExport =>
    if currentExport.syscallNumber > 0xFFFFFFFF then pure (.error .importStubOutOfRange)
    else do
      let nextStubOffset ← Attempt.read fun state : BindState => state.nextStubOffset
      let stubOffset := alignUpSize nextStubOffset 16
      if stubOffset > loadedImageSize.toNat ∨
          x64Win32ImportStubSize > loadedImageSize.toNat - stubOffset then
        pure (.error .importStubOutOfRange)
      else do
        writeLoaded stubOffset (importStub currentExport.syscallNumber.toUInt32)
        Attempt.update fun state =>
          { state with nextStubOffset := stubOffset + x64Win32ImportStubSize }
        pure (.ok (imageBase + stubOffset.toUInt64))

end Ringos.Image

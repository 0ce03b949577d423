import Ringos.Image.ImportBounds

/-!
# What the import tables of a loaded image say

The tables are read here off contents that do not change: the descriptors up to
the empty one, the entries of a lookup table up to the zero entry, and names up
to their terminators. The imports of the image are numbered in this order. The
loader reads the same tables while it patches the address tables, so what it
sees is what is said here only where no table that it has patched lies over
bytes that it has yet to read.
-/

namespace Ringos.Image

open Ringos.Core Binding

/-- A range of bytes of the loaded image. -/
structure Span where
  start : Nat
  length : Nat
  deriving DecidableEq

namespace Span

/-- The range holds the byte at an offset. -/
def Covers (span : Span) (offset : Nat) : Prop :=
  span.start ≤ offset ∧ offset < span.start + span.length

/-- No byte is in both ranges. -/
def Apart (span other : Span) : Prop := ∀ offset, span.Covers offset → ¬ other.Covers offset

variable {span other : Span}

theorem apart_iff : span.Apart other ↔ span.length = 0 ∨ other.length = 0 ∨
    span.start + span.length ≤ other.start ∨ other.start + other.length ≤ span.start := by
  constructor
  · intro h
    by_contra hcommon
    have hboth := h (max span.start other.start)
    unfold Covers at hboth
    omega
  · rintro h offset ⟨hfirst, hlast⟩ ⟨hfirst', hlast'⟩
    omega

instance : Decidable (span.Apart other) := decidable_of_iff' _ apart_iff

/-- Ranges in ranges that are apart. -/
theorem Apart.mono {inner inner' : Span} (h : span.Apart other)
    (hinner : ∀ offset, inner.Covers offset → span.Covers offset)
    (hinner' : ∀ offset, inner'.Covers offset → other.Covers offset) : inner.Apart inner' :=
  fun offset hcovers hcovers' => h offset (hinner offset hcovers) (hinner' offset hcovers')

end Span

/-- An import by name: the names of its library and of its function, and where its entry in the
address table lies. -/
structure NamedImport where
  dllName : List UInt8
  functionName : List UInt8
  addressEntry : Nat
  deriving DecidableEq

/-- The address-table entry. -/
def NamedImport.entry (named : NamedImport) : Span := ⟨named.addressEntry, 8⟩

/-- The three references of a descriptor, resolved: its name, address table and lookup table. -/
structure ImportedDll where
  dllNameRva : Nat
  firstThunkRva : Nat
  lookupTableRva : Nat
  deriving DecidableEq

/-- The characters of a name, as far as the buffer of the loader goes. -/
def asciiAt (contents : Nat → UInt8) (offset : Nat) : List UInt8 :=
  (takeBytes contents offset 64).takeWhile (· ≠ 0)

/-- The entry of an index of a lookup table. -/
def lookupEntryAt (contents : Nat → UInt8) (tableRva index : Nat) : UInt64 :=
  ofLittleEndian (takeBytes contents (tableRva + 8 * index) 8)

/-- The descriptor of an index. -/
def descriptorAt (contents : Nat → UInt8) (directoryRva index : Nat) : PeImportDescriptor :=
  .ofBytes (takeBytes contents (directoryRva + sizeofPeImportDescriptor * index)
    sizeofPeImportDescriptor)

section Tables

variable (config : BindConfig) (contents : Nat → UInt8)

namespace ImportedDll

variable (dll : ImportedDll)

/-- The indices of the entries of the lookup table, up to the zero entry. -/
def thunks : List Nat :=
  (List.range (config.imageSize.toNat / 8 + 1)).takeWhile fun index =>
    lookupEntryAt contents dll.lookupTableRva index ≠ 0

/-- Where the hint and the name lie to which a lookup entry refers. -/
def recordRva (index : Nat) : Nat :=
  ((tryResolveImportNameRva
    (lookupEntryAt contents dll.lookupTableRva index &&& ~~~peImportByOrdinalMask64)
    config.expectedImageBase config.imageSize).getD 0).toNat

/-- The name of the function to which a lookup entry refers. -/
def functionName (index : Nat) : List UInt8 :=
  asciiAt contents (dll.recordRva config contents index + 2)

/-- The import of a lookup entry. -/
def named (index : Nat) : NamedImport where
  dllName := asciiAt contents dll.dllNameRva
  functionName := dll.functionName config contents index
  addressEntry := dll.firstThunkRva + 8 * index

/-- The imports from the library, in the order of its lookup table. -/
def imports : List NamedImport := (dll.thunks config contents).map (dll.named config contents)

/-- The entries of the address table that are patched. -/
def addressTable : Span := ⟨dll.firstThunkRva, 8 * (dll.thunks config contents).length⟩

/-- The lookup table with its zero entry. -/
def lookupTable : Span := ⟨dll.lookupTableRva, 8 * ((dll.thunks config contents).length + 1)⟩

/-- The name of the library with its terminator. -/
def nameString : Span := ⟨dll.dllNameRva, (asciiAt contents dll.dllNameRva).length + 1⟩

/-- The hint and the name of a function with its terminator. -/
def record (index : Nat) : Span :=
  ⟨dll.recordRva config contents index, 2 + (dll.functionName config contents index).length + 1⟩

end ImportedDll

variable (directory : PeDataDirectory)

/-- The indices of the descriptors, up to the empty one. -/
def descriptorIndices : List Nat :=
  (List.range (directory.size.toNat / sizeofPeImportDescriptor)).takeWhile fun index =>
    !(descriptorAt contents directory.virtualAddress.toNat index).isEmpty

/-- The library of a descriptor. -/
def importedDll (index : Nat) : Option ImportedDll :=
  (resolveDescriptor config (descriptorAt contents directory.virtualAddress.toNat index)).map
    fun (dllNameRva, firstThunkRva, lookupTableRva) =>
      ⟨dllNameRva.toNat, firstThunkRva.toNat, lookupTableRva.toNat⟩

/-- The libraries in the order of their descriptors. -/
def importedDlls : List ImportedDll :=
  if directory.virtualAddress = 0 then []
  else (descriptorIndices contents directory).filterMap (importedDll config contents directory)

/-- All imports of the image, in the order of the descriptors and of their lookup tables. -/
def namedImports : List NamedImport :=
  (importedDlls config contents directory).flatMap fun dll => dll.imports config contents

/-- The descriptors with the empty one. -/
def descriptorArray : Span :=
  ⟨directory.virtualAddress.toNat,
    sizeofPeImportDescriptor * ((descriptorIndices contents directory).length + 1)⟩

/-- No address table has a byte in common with another one, or with bytes that are read as a
descriptor, a lookup table or a name. An address table may be its own lookup table. -/
structure TablesApart : Prop where
  tables : (importedDlls config contents directory).Pairwise fun dll other =>
    (dll.addressTable config contents).Apart (other.addressTable config contents) ∧
      (dll.addressTable config contents).Apart (other.lookupTable config contents) ∧
      (other.addressTable config contents).Apart (dll.lookupTable config contents)
  own : ∀ dll ∈ importedDlls config contents directory,
    dll.firstThunkRva = dll.lookupTableRva ∨
      (dll.addressTable config contents).Apart (dll.lookupTable config contents)
  descriptors : ∀ dll ∈ importedDlls config contents directory,
    (dll.addressTable config contents).Apart (descriptorArray contents directory)
  names : ∀ dll ∈ importedDlls config contents directory,
    ∀ other ∈ importedDlls config contents directory,
      (dll.addressTable config contents).Apart (other.nameString contents)
  records : ∀ dll ∈ importedDlls config contents directory,
    ∀ other ∈ importedDlls config contents directory,
      ∀ index ∈ other.thunks config contents,
        (dll.addressTable config contents).Apart (other.record config contents index)

end Tables

end Ringos.Image

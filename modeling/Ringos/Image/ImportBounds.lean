import Ringos.Image.ImportBinding

/-!
# The import phase ends and stays in bounds

Nothing is assumed about the import tables: they may overlap each other, the
headers and the descriptors, so that the phase reads back what it has patched.
The loops are bounded all the same. The descriptors are counted by the size of
the directory, a name by its buffer, and each entry of a lookup table that was
read lies eight bytes behind the one before it and below `image_size`, whatever
it holds.
-/

namespace Ringos.Image

open Ringos.Core Binding

/-- What the import phase may do to a buffer with an image in it: read the image, patch an entry
of eight bytes in it, and put a stub behind it. -/
def LoadedAccess.Allowed (imageSize loadedImageSize : Nat) : LoadedAccess → Prop
  | .read offset length => offset + length ≤ imageSize
  | .write offset length =>
    (length = 8 ∧ offset + length ≤ imageSize) ∨
      (length = x64Win32ImportStubSize ∧ imageSize ≤ offset ∧ offset + length ≤ loadedImageSize)

/-- No loop has run out of fuel, and every access so far was allowed. -/
structure BindState.InBounds (config : BindConfig) (state : BindState) : Prop where
  finished : state.finished = true
  allowed : ∀ access ∈ state.accesses,
    access.Allowed config.imageSize.toNat config.loadedImageSize.toNat
  next : config.imageSize.toNat ≤ state.nextStubOffset

section Accesses

variable {config : BindConfig} {state : BindState}

/-- One more allowed access. -/
theorem BindState.InBounds.access {next : BindState} {access : LoadedAccess}
    (h : state.InBounds config)
    (haccess : access.Allowed config.imageSize.toNat config.loadedImageSize.toNat)
    (hfinished : next.finished = state.finished)
    (haccesses : next.accesses = access :: state.accesses)
    (hnext : next.nextStubOffset = state.nextStubOffset) : next.InBounds config where
  finished := hfinished.trans h.finished
  allowed := by
    rw [haccesses, List.forall_mem_cons]
    exact ⟨haccess, h.allowed⟩
  next := by
    rw [hnext]
    exact h.next

instance refuse_inBounds {α : Type} (status : X64Pe64ImageLoadStatus) :
    Attempt.Keeps (BindState.InBounds config) (refuse status : Binding α) where
  kept h := ⟨h.finished, h.allowed, h.next⟩

/-- A read that its caller has checked. -/
theorem readLoaded_inBounds {rva : UInt32} {length : Nat}
    (h : ¬ outOfLoaded config.imageSize rva length = true) :
    Attempt.Keeps (BindState.InBounds config) (readLoaded rva.toNat length) where
  kept hstate := by
    have hallowed : (LoadedAccess.read rva.toNat length).Allowed config.imageSize.toNat
        config.loadedImageSize.toNat := within_of_not_outOfLoaded h
    exact hstate.access hallowed rfl rfl rfl

instance copyLoadedRecord_inBounds (recordSize : Nat) (rva : UInt32) :
    Attempt.Keeps (BindState.InBounds config)
      (copyLoadedRecord recordSize config.imageSize rva) := by
  unfold copyLoadedRecord
  split
  · infer_instance
  · next h => exact readLoaded_inBounds h

instance readAsciiFrom_inBounds (rva : UInt32) (remaining : Nat) :
    Attempt.Keeps (BindState.InBounds config) (readAsciiFrom config.imageSize rva remaining) := by
  induction remaining generalizing rva with
  | zero =>
    unfold readAsciiFrom
    infer_instance
  | succ remaining ih =>
    unfold readAsciiFrom
    split
    · infer_instance
    · next h =>
      have _ := readLoaded_inBounds h
      infer_instance

instance readLoadedAsciiString_inBounds (rva : UInt32) :
    Attempt.Keeps (BindState.InBounds config) (readLoadedAsciiString config.imageSize rva) :=
  readAsciiFrom_inBounds rva 64

/-- The stub goes behind the image. -/
instance resolveX64Win32Import_inBounds (dllName functionName : List UInt8) :
    Attempt.Keeps (BindState.InBounds config)
      (resolveX64Win32Import dllName functionName config.expectedImageBase
        config.loadedImageSize) := by
  unfold resolveX64Win32Import
  cases resolvedExport dllName functionName with
  | none => exact .pure _
  | some dllExport =>
    dsimp only
    split
    · infer_instance
    · constructor
      intro state h
      rw [Attempt.read_bind]
      split
      · exact h
      · next hwithin =>
        rw [not_or, Nat.not_lt, Nat.not_lt] at hwithin
        have hbehind : config.imageSize.toNat ≤ alignUpSize state.nextStubOffset 16 := by
          have hnext := h.next
          rw [alignUpSize_sixteen]
          split <;> omega
        have hallowed : (LoadedAccess.write (alignUpSize state.nextStubOffset 16)
            x64Win32ImportStubSize).Allowed config.imageSize.toNat config.loadedImageSize.toNat :=
          .inr ⟨rfl, hbehind, by omega⟩
        refine ⟨h.finished, ?_, ?_⟩
        · exact List.forall_mem_cons.mpr ⟨hallowed, h.allowed⟩
        · exact Nat.le_trans hbehind (Nat.le_add_right _ _)

end Accesses

section Loops

variable {config : BindConfig} (hresolver : config.importResolver = some resolveX64Win32Import)

include hresolver

theorem resolveX64Import_inBounds (dllName functionName : List UInt8) :
    Attempt.Keeps (BindState.InBounds config)
      (resolveX64Import config.importResolver dllName functionName config.expectedImageBase
        config.loadedImageSize) := by
  rw [hresolver]
  refine @Attempt.Keeps.bind _ _ _ _ _ _ inferInstance fun result => ?_
  cases result with
  | ok address => exact .pure _
  | error error => cases error <;> exact refuse_inBounds _

omit hresolver in
/-- A patch that its caller has checked. -/
theorem patchAddressEntry_inBounds (dllName functionName : List UInt8) {addressEntryRva : UInt32}
    (address : UInt64) (h : ¬ outOfLoaded config.imageSize addressEntryRva 8 = true) :
    Attempt.Keeps (BindState.InBounds config)
      (patchAddressEntry dllName functionName addressEntryRva address) where
  kept hstate := by
    have hallowed : (LoadedAccess.write addressEntryRva.toNat
        (toLittleEndian 8 address).length).Allowed config.imageSize.toNat
          config.loadedImageSize.toNat :=
      .inl ⟨length_toLittleEndian 8 address, by
        rw [length_toLittleEndian]
        exact within_of_not_outOfLoaded h⟩
    exact hstate.access hallowed rfl rfl rfl

theorem bindThunk_inBounds (dllName : List UInt8) (lookupEntryRva addressEntryRva : UInt32) :
    Attempt.Keeps (BindState.InBounds config)
      (bindThunk config dllName lookupEntryRva addressEntryRva) := by
  unfold bindThunk
  refine @Attempt.Keeps.bind _ _ _ _ _ _ inferInstance fun lookupBytes => ?_
  dsimp only
  split
  · infer_instance
  · next hentry =>
    split
    · infer_instance
    · split
      · infer_instance
      · split
        · infer_instance
        · refine @Attempt.Keeps.bind _ _ _ _ _ _ inferInstance fun functionName => ?_
          have _ := resolveX64Import_inBounds hresolver dllName functionName
          have _ (address : UInt64) :=
            patchAddressEntry_inBounds dllName functionName address hentry
          infer_instance

omit hresolver in
/-- An iteration that ends has read its entry of the lookup table. -/
theorem bindThunk_within {dllName : List UInt8} {lookupEntryRva addressEntryRva : UInt32}
    {state next : BindState} {more : Bool}
    (h : bindThunk config dllName lookupEntryRva addressEntryRva state = (some more, next)) :
    lookupEntryRva.toNat + 8 ≤ config.imageSize.toNat := by
  by_cases hout : outOfLoaded config.imageSize lookupEntryRva 8 = true
  · have hrefused : copyLoadedRecord 8 config.imageSize lookupEntryRva state =
        (none, { state with status := .importTableOutOfRange }) := by
      rw [copyLoadedRecord, if_pos hout]
      rfl
    rw [bindThunk, Attempt.bind_of_none hrefused] at h
    cases h
  · exact within_of_not_outOfLoaded hout

/-- The thunk loop, by induction on its fuel: behind `thunkIndex` entries that lie one behind the
other below `image_size` there is fuel left. -/
theorem bindThunks_inBounds (dllName : List UInt8) (lookupTableRva firstThunkRva : UInt32)
    (fuel : Nat) (thunkIndex : UInt32)
    (hentries : lookupTableRva.toNat + 8 * thunkIndex.toNat ≤ config.imageSize.toNat)
    (hfuel : config.imageSize.toNat < 8 * (thunkIndex.toNat + fuel)) :
    Attempt.Keeps (BindState.InBounds config)
      (bindThunks config dllName lookupTableRva firstThunkRva fuel thunkIndex) := by
  induction fuel generalizing thunkIndex with
  | zero => omega
  | succ fuel ih =>
    have hsize := config.imageSize.toNat_lt
    have hentry : (lookupTableRva + thunkIndex * 8).toNat =
        lookupTableRva.toNat + 8 * thunkIndex.toNat := by
      have height : (8 : UInt32).toNat = 8 := rfl
      rw [UInt32.toNat_add, UInt32.toNat_mul, height]
      omega
    have hstep := bindThunk_inBounds hresolver dllName (lookupTableRva + thunkIndex * 8)
      (firstThunkRva + thunkIndex * 8)
    constructor
    intro state h
    have hkept := hstep.kept h
    unfold bindThunks
    rcases hrun : bindThunk config dllName (lookupTableRva + thunkIndex * 8)
      (firstThunkRva + thunkIndex * 8) state with ⟨_ | more, next⟩
    · rw [hrun] at hkept
      rw [Attempt.bind_of_none hrun]
      exact hkept
    · rw [hrun] at hkept
      rw [Attempt.bind_of_some hrun]
      have hwithin := bindThunk_within hrun
      rw [hentry] at hwithin
      cases more with
      | false => exact hkept
      | true =>
        have hnext : (thunkIndex + 1).toNat = thunkIndex.toNat + 1 := by
          rw [UInt32.toNat_add]
          change (_ + 1) % _ = _
          omega
        exact (ih (thunkIndex + 1) (by omega) (by omega)).kept hkept

omit hresolver in
/-- A table reference names an offset below `image_size`. -/
theorem tryResolveImportNameRva_lt {rawNameReference expectedImageBase : UInt64}
    {imageSize rva : UInt32}
    (h : tryResolveImportNameRva rawNameReference expectedImageBase imageSize = some rva) :
    rva.toNat < imageSize.toNat := by
  have hcut {reference : UInt64} (hlt : reference < imageSize.toUInt64) :
      reference.toUInt32.toNat < imageSize.toNat := by
    rw [UInt64.lt_iff_toNat_lt, UInt32.toNat_toUInt64] at hlt
    exact Nat.lt_of_le_of_lt (Nat.mod_le _ _) hlt
  unfold tryResolveImportNameRva at h
  split at h
  · next hrva =>
    obtain rfl := Option.some.inj h
    exact hcut hrva.2
  · split at h
    · cases h
    · dsimp only at h
      split at h
      · cases h
      · next hrange =>
        obtain rfl := Option.some.inj h
        rw [not_or] at hrange
        exact hcut (UInt64.not_le.mp hrange.2)

omit hresolver in
/-- The three references of a descriptor; without a lookup table the address table is one. -/
theorem resolveDescriptor_spec {descriptor : PeImportDescriptor}
    {dllNameRva firstThunkRva lookupTableRva : UInt32}
    (h : resolveDescriptor config descriptor = some (dllNameRva, firstThunkRva, lookupTableRva)) :
    dllNameRva.toNat < config.imageSize.toNat ∧ firstThunkRva.toNat < config.imageSize.toNat ∧
      lookupTableRva.toNat < config.imageSize.toNat ∧
      (descriptor.originalFirstThunk = 0 → lookupTableRva = firstThunkRva) := by
  obtain ⟨name, hname, h⟩ := Option.bind_eq_some_iff.mp h
  obtain ⟨first, hfirst, h⟩ := Option.bind_eq_some_iff.mp h
  have hnameLt := tryResolveImportNameRva_lt hname
  have hfirstLt := tryResolveImportNameRva_lt hfirst
  dsimp only at h
  split at h
  · next horiginal =>
    obtain ⟨lookup, hlookup, h⟩ := Option.bind_eq_some_iff.mp h
    cases h
    exact ⟨hnameLt, hfirstLt, tryResolveImportNameRva_lt hlookup, fun h => absurd h horiginal⟩
  · cases h
    exact ⟨hnameLt, hfirstLt, hfirstLt, fun _ => rfl⟩

theorem bindDescriptor_inBounds (descriptor : PeImportDescriptor) :
    Attempt.Keeps (BindState.InBounds config) (bindDescriptor config descriptor) := by
  unfold bindDescriptor
  split
  · infer_instance
  · next dllNameRva firstThunkRva lookupTableRva hresolved =>
    obtain ⟨-, -, hlookup, -⟩ := resolveDescriptor_spec hresolved
    have _ (dllName : List UInt8) := bindThunks_inBounds hresolver dllName lookupTableRva
      firstThunkRva (config.imageSize.toNat / 8 + 1) 0 (by change _ + 8 * 0 ≤ _; omega)
      (by change _ < 8 * (0 + _); omega)
    infer_instance

/-- The descriptor loop, by induction on the descriptors left. -/
theorem bindDescriptors_inBounds (directoryRva : UInt32) (indices : List Nat) :
    Attempt.Keeps (BindState.InBounds config) (bindDescriptors config directoryRva indices) := by
  induction indices with
  | nil => exact .pure _
  | cons descriptorIndex rest ih =>
    have _ := bindDescriptor_inBounds hresolver
    unfold bindDescriptors
    infer_instance

theorem bindImports_inBounds (importDirectory : PeDataDirectory) :
    Attempt.Keeps (BindState.InBounds config) (bindImports config importDirectory) := by
  have _ := bindDescriptors_inBounds hresolver
  unfold bindImports
  infer_instance

end Loops

/-- The import phase ends, and what it reads and writes lies in bounds. -/
structure X64LoadResult.ImportsEnd (loadedImageSize : Nat) (result : X64LoadResult) : Prop where
  finished : result.imports.finished = true
  allowed : ∀ access ∈ result.imports.accesses,
    access.Allowed result.base.outResult.imageSize.toNat loadedImageSize

/-- A larger buffer allows no less. -/
theorem LoadedAccess.Allowed.mono {access : LoadedAccess} {imageSize size size' : Nat}
    (h : access.Allowed imageSize size) (hle : size ≤ size') : access.Allowed imageSize size' := by
  cases access with
  | read offset length => exact h
  | write offset length =>
    rcases h with hentry | ⟨hlength, hbehind, hend⟩
    · exact .inl hentry
    · exact .inr ⟨hlength, hbehind, Nat.le_trans hend hle⟩

/-- Whatever the image holds, its import phase ends, reads only the image, and writes only entries
of eight bytes inside of it and stubs behind it. -/
theorem loadX64Pe64Image_importsEnd (imageBytes : List UInt8) (expectedImageBase : UInt64)
    (loadedImage : Nat → UInt8) (loadedImageSize : UInt64) :
    (loadX64Pe64Image imageBytes expectedImageBase loadedImage loadedImageSize
      (some resolveX64Win32Import)).ImportsEnd loadedImageSize.toNat := by
  generalize hresult : loadX64Pe64Image imageBytes expectedImageBase loadedImage loadedImageSize
    (some resolveX64Win32Import) = result
  let config := bindConfig (some resolveX64Win32Import) expectedImageBase loadedImageSize
    result.base
  have hinBounds : result.imports.InBounds config := by
    have hstart : (BindState.start result.base).InBounds config :=
      ⟨rfl, fun _ h => absurd h List.not_mem_nil, Nat.le_refl _⟩
    obtain ⟨-, ⟨-, -, himports⟩ | ⟨returned, -, hrun, -, -⟩⟩ :=
      loadX64Pe64Image_cases hresult.symm
    · rw [himports]
      exact hstart
    · have hkept := (@bindImports_inBounds config rfl
        result.base.outResult.importDirectory).kept hstart
      rw [hrun] at hkept
      exact hkept
  -- the size is cut to 32 bits, which makes it no larger
  have hcut : config.loadedImageSize.toNat ≤ loadedImageSize.toNat := by
    change loadedImageSize.toUInt32.toNat ≤ _
    rw [UInt64.toNat_toUInt32]
    exact Nat.mod_le _ _
  exact ⟨hinBounds.finished, fun access hmem => (hinBounds.allowed access hmem).mono hcut⟩

end Ringos.Image

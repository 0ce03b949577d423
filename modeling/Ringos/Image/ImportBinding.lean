import Ringos.Image.X64Win32Emulation

/-!
# What the binding of Windows imports leaves

The stub of the import of index `i` lies sixteen bytes times `i` behind the end
of the image, rounded up. Stubs lie behind the image and address-table entries
in it, so no patch changes a stub. An entry keeps its address unless the entry
of a later import overlaps it.
-/

namespace Ringos.Image

open Ringos.Core Binding

section Contents

variable {contents : Nat → UInt8} {offset start length : Nat} {bytes : List UInt8}

/-- What is taken is the first byte and what is behind it. -/
theorem takeBytes_succ (contents : Nat → UInt8) (offset length : Nat) :
    takeBytes contents offset (length + 1) =
      contents offset :: takeBytes contents (offset + 1) length := by
  rw [takeBytes, List.range_succ_eq_map, List.map_cons, List.map_map, takeBytes]
  refine congrArg₂ _ rfl (List.map_congr_left fun index _ => ?_)
  rw [Function.comp_apply, Nat.succ_eq_add_one, Nat.add_assoc, Nat.add_comm 1 index]

/-- What is taken of contents that agree. -/
theorem takeBytes_congr {contents contents' : Nat → UInt8} {offset length : Nat}
    (h : ∀ index, offset ≤ index → index < offset + length → contents index = contents' index) :
    takeBytes contents offset length = takeBytes contents' offset length := by
  refine List.map_congr_left fun index hindex => h _ (by omega) ?_
  have hlt := List.mem_range.mp hindex
  omega

/-- A part of what is taken. -/
theorem takeBytes_part (contents : Nat → UInt8) {offset length first count : Nat}
    (h : first + count ≤ length) :
    takeBytes contents (offset + first) count =
      ((takeBytes contents offset length).drop first).take count := by
  apply List.ext_getElem
  · simp [takeBytes]
    omega
  · intro index hindex hpart
    simp [takeBytes, Nat.add_assoc]

/-- Bytes that have been put are read back. -/
theorem takeBytes_putBytes (contents : Nat → UInt8) (start : Nat) (bytes : List UInt8) :
    takeBytes (putBytes contents start bytes) start bytes.length = bytes := by
  apply List.ext_getElem
  · simp [takeBytes]
  · intro index hindex hbytes
    simp [takeBytes, putBytes, hbytes]

/-- Bytes elsewhere are as they were. -/
theorem takeBytes_putBytes_apart
    (h : offset + length ≤ start ∨ start + bytes.length ≤ offset) :
    takeBytes (putBytes contents start bytes) offset length = takeBytes contents offset length := by
  refine List.map_congr_left fun index hindex => ?_
  have hlt := List.mem_range.mp hindex
  unfold putBytes
  split
  · rw [List.getElem?_eq_none (by omega), Option.getD_none]
  · rfl

end Contents

section Offsets

/-- The offset of the stub of the import of an index. -/
def stubOffset (imageSize : UInt32) (index : Nat) : Nat :=
  alignUpSize imageSize.toNat 16 + 16 * index

/-- `next_stub_offset` after a number of imports. -/
def stubsEnd (imageSize : UInt32) : Nat → Nat
  | 0 => imageSize.toNat
  | count + 1 => stubOffset imageSize count + x64Win32ImportStubSize

variable {imageSize : UInt32} {index count : Nat}

/-- The next multiple of sixteen. -/
theorem alignUpSize_sixteen (value : Nat) :
    alignUpSize value 16 = if value % 16 = 0 then value else value + (16 - value % 16) := rfl

theorem imageSize_le_stubOffset (imageSize : UInt32) (index : Nat) :
    imageSize.toNat ≤ stubOffset imageSize index := by
  rw [stubOffset, alignUpSize_sixteen]
  split <;> omega

theorem stubOffset_mod (imageSize : UInt32) (index : Nat) :
    stubOffset imageSize index % 16 = 0 := by
  rw [stubOffset, alignUpSize_sixteen]
  split <;> omega

/-- The stub of an earlier import ends before the next one starts. -/
theorem stubOffset_before (h : index < count) :
    stubOffset imageSize index + x64Win32ImportStubSize ≤ stubOffset imageSize count := by
  unfold stubOffset x64Win32ImportStubSize
  omega

/-- The next stub goes to the next offset. -/
theorem alignUpSize_stubsEnd (imageSize : UInt32) (count : Nat) :
    alignUpSize (stubsEnd imageSize count) 16 = stubOffset imageSize count := by
  cases count with
  | zero => rfl
  | succ count =>
    have hmultiple := stubOffset_mod imageSize count
    have hnext : stubOffset imageSize (count + 1) = stubOffset imageSize count + 16 := by
      unfold stubOffset
      omega
    rw [stubsEnd, x64Win32ImportStubSize, alignUpSize_sixteen, if_neg (by omega), hnext]
    omega

end Offsets

/-- The stub of a bound import, and where its entry lies. -/
structure BoundImport.Stub (config : BindConfig) (contents : Nat → UInt8) (index : Nat)
    (imported : BoundImport) : Prop where
  code : ∃ dllExport, resolvedExport imported.dllName imported.functionName = some dllExport ∧
    dllExport.syscallNumber ≤ 0xFFFFFFFF ∧
    takeBytes contents (stubOffset config.imageSize index) x64Win32ImportStubSize =
      importStub dllExport.syscallNumber.toUInt32
  within : stubOffset config.imageSize index + x64Win32ImportStubSize ≤
    config.loadedImageSize.toNat
  address : imported.address =
    config.expectedImageBase + (stubOffset config.imageSize index).toUInt64
  entry : imported.addressEntryRva.toNat + 8 ≤ config.imageSize.toNat

/-- The address-table entries of two imports have no byte in common. -/
def BoundImport.Apart (imported other : BoundImport) : Prop :=
  imported.addressEntryRva.toNat + 8 ≤ other.addressEntryRva.toNat ∨
    other.addressEntryRva.toNat + 8 ≤ imported.addressEntryRva.toNat

/-- The imports bound so far: their stubs and entries. -/
structure BindState.Imports (config : BindConfig) (state : BindState) : Prop where
  count : state.importCount = state.bound.length.toUInt32
  stubs : ∀ later imported earlier, state.bound = later ++ imported :: earlier →
    imported.Stub config state.loadedImage earlier.length
  entries : ∀ later imported earlier, state.bound = later ++ imported :: earlier →
    (∀ other ∈ later, imported.Apart other) →
      takeBytes state.loadedImage imported.addressEntryRva.toNat 8 =
        toLittleEndian 8 imported.address

/-- Between two imports. -/
structure BindState.Bound (config : BindConfig) (state : BindState) : Prop
    extends state.Imports config where
  next : state.nextStubOffset = stubsEnd config.imageSize state.bound.length

/-- Between the resolution of an import and its patch. -/
structure BindState.Resolved (config : BindConfig) (dllName functionName : List UInt8)
    (address : UInt64) (state : BindState) : Prop extends state.Imports config where
  next : state.nextStubOffset = stubsEnd config.imageSize (state.bound.length + 1)
  stub : ∀ addressEntryRva : UInt32, addressEntryRva.toNat + 8 ≤ config.imageSize.toNat →
    BoundImport.Stub config state.loadedImage state.bound.length
      ⟨dllName, functionName, addressEntryRva, address⟩

/-- Where a part of the binding gives up without a status, it has run out of fuel between two
imports. -/
def BindState.Left (config : BindConfig) (state : BindState) : Prop :=
  state.status = .ok → state.Bound config

section Steps

variable {config : BindConfig} {state : BindState}

theorem BoundImport.Stub.putBytes {contents : Nat → UInt8} {index start : Nat}
    {imported : BoundImport} {bytes : List UInt8} (h : imported.Stub config contents index)
    (hapart : stubOffset config.imageSize index + x64Win32ImportStubSize ≤ start ∨
      start + bytes.length ≤ stubOffset config.imageSize index) :
    imported.Stub config (Image.putBytes contents start bytes) index := by
  obtain ⟨dllExport, hresolved, hnumber, hcode⟩ := h.code
  refine ⟨⟨dllExport, hresolved, hnumber, ?_⟩, h.within, h.address, h.entry⟩
  rw [takeBytes_putBytes_apart hapart]
  exact hcode

/-- A write behind the stubs changes neither them nor the entries. -/
theorem BindState.Imports.putStub {bytes : List UInt8} {next : BindState}
    (h : state.Imports config)
    (hcontents : next.loadedImage = putBytes state.loadedImage
      (stubOffset config.imageSize state.bound.length) bytes)
    (hbound : next.bound = state.bound) (hcount : next.importCount = state.importCount) :
    next.Imports config where
  count := by rw [hcount, hbound]; exact h.count
  stubs later imported earlier heq := by
    rw [hbound] at heq
    have hindex : earlier.length < state.bound.length := by
      rw [heq, List.length_append, List.length_cons]
      omega
    rw [hcontents]
    exact (h.stubs later imported earlier heq).putBytes (.inl (stubOffset_before hindex))
  entries later imported earlier heq hapart := by
    rw [hbound] at heq
    have hentry := (h.stubs later imported earlier heq).entry
    have hbehind := imageSize_le_stubOffset config.imageSize state.bound.length
    rw [hcontents, takeBytes_putBytes_apart (by omega)]
    exact h.entries later imported earlier heq hapart

/-- Reading leaves everything but the log alone. -/
theorem BindState.Bound.congr {next : BindState} (h : state.Bound config)
    (hcontents : next.loadedImage = state.loadedImage) (hbound : next.bound = state.bound)
    (hcount : next.importCount = state.importCount)
    (hnext : next.nextStubOffset = state.nextStubOffset) : next.Bound config where
  count := by rw [hcount, hbound]; exact h.count
  stubs := by rw [hcontents, hbound]; exact h.stubs
  entries := by rw [hcontents, hbound]; exact h.entries
  next := by rw [hnext, hbound]; exact h.next

/-- The resolver of an import places its stub behind the others. -/
theorem resolveX64Win32Import_triple (dllName functionName : List UInt8) :
    Attempt.Triple (BindState.Bound config)
      (resolveX64Win32Import dllName functionName config.expectedImageBase config.loadedImageSize)
      (fun result state => ∀ address, result = .ok address →
        state.Resolved config dllName functionName address) (BindState.Left config) := by
  unfold resolveX64Win32Import
  cases hresolved : resolvedExport dllName functionName with
  | none => exact Attempt.Triple.pure fun _ _ _ heq => by cases heq
  | some dllExport =>
    apply Attempt.Triple.ite
    · exact fun _ => Attempt.Triple.pure fun _ _ _ heq => by cases heq
    intro hnumber
    refine Attempt.Triple.bind (Q := fun nextStubOffset state => state.Bound config ∧
      alignUpSize nextStubOffset 16 = stubOffset config.imageSize state.bound.length)
      (Attempt.Triple.read fun state h => ⟨h, h.next ▸ alignUpSize_stubsEnd _ _⟩)
      fun nextStubOffset => ?_
    apply Attempt.Triple.ite
    · exact fun _ => Attempt.Triple.pure fun _ _ _ heq => by cases heq
    intro hwithin
    rw [not_or, Nat.not_lt, Nat.not_lt] at hwithin
    refine Attempt.Triple.bind (Q := fun _ state => state.Imports config ∧
        alignUpSize nextStubOffset 16 = stubOffset config.imageSize state.bound.length ∧
        takeBytes state.loadedImage (alignUpSize nextStubOffset 16) x64Win32ImportStubSize =
          importStub dllExport.syscallNumber.toUInt32)
      (Attempt.Triple.update ?_) fun _ => ?_
    · rintro state ⟨h, hoffset⟩
      refine ⟨@BindState.Imports.putStub config state (importStub dllExport.syscallNumber.toUInt32)
        _ h.toImports ?_ rfl rfl, hoffset, takeBytes_putBytes _ _ _⟩
      rw [← hoffset]
    refine Attempt.Triple.bind (Q := fun _ => BindState.Resolved config dllName functionName
        (config.expectedImageBase + (alignUpSize nextStubOffset 16).toUInt64))
      (Attempt.Triple.update ?_) fun _ => Attempt.Triple.pure fun state h address heq => ?_
    · rintro state ⟨h, hoffset, hcode⟩
      refine ⟨⟨h.count, h.stubs, h.entries⟩, by rw [hoffset]; rfl, fun addressEntryRva hentry => ?_⟩
      rw [hoffset] at hwithin hcode ⊢
      have hend : stubOffset config.imageSize state.bound.length + x64Win32ImportStubSize ≤
          config.loadedImageSize.toNat := by omega
      exact ⟨⟨dllExport, hresolved, UInt64.not_lt.mp hnumber, hcode⟩, hend, rfl, hentry⟩
    · cases heq
      exact h

/-- The patched entry is the latest one; stubs and entries apart from it are as before. -/
theorem BindState.Resolved.patched {dllName functionName : List UInt8} {addressEntryRva : UInt32}
    {address : UInt64} (h : state.Resolved config dllName functionName address)
    (hentry : addressEntryRva.toNat + 8 ≤ config.imageSize.toNat) {accesses : List LoadedAccess} :
    BindState.Bound config
      { state with
        loadedImage := putBytes state.loadedImage addressEntryRva.toNat (toLittleEndian 8 address)
        accesses := accesses
        importCount := state.importCount + 1
        bound := ⟨dllName, functionName, addressEntryRva, address⟩ :: state.bound } := by
  have hlength : (toLittleEndian 8 address).length = 8 := length_toLittleEndian 8 address
  have hbehind (index : Nat) :
      addressEntryRva.toNat + (toLittleEndian 8 address).length ≤
        stubOffset config.imageSize index := by
    have hle := imageSize_le_stubOffset config.imageSize index
    omega
  refine ⟨⟨?_, ?_, ?_⟩, h.next⟩
  · rw [List.length_cons, h.count]
    exact (UInt32.ofNat_add _ 1).symm
  · intro later imported earlier heq
    cases later with
    | nil =>
      obtain ⟨rfl, rfl⟩ := List.cons.inj heq
      exact (h.stub addressEntryRva hentry).putBytes (.inr (hbehind _))
    | cons latest later =>
      obtain ⟨-, heq⟩ := List.cons.inj heq
      exact (h.stubs later imported earlier heq).putBytes (.inr (hbehind _))
  · intro later imported earlier heq hapart
    cases later with
    | nil =>
      obtain ⟨rfl, rfl⟩ := List.cons.inj heq
      have hself := takeBytes_putBytes state.loadedImage addressEntryRva.toNat
        (toLittleEndian 8 address)
      rw [hlength] at hself
      exact hself
    | cons latest later =>
      obtain ⟨hlatest, hrest⟩ := List.cons.inj heq
      have hdisjoint := hapart latest List.mem_cons_self
      rw [← hlatest] at hdisjoint
      rw [takeBytes_putBytes_apart (by rw [hlength]; exact hdisjoint)]
      exact h.entries later imported earlier hrest fun other hmem =>
        hapart other (List.mem_cons_of_mem _ hmem)

theorem patchAddressEntry_triple {dllName functionName : List UInt8} {addressEntryRva : UInt32}
    {address : UInt64} (hentry : addressEntryRva.toNat + 8 ≤ config.imageSize.toNat) :
    Attempt.Triple (BindState.Resolved config dllName functionName address)
      (patchAddressEntry dllName functionName addressEntryRva address)
      (fun _ => BindState.Bound config) (BindState.Left config) := by
  intro state h
  refine ⟨fun _ next heq => ?_, fun next heq => by cases heq⟩
  cases heq
  exact h.patched hentry

end Steps

section Loops

variable {config : BindConfig} {α : Type}

instance (status : X64Pe64ImageLoadStatus) :
    Attempt.Keeps (BindState.Bound config) (refuse status : Binding α) where
  kept h := h.congr rfl rfl rfl rfl

instance (offset length : Nat) :
    Attempt.Keeps (BindState.Bound config) (readLoaded offset length) where
  kept h := h.congr rfl rfl rfl rfl

instance (recordSize : Nat) (size rva : UInt32) :
    Attempt.Keeps (BindState.Bound config) (copyLoadedRecord recordSize size rva) := by
  unfold copyLoadedRecord
  infer_instance

instance readAsciiFrom_keeps (size rva : UInt32) (remaining : Nat) :
    Attempt.Keeps (BindState.Bound config) (readAsciiFrom size rva remaining) := by
  induction remaining generalizing rva with
  | zero =>
    unfold readAsciiFrom
    infer_instance
  | succ remaining ih =>
    unfold readAsciiFrom
    infer_instance

instance (size rva : UInt32) :
    Attempt.Keeps (BindState.Bound config) (readLoadedAsciiString size rva) :=
  readAsciiFrom_keeps size rva 64

/-- What keeps an invariant returns within it. -/
theorem keeps_triple (x : Binding α) [hx : Attempt.Keeps (BindState.Bound config) x] :
    Attempt.Triple (BindState.Bound config) x (fun _ => BindState.Bound config)
      (BindState.Left config) := by
  intro state h
  have hkept := hx.kept h
  refine ⟨fun a next heq => ?_, fun next heq _ => ?_⟩
  all_goals rw [heq] at hkept
  · exact hkept
  · exact hkept

/-- A refusal leaves its status. -/
theorem refuse_triple {P : BindState → Prop} {Q : α → BindState → Prop}
    {status : X64Pe64ImageLoadStatus} (h : status ≠ .ok) :
    Attempt.Triple P (refuse status : Binding α) Q (BindState.Left config) := by
  intro state _
  refine ⟨fun _ _ heq => (by cases heq), fun next heq hok => ?_⟩
  cases heq
  exact absurd hok h

theorem within_of_not_outOfLoaded {size rva : UInt32} {length : Nat}
    (h : ¬ outOfLoaded size rva length = true) : rva.toNat + length ≤ size.toNat := by
  simp only [outOfLoaded, Bool.or_eq_true, decide_eq_true_eq, not_or, UInt32.not_lt,
    Nat.not_lt] at h
  obtain ⟨hle, hlength⟩ := h
  rw [UInt32.toNat_sub_of_le _ _ hle] at hlength
  have hnat := UInt32.le_iff_toNat_le.mp hle
  omega

variable (hresolver : config.importResolver = some resolveX64Win32Import)

include hresolver

theorem resolveX64Import_triple (dllName functionName : List UInt8) :
    Attempt.Triple (BindState.Bound config)
      (resolveX64Import config.importResolver dllName functionName config.expectedImageBase
        config.loadedImageSize)
      (fun address => BindState.Resolved config dllName functionName address)
      (BindState.Left config) := by
  rw [hresolver]
  refine Attempt.Triple.bind (resolveX64Win32Import_triple dllName functionName) fun result => ?_
  cases result with
  | ok address => exact Attempt.Triple.pure fun state h => h address rfl
  | error error =>
    cases error
    · exact refuse_triple (by decide)
    · exact refuse_triple (by decide)
    · exact refuse_triple (by decide)

/-- An iteration of the thunk loop binds one import or none. -/
theorem bindThunk_triple (dllName : List UInt8) (lookupEntryRva addressEntryRva : UInt32) :
    Attempt.Triple (BindState.Bound config)
      (bindThunk config dllName lookupEntryRva addressEntryRva)
      (fun _ => BindState.Bound config) (BindState.Left config) := by
  unfold bindThunk
  refine Attempt.Triple.bind (keeps_triple (copyLoadedRecord 8 config.imageSize lookupEntryRva))
    fun lookupBytes => ?_
  apply Attempt.Triple.ite
  · exact fun _ => keeps_triple _
  intro hentry
  apply Attempt.Triple.ite
  · exact fun _ => keeps_triple _
  intro _
  apply Attempt.Triple.ite
  · exact fun _ => keeps_triple _
  intro _
  split
  · exact keeps_triple _
  refine Attempt.Triple.bind (keeps_triple (readLoadedAsciiString config.imageSize _))
    fun functionName => ?_
  refine Attempt.Triple.bind (resolveX64Import_triple hresolver dllName functionName)
    fun resolvedAddress => ?_
  exact Attempt.Triple.bind (patchAddressEntry_triple (within_of_not_outOfLoaded hentry))
    fun _ => keeps_triple _

/-- The thunk loop, by induction on its fuel. -/
theorem bindThunks_triple (dllName : List UInt8) (lookupTableRva firstThunkRva : UInt32)
    (fuel : Nat) (thunkIndex : UInt32) :
    Attempt.Triple (BindState.Bound config)
      (bindThunks config dllName lookupTableRva firstThunkRva fuel thunkIndex)
      (fun _ => BindState.Bound config) (BindState.Left config) := by
  induction fuel generalizing thunkIndex with
  | zero =>
    intro state h
    refine ⟨fun _ _ heq => (by cases heq), fun next heq _ => ?_⟩
    cases heq
    exact h.congr rfl rfl rfl rfl
  | succ fuel ih =>
    unfold bindThunks
    refine Attempt.Triple.bind (bindThunk_triple hresolver dllName _ _) fun more => ?_
    apply Attempt.Triple.ite
    · exact fun _ => ih (thunkIndex + 1)
    · exact fun _ => keeps_triple _

/-- The descriptor loop, by induction on the descriptors left. -/
theorem bindDescriptors_triple (directoryRva : UInt32) (indices : List Nat) :
    Attempt.Triple (BindState.Bound config) (bindDescriptors config directoryRva indices)
      (fun _ => BindState.Bound config) (BindState.Left config) := by
  induction indices with
  | nil => exact keeps_triple (pure false)
  | cons descriptorIndex rest ih =>
    unfold bindDescriptors
    refine Attempt.Triple.bind (keeps_triple (copyLoadedRecord _ _ _)) fun bytes => ?_
    apply Attempt.Triple.ite
    · exact fun _ => keeps_triple _
    intro _
    refine Attempt.Triple.bind (Q := fun _ => BindState.Bound config) ?_ fun _ => ih
    unfold bindDescriptor
    split
    · exact keeps_triple _
    exact Attempt.Triple.bind (keeps_triple (readLoadedAsciiString _ _)) fun dllName =>
      bindThunks_triple hresolver dllName _ _ _ _

theorem bindImports_triple (importDirectory : PeDataDirectory) :
    Attempt.Triple (BindState.Bound config) (bindImports config importDirectory)
      (fun _ => BindState.Bound config) (BindState.Left config) := by
  unfold bindImports
  apply Attempt.Triple.ite
  · intro _
    apply Attempt.Triple.ite
    · exact fun _ => keeps_triple _
    intro _
    refine Attempt.Triple.bind (bindDescriptors_triple hresolver _ _) fun sawTerminator => ?_
    apply Attempt.Triple.ite
    · exact fun _ => keeps_triple _
    · exact fun _ => keeps_triple _
  · exact fun _ => keeps_triple _

end Loops

section Loading

variable {imageBytes : List UInt8} {expectedImageBase : UInt64} {loadedImage : Nat → UInt8}
  {loadedImageSize : UInt64} {importResolver : Option ImportResolver} {result : X64LoadResult}

/-- The x64 loader runs the import phase on what the PE32+ loader leaves, or not at all. -/
theorem loadX64Pe64Image_cases
    (hresult : result = loadX64Pe64Image imageBytes expectedImageBase loadedImage loadedImageSize
      importResolver) :
    result.base = loadPe32PlusImage (some imageBytes) true true loadedImage default
        (x64Pe64LoadConfig expectedImageBase loadedImageSize) ∧
      ((mapCommonLoadStatus result.base.status ≠ .ok ∧
          result.status = mapCommonLoadStatus result.base.status ∧
          result.imports = BindState.start result.base) ∨
        ∃ returned, mapCommonLoadStatus result.base.status = .ok ∧
          bindImports (bindConfig importResolver expectedImageBase loadedImageSize result.base)
            result.base.outResult.importDirectory (BindState.start result.base) =
              (returned, result.imports) ∧
          result.status = (match returned with
            | none => result.imports.status
            | some () => .ok) ∧
          result.info.importCount = result.imports.importCount) := by
  unfold loadX64Pe64Image at hresult
  dsimp only at hresult
  split at hresult
  · next hbase =>
    rw [hresult]
    exact ⟨rfl, .inl ⟨hbase, rfl, rfl⟩⟩
  · next hbase =>
    split at hresult
    · next bound hrun =>
      rw [hresult]
      exact ⟨rfl, .inr ⟨none, not_not.mp hbase, hrun, rfl, rfl⟩⟩
    · next bound hrun =>
      rw [hresult]
      exact ⟨rfl, .inr ⟨some (), not_not.mp hbase, hrun, rfl, rfl⟩⟩

/-- What the x64 loader leaves when it succeeds: every import has its stub, and its entry holds
the address of the stub unless a later import overlaps it. -/
theorem loadX64Pe64Image_bound
    (hresult : result = loadX64Pe64Image imageBytes expectedImageBase loadedImage loadedImageSize
      (some resolveX64Win32Import)) (hok : result.status = .ok) :
    result.imports.Bound (bindConfig (some resolveX64Win32Import) expectedImageBase
      loadedImageSize result.base) := by
  have hstart (config : BindConfig) (hsize : config.imageSize = result.base.outResult.imageSize) :
      (BindState.start result.base).Bound config := by
    refine ⟨⟨rfl, ?_, ?_⟩, by rw [hsize]; rfl⟩
    all_goals intro later imported earlier heq; cases later <;> cases heq
  obtain ⟨-, ⟨hbase, hstatus, -⟩ | ⟨returned, -, hrun, hstatus, -⟩⟩ :=
    loadX64Pe64Image_cases hresult
  · exact absurd (hstatus.symm.trans hok) hbase
  · obtain ⟨hreturned, hleft⟩ := @bindImports_triple (bindConfig (some resolveX64Win32Import)
      expectedImageBase loadedImageSize result.base) rfl result.base.outResult.importDirectory
      (BindState.start result.base) (hstart _ rfl)
    cases returned with
    | none => exact hleft _ hrun (hstatus.symm.trans hok)
    | some _ => exact hreturned _ _ hrun

end Loading

end Ringos.Image

import Ringos.Image.ImportTables

/-!
# Every import is bound, and bound to its own stub

Each part of the import loops is first described by what a run of it that
returns has read and left. The loops are then followed against the tables of the
image as the loader found them: behind a number of entries the imports that have
been bound are the first ones of the image, and only their entries have changed.
-/

namespace Ringos.Image

open Ringos.Core Binding

/-- A bound import without its address. -/
def BoundImport.named (imported : BoundImport) : NamedImport :=
  ⟨imported.dllName, imported.functionName, imported.addressEntryRva.toNat⟩

/-- The state holds the same image, with the same imports bound. -/
structure BindState.Same (state next : BindState) : Prop where
  loadedImage : next.loadedImage = state.loadedImage
  bound : next.bound = state.bound

section Reads

variable {state next : BindState} {size rva : UInt32}

theorem copyLoadedRecord_run {recordSize : Nat} {bytes : List UInt8}
    (h : copyLoadedRecord recordSize size rva state = (some bytes, next)) :
    rva.toNat + recordSize ≤ size.toNat ∧
      bytes = takeBytes state.loadedImage rva.toNat recordSize ∧ state.Same next := by
  unfold copyLoadedRecord at h
  split at h
  · cases h
  · next hout =>
    cases h
    exact ⟨within_of_not_outOfLoaded hout, rfl, rfl, rfl⟩

/-- A name is read up to its terminator, by induction on what is left of the buffer. -/
theorem readAsciiFrom_run {remaining : Nat} {name : List UInt8}
    (h : readAsciiFrom size rva remaining state = (some name, next)) :
    name = (takeBytes state.loadedImage rva.toNat remaining).takeWhile (· ≠ 0) ∧
      name.length < remaining ∧ rva.toNat + name.length + 1 ≤ size.toNat ∧ state.Same next := by
  induction remaining generalizing rva state name with
  | zero => cases h
  | succ remaining ih =>
    unfold readAsciiFrom at h
    split at h
    · cases h
    next hout =>
    have hwithin := within_of_not_outOfLoaded hout
    have hread : readLoaded rva.toNat 1 state = (some [state.loadedImage rva.toNat],
        { state with accesses := .read rva.toNat 1 :: state.accesses }) := rfl
    rw [Attempt.bind_of_some hread] at h
    rw [takeBytes_succ]
    by_cases hzero : state.loadedImage rva.toNat = 0
    · rw [if_pos (show [state.loadedImage rva.toNat].headD 0 = 0 from hzero)] at h
      cases h
      rw [List.takeWhile_cons_of_neg (by simp [hzero])]
      exact ⟨rfl, Nat.succ_pos _, hwithin, rfl, rfl⟩
    · rw [if_neg (show ¬ [state.loadedImage rva.toNat].headD 0 = 0 from hzero)] at h
      rcases hrest : readAsciiFrom size (rva + 1) remaining
        { state with accesses := .read rva.toNat 1 :: state.accesses } with ⟨_ | rest, last⟩
      · rw [Attempt.bind_of_none hrest] at h
        cases h
      rw [Attempt.bind_of_some hrest] at h
      cases h
      have hsize := size.toNat_lt
      have hnext : (rva + 1).toNat = rva.toNat + 1 := by
        rw [UInt32.toNat_add]
        change (_ + 1) % _ = _
        omega
      obtain ⟨hname, hlength, hend, hsame⟩ := ih hrest
      rw [hnext] at hname hend
      rw [List.takeWhile_cons_of_pos (by simpa using hzero), ← hname, List.length_cons]
      exact ⟨rfl, by omega, by omega, hsame.loadedImage, hsame.bound⟩

theorem readLoadedAsciiString_run {name : List UInt8}
    (h : readLoadedAsciiString size rva state = (some name, next)) :
    name = asciiAt state.loadedImage rva.toNat ∧ name.length < 64 ∧
      rva.toNat + name.length + 1 ≤ size.toNat ∧ state.Same next :=
  readAsciiFrom_run h

end Reads

section Steps

variable {config : BindConfig} {state next : BindState}

/-- The resolver leaves the image below its end alone. -/
theorem resolveX64Win32Import_run {dllName functionName : List UInt8}
    {result : Except ImportResolutionError UInt64} (hbound : state.Bound config)
    (h : resolveX64Win32Import dllName functionName config.expectedImageBase
      config.loadedImageSize state = (some result, next)) :
    next.bound = state.bound ∧
      ∀ offset < config.imageSize.toNat, next.loadedImage offset = state.loadedImage offset := by
  unfold resolveX64Win32Import at h
  cases hresolved : resolvedExport dllName functionName with
  | none =>
    rw [hresolved] at h
    cases h
    exact ⟨rfl, fun _ _ => rfl⟩
  | some dllExport =>
    rw [hresolved] at h
    dsimp only at h
    split at h
    · cases h
      exact ⟨rfl, fun _ _ => rfl⟩
    · rw [Attempt.read_bind] at h
      split at h
      · cases h
        exact ⟨rfl, fun _ _ => rfl⟩
      · cases h
        refine ⟨rfl, fun offset hoffset => ?_⟩
        have hbehind := imageSize_le_stubOffset config.imageSize state.bound.length
        rw [← alignUpSize_stubsEnd, ← hbound.next] at hbehind
        change putBytes _ _ _ _ = _
        unfold putBytes
        rw [if_neg (by omega)]

/-- A stub lies below 4 GiB, and with it the end of the image. -/
theorem BoundImport.Stub.size_lt {contents : Nat → UInt8} {index : Nat} {imported : BoundImport}
    (h : imported.Stub config contents index) :
    config.imageSize.toNat + 16 * index + 11 < 2 ^ 32 := by
  have hwithin := h.within
  have hsize := config.loadedImageSize.toNat_lt
  have hbehind := imageSize_le_stubOffset config.imageSize 0
  unfold stubOffset x64Win32ImportStubSize at *
  omega

variable (hresolver : config.importResolver = some resolveX64Win32Import)

include hresolver

theorem resolveX64Import_run {dllName functionName : List UInt8} {address : UInt64}
    (hbound : state.Bound config)
    (h : resolveX64Import config.importResolver dllName functionName config.expectedImageBase
      config.loadedImageSize state = (some address, next)) :
    next.bound = state.bound ∧
      ∀ offset < config.imageSize.toNat, next.loadedImage offset = state.loadedImage offset := by
  rw [hresolver] at h
  unfold resolveX64Import at h
  dsimp only at h
  rcases hrun : resolveX64Win32Import dllName functionName config.expectedImageBase
    config.loadedImageSize state with ⟨_ | result, resolved⟩
  · rw [Attempt.bind_of_none hrun] at h
    cases h
  · rw [Attempt.bind_of_some hrun] at h
    cases result with
    | ok _ =>
      cases h
      exact resolveX64Win32Import_run hbound hrun
    | error error => cases error <;> cases h

/-- An iteration of the thunk loop that returns has read a zero entry, or it has bound the import
to which its entry refers. -/
theorem bindThunk_run {dllName : List UInt8} {lookupEntryRva addressEntryRva : UInt32} {more : Bool}
    (hbound : state.Bound config)
    (h : bindThunk config dllName lookupEntryRva addressEntryRva state = (some more, next)) :
    let lookupEntry := ofLittleEndian (takeBytes state.loadedImage lookupEntryRva.toNat 8)
    lookupEntryRva.toNat + 8 ≤ config.imageSize.toNat ∧
      addressEntryRva.toNat + 8 ≤ config.imageSize.toNat ∧
      ((lookupEntry = 0 ∧ more = false ∧ state.Same next) ∨
        (lookupEntry ≠ 0 ∧ more = true ∧ ∃ recordRva functionName address,
          tryResolveImportNameRva (lookupEntry &&& ~~~peImportByOrdinalMask64)
            config.expectedImageBase config.imageSize = some recordRva ∧
          functionName = asciiAt state.loadedImage (recordRva.toNat + 2) ∧
          functionName.length < 64 ∧
          recordRva.toNat + 2 + functionName.length + 1 ≤ config.imageSize.toNat ∧
          next.bound = ⟨dllName, functionName, addressEntryRva, address⟩ :: state.bound ∧
          ∀ offset < config.imageSize.toNat,
            ¬ (⟨addressEntryRva.toNat, 8⟩ : Span).Covers offset →
              next.loadedImage offset = state.loadedImage offset)) := by
  have hnext : next.Bound config :=
    (bindThunk_triple hresolver dllName lookupEntryRva addressEntryRva state hbound).1 _ _ h
  intro lookupEntry
  unfold bindThunk at h
  rcases hlookup : copyLoadedRecord 8 config.imageSize lookupEntryRva state with
    ⟨_ | lookupBytes, looked⟩
  · rw [Attempt.bind_of_none hlookup] at h
    cases h
  rw [Attempt.bind_of_some hlookup] at h
  obtain ⟨hwithin, rfl, hlooked⟩ := copyLoadedRecord_run hlookup
  have hboundLooked : looked.Bound config :=
    (keeps_triple (copyLoadedRecord 8 config.imageSize lookupEntryRva) state hbound).1 _ _ hlookup
  refine ⟨hwithin, ?_⟩
  split at h
  · cases h
  next hentry =>
  refine ⟨within_of_not_outOfLoaded hentry, ?_⟩
  split at h
  · next hzero =>
    cases h
    exact .inl ⟨hzero, rfl, hlooked⟩
  next hzero =>
  refine .inr ⟨hzero, ?_⟩
  split at h
  · cases h
  rcases hrecord : tryResolveImportNameRva (lookupEntry &&& ~~~peImportByOrdinalMask64)
    config.expectedImageBase config.imageSize with _ | recordRva
  · rw [hrecord] at h
    cases h
  rw [hrecord] at h
  dsimp only at h
  rcases hname : readLoadedAsciiString config.imageSize (recordRva + 2) looked with
    ⟨_ | functionName, named⟩
  · rw [Attempt.bind_of_none hname] at h
    cases h
  rw [Attempt.bind_of_some hname] at h
  obtain ⟨hfunctionName, hbuffer, hend, hsame⟩ := readLoadedAsciiString_run hname
  have hboundNamed : named.Bound config :=
    (keeps_triple (readLoadedAsciiString config.imageSize (recordRva + 2)) looked
      hboundLooked).1 _ _ hname
  rcases hresolved : resolveX64Import config.importResolver dllName functionName
    config.expectedImageBase config.loadedImageSize named with ⟨_ | address, resolved⟩
  · rw [Attempt.bind_of_none hresolved] at h
    cases h
  rw [Attempt.bind_of_some hresolved] at h
  obtain ⟨hresolvedBound, hresolvedImage⟩ := resolveX64Import_run hresolver hboundNamed hresolved
  cases h
  have hsize := (hnext.stubs [] _ _ rfl).size_lt
  have hrecordLt := tryResolveImportNameRva_lt hrecord
  have hnameRva : (recordRva + 2).toNat = recordRva.toNat + 2 := by
    rw [UInt32.toNat_add]
    change (_ + 2) % _ = _
    omega
  rw [hnameRva] at hfunctionName hend
  refine ⟨rfl, recordRva, functionName, address, rfl, ?_, hbuffer, hend, ?_, ?_⟩
  · rw [hfunctionName, hlooked.loadedImage]
  · change _ :: resolved.bound = _
    rw [hresolvedBound, hsame.bound, hlooked.bound]
  · intro offset hoffset houtside
    have hpatched := length_toLittleEndian 8 address
    have hkept : putBytes resolved.loadedImage addressEntryRva.toNat (toLittleEndian 8 address)
        offset = resolved.loadedImage offset := by
      change ¬ (addressEntryRva.toNat ≤ offset ∧ offset < addressEntryRva.toNat + 8) at houtside
      unfold putBytes
      split
      · rw [List.getElem?_eq_none (by omega), Option.getD_none]
      · rfl
    exact hkept.trans ((hresolvedImage offset hoffset).trans
      ((congrFun hsame.loadedImage offset).trans (congrFun hlooked.loadedImage offset)))

end Steps

section Following

/-- Lists that agree as far as either goes on have the same first elements. -/
theorem takeWhile_eq_of_prefix {α : Type} {p : α → Bool} {xs ys : List α}
    (h : ∀ index, index ≤ (xs.takeWhile p).length → index ≤ (ys.takeWhile p).length →
      xs[index]? = ys[index]?) : xs.takeWhile p = ys.takeWhile p := by
  induction xs generalizing ys with
  | nil =>
    cases ys with
    | nil => rfl
    | cons y ys => cases h 0 (Nat.zero_le _) (Nat.zero_le _)
  | cons x xs ih =>
    cases ys with
    | nil => cases h 0 (Nat.zero_le _) (Nat.zero_le _)
    | cons y ys =>
      obtain rfl : x = y := Option.some.inj (h 0 (Nat.zero_le _) (Nat.zero_le _))
      cases hp : p x with
      | false =>
        have hstop : ¬ p x = true := by simp [hp]
        rw [List.takeWhile_cons_of_neg hstop, List.takeWhile_cons_of_neg hstop]
      | true =>
        rw [List.takeWhile_cons_of_pos hp, List.takeWhile_cons_of_pos hp] at h ⊢
        refine congrArg _ (ih fun index hxs hys => ?_)
        exact h (index + 1) (Nat.succ_le_succ hxs) (Nat.succ_le_succ hys)

/-- Behind the imports `done` of an image with the contents `contents`: these are the imports that
have been bound, and only their entries have changed. -/
structure BindState.Follows (config : BindConfig) (contents : Nat → UInt8)
    (done : List NamedImport) (state : BindState) : Prop extends state.Bound config where
  names : state.bound.reverse.map BoundImport.named = done
  kept : ∀ offset < config.imageSize.toNat, (∀ named ∈ done, ¬ named.entry.Covers offset) →
    state.loadedImage offset = contents offset

variable {config : BindConfig} {contents : Nat → UInt8} {done previous : List NamedImport}
  {state next : BindState}

namespace BindState.Follows

variable (h : state.Follows config contents done)

include h

theorem same (hsame : state.Same next) (hbound : next.Bound config) :
    next.Follows config contents done where
  toBound := hbound
  names := by
    rw [hsame.bound]
    exact h.names
  kept := by
    rw [hsame.loadedImage]
    exact h.kept

/-- Bytes apart from the patched entries are read as they were. -/
theorem takeBytes_eq {start length : Nat} (hwithin : start + length ≤ config.imageSize.toNat)
    (hapart : ∀ named ∈ done, named.entry.Apart ⟨start, length⟩) :
    takeBytes state.loadedImage start length = takeBytes contents start length :=
  takeBytes_congr fun offset hfirst hlast => h.kept offset (by omega) fun named hmem hcovers =>
    hapart named hmem offset hcovers ⟨hfirst, hlast⟩

/-- A name apart from the patched entries is read as it was. -/
theorem asciiAt_eq {start : Nat}
    (hwithin : start + (asciiAt state.loadedImage start).length + 1 ≤ config.imageSize.toNat)
    (hlength : (asciiAt state.loadedImage start).length < 64)
    (hapart : ∀ named ∈ done,
      named.entry.Apart ⟨start, (asciiAt contents start).length + 1⟩) :
    asciiAt state.loadedImage start = asciiAt contents start := by
  refine takeWhile_eq_of_prefix fun index hread hsaid => ?_
  change index ≤ (asciiAt state.loadedImage start).length at hread
  change index ≤ (asciiAt contents start).length at hsaid
  have hbuffer : index < 64 := by omega
  simp only [takeBytes, List.getElem?_map, List.getElem?_range hbuffer, Option.map_some]
  refine congrArg some (h.kept _ (by omega) fun named hmem hcovers => ?_)
  refine hapart named hmem _ hcovers ⟨Nat.le_add_right _ _, ?_⟩
  exact Nat.add_lt_add_left (Nat.lt_succ_of_le hsaid) start

end BindState.Follows

/-- What the tables of a library have to be apart from while it is bound behind the imports
`previous`. -/
structure ImportedDll.Clear (config : BindConfig) (contents : Nat → UInt8)
    (previous : List NamedImport) (dll : ImportedDll) : Prop where
  lookup : ∀ named ∈ previous, named.entry.Apart (dll.lookupTable config contents)
  own : dll.firstThunkRva = dll.lookupTableRva ∨
    (dll.addressTable config contents).Apart (dll.lookupTable config contents)
  name : ∀ named ∈ previous, named.entry.Apart (dll.nameString contents)
  records : ∀ named ∈ previous ++ dll.imports config contents,
    ∀ index ∈ dll.thunks config contents, named.entry.Apart (dll.record config contents index)

/-- The entry of an import lies in the address table of its library. -/
theorem ImportedDll.entry_named {dll : ImportedDll} {index offset : Nat}
    (hindex : index < (dll.thunks config contents).length)
    (hcovers : (dll.named config contents index).entry.Covers offset) :
    (dll.addressTable config contents).Covers offset := by
  obtain ⟨hfirst, hlast⟩ := hcovers
  simp only [named, NamedImport.entry] at hfirst hlast
  simp only [Span.Covers, addressTable]
  omega

/-- The entry of the lookup table that is read next has not been patched. -/
theorem ImportedDll.Clear.lookupEntry_apart {dll : ImportedDll}
    (hclear : dll.Clear config contents previous) {index : Nat}
    (hreached : index ≤ (dll.thunks config contents).length) :
    ∀ named ∈ previous ++ (List.range index).map (dll.named config contents),
      named.entry.Apart ⟨dll.lookupTableRva + 8 * index, 8⟩ := by
  have hinside (offset : Nat)
      (hcovers : (⟨dll.lookupTableRva + 8 * index, 8⟩ : Span).Covers offset) :
      (dll.lookupTable config contents).Covers offset := by
    obtain ⟨hfirst, hlast⟩ := hcovers
    simp only at hfirst hlast
    simp only [Span.Covers, lookupTable]
    omega
  intro named hmem
  rcases List.mem_append.mp hmem with hprevious | hown
  · exact (hclear.lookup named hprevious).mono (fun _ h => h) hinside
  · obtain ⟨earlier, hearlier, rfl⟩ := List.mem_map.mp hown
    have hlt := List.mem_range.mp hearlier
    rcases hclear.own with hsame | hapart
    · refine Span.apart_iff.mpr (.inr (.inr (.inl ?_)))
      simp only [NamedImport.entry, ImportedDll.named]
      omega
    · exact hapart.mono (fun _ h => ImportedDll.entry_named (by omega) h) hinside

/-- The name to which a lookup entry refers has not been patched. -/
theorem ImportedDll.Clear.functionName_apart {dll : ImportedDll}
    (hclear : dll.Clear config contents previous) {index : Nat}
    (hindex : index ∈ dll.thunks config contents)
    (hearlier : ∀ earlier < index, earlier ∈ dll.thunks config contents) :
    ∀ named ∈ previous ++ (List.range index).map (dll.named config contents),
      named.entry.Apart ⟨dll.recordRva config contents index + 2,
        (dll.functionName config contents index).length + 1⟩ := by
  intro named hmem
  have himport : named ∈ previous ++ dll.imports config contents := by
    rcases List.mem_append.mp hmem with hprevious | hown
    · exact List.mem_append_left _ hprevious
    · obtain ⟨earlier, hlt, rfl⟩ := List.mem_map.mp hown
      exact List.mem_append_right _
        (List.mem_map_of_mem (hearlier earlier (List.mem_range.mp hlt)))
  refine (hclear.records named himport index hindex).mono (fun _ h => h) ?_
  rintro offset ⟨hfirst, hlast⟩
  simp only at hfirst hlast
  simp only [Span.Covers, record]
  omega

/-- One more import has been bound. -/
theorem BindState.Follows.bind {imported : BoundImport}
    (h : state.Follows config contents done) (hbound : next.Bound config)
    (hnext : next.bound = imported :: state.bound)
    (hkept : ∀ offset < config.imageSize.toNat, ¬ imported.named.entry.Covers offset →
      next.loadedImage offset = state.loadedImage offset) :
    next.Follows config contents (done ++ [imported.named]) where
  toBound := hbound
  names := by
    rw [hnext, List.reverse_cons, List.map_append, h.names]
    rfl
  kept offset hoffset houtside := by
    rw [hkept offset hoffset (houtside _ (List.mem_append_right _ List.mem_cons_self))]
    exact h.kept offset hoffset fun named hmem => houtside named (List.mem_append_left _ hmem)

/-- The indices of a lookup table are the first ones. -/
theorem ImportedDll.thunks_eq (dll : ImportedDll) :
    dll.thunks config contents = List.range (dll.thunks config contents).length := by
  have hprefixed : dll.thunks config contents <+: List.range (config.imageSize.toNat / 8 + 1) :=
    List.takeWhile_prefix _
  have htake := List.prefix_iff_eq_take.mp hprefixed
  have hle := hprefixed.length_le
  rw [List.length_range] at hle
  rw [List.take_range, Nat.min_eq_left hle] at htake
  exact htake

/-- The entry of an import from a library lies in its address table. -/
theorem ImportedDll.entry_of_import {dll : ImportedDll} {named : NamedImport} {offset : Nat}
    (himport : named ∈ dll.imports config contents) (hcovers : named.entry.Covers offset) :
    (dll.addressTable config contents).Covers offset := by
  obtain ⟨index, hindex, rfl⟩ := List.mem_map.mp himport
  rw [ImportedDll.thunks_eq] at hindex
  exact ImportedDll.entry_named (List.mem_range.mp hindex) hcovers

/-- The entry of an import from one of some libraries lies in the address table of one. -/
theorem entry_of_mem {dlls : List ImportedDll} {named : NamedImport}
    (hmem : named ∈ dlls.flatMap fun dll => dll.imports config contents) :
    ∃ dll ∈ dlls, ∀ offset, named.entry.Covers offset →
      (dll.addressTable config contents).Covers offset := by
  obtain ⟨dll, hdll, himport⟩ := List.mem_flatMap.mp hmem
  exact ⟨dll, hdll, fun _ hcovers => ImportedDll.entry_of_import himport hcovers⟩

/-- Behind the libraries before it, the tables of a library are apart from what has been
patched. -/
theorem TablesApart.clear {directory : PeDataDirectory} {earlier later : List ImportedDll}
    {dll : ImportedDll} (hapart : TablesApart config contents directory)
    (hdlls : importedDlls config contents directory = earlier ++ dll :: later) :
    dll.Clear config contents (earlier.flatMap fun dll => dll.imports config contents) := by
  have hdll : dll ∈ importedDlls config contents directory := by
    rw [hdlls]
    exact List.mem_append_right _ List.mem_cons_self
  have hearlier {other : ImportedDll} (h : other ∈ earlier) :
      other ∈ importedDlls config contents directory := by
    rw [hdlls]
    exact List.mem_append_left _ h
  have htables := hapart.tables
  rw [hdlls, List.pairwise_append] at htables
  constructor
  · intro named hmem
    obtain ⟨other, hother, hinside⟩ := entry_of_mem hmem
    exact (htables.2.2 other hother dll List.mem_cons_self).2.1.mono hinside fun _ h => h
  · exact hapart.own dll hdll
  · intro named hmem
    obtain ⟨other, hother, hinside⟩ := entry_of_mem hmem
    exact (hapart.names other (hearlier hother) dll hdll).mono hinside fun _ h => h
  · intro named hmem index hindex
    have hall : named ∈ (earlier ++ [dll]).flatMap fun dll => dll.imports config contents := by
      rw [List.flatMap_append, List.flatMap_singleton]
      exact hmem
    obtain ⟨other, hother, hinside⟩ := entry_of_mem hall
    have hmember : other ∈ importedDlls config contents directory := by
      rcases List.mem_append.mp hother with h | h
      · exact hearlier h
      · exact List.mem_singleton.mp h ▸ hdll
    exact (hapart.records other hmember dll hdll index hindex).mono hinside fun _ h => h

/-- A descriptor of the image has not been patched. -/
theorem TablesApart.descriptor_apart {directory : PeDataDirectory} {dlls : List ImportedDll}
    {index : Nat} (hapart : TablesApart config contents directory)
    (hdlls : ∀ dll ∈ dlls, dll ∈ importedDlls config contents directory)
    (hreached : index ≤ (descriptorIndices contents directory).length) :
    ∀ named ∈ dlls.flatMap fun dll => dll.imports config contents,
      named.entry.Apart ⟨directory.virtualAddress.toNat + sizeofPeImportDescriptor * index,
        sizeofPeImportDescriptor⟩ := by
  intro named hmem
  obtain ⟨dll, hdll, hinside⟩ := entry_of_mem hmem
  refine (hapart.descriptors dll (hdlls dll hdll)).mono hinside ?_
  rintro offset ⟨hfirst, hlast⟩
  simp only at hfirst hlast
  simp only [Span.Covers, descriptorArray, Nat.mul_add]
  have hmul := Nat.mul_le_mul_left sizeofPeImportDescriptor hreached
  omega

variable (hresolver : config.importResolver = some resolveX64Win32Import)

include hresolver

/-- The thunk loop binds the imports of a library from an index on, by induction on its fuel. -/
theorem bindThunks_follows {dll : ImportedDll} (hclear : dll.Clear config contents previous)
    {lookupTableRva firstThunkRva : UInt32} (hlookupRva : lookupTableRva.toNat = dll.lookupTableRva)
    (hfirstRva : firstThunkRva.toNat = dll.firstThunkRva) {fuel : Nat} {thunkIndex : UInt32}
    (hthunks : dll.thunks config contents = List.range thunkIndex.toNat ++
      (List.range' thunkIndex.toNat fuel).takeWhile fun index =>
        lookupEntryAt contents dll.lookupTableRva index ≠ 0)
    (hlookup : dll.lookupTableRva + 8 * thunkIndex.toNat ≤ config.imageSize.toNat)
    (hfirst : dll.firstThunkRva + 8 * thunkIndex.toNat ≤ config.imageSize.toNat)
    (hfollows : state.Follows config contents
      (previous ++ (List.range thunkIndex.toNat).map (dll.named config contents)))
    (hrun : bindThunks config (asciiAt contents dll.dllNameRva) lookupTableRva firstThunkRva fuel
      thunkIndex state = (some (), next)) :
    next.Follows config contents (previous ++ dll.imports config contents) := by
  induction fuel generalizing thunkIndex state with
  | zero => cases hrun
  | succ fuel ih =>
    have hsize := config.imageSize.toNat_lt
    have hlookupEntry : (lookupTableRva + thunkIndex * 8).toNat =
        dll.lookupTableRva + 8 * thunkIndex.toNat := by
      have height : (8 : UInt32).toNat = 8 := rfl
      rw [UInt32.toNat_add, UInt32.toNat_mul, height]
      omega
    have haddressEntry : (firstThunkRva + thunkIndex * 8).toNat =
        dll.firstThunkRva + 8 * thunkIndex.toNat := by
      have height : (8 : UInt32).toNat = 8 := rfl
      rw [UInt32.toNat_add, UInt32.toNat_mul, height]
      omega
    unfold bindThunks at hrun
    rcases hstep : bindThunk config (asciiAt contents dll.dllNameRva)
      (lookupTableRva + thunkIndex * 8) (firstThunkRva + thunkIndex * 8) state with
      ⟨_ | more, bound⟩
    · rw [Attempt.bind_of_none hstep] at hrun
      cases hrun
    rw [Attempt.bind_of_some hstep] at hrun
    have hbound : bound.Bound config :=
      (bindThunk_triple hresolver _ _ _ state hfollows.toBound).1 _ _ hstep
    obtain ⟨hlookupWithin, haddressWithin, hcases⟩ :=
      bindThunk_run hresolver hfollows.toBound hstep
    rw [hlookupEntry] at hlookupWithin hcases
    rw [haddressEntry] at haddressWithin hcases
    rw [List.range'_succ] at hthunks
    -- the entry is read as the image has it
    have hreached : thunkIndex.toNat ≤ (dll.thunks config contents).length := by
      rw [hthunks, List.length_append, List.length_range]
      exact Nat.le_add_right _ _
    have hread : takeBytes state.loadedImage (dll.lookupTableRva + 8 * thunkIndex.toNat) 8 =
        takeBytes contents (dll.lookupTableRva + 8 * thunkIndex.toNat) 8 :=
      hfollows.takeBytes_eq hlookupWithin (hclear.lookupEntry_apart hreached)
    rw [hread] at hcases
    change (lookupEntryAt contents dll.lookupTableRva thunkIndex.toNat = 0 ∧ _) ∨
      (lookupEntryAt contents dll.lookupTableRva thunkIndex.toNat ≠ 0 ∧ _) at hcases
    rcases hcases with ⟨hzero, rfl, hsame⟩ | ⟨hentry, rfl, recordRva, functionName, address, hrecord,
      hfunctionName, hbuffer, hend, hboundNext, hkept⟩
    · cases hrun
      rw [List.takeWhile_cons_of_neg (by simp [hzero]), List.append_nil] at hthunks
      rw [ImportedDll.imports, hthunks]
      exact hfollows.same hsame hbound
    · rw [List.takeWhile_cons_of_pos (by simp [hentry])] at hthunks
      have hindex : thunkIndex.toNat ∈ dll.thunks config contents := by
        rw [hthunks]
        exact List.mem_append_right _ List.mem_cons_self
      have hearlier (earlier : Nat) (hlt : earlier < thunkIndex.toNat) :
          earlier ∈ dll.thunks config contents := by
        rw [hthunks]
        exact List.mem_append_left _ (List.mem_range.mpr hlt)
      have hrecordRva : dll.recordRva config contents thunkIndex.toNat = recordRva.toNat := by
        rw [ImportedDll.recordRva, lookupEntryAt, hrecord, Option.getD_some]
      -- so is the name
      have hname : functionName = dll.functionName config contents thunkIndex.toNat := by
        rw [ImportedDll.functionName, hrecordRva, hfunctionName]
        rw [hfunctionName] at hbuffer hend
        refine hfollows.asciiAt_eq hend hbuffer ?_
        have hapart := hclear.functionName_apart hindex hearlier
        rw [ImportedDll.functionName, hrecordRva] at hapart
        exact hapart
      have hnamed : (⟨asciiAt contents dll.dllNameRva, functionName,
          firstThunkRva + thunkIndex * 8, address⟩ : BoundImport).named =
            dll.named config contents thunkIndex.toNat := by
        rw [BoundImport.named, ImportedDll.named, haddressEntry, hname]
      have hnext : (thunkIndex + 1).toNat = thunkIndex.toNat + 1 := by
        rw [UInt32.toNat_add]
        change (_ + 1) % _ = _
        omega
      refine ih ?_ ?_ ?_ ?_ hrun
      · rw [hnext, List.range_succ, List.append_assoc]
        exact hthunks
      · omega
      · omega
      · rw [hnext, List.range_succ, List.map_append, ← List.append_assoc]
        have hfollowsNext := hfollows.bind hbound hboundNext fun offset hoffset houtside =>
          hkept offset hoffset (by
            rw [hnamed] at houtside
            exact houtside)
        rw [hnamed] at hfollowsNext
        exact hfollowsNext

/-- The body of the descriptor loop binds the imports of one library. -/
theorem bindDescriptor_follows {descriptor : PeImportDescriptor}
    {dllNameRva firstThunkRva lookupTableRva : UInt32} {dll : ImportedDll}
    (hresolved : resolveDescriptor config descriptor =
      some (dllNameRva, firstThunkRva, lookupTableRva))
    (hdll : dll = ⟨dllNameRva.toNat, firstThunkRva.toNat, lookupTableRva.toNat⟩)
    (hclear : dll.Clear config contents previous) (hfollows : state.Follows config contents previous)
    (hrun : bindDescriptor config descriptor state = (some (), next)) :
    next.Follows config contents (previous ++ dll.imports config contents) := by
  obtain ⟨-, hfirst, hlookup, -⟩ := resolveDescriptor_spec hresolved
  unfold bindDescriptor at hrun
  rw [hresolved] at hrun
  dsimp only at hrun
  rcases hname : readLoadedAsciiString config.imageSize dllNameRva state with ⟨_ | dllName, named⟩
  · rw [Attempt.bind_of_none hname] at hrun
    cases hrun
  rw [Attempt.bind_of_some hname] at hrun
  obtain ⟨hdllName, hbuffer, hend, hsame⟩ := readLoadedAsciiString_run hname
  have hbound : named.Bound config :=
    (keeps_triple (readLoadedAsciiString config.imageSize dllNameRva) state
      hfollows.toBound).1 _ _ hname
  have hread : dllName = asciiAt contents dll.dllNameRva := by
    rw [hdllName] at hbuffer hend ⊢
    rw [hdll]
    refine hfollows.asciiAt_eq hend hbuffer ?_
    have hapart := hclear.name
    rw [hdll] at hapart
    exact hapart
  rw [hread] at hrun
  refine bindThunks_follows hresolver hclear (by rw [hdll]) (by rw [hdll]) ?_ ?_ ?_ ?_ hrun
  · rw [UInt32.toNat_zero, List.range_zero, List.nil_append, ← List.range_eq_range']
    rfl
  · rw [UInt32.toNat_zero, hdll]
    exact Nat.le_of_lt hlookup
  · rw [UInt32.toNat_zero, hdll]
    exact Nat.le_of_lt hfirst
  · rw [UInt32.toNat_zero, List.range_zero, List.map_nil, List.append_nil]
    exact hfollows.same hsame hbound

/-- The descriptor loop binds the imports of the libraries from an index on, by induction on the
descriptors left. -/
theorem bindDescriptors_follows {directory : PeDataDirectory}
    (hapart : TablesApart config contents directory) (hdirectory : directory.virtualAddress ≠ 0)
    (hwithin : directory.virtualAddress.toNat + directory.size.toNat ≤ config.imageSize.toNat)
    {index count : Nat} (hcount : index + count = directory.size.toNat / sizeofPeImportDescriptor)
    (hindices : descriptorIndices contents directory = List.range index ++
      (List.range' index count).takeWhile fun index =>
        !(descriptorAt contents directory.virtualAddress.toNat index).isEmpty)
    (hfollows : state.Follows config contents
      (((List.range index).filterMap (importedDll config contents directory)).flatMap
        fun dll => dll.imports config contents))
    (hrun : bindDescriptors config directory.virtualAddress (List.range' index count) state =
      (some true, next)) :
    next.Follows config contents (namedImports config contents directory) := by
  induction count generalizing index state with
  | zero => cases hrun
  | succ count ih =>
    have hsize := config.imageSize.toNat_lt
    rw [List.range'_succ] at hindices hrun
    unfold bindDescriptors at hrun
    have hdescriptorRva : (directory.virtualAddress +
        (sizeofPeImportDescriptor * index).toUInt32).toNat =
          directory.virtualAddress.toNat + sizeofPeImportDescriptor * index := by
      have hoffset : (sizeofPeImportDescriptor * index).toUInt32.toNat =
          sizeofPeImportDescriptor * index := by
        refine UInt32.toNat_ofNat_of_lt' ?_
        unfold sizeofPeImportDescriptor at *
        change _ < 2 ^ 32
        omega
      rw [UInt32.toNat_add, hoffset, Nat.mod_eq_of_lt]
      unfold sizeofPeImportDescriptor at *
      omega
    have hall : importedDlls config contents directory =
        (descriptorIndices contents directory).filterMap
          (importedDll config contents directory) := if_neg hdirectory
    have hdlls : ∀ dll ∈ (List.range index).filterMap (importedDll config contents directory),
        dll ∈ importedDlls config contents directory := by
      rw [hall, hindices, List.filterMap_append]
      exact fun dll hmem => List.mem_append_left _ hmem
    have hreached : index ≤ (descriptorIndices contents directory).length := by
      rw [hindices, List.length_append, List.length_range]
      exact Nat.le_add_right _ _
    rcases hcopy : copyLoadedRecord sizeofPeImportDescriptor config.imageSize
      (directory.virtualAddress + (sizeofPeImportDescriptor * index).toUInt32) state with
      ⟨_ | bytes, copied⟩
    · rw [Attempt.bind_of_none hcopy] at hrun
      cases hrun
    rw [Attempt.bind_of_some hcopy] at hrun
    obtain ⟨hend, hbytes, hsame⟩ := copyLoadedRecord_run hcopy
    rw [hdescriptorRva] at hend hbytes
    have hcopied : copied.Follows config contents _ := hfollows.same hsame
      ((keeps_triple (copyLoadedRecord sizeofPeImportDescriptor config.imageSize _) state
        hfollows.toBound).1 _ _ hcopy)
    -- the descriptor is read as the image has it
    have hdescriptor : PeImportDescriptor.ofBytes bytes =
        descriptorAt contents directory.virtualAddress.toNat index := by
      rw [hbytes, hfollows.takeBytes_eq hend (hapart.descriptor_apart hdlls hreached)]
      rfl
    rw [hdescriptor] at hrun
    by_cases hempty : (descriptorAt contents directory.virtualAddress.toNat index).isEmpty = true
    · rw [if_pos hempty] at hrun
      cases hrun
      rw [List.takeWhile_cons_of_neg (by simp [hempty]), List.append_nil] at hindices
      rw [namedImports, hall, hindices]
      exact hcopied
    · rw [if_neg hempty] at hrun
      rw [List.takeWhile_cons_of_pos (by simp [hempty])] at hindices
      rcases hbind : bindDescriptor config
        (descriptorAt contents directory.virtualAddress.toNat index) copied with ⟨_ | _, bound⟩
      · rw [Attempt.bind_of_none hbind] at hrun
        cases hrun
      rw [Attempt.bind_of_some hbind] at hrun
      rcases hresolved : resolveDescriptor config
        (descriptorAt contents directory.virtualAddress.toNat index) with
        _ | ⟨dllNameRva, firstThunkRva, lookupTableRva⟩
      · rw [bindDescriptor, hresolved] at hbind
        cases hbind
      have hdll : importedDll config contents directory index =
          some ⟨dllNameRva.toNat, firstThunkRva.toNat, lookupTableRva.toNat⟩ := by
        rw [importedDll, hresolved]
        rfl
      have hsplit := hall
      rw [hindices, List.filterMap_append, List.filterMap_cons_some hdll] at hsplit
      have hfollowsNext :=
        bindDescriptor_follows hresolver hresolved rfl (hapart.clear hsplit) hcopied hbind
      refine ih (by omega) ?_ ?_ hrun
      · rw [hindices, List.range_succ, List.append_assoc]
        rfl
      · rw [List.range_succ, List.filterMap_append, List.filterMap_cons_some hdll,
          List.filterMap_nil, List.flatMap_append, List.flatMap_singleton]
        exact hfollowsNext

/-- The import phase binds all imports of the image. -/
theorem bindImports_follows {directory : PeDataDirectory}
    (hapart : TablesApart config contents directory)
    (hfollows : state.Follows config contents [])
    (hrun : bindImports config directory state = (some (), next)) :
    next.Follows config contents (namedImports config contents directory) := by
  unfold bindImports at hrun
  by_cases hdirectory : directory.virtualAddress = 0
  · rw [if_neg (not_not.mpr hdirectory)] at hrun
    cases hrun
    rw [namedImports, importedDlls, if_pos hdirectory]
    exact hfollows
  rw [if_pos hdirectory] at hrun
  split at hrun
  · cases hrun
  next hrange =>
  rw [not_or, UInt32.not_lt, UInt32.not_lt] at hrange
  have hwithin : directory.virtualAddress.toNat + directory.size.toNat ≤
      config.imageSize.toNat := by
    have hstart := UInt32.le_iff_toNat_le.mp hrange.1
    have hlength := UInt32.le_iff_toNat_le.mp hrange.2
    rw [UInt32.toNat_sub_of_le _ _ hrange.1] at hlength
    omega
  rcases hloop : bindDescriptors config directory.virtualAddress
    (List.range (directory.size.toNat / sizeofPeImportDescriptor)) state with
    ⟨_ | sawTerminator, looped⟩
  · rw [Attempt.bind_of_none hloop] at hrun
    cases hrun
  rw [Attempt.bind_of_some hloop] at hrun
  cases sawTerminator with
  | false => cases hrun
  | true =>
    cases hrun
    rw [List.range_eq_range'] at hloop
    refine bindDescriptors_follows hresolver hapart hdirectory hwithin (Nat.zero_add _) ?_ ?_ hloop
    · rw [List.range_zero, List.nil_append, ← List.range_eq_range']
      rfl
    · exact hfollows

end Following

section Reports

/-- Where the import phase has given up it has run out of fuel or returned a status. -/
def BindState.Reported (state : BindState) : Prop := state.finished = true → state.status ≠ .ok

/-- A part of the import phase that gives up only with a report. -/
abbrev Reports {α : Type} (x : Binding α) : Prop := Attempt.GivesUp BindState.Reported x

theorem reports_refuse {α : Type} {status : X64Pe64ImageLoadStatus} (h : status ≠ .ok) :
    Reports (refuse status : Binding α) where
  left hrun := by
    cases hrun
    exact fun _ => h

instance (offset length : Nat) : Reports (readLoaded offset length) := by
  unfold readLoaded
  infer_instance

instance (recordSize : Nat) (size rva : UInt32) :
    Reports (copyLoadedRecord recordSize size rva) := by
  have _ : Reports (refuse .importTableOutOfRange : Binding (List UInt8)) :=
    reports_refuse (by decide)
  unfold copyLoadedRecord
  infer_instance

instance reports_readAsciiFrom (size rva : UInt32) (remaining : Nat) :
    Reports (readAsciiFrom size rva remaining) := by
  have _ : Reports (refuse .importNameOutOfRange : Binding (List UInt8)) :=
    reports_refuse (by decide)
  induction remaining generalizing rva with
  | zero =>
    unfold readAsciiFrom
    infer_instance
  | succ remaining ih =>
    unfold readAsciiFrom
    infer_instance

instance (size rva : UInt32) : Reports (readLoadedAsciiString size rva) :=
  reports_readAsciiFrom size rva 64

instance (dllName functionName : List UInt8) (imageBase : UInt64) (size : UInt32) :
    Reports (resolveX64Win32Import dllName functionName imageBase size) := by
  unfold resolveX64Win32Import writeLoaded
  cases resolvedExport dllName functionName with
  | none => exact .pure _
  | some dllExport =>
    dsimp only
    infer_instance

instance (dllName functionName : List UInt8) (imageBase : UInt64) (size : UInt32) :
    Reports (resolveX64Import (some resolveX64Win32Import) dllName functionName imageBase size) := by
  refine @Attempt.GivesUp.bind _ _ _ _ _ _ inferInstance fun result => ?_
  cases result with
  | ok _ => exact .pure _
  | error error => cases error <;> exact reports_refuse (by decide)

instance (dllName functionName : List UInt8) (addressEntryRva : UInt32) (address : UInt64) :
    Reports (patchAddressEntry dllName functionName addressEntryRva address) := by
  unfold patchAddressEntry writeLoaded
  infer_instance

variable {config : BindConfig} (hresolver : config.importResolver = some resolveX64Win32Import)

include hresolver

theorem reports_bindThunk (dllName : List UInt8) (lookupEntryRva addressEntryRva : UInt32) :
    Reports (bindThunk config dllName lookupEntryRva addressEntryRva) := by
  have _ : Reports (refuse .importTableOutOfRange : Binding Bool) := reports_refuse (by decide)
  have _ : Reports (refuse .unsupportedImportOrdinal : Binding Bool) := reports_refuse (by decide)
  unfold bindThunk
  rw [hresolver]
  refine @Attempt.GivesUp.bind _ _ _ _ _ _ inferInstance fun lookupBytes => ?_
  dsimp only
  split
  · infer_instance
  · split
    · infer_instance
    · split
      · infer_instance
      · split <;> infer_instance

theorem reports_bindThunks (dllName : List UInt8) (lookupTableRva firstThunkRva : UInt32)
    (fuel : Nat) (thunkIndex : UInt32) :
    Reports (bindThunks config dllName lookupTableRva firstThunkRva fuel thunkIndex) := by
  induction fuel generalizing thunkIndex with
  | zero =>
    constructor
    rintro state next hrun
    cases hrun
    exact fun hfinished => by cases hfinished
  | succ fuel ih =>
    have _ := reports_bindThunk hresolver
    unfold bindThunks
    infer_instance

theorem reports_bindDescriptors (directoryRva : UInt32) (indices : List Nat) :
    Reports (bindDescriptors config directoryRva indices) := by
  have _ : Reports (refuse .importTableOutOfRange : Binding Unit) := reports_refuse (by decide)
  have _ := reports_bindThunks hresolver
  induction indices with
  | nil => exact .pure _
  | cons descriptorIndex rest ih =>
    have _ (descriptor : PeImportDescriptor) : Reports (bindDescriptor config descriptor) := by
      unfold bindDescriptor
      cases resolveDescriptor config descriptor <;> infer_instance
    unfold bindDescriptors
    infer_instance

theorem reports_bindImports (importDirectory : PeDataDirectory) :
    Reports (bindImports config importDirectory) := by
  have _ : Reports (refuse .importTableOutOfRange : Binding Unit) := reports_refuse (by decide)
  have _ : Reports (refuse .invalidImportDirectory : Binding Unit) := reports_refuse (by decide)
  have _ := reports_bindDescriptors hresolver
  unfold bindImports
  infer_instance

end Reports

section Names

/-- The names of one library: equal up to the case of ASCII letters and a `.dll` behind the
imported name. -/
def SameLibrary (importedName registeredName : List UInt8) : Prop :=
  importedName.map toLowerAscii = registeredName.map toLowerAscii ∨
    importedName.map toLowerAscii = registeredName.map toLowerAscii ++ nameBytes ".dll"

theorem sameLibrary_of_dllNamesMatch {importedName registeredName : List UInt8}
    (h : dllNamesMatch importedName registeredName = true) :
    SameLibrary importedName registeredName := by
  induction registeredName generalizing importedName with
  | nil =>
    cases importedName with
    | nil => exact .inl rfl
    | cons dot suffix =>
      rw [dllNamesMatch, Bool.and_eq_true, beq_iff_eq, hasDllSuffix, beq_iff_eq] at h
      refine .inr ?_
      rw [List.map_cons, h.2, h.1]
      decide
  | cons registered rest ih =>
    cases importedName with
    | nil => cases h
    | cons imported importedRest =>
      rw [dllNamesMatch, Bool.and_eq_true, beq_iff_eq] at h
      rcases ih h.2 with hsame | hsuffix
      · exact .inl (by rw [List.map_cons, List.map_cons, h.1, hsame])
      · exact .inr (by rw [List.map_cons, List.map_cons, h.1, hsuffix]; rfl)

/-- A resolved export has the imported names. -/
theorem resolvedExport_spec {dllName symbolName : List UInt8} {dllExport : X64Win32DllExport}
    (h : resolvedExport dllName symbolName = some dllExport) :
    dllExport ∈ x64Win32DllExports ∧ symbolName = dllExport.symbolName ∧
      SameLibrary dllName dllExport.dllName := by
  have hmatch := List.find?_some h
  rw [Bool.and_eq_true, symbolNamesMatch, beq_iff_eq] at hmatch
  exact ⟨List.mem_of_find?_eq_some h, hmatch.2, sameLibrary_of_dllNamesMatch hmatch.1⟩

end Names

section Numbering

variable {config : BindConfig} {contents : Nat → UInt8} {directory : PeDataDirectory}

/-- The entries of the imports of an image are apart. -/
theorem TablesApart.entries (hapart : TablesApart config contents directory) :
    (namedImports config contents directory).Pairwise fun named other =>
      named.addressEntry + 8 ≤ other.addressEntry ∨ other.addressEntry + 8 ≤ named.addressEntry := by
  rw [namedImports, List.pairwise_flatMap]
  constructor
  · intro dll _
    rw [ImportedDll.imports, List.pairwise_map, ImportedDll.thunks_eq]
    refine List.pairwise_lt_range.imp fun hlt => .inl ?_
    simp only [ImportedDll.named]
    omega
  · refine hapart.tables.imp fun htables named hnamed other hother => ?_
    have hapart : named.entry.Apart other.entry := htables.1.mono
      (fun _ hcovers => ImportedDll.entry_of_import hnamed hcovers)
      fun _ hcovers => ImportedDll.entry_of_import hother hcovers
    simpa [Span.apart_iff, NamedImport.entry] using hapart

/-- The import of an index among the bound ones, which have the latest first. -/
theorem exists_bound_of_index {bound : List BoundImport} {index : Nat}
    (h : index < bound.reverse.length) :
    ∃ imported later earlier, bound.reverse[index] = imported ∧
      bound = later ++ imported :: earlier ∧ earlier.length = index ∧
      bound.reverse = earlier.reverse ++ imported :: later.reverse := by
  have hsplit : bound.reverse = bound.reverse.take index ++
      bound.reverse[index] :: bound.reverse.drop (index + 1) := by
    rw [List.getElem_cons_drop, List.take_append_drop]
  refine ⟨_, (bound.reverse.drop (index + 1)).reverse, (bound.reverse.take index).reverse, rfl, ?_,
    ?_, ?_⟩
  · have hreversed := congrArg List.reverse hsplit
    rw [List.reverse_reverse, List.reverse_append, List.reverse_cons, List.append_assoc] at hreversed
    exact hreversed
  · rw [List.length_reverse, List.length_take]
    omega
  · rw [List.reverse_reverse, List.reverse_reverse]
    exact hsplit

/-- The loaded image with its imports bound: the import of an index has its stub and the address
of the stub in its entry, and the image has changed nowhere else. -/
structure X64LoadResult.ImportsBound (config : BindConfig) (loadedImageSize : UInt64)
    (imports : List NamedImport) (result : X64LoadResult) : Prop where
  count : result.info.importCount.toNat = imports.length
  entry : ∀ index (h : index < imports.length),
    takeBytes result.imports.loadedImage imports[index].addressEntry 8 =
      toLittleEndian 8
        (config.expectedImageBase + (stubOffset config.imageSize index).toUInt64)
  stub : ∀ index (h : index < imports.length), ∃ dllExport ∈ x64Win32DllExports,
    imports[index].functionName = dllExport.symbolName ∧
      SameLibrary imports[index].dllName dllExport.dllName ∧
      takeBytes result.imports.loadedImage (stubOffset config.imageSize index)
        x64Win32ImportStubSize = importStub dllExport.syscallNumber.toUInt32
  within : ∀ index < imports.length, config.imageSize.toNat ≤ stubOffset config.imageSize index ∧
    stubOffset config.imageSize index + x64Win32ImportStubSize ≤ loadedImageSize.toNat
  apart : ∀ index other, index < other →
    stubOffset config.imageSize index + x64Win32ImportStubSize ≤ stubOffset config.imageSize other
  kept : ∀ offset < config.imageSize.toNat, (∀ named ∈ imports, ¬ named.entry.Covers offset) →
    result.imports.loadedImage offset = result.base.loadedImage offset

/-- The import of an index has been bound behind the earlier ones, and no later entry overlaps
its own. -/
theorem BindState.Follows.exists_import {state : BindState} {imports : List NamedImport}
    (hfollows : state.Follows config contents imports)
    (hentries : imports.Pairwise fun named other =>
      named.addressEntry + 8 ≤ other.addressEntry ∨ other.addressEntry + 8 ≤ named.addressEntry)
    {index : Nat} (h : index < imports.length) :
    ∃ imported : BoundImport, imported.named = imports[index] ∧
      imported.Stub config state.loadedImage index ∧
      takeBytes state.loadedImage imported.addressEntryRva.toNat 8 =
        toLittleEndian 8 imported.address := by
  have hnames := hfollows.names
  have hindex : index < state.bound.reverse.length := by
    rw [← hnames, List.length_map] at h
    exact h
  obtain ⟨imported, later, earlier, himported, hsplit, hlength, hreversed⟩ :=
    exists_bound_of_index hindex
  refine ⟨imported, ?_, ?_, ?_⟩
  · simp only [← hnames, List.getElem_map, himported]
  · rw [← hlength]
    exact hfollows.stubs later _ earlier hsplit
  · refine hfollows.entries later _ earlier hsplit fun other hmem => ?_
    rw [← hnames, List.pairwise_map, hreversed, List.pairwise_append, List.pairwise_cons] at hentries
    exact hentries.2.1.1 other (List.mem_reverse.mpr hmem)

end Numbering

section Loading

variable {imageBytes : List UInt8} {expectedImageBase : UInt64} {loadedImage : Nat → UInt8}
  {loadedImageSize : UInt64} {result : X64LoadResult}

/-- A successful load whose tables are apart has followed all imports of the image. -/
theorem loadX64Pe64Image_follows {config : BindConfig}
    (hresult : result = loadX64Pe64Image imageBytes expectedImageBase loadedImage loadedImageSize
      (some resolveX64Win32Import)) (hok : result.status = .ok)
    (hconfig : config = bindConfig (some resolveX64Win32Import) expectedImageBase loadedImageSize
      result.base)
    (hapart : TablesApart config result.base.loadedImage result.base.outResult.importDirectory) :
    result.info.importCount = result.imports.importCount ∧
      result.imports.Follows config result.base.loadedImage
        (namedImports config result.base.loadedImage result.base.outResult.importDirectory) := by
  have hresolver : config.importResolver = some resolveX64Win32Import := by rw [hconfig]; rfl
  have hstart : (BindState.start result.base).Follows config result.base.loadedImage [] := by
    refine ⟨⟨⟨rfl, ?_, ?_⟩, by rw [hconfig]; rfl⟩, rfl, fun _ _ _ => rfl⟩
    all_goals intro later imported earlier heq; cases later <;> cases heq
  have hends := loadX64Pe64Image_importsEnd imageBytes expectedImageBase loadedImage loadedImageSize
  rw [← hresult] at hends
  obtain ⟨-, ⟨hbase, hstatus, -⟩ | ⟨returned, -, hrun, hstatus, hcount⟩⟩ :=
    loadX64Pe64Image_cases hresult
  · exact absurd (hstatus.symm.trans hok) hbase
  · rw [← hconfig] at hrun
    cases returned with
    | none =>
      have hreported := (reports_bindImports hresolver _).left hrun
      exact absurd (hstatus.symm.trans hok) (hreported hends.finished)
    | some _ => exact ⟨hcount, bindImports_follows hresolver hapart hstart hrun⟩

/-- A successful load binds every import of the image, in the order of its tables, where no address
table lies over bytes that are read as another table or as a name. -/
theorem loadX64Pe64Image_importsBound {config : BindConfig}
    (hresult : result = loadX64Pe64Image imageBytes expectedImageBase loadedImage loadedImageSize
      (some resolveX64Win32Import)) (hok : result.status = .ok)
    (hconfig : config = bindConfig (some resolveX64Win32Import) expectedImageBase loadedImageSize
      result.base)
    (hapart : TablesApart config result.base.loadedImage result.base.outResult.importDirectory) :
    result.ImportsBound config loadedImageSize
      (namedImports config result.base.loadedImage result.base.outResult.importDirectory) := by
  obtain ⟨hcount, hfollows⟩ := loadX64Pe64Image_follows hresult hok hconfig hapart
  have himport {index : Nat} := @BindState.Follows.exists_import _ _ _ _ hfollows hapart.entries index
  refine ⟨?_, fun index h => ?_, fun index h => ?_, fun index h => ?_, fun index other h =>
    stubOffset_before h, hfollows.kept⟩
  · have hlength := congrArg List.length hfollows.names
    rw [List.length_map, List.length_reverse] at hlength
    rw [hcount, hfollows.count, hlength]
    refine UInt32.toNat_ofNat_of_lt' ?_
    change (namedImports config result.base.loadedImage _).length < 2 ^ 32
    by_contra hmany
    obtain ⟨imported, -, hstub, -⟩ := himport (Nat.sub_one_lt_of_lt (Nat.pos_of_ne_zero (by omega)))
    have hsize := hstub.size_lt
    omega
  · obtain ⟨imported, hnamed, hstub, hentry⟩ := himport h
    rw [← hnamed, ← hstub.address]
    exact hentry
  · obtain ⟨imported, hnamed, hstub, -⟩ := himport h
    obtain ⟨dllExport, hresolved, -, hcode⟩ := hstub.code
    obtain ⟨hmem, hsymbol, hlibrary⟩ := resolvedExport_spec hresolved
    rw [← hnamed]
    exact ⟨dllExport, hmem, hsymbol, hlibrary, hcode⟩
  · obtain ⟨imported, -, hstub, -⟩ := himport h
    have hwithin := hstub.within
    -- the resolver is given the size cut to 32 bits
    have hcut : config.loadedImageSize.toNat ≤ loadedImageSize.toNat := by
      rw [hconfig]
      change loadedImageSize.toUInt32.toNat ≤ _
      rw [UInt64.toNat_toUInt32]
      exact Nat.mod_le _ _
    exact ⟨imageSize_le_stubOffset config.imageSize index, Nat.le_trans hwithin hcut⟩

end Loading

/-- A file that imports one function from each of two descriptors, which name the same library in
two ways. The second descriptor has no lookup table of its own. -/
def twoLibrariesImage : List UInt8 :=
  takeBytes (putBytes (putBytes (putBytes (putBytes (putBytes (fun
    -- the DOS header
    | 0 => 0x4D | 1 => 0x5A | 60 => 0x40
    -- signature, machine, one section, size of the optional header
    | 64 => 0x50 | 65 => 0x45 | 68 => 0x64 | 69 => 0x86 | 70 => 1 | 84 => 0xF0
    -- magic, alignments, size of the image, size of the headers
    | 88 => 0x0B | 89 => 0x02 | 121 => 0x10 | 125 => 0x10 | 145 => 0x10 | 149 => 0x02
    -- the number of directories and the import directory
    | 196 => 16 | 208 => 0x70 | 209 => 0x01 | 212 => 60
    -- virtual size and virtual address of the section
    | 336 => 1 | 341 => 0x04
    -- the descriptors: lookup table, name, address table
    | 368 => 0xB0 | 369 => 0x01 | 380 => 0xF0 | 381 => 0x01 | 384 => 0xC0 | 385 => 0x01
    | 400 => 0x02 | 404 => 0xD0 | 405 => 0x01
    -- the lookup table and the table that is both
    | 432 => 0xE0 | 433 => 0x01 | 464 => 0x10
    | _ => 0) 112 (toLittleEndian 8 0x400000)) 2 (nameBytes "KERNEL32.DLL"))
      18 (nameBytes "OutputDebugStringA")) 482 (nameBytes "ExitProcess"))
      496 (nameBytes "kernel32")) 0 512

/-- The file loaded into a region of two pages. -/
def twoLibrariesResult : X64LoadResult :=
  loadX64Pe64Image twoLibrariesImage 0x400000 (fun _ => 0) 0x2000 (some resolveX64Win32Import)

/-- The file as the PE32+ loader leaves it. -/
def twoLibrariesBase : LoadState :=
  loadPe32PlusImage (some twoLibrariesImage) true true (fun _ => 0) default
    (x64Pe64LoadConfig 0x400000 0x2000)

/-- Both imports of the file are bound. -/
theorem twoLibraries_importsBound :
    twoLibrariesResult.ImportsBound ⟨some resolveX64Win32Import, 0x400000, 0x1000, 0x2000⟩ 0x2000
      [⟨nameBytes "kernel32", nameBytes "ExitProcess", 0x1C0⟩,
        ⟨nameBytes "KERNEL32.DLL", nameBytes "OutputDebugStringA", 0x1D0⟩] := by
  have hbase : twoLibrariesResult.base = twoLibrariesBase := (loadX64Pe64Image_cases rfl).1
  have hout : twoLibrariesBase.outResult.imageSize = 0x1000 ∧
      twoLibrariesBase.outResult.importDirectory = ⟨0x170, 60⟩ := by decide +kernel
  let config : BindConfig := ⟨some resolveX64Win32Import, 0x400000, 0x1000, 0x2000⟩
  let first : ImportedDll := ⟨0x1F0, 0x1C0, 0x1B0⟩
  let second : ImportedDll := ⟨0x02, 0x1D0, 0x1D0⟩
  obtain ⟨contents, hcontents⟩ : ∃ contents, contents = twoLibrariesBase.loadedImage := ⟨_, rfl⟩
  -- what the tables of the file say
  have hindices : descriptorIndices contents ⟨0x170, 60⟩ = [0, 1] := by
    rw [hcontents]
    decide +kernel
  have hdlls : importedDlls config contents ⟨0x170, 60⟩ = [first, second] := by
    rw [importedDlls, if_neg (by decide), hindices, hcontents]
    decide +kernel
  have hthunks : first.thunks config contents = [0] ∧ second.thunks config contents = [0] := by
    rw [hcontents]
    decide +kernel
  have hrecords : first.recordRva config contents 0 = 0x1E0 ∧
      second.recordRva config contents 0 = 0x10 := by
    rw [hcontents]
    decide +kernel
  have hstrings : asciiAt contents 0x1F0 = nameBytes "kernel32" ∧
      asciiAt contents 0x02 = nameBytes "KERNEL32.DLL" ∧
      asciiAt contents 0x1E2 = nameBytes "ExitProcess" ∧
      asciiAt contents 0x12 = nameBytes "OutputDebugStringA" := by
    rw [hcontents]
    decide +kernel
  have himports : namedImports config contents ⟨0x170, 60⟩ =
      [⟨nameBytes "kernel32", nameBytes "ExitProcess", 0x1C0⟩,
        ⟨nameBytes "KERNEL32.DLL", nameBytes "OutputDebugStringA", 0x1D0⟩] := by
    simp only [namedImports, hdlls, List.flatMap_cons, List.flatMap_nil, ImportedDll.imports, hthunks,
      List.map_cons, List.map_nil, ImportedDll.named, ImportedDll.functionName, hrecords]
    simp only [first, second, hstrings]
    rfl
  have haddress : first.addressTable config contents = ⟨0x1C0, 8⟩ ∧
      second.addressTable config contents = ⟨0x1D0, 8⟩ := by
    simp only [ImportedDll.addressTable, hthunks]
    exact ⟨rfl, rfl⟩
  have hlookup : first.lookupTable config contents = ⟨0x1B0, 16⟩ ∧
      second.lookupTable config contents = ⟨0x1D0, 16⟩ := by
    simp only [ImportedDll.lookupTable, hthunks]
    exact ⟨rfl, rfl⟩
  have hname : first.nameString contents = ⟨0x1F0, 9⟩ ∧ second.nameString contents = ⟨2, 13⟩ := by
    simp only [ImportedDll.nameString, first, second, hstrings]
    decide
  have hrecord : first.record config contents 0 = ⟨0x1E0, 14⟩ ∧
      second.record config contents 0 = ⟨0x10, 21⟩ := by
    simp only [ImportedDll.record, ImportedDll.functionName, hrecords, hstrings]
    decide
  have hapart : TablesApart config contents ⟨0x170, 60⟩ := by
    constructor
    · rw [hdlls, List.pairwise_pair, haddress.1, haddress.2, hlookup.1, hlookup.2]
      decide
    · simp only [hdlls, List.forall_mem_cons, haddress, hlookup]
      exact ⟨.inr (by decide), .inl rfl, fun _ h => absurd h List.not_mem_nil⟩
    · simp only [hdlls, List.forall_mem_cons, haddress, descriptorArray, hindices]
      exact ⟨by decide, by decide, fun _ h => absurd h List.not_mem_nil⟩
    · simp only [hdlls, List.forall_mem_cons, haddress, hname]
      simp [Span.apart_iff]
    · simp only [hdlls, List.forall_mem_cons, haddress, hthunks, hrecord]
      simp [Span.apart_iff]
  have hbound : twoLibrariesResult.ImportsBound config 0x2000
      (namedImports config twoLibrariesResult.base.loadedImage
        twoLibrariesResult.base.outResult.importDirectory) :=
    loadX64Pe64Image_importsBound rfl (by decide +kernel) (by rw [hbase, bindConfig, hout.1]; rfl)
      (by rw [hbase, hout.2, ← hcontents]; exact hapart)
  rw [hbase, hout.2, ← hcontents, himports] at hbound
  exact hbound

end Ringos.Image

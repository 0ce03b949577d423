import Ringos.Image.LoaderBounds

/-!
# What a successful load leaves in the loaded image

A section is laid out as one byte string: its raw data and the zeros behind it.
The section loop puts these strings one after the other over the headers and the
zeros below. Where no two sections share a byte their order does not matter, and
every byte is read off the one section that covers it.
-/

namespace Ringos.Image

open Ringos.Core Load

section Contents

variable {contents : Nat → UInt8} {start offset : Nat} {bytes rest : List UInt8}

/-- Inside the range that has been put the bytes are read back. -/
theorem putBytes_inside {index : Nat} (contents : Nat → UInt8) (start : Nat)
    (h : index < bytes.length) : putBytes contents start bytes (start + index) = bytes[index] := by
  rw [putBytes, if_pos (by omega), Nat.add_sub_cancel_left, List.getElem?_eq_getElem h,
    Option.getD_some]

/-- Outside of it the bytes are as they were. -/
theorem putBytes_outside (h : offset < start ∨ start + bytes.length ≤ offset) :
    putBytes contents start bytes offset = contents offset := by
  unfold putBytes
  split
  · rw [List.getElem?_eq_none (by omega), Option.getD_none]
  · rfl

/-- Two strings in a row are put as one. -/
theorem putBytes_append (contents : Nat → UInt8) (start : Nat) (bytes rest : List UInt8) :
    putBytes (putBytes contents start bytes) (start + bytes.length) rest =
      putBytes contents start (bytes ++ rest) := by
  funext offset
  by_cases hstart : start ≤ offset
  · obtain ⟨index, rfl⟩ := Nat.exists_eq_add_of_le hstart
    by_cases hfirst : index < bytes.length
    · rw [putBytes_outside (.inl (by omega)), putBytes_inside contents start hfirst,
        putBytes_inside contents start (by rw [List.length_append]; omega),
        List.getElem_append_left hfirst]
    · obtain ⟨index, rfl⟩ := Nat.exists_eq_add_of_le (Nat.not_lt.mp hfirst)
      rw [← Nat.add_assoc]
      by_cases hsecond : index < rest.length
      · rw [putBytes_inside _ _ hsecond, Nat.add_assoc,
          putBytes_inside contents start (by rw [List.length_append]; omega),
          List.getElem_append_right (by omega)]
        simp only [Nat.add_sub_cancel_left]
      · rw [putBytes_outside (.inr (by omega)), putBytes_outside (.inr (by omega)),
          putBytes_outside (.inr (by rw [List.length_append]; omega))]
  · rw [putBytes_outside (.inl (by omega)), putBytes_outside (.inl (by omega)),
      putBytes_outside (.inl (by omega))]

end Contents

section Extents

/-- The bytes that a section takes up, in memory or with its raw data. -/
def PeSectionHeader.extent (header : PeSectionHeader) : Nat :=
  max (sectionMemorySize header).toNat header.sizeOfRawData.toNat

/-- The offset lies in the section. -/
def PeSectionHeader.Covers (header : PeSectionHeader) (offset : Nat) : Prop :=
  header.virtualAddress.toNat ≤ offset ∧ offset < header.virtualAddress.toNat + header.extent

instance (header : PeSectionHeader) (offset : Nat) : Decidable (header.Covers offset) :=
  inferInstanceAs (Decidable (_ ∧ _))

/-- The sections have no byte in common. -/
def PeSectionHeader.Apart (header other : PeSectionHeader) : Prop :=
  ∀ offset, header.Covers offset → ¬ other.Covers offset

/-- Sections of which one ends before the other starts have no byte in common. -/
theorem PeSectionHeader.apart_of_le {header other : PeSectionHeader}
    (h : header.virtualAddress.toNat + header.extent ≤ other.virtualAddress.toNat ∨
      other.virtualAddress.toNat + other.extent ≤ header.virtualAddress.toNat) :
    header.Apart other := by
  intro offset hcovers hother
  unfold PeSectionHeader.Covers at hcovers hother
  omega

/-- The bytes of a section: its raw data, then zeros up to its memory size. -/
def PeSectionHeader.contents (imageBytes : List UInt8) (header : PeSectionHeader) : List UInt8 :=
  (imageBytes.drop header.pointerToRawData.toNat).take header.sizeOfRawData.toNat ++
    List.replicate ((sectionMemorySize header).toNat - header.sizeOfRawData.toNat) 0

/-- The raw data of the section lies in the file. -/
def PeSectionHeader.InFile (imageBytes : List UInt8) (header : PeSectionHeader) : Prop :=
  0 < header.sizeOfRawData.toNat →
    header.pointerToRawData.toNat + header.sizeOfRawData.toNat ≤ imageBytes.length

/-- Put a section in the loaded image. -/
def putSection (imageBytes : List UInt8) (loaded : Nat → UInt8) (header : PeSectionHeader) :
    Nat → UInt8 :=
  putBytes loaded header.virtualAddress.toNat (header.contents imageBytes)

variable {imageBytes : List UInt8} {header : PeSectionHeader} {headers : List PeSectionHeader}
  {offset : Nat}

theorem length_rawData (hfile : header.InFile imageBytes) :
    ((imageBytes.drop header.pointerToRawData.toNat).take header.sizeOfRawData.toNat).length =
      header.sizeOfRawData.toNat := by
  unfold PeSectionHeader.InFile at hfile
  rw [List.length_take, List.length_drop]
  omega

theorem length_contents (hfile : header.InFile imageBytes) :
    (header.contents imageBytes).length = header.extent := by
  rw [PeSectionHeader.contents, List.length_append, length_rawData hfile, List.length_replicate,
    PeSectionHeader.extent]
  omega

/-- A byte outside the section is as it was. -/
theorem putSection_of_not_covers {loaded : Nat → UInt8} (hfile : header.InFile imageBytes)
    (h : ¬ header.Covers offset) : putSection imageBytes loaded header offset = loaded offset := by
  apply putBytes_outside
  rw [length_contents hfile]
  unfold PeSectionHeader.Covers at h
  omega

/-- Sections that do not cover a byte leave it as it was. -/
theorem foldl_putSection_of_not_covers {loaded : Nat → UInt8}
    (hfile : ∀ header ∈ headers, header.InFile imageBytes)
    (h : ∀ header ∈ headers, ¬ header.Covers offset) :
    headers.foldl (putSection imageBytes) loaded offset = loaded offset := by
  induction headers generalizing loaded with
  | nil => rfl
  | cons first rest ih =>
    rw [List.forall_mem_cons] at hfile h
    rw [List.foldl_cons, ih hfile.2 h.2, putSection_of_not_covers hfile.1 h.1]

/-- Where no two sections share a byte each one is laid out as it is. -/
theorem foldl_putSection_of_mem (loaded : Nat → UInt8)
    (hfile : ∀ header ∈ headers, header.InFile imageBytes)
    (hapart : headers.Pairwise PeSectionHeader.Apart) (hmem : header ∈ headers) (index : Nat)
    (hindex : index < (header.contents imageBytes).length) :
    headers.foldl (putSection imageBytes) loaded (header.virtualAddress.toNat + index) =
      (header.contents imageBytes)[index] := by
  induction headers generalizing loaded with
  | nil => cases hmem
  | cons first rest ih =>
    rw [List.forall_mem_cons] at hfile
    rw [List.pairwise_cons] at hapart
    rw [List.foldl_cons]
    rcases List.mem_cons.mp hmem with rfl | hrest
    · -- the sections behind it do not cover its bytes
      have hcovers : header.Covers (header.virtualAddress.toNat + index) := by
        rw [length_contents hfile.1] at hindex
        unfold PeSectionHeader.Covers
        omega
      rw [foldl_putSection_of_not_covers hfile.2 fun other hother =>
        hapart.1 other hother _ hcovers]
      exact putBytes_inside _ _ hindex
    · exact ih _ hfile.2 hapart.2 hrest

end Extents

section Refusals

/-- Where the computation gives up, it has returned a status other than
`PE_IMAGE_LOAD_STATUS_OK`. -/
def Load.NamesRefusal {α : Type} (x : Load α) : Prop :=
  Attempt.Triple (fun _ => True) x (fun _ _ => True) fun state => state.status ≠ .ok

variable {α β : Type} {x : Load α} {status : PeImageLoadStatus}

theorem namesRefusal_pure (a : α) : NamesRefusal (pure a) := Attempt.Triple.pure fun _ _ => trivial

theorem NamesRefusal.bind {f : α → Load β} (hx : NamesRefusal x) (hf : ∀ a, NamesRefusal (f a)) :
    NamesRefusal (x >>= f) := Attempt.Triple.bind hx hf

theorem namesRefusal_update (f : LoadState → LoadState) : NamesRefusal (Attempt.update f) :=
  Attempt.Triple.update fun _ _ => trivial

theorem namesRefusal_refuse (h : status ≠ .ok) : NamesRefusal (refuse status : Load α) := by
  refine fun state _ => ⟨fun _ _ heq => (by cases heq), fun after heq => ?_⟩
  cases heq
  exact h

theorem namesRefusal_check {result : Except PeImageLoadStatus α} (h : result ≠ .error .ok) :
    NamesRefusal (check result) := by
  cases result with
  | ok a => exact namesRefusal_pure a
  | error status => exact namesRefusal_refuse fun heq => h (congrArg _ heq)

theorem namesRefusal_copyEmbeddedRecord (imageBytes : List UInt8) (recordSize offset : Nat)
    (h : status ≠ .ok) : NamesRefusal (copyEmbeddedRecord imageBytes recordSize offset status) :=
  Attempt.Triple.ite (fun _ => namesRefusal_refuse h) fun _ =>
    (namesRefusal_update _).bind fun _ => namesRefusal_pure _

theorem namesRefusal_copyToLoaded (imageBytes : List UInt8) (offset source length : Nat) :
    NamesRefusal (copyToLoaded imageBytes offset source length) :=
  (namesRefusal_update _).bind fun _ => (namesRefusal_update _).bind fun _ => namesRefusal_update _

theorem namesRefusal_clearLoaded (offset length : Nat) : NamesRefusal (clearLoaded offset length) :=
  (namesRefusal_update _).bind fun _ => namesRefusal_update _

/-- A check that fails does so with a status of its own. -/
theorem error_ite {c : Prop} [Decidable c] {rest : Except PeImageLoadStatus α} (h : status ≠ .ok)
    (hrest : rest ≠ .error .ok) : (if c then .error status else rest) ≠ .error .ok := by
  split
  · exact fun heq => h (Except.error.inj heq)
  · exact hrest

theorem checkDosHeader_error (dosHeader : PeDosHeader) : checkDosHeader dosHeader ≠ .error .ok :=
  error_ite (by decide) fun heq => by cases heq

theorem checkImportDirectory_error (ntHeaders : PeNtHeaders) (config : PeImageLoadConfig) :
    checkImportDirectory ntHeaders config ≠ .error .ok := by
  unfold checkImportDirectory
  split
  · apply error_ite (by decide)
    apply error_ite (by decide)
    exact fun heq => by cases heq
  · exact fun heq => by cases heq

theorem checkNtHeaders_error (imageSize ntHeadersOffset : Nat) (ntHeaders : PeNtHeaders)
    (config : PeImageLoadConfig) :
    checkNtHeaders imageSize ntHeadersOffset ntHeaders config ≠ .error .ok := by
  have hrelocation : checkRelocationDirectory ntHeaders config ≠ .error .ok :=
    error_ite (by decide) fun heq => by cases heq
  have htable : checkSectionTable imageSize ntHeadersOffset ntHeaders ≠ .error .ok :=
    error_ite (by decide) fun heq => by cases heq
  have himport := checkImportDirectory_error ntHeaders config
  unfold checkNtHeaders
  -- the ten checks in front of the directories
  iterate 10 apply error_ite (by decide)
  cases h : checkImportDirectory ntHeaders config with
  | error status => exact fun heq => himport (h.trans (congrArg _ (Except.error.inj heq)))
  | ok directory =>
    cases h : checkRelocationDirectory ntHeaders config with
    | error status => exact fun heq => hrelocation (h.trans (congrArg _ (Except.error.inj heq)))
    | ok _ =>
      cases h : checkSectionTable imageSize ntHeadersOffset ntHeaders with
      | error status => exact fun heq => htable (h.trans (congrArg _ (Except.error.inj heq)))
      | ok _ => exact fun heq => by cases heq

theorem namesRefusal_loadSection (imageBytes : List UInt8) (ntHeadersOffset : Nat)
    (ntHeaders : PeNtHeaders) (sectionIndex : Nat) :
    NamesRefusal (loadSection imageBytes ntHeadersOffset ntHeaders sectionIndex) := by
  unfold loadSection copySectionData clearSectionTail
  refine (namesRefusal_copyEmbeddedRecord _ _ _ (by decide)).bind fun bytes => ?_
  refine (namesRefusal_check (error_ite (by decide) fun heq => by cases heq)).bind fun _ => ?_
  refine (namesRefusal_check (error_ite (by decide) fun heq => by cases heq)).bind fun _ => ?_
  refine NamesRefusal.bind (Attempt.Triple.ite (fun _ => ?_) fun _ => namesRefusal_pure _)
    fun _ => Attempt.Triple.ite (fun _ => ?_) fun _ => namesRefusal_pure _
  · exact namesRefusal_copyToLoaded _ _ _ _
  · exact namesRefusal_clearLoaded _ _

/-- The section loop, by induction on the sections left. -/
theorem namesRefusal_loadSections (imageBytes : List UInt8) (ntHeadersOffset : Nat)
    (ntHeaders : PeNtHeaders) (indices : List Nat) :
    NamesRefusal (loadSections imageBytes ntHeadersOffset ntHeaders indices) := by
  induction indices with
  | nil => exact namesRefusal_pure ()
  | cons index rest ih => exact (namesRefusal_loadSection _ _ _ _).bind fun _ => ih

theorem namesRefusal_readHeaders (imageBytes : List UInt8) (config : PeImageLoadConfig) :
    NamesRefusal (readHeaders imageBytes config) := by
  unfold readHeaders
  refine (namesRefusal_copyEmbeddedRecord _ _ _ (by decide)).bind fun dosBytes => ?_
  refine (namesRefusal_check (checkDosHeader_error _)).bind fun ntHeadersOffset => ?_
  refine (namesRefusal_copyEmbeddedRecord _ _ _ (by decide)).bind fun ntBytes => ?_
  refine (namesRefusal_check (checkNtHeaders_error _ _ _ _)).bind fun importDirectory => ?_
  exact namesRefusal_pure _

end Refusals

section Sections

variable {imageBytes : List UInt8} {ntHeadersOffset : Nat} {ntHeaders : PeNtHeaders}

/-- A section whose checks have passed is put in the loaded image. -/
theorem layOutSection_contents {header : PeSectionHeader} (hfile : header.InFile imageBytes)
    (state : LoadState) :
    ∃ after : LoadState,
      (do copySectionData imageBytes header; clearSectionTail header : Load Unit) state =
        (some (), after) ∧
      after.loadedImage = putSection imageBytes state.loadedImage header := by
  have hlength := length_rawData hfile
  have hcopied : ∃ copied : LoadState,
      copySectionData imageBytes header state = (some (), copied) ∧
      copied.loadedImage = putBytes state.loadedImage header.virtualAddress.toNat
        ((imageBytes.drop header.pointerToRawData.toNat).take header.sizeOfRawData.toNat) := by
    unfold copySectionData
    split
    · exact ⟨_, rfl, rfl⟩
    · rename_i hraw
      rw [gt_iff_lt, UInt32.lt_iff_toNat_lt, UInt32.toNat_zero, Nat.not_lt, Nat.le_zero] at hraw
      refine ⟨state, rfl, ?_⟩
      funext offset
      rw [hraw, List.take_zero, putBytes_outside (by simp only [List.length_nil]; omega)]
  obtain ⟨copied, hrun, hcontents⟩ := hcopied
  rw [Attempt.bind_of_some hrun]
  unfold clearSectionTail putSection PeSectionHeader.contents
  rw [← putBytes_append, hlength, ← hcontents]
  split
  · exact ⟨_, rfl, rfl⟩
  · rename_i hmemory
    rw [gt_iff_lt, UInt32.lt_iff_toNat_lt, Nat.not_lt] at hmemory
    refine ⟨copied, rfl, ?_⟩
    funext offset
    rw [Nat.sub_eq_zero_of_le hmemory, List.replicate_zero,
      putBytes_outside (by simp only [List.length_nil]; omega)]

/-- An iteration of the section loop that goes on puts its section. -/
theorem loadSection_contents (htable : TableInside imageBytes.length ntHeadersOffset ntHeaders)
    {sectionIndex : Nat} (hindex : sectionIndex < ntHeaders.numberOfSections.toNat)
    {state after : LoadState}
    (hrun : loadSection imageBytes ntHeadersOffset ntHeaders sectionIndex state =
      (some (), after)) :
    (sectionHeaderAt imageBytes ntHeadersOffset ntHeaders sectionIndex).InFile imageBytes ∧
      after.loadedImage = putSection imageBytes state.loadedImage
        (sectionHeaderAt imageBytes ntHeadersOffset ntHeaders sectionIndex) := by
  unfold loadSection at hrun
  rw [Attempt.bind_of_some
    (copyEmbeddedRecord_inside (sectionHeader_inside htable hindex) _ state)] at hrun
  change (do
    check (checkSectionRange ntHeaders
      (sectionHeaderAt imageBytes ntHeadersOffset ntHeaders sectionIndex))
    check (checkSectionData imageBytes.length
      (sectionHeaderAt imageBytes ntHeadersOffset ntHeaders sectionIndex))
    copySectionData imageBytes (sectionHeaderAt imageBytes ntHeadersOffset ntHeaders sectionIndex)
    clearSectionTail (sectionHeaderAt imageBytes ntHeadersOffset ntHeaders sectionIndex) :
      Load Unit) _ = _ at hrun
  generalize sectionHeaderAt imageBytes ntHeadersOffset ntHeaders sectionIndex = header at hrun ⊢
  cases hrange : checkSectionRange ntHeaders header with
  | error status =>
    rw [hrange] at hrun
    cases hrun
  | ok _ =>
    cases hdata : checkSectionData imageBytes.length header with
    | error status =>
      rw [hrange, hdata] at hrun
      cases hrun
    | ok _ =>
      have hfile : header.InFile imageBytes :=
        checkSectionData_isOk.mp (by rw [hdata]; rfl)
      obtain ⟨laid, hlaid, hcontents⟩ := layOutSection_contents hfile
        { state with
          accesses := .readImage (sectionHeadersOffset ntHeadersOffset ntHeaders +
            sectionIndex * sizeofPeSectionHeader) sizeofPeSectionHeader :: state.accesses }
      rw [hrange, hdata] at hrun
      obtain rfl : laid = after := (Prod.mk.inj (hlaid.symm.trans hrun)).2
      exact ⟨hfile, hcontents⟩

/-- The section loop puts the sections one after the other. -/
theorem loadSections_contents (htable : TableInside imageBytes.length ntHeadersOffset ntHeaders)
    {indices : List Nat} (hindices : ∀ i ∈ indices, i < ntHeaders.numberOfSections.toNat)
    {state after : LoadState}
    (hrun : loadSections imageBytes ntHeadersOffset ntHeaders indices state = (some (), after)) :
    let headers := indices.map (sectionHeaderAt imageBytes ntHeadersOffset ntHeaders)
    (∀ header ∈ headers, header.InFile imageBytes) ∧
      after.loadedImage = headers.foldl (putSection imageBytes) state.loadedImage := by
  induction indices generalizing state with
  | nil =>
    cases hrun
    exact ⟨fun _ h => absurd h List.not_mem_nil, rfl⟩
  | cons index rest ih =>
    rw [List.forall_mem_cons] at hindices
    unfold loadSections at hrun
    rcases hfirst : loadSection imageBytes ntHeadersOffset ntHeaders index state with
      ⟨_ | _, put⟩
    · rw [Attempt.bind_of_none hfirst] at hrun
      cases hrun
    · rw [Attempt.bind_of_some hfirst] at hrun
      obtain ⟨hfile, hput⟩ := loadSection_contents htable hindices.1 hfirst
      obtain ⟨hfiles, hcontents⟩ := ih hindices.2 hrun
      refine ⟨List.forall_mem_cons.mpr ⟨hfile, hfiles⟩, ?_⟩
      rw [hcontents, hput]
      rfl

end Sections

section Image

/-- The offset of the NT headers in a file. -/
def imageNtOffset (imageBytes : List UInt8) : Nat :=
  (PeDosHeader.ofBytes (imageBytes.take sizeofPeDosHeader)).eLfanew.toInt.toNat

/-- The NT headers of a file. -/
def imageNtHeaders (imageBytes : List UInt8) : PeNtHeaders :=
  .ofBytes ((imageBytes.drop (imageNtOffset imageBytes)).take sizeofPeNtHeaders)

/-- The section table of a file. -/
def imageSections (imageBytes : List UInt8) : List PeSectionHeader :=
  (List.range (imageNtHeaders imageBytes).numberOfSections.toNat).map
    (sectionHeaderAt imageBytes (imageNtOffset imageBytes) (imageNtHeaders imageBytes))

/-- No two sections share a byte, also where their raw data is longer than their memory, and
each lies in the image behind the headers. -/
structure SectionsApart (imageBytes : List UInt8) : Prop where
  apart : (imageSections imageBytes).Pairwise PeSectionHeader.Apart
  within : ∀ header ∈ imageSections imageBytes, header.virtualAddress.toNat + header.extent ≤
    (imageNtHeaders imageBytes).sizeOfImage.toNat
  behind : ∀ header ∈ imageSections imageBytes,
    (imageNtHeaders imageBytes).sizeOfHeaders.toNat ≤ header.virtualAddress.toNat

/-- The loaded image as the file describes it. -/
structure LaidOut (imageBytes : List UInt8) (config : PeImageLoadConfig) (result : LoadState) :
    Prop where
  headers : ∀ offset < (imageNtHeaders imageBytes).sizeOfHeaders.toNat,
    imageBytes[offset]? = some (result.loadedImage offset)
  rawData : ∀ header ∈ imageSections imageBytes, ∀ index < header.sizeOfRawData.toNat,
    imageBytes[header.pointerToRawData.toNat + index]? =
      some (result.loadedImage (header.virtualAddress.toNat + index))
  zeros : ∀ header ∈ imageSections imageBytes, ∀ index < (sectionMemorySize header).toNat,
    header.sizeOfRawData.toNat ≤ index →
      result.loadedImage (header.virtualAddress.toNat + index) = 0
  elsewhere : ∀ offset < config.loadedImageSize.toNat,
    (imageNtHeaders imageBytes).sizeOfHeaders.toNat ≤ offset →
    (∀ header ∈ imageSections imageBytes, ¬ header.Covers offset) → result.loadedImage offset = 0
  imageSize : result.outResult.imageSize = (imageNtHeaders imageBytes).sizeOfImage
  entryPoint : config.expectedImageBase.toNat + (imageNtHeaders imageBytes).sizeOfImage.toNat ≤
      2 ^ 64 →
    result.outResult.entryPoint.toNat = config.expectedImageBase.toNat +
        (imageNtHeaders imageBytes).addressOfEntryPoint.toNat ∧
      config.expectedImageBase.toNat ≤ result.outResult.entryPoint.toNat ∧
      result.outResult.entryPoint.toNat <
        config.expectedImageBase.toNat + result.outResult.imageSize.toNat

variable {imageBytes : List UInt8} {config : PeImageLoadConfig}

/-- The headers that the loader accepts are those of the file. -/
theorem acceptedHeaders_eq {ntHeadersOffset : Nat} {ntHeaders : PeNtHeaders}
    (h : acceptedHeaders imageBytes config = some (ntHeadersOffset, ntHeaders)) :
    ntHeadersOffset = imageNtOffset imageBytes ∧ ntHeaders = imageNtHeaders imageBytes := by
  unfold acceptedHeaders checkDosHeader at h
  split at h
  · split at h
    · cases h
    · rename_i offset hdos
      obtain ⟨-, hoffset⟩ := passed_of_ok hdos
      obtain rfl := Except.ok.inj hoffset
      split at h
      · dsimp only at h
        split at h
        · cases h
        · cases h
          exact ⟨rfl, rfl⟩
      · cases h
  · cases h

/-- The entry point of accepted headers lies in the image. -/
theorem checkNtHeaders_entryPoint {imageSize ntHeadersOffset : Nat} {ntHeaders : PeNtHeaders}
    {importDirectory : PeDataDirectory}
    (h : checkNtHeaders imageSize ntHeadersOffset ntHeaders config = .ok importDirectory) :
    ntHeaders.addressOfEntryPoint.toNat < ntHeaders.sizeOfImage.toNat := by
  unfold checkNtHeaders at h
  iterate 9 replace h := (passed_of_ok h).2
  exact UInt32.lt_iff_toNat_lt.mp (UInt32.not_le.mp (passed_of_ok h).1)

/-- The loaded image holds the contents. -/
def Holds (contents : Nat → UInt8) (state : LoadState) : Prop := state.loadedImage = contents

section Reading

variable {contents : Nat → UInt8}

instance note_holds (access : BufferAccess) : Attempt.Keeps (Holds contents) (note access) :=
  .update fun _ h => h

instance refuse_holds {α : Type} (status : PeImageLoadStatus) :
    Attempt.Keeps (Holds contents) (refuse status : Load α) :=
  have _ : Attempt.Keeps (Holds contents) (Attempt.update fun state : LoadState =>
      { state with status := status }) := .update fun _ h => h
  .bind _ _

instance check_holds {α : Type} (result : Except PeImageLoadStatus α) :
    Attempt.Keeps (Holds contents) (check result) := by
  cases result with
  | ok _ => exact inferInstanceAs (Attempt.Keeps _ (pure _))
  | error status => exact refuse_holds status

instance copyEmbeddedRecord_holds (imageBytes : List UInt8) (recordSize offset : Nat)
    (status : PeImageLoadStatus) :
    Attempt.Keeps (Holds contents) (copyEmbeddedRecord imageBytes recordSize offset status) := by
  unfold copyEmbeddedRecord
  infer_instance

instance readHeaders_holds (contents : Nat → UInt8) (imageBytes : List UInt8)
    (config : PeImageLoadConfig) :
    Attempt.Keeps (Holds contents) (readHeaders imageBytes config) := by
  unfold readHeaders
  infer_instance

end Reading

/-- Laying out that goes on to its end: the headers, then the sections. -/
theorem layOutImage_contents {ntHeadersOffset : Nat} {ntHeaders : PeNtHeaders}
    {importDirectory : PeDataDirectory}
    (htable : TableInside imageBytes.length ntHeadersOffset ntHeaders) {state : LoadState}
    (hok : (layOutImage imageBytes config ntHeadersOffset ntHeaders importDirectory
      state).2.status = .ok) :
    let headers := (List.range ntHeaders.numberOfSections.toNat).map
      (sectionHeaderAt imageBytes ntHeadersOffset ntHeaders)
    let result := (layOutImage imageBytes config ntHeadersOffset ntHeaders importDirectory state).2
    (∀ header ∈ headers, header.InFile imageBytes) ∧
      result.loadedImage = headers.foldl (putSection imageBytes)
        (putBytes state.loadedImage 0 (imageBytes.take ntHeaders.sizeOfHeaders.toNat)) ∧
      result.outResult =
        { entryPoint := config.expectedImageBase + ntHeaders.addressOfEntryPoint.toUInt64
          imageSize := ntHeaders.sizeOfImage
          importDirectory := importDirectory } := by
  obtain ⟨copied, hcopied, hcontents⟩ : ∃ copied : LoadState,
      copyToLoaded imageBytes 0 0 ntHeaders.sizeOfHeaders.toNat state = (some (), copied) ∧
      copied.loadedImage =
        putBytes state.loadedImage 0 (imageBytes.take ntHeaders.sizeOfHeaders.toNat) :=
    ⟨_, rfl, by rw [List.drop_zero]⟩
  unfold layOutImage at hok ⊢
  rw [Attempt.bind_of_some hcopied] at hok ⊢
  rcases hrun : loadSections imageBytes ntHeadersOffset ntHeaders
    (List.range ntHeaders.numberOfSections.toNat) copied with ⟨_ | _, laid⟩
  · rw [Attempt.bind_of_none hrun] at hok
    exact absurd hok ((namesRefusal_loadSections imageBytes ntHeadersOffset ntHeaders _ copied
      trivial).2 laid hrun)
  · obtain ⟨hfile, hlaid⟩ :=
      loadSections_contents htable (fun i hi => List.mem_range.mp hi) hrun
    rw [Attempt.bind_of_some hrun]
    refine ⟨hfile, ?_, rfl⟩
    rw [← hcontents]
    exact hlaid

/-- A load that returns `PE_IMAGE_LOAD_STATUS_OK`: what was checked, and the contents it leaves. -/
theorem loadPe32PlusImage_contents {loadedImage : Nat → UInt8} {outResult : PeImageLoadResult}
    {result : LoadState}
    (hresult : result =
      loadPe32PlusImage (some imageBytes) true true loadedImage outResult config)
    (hok : result.status = .ok) :
    ∃ importDirectory,
      checkNtHeaders imageBytes.length (imageNtOffset imageBytes) (imageNtHeaders imageBytes)
        config = .ok importDirectory ∧
      (∀ header ∈ imageSections imageBytes, header.InFile imageBytes) ∧
      result.loadedImage = (imageSections imageBytes).foldl (putSection imageBytes)
        (putBytes (putBytes loadedImage 0 (List.replicate config.loadedImageSize.toNat 0)) 0
          (imageBytes.take (imageNtHeaders imageBytes).sizeOfHeaders.toNat)) ∧
      result.outResult =
        { entryPoint := config.expectedImageBase +
            (imageNtHeaders imageBytes).addressOfEntryPoint.toUInt64
          imageSize := (imageNtHeaders imageBytes).sizeOfImage
          importDirectory := importDirectory } := by
  obtain ⟨cleared, hcleared, hzeros⟩ : ∃ cleared : LoadState,
      clearLoaded 0 config.loadedImageSize.toNat
        { loadedImage := loadedImage, outResult := outResult, status := .ok, accesses := [] } =
          (some (), cleared) ∧
      cleared.loadedImage =
        putBytes loadedImage 0 (List.replicate config.loadedImageSize.toNat 0) := ⟨_, rfl, rfl⟩
  change result = (loadImage imageBytes config _).2 at hresult
  unfold loadImage at hresult
  rw [Attempt.bind_of_some hcleared, Attempt.update_bind] at hresult
  obtain ⟨read, -, ⟨-, hrun⟩ | ⟨ntHeadersOffset, ntHeaders, importDirectory, haccepted, hcheck,
      hrun⟩⟩ := readHeaders_spec imageBytes config config.loadedImageSize.toNat
        { cleared with outResult := ⟨0, 0, ⟨0, 0⟩⟩ }
  · rw [Attempt.bind_of_none hrun] at hresult
    rw [hresult] at hok
    exact absurd hok ((namesRefusal_readHeaders imageBytes config _ trivial).2 read hrun)
  obtain ⟨rfl, rfl⟩ := acceptedHeaders_eq haccepted
  have hread : Holds cleared.loadedImage read := by
    have hstart : Holds cleared.loadedImage { cleared with outResult := ⟨0, 0, ⟨0, 0⟩⟩ } := rfl
    have hkept := (readHeaders_holds cleared.loadedImage imageBytes config).kept hstart
    rw [hrun] at hkept
    exact hkept
  rw [Attempt.bind_of_some hrun] at hresult
  rw [hresult] at hok ⊢
  obtain ⟨hfile, hcontents, hout⟩ :=
    layOutImage_contents (checkNtHeaders_ok hcheck).2.2.2 hok
  refine ⟨importDirectory, hcheck, hfile, ?_, hout⟩
  rw [← hzeros, ← hread]
  exact hcontents

/-- Whatever the order of the section table, a successful load lays out every part of the image as
the file describes it, where the parts have no byte in common. -/
theorem loadedImage_laidOut {loadedImage : Nat → UInt8} {outResult : PeImageLoadResult}
    {result : LoadState}
    (hresult : result =
      loadPe32PlusImage (some imageBytes) true true loadedImage outResult config)
    (hok : result.status = .ok) (hsections : SectionsApart imageBytes) :
    LaidOut imageBytes config result := by
  obtain ⟨importDirectory, hcheck, hfile, hcontents, hout⟩ :=
    loadPe32PlusImage_contents hresult hok
  obtain ⟨-, -, hheaders, -⟩ := checkNtHeaders_ok hcheck
  generalize hheadersSize : (imageNtHeaders imageBytes).sizeOfHeaders.toNat = headersSize
    at hheaders hcontents
  have htake : (imageBytes.take headersSize).length = headersSize := by
    rw [List.length_take]
    omega
  constructor
  · intro offset hoffset
    rw [hheadersSize] at hoffset
    have hbehind : ∀ header ∈ imageSections imageBytes, ¬ header.Covers offset := by
      intro header hmem hcovers
      have hstart := hsections.behind header hmem
      have hfirst := hcovers.1
      omega
    have hinside : offset < (imageBytes.take headersSize).length := by omega
    have hbyte := putBytes_inside
      (putBytes loadedImage 0 (List.replicate config.loadedImageSize.toNat 0)) 0 hinside
    rw [Nat.zero_add] at hbyte
    rw [hcontents, foldl_putSection_of_not_covers hfile hbehind, hbyte, List.getElem_take,
      List.getElem?_eq_getElem]
  · intro header hmem index hindex
    have hraw := length_rawData (hfile header hmem)
    have hbyte := foldl_putSection_of_mem
      (putBytes (putBytes loadedImage 0 (List.replicate config.loadedImageSize.toNat 0)) 0
        (imageBytes.take headersSize)) hfile hsections.apart hmem index (by
      rw [PeSectionHeader.contents, List.length_append]
      omega)
    have hinside := hfile header hmem (by omega)
    rw [hcontents, hbyte]
    simp only [PeSectionHeader.contents]
    rw [List.getElem_append_left (by omega), List.getElem_take, List.getElem_drop,
      List.getElem?_eq_getElem]
  · intro header hmem index hindex hbehind
    have hraw := length_rawData (hfile header hmem)
    have hbyte := foldl_putSection_of_mem
      (putBytes (putBytes loadedImage 0 (List.replicate config.loadedImageSize.toNat 0)) 0
        (imageBytes.take headersSize)) hfile hsections.apart hmem index (by
      rw [PeSectionHeader.contents, List.length_append, List.length_replicate]
      omega)
    rw [hcontents, hbyte]
    simp only [PeSectionHeader.contents]
    rw [List.getElem_append_right (by omega), List.getElem_replicate]
  · intro offset hoffset hbehind huncovered
    rw [hheadersSize] at hbehind
    have hlength : offset < (List.replicate config.loadedImageSize.toNat (0 : UInt8)).length := by
      rw [List.length_replicate]
      exact hoffset
    have hzero := putBytes_inside loadedImage 0 hlength
    rw [Nat.zero_add] at hzero
    rw [hcontents, foldl_putSection_of_not_covers hfile huncovered,
      putBytes_outside (.inr (by omega)), hzero, List.getElem_replicate]
  · rw [hout]
  · intro hwrap
    have hentry := checkNtHeaders_entryPoint hcheck
    have htoNat : result.outResult.entryPoint.toNat = config.expectedImageBase.toNat +
        (imageNtHeaders imageBytes).addressOfEntryPoint.toNat := by
      rw [hout, UInt64.toNat_add, UInt32.toNat_toUInt64, Nat.mod_eq_of_lt (by omega)]
    refine ⟨htoNat, by omega, ?_⟩
    rw [hout] at htoNat ⊢
    dsimp only at htoNat ⊢
    omega

/-- An image whose second section lies below its first one and has more raw data than memory. -/
def unsortedImage : List UInt8 :=
  (List.range 413).map fun
    -- the DOS header
    | 0 => 0x4D | 1 => 0x5A | 60 => 0x40
    -- signature, machine, two sections, size of the optional header
    | 64 => 0x50 | 65 => 0x45 | 68 => 0x64 | 69 => 0x86 | 70 => 2 | 84 => 0xF0
    -- magic, entry point, image base, alignments, sizes of the image and of the headers
    | 88 => 0x0B | 89 => 0x02 | 105 => 0x10 | 114 => 0x40 | 121 => 0x10 | 125 => 0x10
    | 145 => 0xA0 | 148 => 0x98 | 149 => 0x01
    -- a section of four bytes with two bytes of raw data
    | 336 => 4 | 341 => 0x20 | 344 => 2 | 348 => 0x98 | 349 => 0x01
    -- a section of one byte with three bytes of raw data
    | 376 => 1 | 381 => 0x10 | 384 => 3 | 388 => 0x9A | 389 => 0x01
    | 408 => 0x90 | 409 => 0xC3 | 410 => 0x11 | 411 => 0x22 | 412 => 0x33
    | _ => 0

/-- The image lies in the loaded image as it should, over what was there before. -/
theorem unsortedImage_laidOut :
    LaidOut unsortedImage x64LoadConfig
      (loadPe32PlusImage (some unsortedImage) true true (fun _ => 0xFF) default x64LoadConfig) :=
  loadedImage_laidOut rfl (by decide +kernel)
    { apart := List.Pairwise.imp (R := fun header other : PeSectionHeader =>
        header.virtualAddress.toNat + header.extent ≤ other.virtualAddress.toNat ∨
          other.virtualAddress.toNat + other.extent ≤ header.virtualAddress.toNat)
        PeSectionHeader.apart_of_le (by decide +kernel)
      within := by decide +kernel
      behind := by decide +kernel }

end Image

end Ringos.Image

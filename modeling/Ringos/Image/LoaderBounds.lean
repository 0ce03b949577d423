import Ringos.Image.PeImage

/-!
# What the loader touches

Every check of the loader bounds what it reads of the file, and the declared
size of the image bounds the headers and the zeros behind a section. The copy of
a section's raw data is bounded only by the file, so it stays inside the loaded
image exactly when each section that is laid out fits in it with its raw data.
-/

namespace Ringos.Image

open Ringos.Core Load

/-- The access stays inside its buffer. -/
def BufferAccess.Within (imageSize loadedSize : Nat) : BufferAccess → Prop
  | .readImage offset length => ∀ index < length, offset + index < imageSize
  | .writeLoaded offset length => ∀ index < length, offset + index < loadedSize

instance (imageSize loadedSize : Nat) (access : BufferAccess) :
    Decidable (access.Within imageSize loadedSize) := by
  cases access
  · exact inferInstanceAs (Decidable (∀ index < _, _))
  · exact inferInstanceAs (Decidable (∀ index < _, _))

/-- Nothing outside the two buffers has been touched. -/
def LoadState.Within (imageSize loadedSize : Nat) (state : LoadState) : Prop :=
  ∀ access ∈ state.accesses, access.Within imageSize loadedSize

/-- A length that fits behind an offset is touched within the size, and only such a one. -/
theorem span_within {offset length size : Nat} (hlength : 0 < length) :
    (∀ index < length, offset + index < size) ↔ offset + length ≤ size := by
  constructor
  · intro h
    have hlast := h (length - 1) (by omega)
    omega
  · intro h index hindex
    omega

theorem within_cons {imageSize loadedSize : Nat} {state : LoadState} {access : BufferAccess} :
    LoadState.Within imageSize loadedSize { state with accesses := access :: state.accesses } ↔
      access.Within imageSize loadedSize ∧ state.Within imageSize loadedSize :=
  List.forall_mem_cons

/-- A record inside the file is read. -/
theorem copyEmbeddedRecord_inside {imageBytes : List UInt8} {recordSize offset : Nat}
    (h : offset + recordSize ≤ imageBytes.length) (status : PeImageLoadStatus)
    (state : LoadState) :
    copyEmbeddedRecord imageBytes recordSize offset status state =
      (some ((imageBytes.drop offset).take recordSize),
        { state with accesses := .readImage offset recordSize :: state.accesses }) := by
  have hrange : ¬ (offset > imageBytes.length ∨ recordSize > imageBytes.length - offset) := by
    omega
  rw [copyEmbeddedRecord, if_neg hrange]
  rfl

/-- A record beyond the file is refused before anything is read. -/
theorem copyEmbeddedRecord_outside {imageBytes : List UInt8} {recordSize offset : Nat}
    (h : ¬ offset + recordSize ≤ imageBytes.length) (status : PeImageLoadStatus)
    (state : LoadState) :
    copyEmbeddedRecord imageBytes recordSize offset status state =
      (none, { state with status := status }) := by
  have hrange : offset > imageBytes.length ∨ recordSize > imageBytes.length - offset := by
    omega
  rw [copyEmbeddedRecord, if_pos hrange]
  rfl

/-- A check that passes changes nothing. -/
theorem check_of_isOk {result : Except PeImageLoadStatus Unit} (h : result.isOk = true)
    (state : LoadState) : check result state = (some (), state) := by
  cases result with
  | ok _ => rfl
  | error _ => cases h

section Sections

variable {imageBytes : List UInt8} {config : PeImageLoadConfig} {ntHeadersOffset : Nat}
  {ntHeaders : PeNtHeaders}

/-- The record of a section in the section table. -/
def sectionHeaderAt (imageBytes : List UInt8) (ntHeadersOffset : Nat) (ntHeaders : PeNtHeaders)
    (sectionIndex : Nat) : PeSectionHeader :=
  .ofBytes ((imageBytes.drop (sectionHeadersOffset ntHeadersOffset ntHeaders +
    sectionIndex * sizeofPeSectionHeader)).take sizeofPeSectionHeader)

/-- The section passes the checks of the section loop. -/
def sectionAccepted (imageBytes : List UInt8) (ntHeadersOffset : Nat) (ntHeaders : PeNtHeaders)
    (sectionIndex : Nat) : Bool :=
  let sectionHeader := sectionHeaderAt imageBytes ntHeadersOffset ntHeaders sectionIndex
  (checkSectionRange ntHeaders sectionHeader).isOk &&
    (checkSectionData imageBytes.length sectionHeader).isOk

/-- The section fits in the loaded image with its raw data. -/
def SectionFits (imageBytes : List UInt8) (config : PeImageLoadConfig) (ntHeadersOffset : Nat)
    (ntHeaders : PeNtHeaders) (sectionIndex : Nat) : Prop :=
  let sectionHeader := sectionHeaderAt imageBytes ntHeadersOffset ntHeaders sectionIndex
  sectionHeader.virtualAddress.toNat + sectionHeader.sizeOfRawData.toNat ≤
    config.loadedImageSize.toNat

instance (sectionIndex : Nat) :
    Decidable (SectionFits imageBytes config ntHeadersOffset ntHeaders sectionIndex) :=
  inferInstanceAs (Decidable (_ ≤ _))

/-- What the check of a section's range says. -/
theorem checkSectionRange_isOk {sectionHeader : PeSectionHeader} :
    (checkSectionRange ntHeaders sectionHeader).isOk = true ↔
      sectionHeader.virtualAddress.toNat + (sectionMemorySize sectionHeader).toNat ≤
        ntHeaders.sizeOfImage.toNat := by
  unfold checkSectionRange
  split
  · rename_i hrange
    simp only [Except.isOk, Except.toBool, Bool.false_eq_true, false_iff, Nat.not_le]
    simp only [gt_iff_lt, UInt32.lt_iff_toNat_lt] at hrange
    by_cases hle : sectionHeader.virtualAddress.toNat ≤ ntHeaders.sizeOfImage.toNat
    · rw [UInt32.toNat_sub_of_le _ _ (UInt32.le_iff_toNat_le.mpr hle)] at hrange
      omega
    · omega
  · rename_i hrange
    simp only [Except.isOk, Except.toBool, true_iff]
    simp only [gt_iff_lt, UInt32.lt_iff_toNat_lt, not_or, Nat.not_lt] at hrange
    rw [UInt32.toNat_sub_of_le _ _ (UInt32.le_iff_toNat_le.mpr hrange.1)] at hrange
    omega

/-- What the check of a section's raw data says. -/
theorem checkSectionData_isOk {imageSize : Nat} {sectionHeader : PeSectionHeader} :
    (checkSectionData imageSize sectionHeader).isOk = true ↔
      (0 < sectionHeader.sizeOfRawData.toNat →
        sectionHeader.pointerToRawData.toNat + sectionHeader.sizeOfRawData.toNat ≤ imageSize) := by
  unfold checkSectionData
  split
  · rename_i hdata
    simp only [gt_iff_lt, UInt32.lt_iff_toNat_lt] at hdata
    simp only [Except.isOk, Except.toBool, Bool.false_eq_true, false_iff]
    have hzero : (0 : UInt32).toNat = 0 := rfl
    omega
  · rename_i hdata
    simp only [gt_iff_lt, UInt32.lt_iff_toNat_lt] at hdata
    simp only [Except.isOk, Except.toBool, true_iff]
    have hzero : (0 : UInt32).toNat = 0 := rfl
    omega

/-- The copy of the raw data touches the file and the loaded image. -/
theorem copyToLoaded_within (offset : Nat) {source length loadedSize : Nat}
    (hread : source + length ≤ imageBytes.length) (state : LoadState) :
    ∃ after, copyToLoaded imageBytes offset source length state = (some (), after) ∧
      (after.Within imageBytes.length loadedSize ↔
        BufferAccess.Within imageBytes.length loadedSize (.writeLoaded offset length) ∧
          state.Within imageBytes.length loadedSize) := by
  refine ⟨_, rfl, ?_⟩
  have hinside : BufferAccess.Within imageBytes.length loadedSize (.readImage source length) :=
    fun index hindex => by omega
  refine within_cons.trans (and_congr_right fun _ => within_cons.trans ?_)
  exact ⟨And.right, fun h => ⟨hinside, h⟩⟩

/-- Clearing touches the loaded image. -/
theorem clearLoaded_within (imageSize : Nat) {offset length loadedSize : Nat}
    (hwrite : offset + length ≤ loadedSize) (state : LoadState) :
    ∃ after, clearLoaded offset length state = (some (), after) ∧
      (after.Within imageSize loadedSize ↔ state.Within imageSize loadedSize) := by
  refine ⟨_, rfl, ?_⟩
  have hinside : BufferAccess.Within imageSize loadedSize (.writeLoaded offset length) :=
    fun index hindex => by omega
  exact within_cons.trans ⟨And.right, fun h => ⟨hinside, h⟩⟩

/-- The raw data of a checked section is copied inside the loaded image when it fits there. -/
theorem copySectionData_within {sectionHeader : PeSectionHeader} {loadedSize : Nat}
    (hrange : sectionHeader.virtualAddress.toNat + (sectionMemorySize sectionHeader).toNat ≤
      loadedSize)
    (hdata : 0 < sectionHeader.sizeOfRawData.toNat →
      sectionHeader.pointerToRawData.toNat + sectionHeader.sizeOfRawData.toNat ≤
        imageBytes.length) (state : LoadState) :
    ∃ after, copySectionData imageBytes sectionHeader state = (some (), after) ∧
      (after.Within imageBytes.length loadedSize ↔
        state.Within imageBytes.length loadedSize ∧
          sectionHeader.virtualAddress.toNat + sectionHeader.sizeOfRawData.toNat ≤
            loadedSize) := by
  have hzero : (0 : UInt32).toNat = 0 := rfl
  unfold copySectionData
  split
  · rename_i hraw
    rw [gt_iff_lt, UInt32.lt_iff_toNat_lt, hzero] at hraw
    obtain ⟨after, hafter, hwithin⟩ := copyToLoaded_within _ (hdata hraw) state
    refine ⟨after, hafter, hwithin.trans (and_comm.trans (and_congr_right fun _ => ?_))⟩
    exact span_within hraw
  · rename_i hraw
    rw [gt_iff_lt, UInt32.lt_iff_toNat_lt, hzero] at hraw
    exact ⟨state, rfl, ⟨fun h => ⟨h, by omega⟩, And.left⟩⟩

/-- The zeros behind the raw data lie in the declared range of the section. -/
theorem clearSectionTail_within {sectionHeader : PeSectionHeader} {imageSize loadedSize : Nat}
    (hrange : sectionHeader.virtualAddress.toNat + (sectionMemorySize sectionHeader).toNat ≤
      loadedSize) (state : LoadState) :
    ∃ after, clearSectionTail sectionHeader state = (some (), after) ∧
      (after.Within imageSize loadedSize ↔ state.Within imageSize loadedSize) := by
  unfold clearSectionTail
  split
  · rename_i hmemory
    rw [gt_iff_lt, UInt32.lt_iff_toNat_lt] at hmemory
    apply clearLoaded_within
    omega
  · exact ⟨state, rfl, Iff.rfl⟩

/-- The section table lies inside the file. -/
def TableInside (imageSize ntHeadersOffset : Nat) (ntHeaders : PeNtHeaders) : Prop :=
  sectionHeadersOffset ntHeadersOffset ntHeaders + sectionHeadersSize ntHeaders ≤ imageSize

/-- The record of a section lies inside the table. -/
theorem sectionHeader_inside (htable : TableInside imageBytes.length ntHeadersOffset ntHeaders)
    {sectionIndex : Nat} (hindex : sectionIndex < ntHeaders.numberOfSections.toNat) :
    sectionHeadersOffset ntHeadersOffset ntHeaders + sectionIndex * sizeofPeSectionHeader +
      sizeofPeSectionHeader ≤ imageBytes.length := by
  unfold TableInside sectionHeadersSize sizeofPeSectionHeader at htable
  unfold sizeofPeSectionHeader
  omega

/-- The loop body reads the record of its section and then checks it. -/
theorem loadSection_read (htable : TableInside imageBytes.length ntHeadersOffset ntHeaders)
    {sectionIndex : Nat} (hindex : sectionIndex < ntHeaders.numberOfSections.toNat)
    (loadedSize : Nat) (state : LoadState) :
    let sectionHeader := sectionHeaderAt imageBytes ntHeadersOffset ntHeaders sectionIndex
    ∃ read : LoadState,
      loadSection imageBytes ntHeadersOffset ntHeaders sectionIndex state = (do
        check (checkSectionRange ntHeaders sectionHeader)
        check (checkSectionData imageBytes.length sectionHeader)
        copySectionData imageBytes sectionHeader
        clearSectionTail sectionHeader : Load Unit) read ∧
      (read.Within imageBytes.length loadedSize ↔
        state.Within imageBytes.length loadedSize) := by
  have hinside := sectionHeader_inside htable hindex
  refine ⟨_, Attempt.bind_of_some (copyEmbeddedRecord_inside hinside _ state), ?_⟩
  have hread : BufferAccess.Within imageBytes.length loadedSize
      (.readImage (sectionHeadersOffset ntHeadersOffset ntHeaders +
        sectionIndex * sizeofPeSectionHeader) sizeofPeSectionHeader) :=
    fun index hindex => by omega
  exact within_cons.trans ⟨And.right, fun h => ⟨hread, h⟩⟩

/-- The loop body stops at a section that is not accepted. -/
theorem loadSection_refused (htable : TableInside imageBytes.length ntHeadersOffset ntHeaders)
    {sectionIndex : Nat} (hindex : sectionIndex < ntHeaders.numberOfSections.toNat)
    (hrefused : sectionAccepted imageBytes ntHeadersOffset ntHeaders sectionIndex = false)
    (loadedSize : Nat) (state : LoadState) :
    ∃ after, loadSection imageBytes ntHeadersOffset ntHeaders sectionIndex state = (none, after) ∧
      (after.Within imageBytes.length loadedSize ↔
        state.Within imageBytes.length loadedSize) := by
  obtain ⟨read, hread, hwithin⟩ := loadSection_read htable hindex loadedSize state
  simp only [sectionAccepted, Bool.and_eq_false_iff] at hrefused
  rw [hread]
  generalize sectionHeaderAt imageBytes ntHeadersOffset ntHeaders sectionIndex = sectionHeader
    at hrefused
  cases hrange : checkSectionRange ntHeaders sectionHeader with
  | error status => exact ⟨_, rfl, hwithin⟩
  | ok _ =>
    cases hdata : checkSectionData imageBytes.length sectionHeader with
    | error status => exact ⟨_, rfl, hwithin⟩
    | ok _ =>
      rw [hrange, hdata] at hrefused
      rcases hrefused with h | h <;> cases h

/-- The loop body lays an accepted section out. -/
theorem loadSection_accepted (htable : TableInside imageBytes.length ntHeadersOffset ntHeaders)
    (hsize : ntHeaders.sizeOfImage.toNat ≤ config.loadedImageSize.toNat)
    {sectionIndex : Nat} (hindex : sectionIndex < ntHeaders.numberOfSections.toNat)
    (haccepted : sectionAccepted imageBytes ntHeadersOffset ntHeaders sectionIndex = true)
    (state : LoadState) :
    ∃ after, loadSection imageBytes ntHeadersOffset ntHeaders sectionIndex state =
        (some (), after) ∧
      (after.Within imageBytes.length config.loadedImageSize.toNat ↔
        state.Within imageBytes.length config.loadedImageSize.toNat ∧
          SectionFits imageBytes config ntHeadersOffset ntHeaders sectionIndex) := by
  obtain ⟨read, hread, hwithin⟩ :=
    loadSection_read htable hindex config.loadedImageSize.toNat state
  simp only [sectionAccepted, Bool.and_eq_true] at haccepted
  unfold SectionFits
  rw [hread]
  generalize sectionHeaderAt imageBytes ntHeadersOffset ntHeaders sectionIndex = sectionHeader
    at haccepted
  have hrange := Nat.le_trans (checkSectionRange_isOk.mp haccepted.1) hsize
  have hdata := checkSectionData_isOk.mp haccepted.2
  obtain ⟨copied, hcopied, hcopy⟩ := copySectionData_within hrange hdata read
  obtain ⟨after, hafter, hclear⟩ := clearSectionTail_within hrange copied
  refine ⟨after, ?_, hclear.trans (hcopy.trans (and_congr_left fun _ => hwithin))⟩
  rw [Attempt.bind_of_some (check_of_isOk haccepted.1 read),
    Attempt.bind_of_some (check_of_isOk haccepted.2 read), Attempt.bind_of_some hcopied, hafter]

/-- The section loop stays inside the buffers when every section up to the first refused one
fits. -/
theorem loadSections_within (htable : TableInside imageBytes.length ntHeadersOffset ntHeaders)
    (hsize : ntHeaders.sizeOfImage.toNat ≤ config.loadedImageSize.toNat)
    {indices : List Nat} (hindices : ∀ i ∈ indices, i < ntHeaders.numberOfSections.toNat)
    (state : LoadState) :
    (loadSections imageBytes ntHeadersOffset ntHeaders indices state).2.Within imageBytes.length
        config.loadedImageSize.toNat ↔
      state.Within imageBytes.length config.loadedImageSize.toNat ∧
        ∀ i ∈ indices.takeWhile (sectionAccepted imageBytes ntHeadersOffset ntHeaders),
          SectionFits imageBytes config ntHeadersOffset ntHeaders i := by
  induction indices generalizing state with
  | nil =>
    simp only [loadSections, List.takeWhile_nil, List.not_mem_nil, false_implies, implies_true,
      and_true]
    rfl
  | cons index rest ih =>
    have hindex := hindices index List.mem_cons_self
    have hrest := fun i hi => hindices i (List.mem_cons_of_mem index hi)
    cases haccepted : sectionAccepted imageBytes ntHeadersOffset ntHeaders index with
    | false =>
      obtain ⟨after, hafter, hwithin⟩ :=
        loadSection_refused htable hindex haccepted config.loadedImageSize.toNat state
      rw [loadSections, Attempt.bind_of_none hafter,
        List.takeWhile_cons_of_neg (by simp [haccepted])]
      simpa using hwithin
    | true =>
      obtain ⟨after, hafter, hwithin⟩ := loadSection_accepted htable hsize hindex haccepted state
      rw [loadSections, Attempt.bind_of_some hafter, ih hrest after, hwithin,
        List.takeWhile_cons_of_pos haccepted, List.forall_mem_cons, and_assoc]

end Sections

/-- The NT headers of an image, with their offset, once the loader has accepted them. -/
def acceptedHeaders (imageBytes : List UInt8) (config : PeImageLoadConfig) :
    Option (Nat × PeNtHeaders) :=
  if sizeofPeDosHeader ≤ imageBytes.length then
    match checkDosHeader (.ofBytes (imageBytes.take sizeofPeDosHeader)) with
    | .error _ => none
    | .ok ntHeadersOffset =>
      if ntHeadersOffset + sizeofPeNtHeaders ≤ imageBytes.length then
        let ntHeaders :=
          PeNtHeaders.ofBytes ((imageBytes.drop ntHeadersOffset).take sizeofPeNtHeaders)
        match checkNtHeaders imageBytes.length ntHeadersOffset ntHeaders config with
        | .error _ => none
        | .ok _ => some (ntHeadersOffset, ntHeaders)
      else none
  else none

/-- Every section that the loader lays out fits in the loaded image with its raw data: the sections
before the first one that is refused. -/
def SectionsFit (imageBytes : List UInt8) (config : PeImageLoadConfig) : Prop :=
  ∀ accepted ∈ acceptedHeaders imageBytes config,
    ∀ index ∈ (List.range accepted.2.numberOfSections.toNat).takeWhile
        (sectionAccepted imageBytes accepted.1 accepted.2),
      SectionFits imageBytes config accepted.1 accepted.2 index

instance (imageBytes : List UInt8) (config : PeImageLoadConfig) :
    Decidable (SectionsFit imageBytes config) :=
  inferInstanceAs (Decidable (∀ accepted ∈ acceptedHeaders imageBytes config, _))

/-- A chain of checks that ends well has passed its first one. -/
theorem passed_of_ok {ε α : Type} {c : Prop} [Decidable c] {error : ε} {rest : Except ε α}
    {value : α} (h : (if c then .error error else rest) = .ok value) :
    ¬ c ∧ rest = .ok value := by
  split at h
  · cases h
  · exact ⟨‹_›, h⟩

/-- What accepted headers promise about the buffers. -/
theorem checkNtHeaders_ok {imageSize ntHeadersOffset : Nat} {ntHeaders : PeNtHeaders}
    {config : PeImageLoadConfig} {importDirectory : PeDataDirectory}
    (h : checkNtHeaders imageSize ntHeadersOffset ntHeaders config = .ok importDirectory) :
    ntHeaders.sizeOfImage.toNat ≤ config.loadedImageSize.toNat ∧
      ntHeaders.sizeOfHeaders.toNat ≤ ntHeaders.sizeOfImage.toNat ∧
      ntHeaders.sizeOfHeaders.toNat ≤ imageSize ∧
      TableInside imageSize ntHeadersOffset ntHeaders := by
  unfold checkNtHeaders at h
  obtain ⟨_, h⟩ := passed_of_ok h
  obtain ⟨_, h⟩ := passed_of_ok h
  obtain ⟨_, h⟩ := passed_of_ok h
  obtain ⟨_, h⟩ := passed_of_ok h
  obtain ⟨_, h⟩ := passed_of_ok h
  obtain ⟨_, h⟩ := passed_of_ok h
  obtain ⟨_, h⟩ := passed_of_ok h
  obtain ⟨himage, h⟩ := passed_of_ok h
  obtain ⟨hheaders, h⟩ := passed_of_ok h
  obtain ⟨_, h⟩ := passed_of_ok h
  cases himport : checkImportDirectory ntHeaders config with
  | error _ =>
    rw [himport] at h
    cases h
  | ok directory =>
    cases hrelocation : checkRelocationDirectory ntHeaders config with
    | error _ =>
      rw [himport, hrelocation] at h
      cases h
    | ok _ =>
      cases htable : checkSectionTable imageSize ntHeadersOffset ntHeaders with
      | error _ =>
        rw [himport, hrelocation, htable] at h
        cases h
      | ok _ =>
        obtain ⟨hinside, _⟩ := passed_of_ok htable
        rw [not_or] at himage hheaders hinside
        rw [gt_iff_lt, UInt32.lt_iff_toNat_lt] at hheaders
        unfold TableInside
        omega

section Loader

variable {imageBytes : List UInt8} {config : PeImageLoadConfig}

/-- Reading a record inside the file stays inside the file. -/
theorem within_record {offset recordSize : Nat}
    (h : offset + recordSize ≤ imageBytes.length) (loadedSize : Nat) (state : LoadState) :
    LoadState.Within imageBytes.length loadedSize
        { state with accesses := .readImage offset recordSize :: state.accesses } ↔
      state.Within imageBytes.length loadedSize := by
  have hread : BufferAccess.Within imageBytes.length loadedSize (.readImage offset recordSize) :=
    fun index hindex => by omega
  exact within_cons.trans ⟨And.right, fun hstate => ⟨hread, hstate⟩⟩

/-- The headers are read inside the file, and the loader stops unless they are accepted. -/
theorem readHeaders_spec (imageBytes : List UInt8) (config : PeImageLoadConfig) (loadedSize : Nat)
    (state : LoadState) :
    ∃ after : LoadState, (after.Within imageBytes.length loadedSize ↔
        state.Within imageBytes.length loadedSize) ∧
      ((acceptedHeaders imageBytes config = none ∧
          readHeaders imageBytes config state = (none, after)) ∨
        ∃ ntHeadersOffset ntHeaders importDirectory,
          acceptedHeaders imageBytes config = some (ntHeadersOffset, ntHeaders) ∧
          checkNtHeaders imageBytes.length ntHeadersOffset ntHeaders config =
            .ok importDirectory ∧
          readHeaders imageBytes config state =
            (some (ntHeadersOffset, ntHeaders, importDirectory), after)) := by
  unfold acceptedHeaders readHeaders
  by_cases hdos : sizeofPeDosHeader ≤ imageBytes.length
  · have hdosInside : 0 + sizeofPeDosHeader ≤ imageBytes.length := by omega
    rw [Attempt.bind_of_some (copyEmbeddedRecord_inside hdosInside _ state), if_pos hdos,
      List.drop_zero]
    have hdosRead := within_record hdosInside loadedSize state
    generalize { state with accesses := .readImage 0 sizeofPeDosHeader :: state.accesses } =
      dosRead at hdosRead ⊢
    cases checkDosHeader (.ofBytes (imageBytes.take sizeofPeDosHeader)) with
    | error status =>
      refine ⟨_, ?_, .inl ⟨rfl, rfl⟩⟩
      exact hdosRead
    | ok ntHeadersOffset =>
      have hchecked : check (.ok ntHeadersOffset) dosRead = (some ntHeadersOffset, dosRead) := rfl
      rw [Attempt.bind_of_some hchecked]
      by_cases hnt : ntHeadersOffset + sizeofPeNtHeaders ≤ imageBytes.length
      · rw [Attempt.bind_of_some (copyEmbeddedRecord_inside hnt _ dosRead)]
        dsimp only
        rw [if_pos hnt]
        have hntRead := (within_record hnt loadedSize dosRead).trans hdosRead
        generalize { dosRead with
          accesses := .readImage ntHeadersOffset sizeofPeNtHeaders :: dosRead.accesses } =
            ntRead at hntRead ⊢
        generalize PeNtHeaders.ofBytes ((imageBytes.drop ntHeadersOffset).take
          sizeofPeNtHeaders) = ntHeaders
        cases hcheck : checkNtHeaders imageBytes.length ntHeadersOffset ntHeaders config with
        | error status =>
          refine ⟨_, ?_, .inl ⟨rfl, rfl⟩⟩
          exact hntRead
        | ok importDirectory =>
          exact ⟨ntRead, hntRead, .inr ⟨_, _, importDirectory, rfl, hcheck, rfl⟩⟩
      · rw [Attempt.bind_of_none (copyEmbeddedRecord_outside hnt _ dosRead)]
        dsimp only
        rw [if_neg hnt]
        refine ⟨_, ?_, .inl ⟨rfl, rfl⟩⟩
        exact hdosRead
  · have hdosOutside : ¬ 0 + sizeofPeDosHeader ≤ imageBytes.length := by omega
    rw [Attempt.bind_of_none (copyEmbeddedRecord_outside hdosOutside _ state), if_neg hdos]
    refine ⟨_, ?_, .inl ⟨rfl, rfl⟩⟩
    exact Iff.rfl

/-- The checked image is laid out inside the loaded image exactly when its sections fit. -/
theorem layOutImage_within {ntHeadersOffset : Nat} {ntHeaders : PeNtHeaders}
    {importDirectory : PeDataDirectory}
    (hcheck : checkNtHeaders imageBytes.length ntHeadersOffset ntHeaders config =
      .ok importDirectory) {state : LoadState}
    (hstate : state.Within imageBytes.length config.loadedImageSize.toNat) :
    (layOutImage imageBytes config ntHeadersOffset ntHeaders importDirectory state).2.Within
        imageBytes.length config.loadedImageSize.toNat ↔
      ∀ index ∈ (List.range ntHeaders.numberOfSections.toNat).takeWhile
          (sectionAccepted imageBytes ntHeadersOffset ntHeaders),
        SectionFits imageBytes config ntHeadersOffset ntHeaders index := by
  obtain ⟨himage, hheaders, hfile, htable⟩ := checkNtHeaders_ok hcheck
  have hread : 0 + ntHeaders.sizeOfHeaders.toNat ≤ imageBytes.length := by omega
  obtain ⟨copied, hcopied, hcopy⟩ := copyToLoaded_within 0 hread state
  have hwithin : copied.Within imageBytes.length config.loadedImageSize.toNat :=
    hcopy.mpr ⟨fun index hindex => by omega, hstate⟩
  have hindices : ∀ i ∈ List.range ntHeaders.numberOfSections.toNat,
      i < ntHeaders.numberOfSections.toNat := fun i hi => List.mem_range.mp hi
  have hsections := loadSections_within htable himage hindices copied
  unfold layOutImage
  rw [Attempt.bind_of_some hcopied]
  rcases hrun : loadSections imageBytes ntHeadersOffset ntHeaders
    (List.range ntHeaders.numberOfSections.toNat) copied with ⟨_ | _, loaded⟩
  · rw [Attempt.bind_of_none hrun]
    rw [hrun] at hsections
    exact hsections.trans ⟨And.right, fun h => ⟨hwithin, h⟩⟩
  · rw [Attempt.bind_of_some hrun]
    rw [hrun] at hsections
    exact hsections.trans ⟨And.right, fun h => ⟨hwithin, h⟩⟩

/-- The loader reads only the file and writes only the loaded image exactly when every section
that it lays out fits in the loaded image with its raw data. -/
theorem loadPe32PlusImage_within_iff (imageBytes : List UInt8) (loadedImage : Nat → UInt8)
    (outResult : PeImageLoadResult) (config : PeImageLoadConfig) :
    (loadPe32PlusImage (some imageBytes) true true loadedImage outResult config).Within
        imageBytes.length config.loadedImageSize.toNat ↔
      SectionsFit imageBytes config := by
  have hclear : 0 + config.loadedImageSize.toNat ≤ config.loadedImageSize.toNat := by omega
  obtain ⟨cleared, hcleared, hwithin⟩ := clearLoaded_within imageBytes.length hclear
    { loadedImage := loadedImage, outResult := outResult, status := .ok, accesses := [] }
  have hstart : cleared.Within imageBytes.length config.loadedImageSize.toNat :=
    hwithin.mpr (fun _ h => absurd h List.not_mem_nil)
  change LoadState.Within _ _ (loadImage imageBytes config _).2 ↔ _
  unfold loadImage
  rw [Attempt.bind_of_some hcleared, Attempt.update_bind]
  obtain ⟨read, hread, ⟨hrefused, hrun⟩ |
    ⟨ntHeadersOffset, ntHeaders, importDirectory, haccepted, hcheck, hrun⟩⟩ :=
    readHeaders_spec imageBytes config config.loadedImageSize.toNat
      { cleared with outResult := ⟨0, 0, ⟨0, 0⟩⟩ }
  · rw [Attempt.bind_of_none hrun]
    refine ⟨fun _ accepted haccepted => ?_, fun _ => hread.mpr hstart⟩
    rw [hrefused] at haccepted
    cases haccepted
  · rw [Attempt.bind_of_some hrun, layOutImage_within hcheck (hread.mpr hstart)]
    constructor
    · intro hfit accepted hmem
      obtain rfl : (ntHeadersOffset, ntHeaders) = accepted :=
        Option.some.inj (haccepted.symm.trans (Option.mem_def.mp hmem))
      exact hfit
    · intro hfit
      exact hfit (ntHeadersOffset, ntHeaders) (Option.mem_def.mpr haccepted)

/-- The access is in the log. -/
def Logged (access : BufferAccess) (state : LoadState) : Prop := access ∈ state.accesses

section Log

variable {access : BufferAccess}

instance note_logged (other : BufferAccess) : Attempt.Keeps (Logged access) (note other) :=
  .update fun _ h => List.mem_cons_of_mem other h

instance refuse_logged {α : Type} (status : PeImageLoadStatus) :
    Attempt.Keeps (Logged access) (refuse status : Load α) :=
  have _ : Attempt.Keeps (Logged access) (Attempt.update fun state : LoadState =>
      { state with status := status }) := .update fun _ h => h
  .bind _ _

instance check_logged {α : Type} (result : Except PeImageLoadStatus α) :
    Attempt.Keeps (Logged access) (check result) := by
  cases result with
  | ok _ => exact inferInstanceAs (Attempt.Keeps _ (pure _))
  | error status => exact refuse_logged status

instance clearLoaded_logged (offset length : Nat) :
    Attempt.Keeps (Logged access) (clearLoaded offset length) :=
  have _ : Attempt.Keeps (Logged access) (Attempt.update fun state : LoadState =>
      { state with loadedImage := putBytes state.loadedImage offset (List.replicate length 0) }) :=
    .update fun _ h => h
  .bind _ _

instance copyToLoaded_logged (imageBytes : List UInt8) (offset source length : Nat) :
    Attempt.Keeps (Logged access) (copyToLoaded imageBytes offset source length) :=
  have _ : Attempt.Keeps (Logged access) (Attempt.update fun state : LoadState =>
      { state with
        loadedImage := putBytes state.loadedImage offset ((imageBytes.drop source).take length) }) :=
    .update fun _ h => h
  .bind _ _

instance copyEmbeddedRecord_logged (imageBytes : List UInt8) (recordSize offset : Nat)
    (status : PeImageLoadStatus) :
    Attempt.Keeps (Logged access) (copyEmbeddedRecord imageBytes recordSize offset status) := by
  unfold copyEmbeddedRecord
  infer_instance

instance loadSection_logged (imageBytes : List UInt8) (ntHeadersOffset : Nat)
    (ntHeaders : PeNtHeaders) (sectionIndex : Nat) :
    Attempt.Keeps (Logged access) (loadSection imageBytes ntHeadersOffset ntHeaders sectionIndex) := by
  unfold loadSection copySectionData clearSectionTail
  infer_instance

instance loadSections_logged (imageBytes : List UInt8) (ntHeadersOffset : Nat)
    (ntHeaders : PeNtHeaders) (indices : List Nat) :
    Attempt.Keeps (Logged access) (loadSections imageBytes ntHeadersOffset ntHeaders indices) := by
  induction indices with
  | nil => exact inferInstanceAs (Attempt.Keeps _ (pure _))
  | cons sectionIndex rest ih => exact .bind _ _

instance readHeaders_logged (imageBytes : List UInt8) (config : PeImageLoadConfig) :
    Attempt.Keeps (Logged access) (readHeaders imageBytes config) := by
  unfold readHeaders
  infer_instance

instance layOutImage_logged (imageBytes : List UInt8) (config : PeImageLoadConfig)
    (ntHeadersOffset : Nat) (ntHeaders : PeNtHeaders) (importDirectory : PeDataDirectory) :
    Attempt.Keeps (Logged access)
      (layOutImage imageBytes config ntHeadersOffset ntHeaders importDirectory) := by
  have _ : Attempt.Keeps (Logged access) (Attempt.update fun state : LoadState =>
      { state with
        outResult :=
          { entryPoint := config.expectedImageBase + ntHeaders.addressOfEntryPoint.toUInt64
            imageSize := ntHeaders.sizeOfImage
            importDirectory := importDirectory }
        status := .ok }) := .update fun _ h => h
  unfold layOutImage
  infer_instance

end Log

/-- Whatever the image, the whole buffer is cleared first. -/
theorem loadPe32PlusImage_clears (imageBytes : List UInt8) (loadedImage : Nat → UInt8)
    (outResult : PeImageLoadResult) (config : PeImageLoadConfig) :
    Logged (.writeLoaded 0 config.loadedImageSize.toNat)
      (loadPe32PlusImage (some imageBytes) true true loadedImage outResult config) := by
  have _ : Attempt.Keeps (Logged (.writeLoaded 0 config.loadedImageSize.toNat))
      (Attempt.update fun state : LoadState => { state with outResult := ⟨0, 0, ⟨0, 0⟩⟩ }) :=
    .update fun _ h => h
  obtain ⟨cleared, hcleared, hlogged⟩ : ∃ cleared, clearLoaded 0 config.loadedImageSize.toNat
      { loadedImage := loadedImage, outResult := outResult, status := .ok, accesses := [] } =
        (some (), cleared) ∧ Logged (.writeLoaded 0 config.loadedImageSize.toNat) cleared :=
    ⟨_, rfl, List.mem_cons_self⟩
  change Logged _ (loadImage imageBytes config _).2
  unfold loadImage
  rw [Attempt.bind_of_some hcleared]
  exact Attempt.Keeps.kept hlogged

/-- The configuration with which the x64 kernel loads an image. -/
def x64LoadConfig : PeImageLoadConfig where
  expectedMachine := peMachineX64
  expectedImageBase := 0x400000
  expectedSectionAlignment := 0x1000
  expectedFileAlignment := 0x1000
  loadedImageSize := 0xA000
  allowImports := true
  allowRelocations := false

/-- The headers of an image with one section: one byte in memory, at the last address of the
loaded image, and two bytes of raw data. -/
def overlongImage : List UInt8 :=
  (List.range 368).map fun
    -- the DOS header
    | 0 => 0x4D | 1 => 0x5A | 60 => 0x40
    -- signature, machine, one section, size of the optional header
    | 64 => 0x50 | 65 => 0x45 | 68 => 0x64 | 69 => 0x86 | 70 => 1 | 84 => 0xF0
    -- magic, image base, alignments, size of the image
    | 88 => 0x0B | 89 => 0x02 | 114 => 0x40 | 121 => 0x10 | 125 => 0x10 | 145 => 0xA0
    -- virtual size, virtual address, size of the raw data
    | 336 => 1 | 340 => 0xFF | 341 => 0x9F | 344 => 2
    | _ => 0

/-- The loader accepts the image and writes the second byte behind the buffer. -/
theorem overlongImage_overruns :
    (loadPe32PlusImage (some overlongImage) true true (fun _ => 0) default
      x64LoadConfig).status = .ok ∧
    ¬ (loadPe32PlusImage (some overlongImage) true true (fun _ => 0) default
      x64LoadConfig).Within overlongImage.length x64LoadConfig.loadedImageSize.toNat := by
  refine ⟨by decide +kernel, fun hwithin => ?_⟩
  have hmem : BufferAccess.writeLoaded 0x9FFF 2 ∈ (loadPe32PlusImage (some overlongImage) true true
      (fun _ => 0) default x64LoadConfig).accesses := by decide +kernel
  have hlast : 0x9FFF + 1 < x64LoadConfig.loadedImageSize.toNat := hwithin _ hmem 1 (by decide)
  exact absurd hlast (by decide)

end Loader

end Ringos.Image

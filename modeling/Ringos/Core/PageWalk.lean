import Ringos.Core.ByteMemory
import Mathlib.Algebra.GroupWithZero.Nat
import Mathlib.Logic.Relation

/-!
# Page walks

A walk reads one entry in the table of each level. An entry is empty, points to
the table of the next level, or ends the walk with a page. What the walk permits
is what all entries on the way permit. Where translations are read from bytes that
none of them leads to, stores that go through them change none of them.
-/

namespace Ringos.Core

/-- What an entry says, with what it permits. -/
inductive PageEntry (P : Type) where
  /-- Nothing is mapped. -/
  | empty
  /-- The table of the next level. -/
  | table (address : UInt64) (permission : P)
  /-- A page that ends the walk. -/
  | page (address : UInt64) (permission : P)

/-- A level of the walk: the size of what one of its entries maps, as a power of two, and how its
entries are read. -/
structure PageLevel (P : Type) where
  shift : Nat
  decode : UInt64 → PageEntry P

-- Literals index the entries of a table.
instance instNeZeroPageEntries : NeZero 512 := ⟨by decide⟩

/-- A table has 512 entries. -/
abbrev PageTable := Fin 512 → UInt64

/-- The entry of an address in the table of a level. -/
def PageLevel.index {P : Type} (level : PageLevel P) (address : UInt64) : Fin 512 :=
  ⟨address.toNat / 2 ^ level.shift % 512, Nat.mod_lt _ (by decide)⟩

theorem PageLevel.index_val {P : Type} (level : PageLevel P) (address : UInt64) :
    (level.index address).val = address.toNat / 2 ^ level.shift % 512 := rfl

/-- The part of an address that a page does not translate. -/
def PageLevel.offset {P : Type} (level : PageLevel P) (address : UInt64) : UInt64 :=
  UInt64.ofNat (address.toNat % 2 ^ level.shift)

/-- The aligned word at an address. -/
def wordAt (memory : ByteMemory) (address : UInt64) : UInt64 :=
  ofLittleEndian (loadBytes memory address 8)

/-- The address of an entry. -/
def entryAddress (table : UInt64) (index : Fin 512) : UInt64 := table + UInt64.ofNat (8 * index.val)

/-- The table that memory holds at an address. -/
def tableAt (memory : ByteMemory) (table : UInt64) : PageTable := fun index =>
  wordAt memory (entryAddress table index)

/-- A word is what its bytes make up. -/
theorem wordAt_of_bytes {memory : ByteMemory} {address word : UInt64}
    (h : ∀ i < 8, memory (address + UInt64.ofNat i) = (word >>> (8 * i).toUInt64).toUInt8) :
    wordAt memory address = word := by
  have hbytes : loadBytes memory address 8 = toLittleEndian 8 word := by
    have hload (start : UInt64) (length : Nat) : loadBytes memory start length =
        (List.range length).map fun i => memory (start + UInt64.ofNat i) := by
      induction length generalizing start with
      | zero => rfl
      | succ length ih =>
        rw [loadBytes, ih, List.range_succ_eq_map, List.map_cons, List.map_map]
        refine congrArg₂ _ ?_ (List.map_congr_left fun i _ => ?_)
        · exact congrArg memory (UInt64.add_zero start).symm
        · exact congrArg memory (add_one_add_ofNat start i)
    rw [hload, toLittleEndian]
    exact List.map_congr_left fun i hi => h i (List.mem_range.mp hi)
  rw [wordAt, hbytes]
  apply UInt64.toNat_inj.mp
  rw [ofLittleEndian_toLittleEndian (by decide), Nat.mod_eq_of_lt word.toNat_lt]

/-- The translated address, and what each entry on the way permits. -/
def pageWalk {P : Type} (memory : ByteMemory) :
    List (PageLevel P) → UInt64 → UInt64 → Option (UInt64 × List P)
  | [], _, _ => none
  | level :: levels, table, address =>
    match level.decode (tableAt memory table (level.index address)) with
    | .empty => none
    | .page frame permission => some (frame + level.offset address, [permission])
    | .table next permission =>
      (pageWalk memory levels next address).map fun walked =>
        (walked.1, permission :: walked.2)

section Accesses

/-- What an entry allows. -/
structure PagePermission where
  writable : Bool
  user : Bool

/-- An access of the processor. -/
structure PageAccess where
  /-- The access comes from user code. -/
  user : Bool
  /-- The access is a store. -/
  store : Bool

/-- Every entry on the way allows the access. -/
def PageAccess.allowedBy (access : PageAccess) (permissions : List PagePermission) : Bool :=
  permissions.all fun permission =>
    (!access.user || permission.user) && (!access.store || permission.writable)

end Accesses

section Walk

variable {P : Type} {memory : ByteMemory} {level : PageLevel P} {levels : List (PageLevel P)}
  {table address : UInt64}

theorem pageWalk_empty (h : level.decode (tableAt memory table (level.index address)) = .empty) :
    pageWalk memory (level :: levels) table address = none := by
  rw [pageWalk, h]

theorem pageWalk_page {frame : UInt64} {permission : P}
    (h : level.decode (tableAt memory table (level.index address)) = .page frame permission) :
    pageWalk memory (level :: levels) table address =
      some (frame + level.offset address, [permission]) := by
  rw [pageWalk, h]

theorem pageWalk_table {next : UInt64} {permission : P}
    (h : level.decode (tableAt memory table (level.index address)) = .table next permission) :
    pageWalk memory (level :: levels) table address =
      (pageWalk memory levels next address).map fun walked =>
        (walked.1, permission :: walked.2) := by
  rw [pageWalk, h]

end Walk

section Tables

variable {memory : ByteMemory}

/-- A byte of consecutive words. -/
def wordsByte (words : Nat → UInt64) (offset : Nat) : UInt8 :=
  (words (offset / 8) >>> (8 * (offset % 8)).toUInt64).toUInt8

/-- The entry of a word in its table, among consecutive tables. -/
def wordEntry (index : Nat) : Fin 512 := ⟨index % 512, Nat.mod_lt _ (by decide)⟩

theorem wordEntry_entry (tableIndex : Nat) (index : Fin 512) :
    wordEntry (512 * tableIndex + index.val) = index := by
  apply Fin.ext
  show (512 * tableIndex + index.val) % 512 = index.val
  omega

/-- A table among consecutive words has 512 of them. -/
theorem tableAt_of_bytes {start : Nat} {words : Nat → UInt64} {tableIndex : Nat} {index : Fin 512}
    (h : ∀ i < 8, memory (start + (tableIndex * 4096 + 8 * index.val + i)).toUInt64 =
      wordsByte words (tableIndex * 4096 + 8 * index.val + i)) :
    tableAt memory (start + tableIndex * 4096).toUInt64 index =
      words (512 * tableIndex + index.val) := by
  refine wordAt_of_bytes fun i hi => ?_
  have haddress : entryAddress (start + tableIndex * 4096).toUInt64 index + UInt64.ofNat i =
      (start + (tableIndex * 4096 + 8 * index.val + i)).toUInt64 := by
    rw [entryAddress, Nat.toUInt64_eq, ← UInt64.ofNat_add, ← UInt64.ofNat_add, Nat.toUInt64_eq]
    exact congrArg UInt64.ofNat (by omega)
  have hword : (tableIndex * 4096 + 8 * index.val + i) / 8 = 512 * tableIndex + index.val := by
    omega
  have hbyte : (tableIndex * 4096 + 8 * index.val + i) % 8 = i := by omega
  rw [haddress, h i hi, wordsByte, hword, hbyte]

end Tables

/-- A loop over some indices of a table writes the entries of those. -/
theorem foldl_update_apply {ι β : Type} [DecidableEq ι] (entry : ι → β) (indices : List ι)
    (table : ι → β) (i : ι) :
    indices.foldl (fun current index => Function.update current index (entry index)) table i =
      if i ∈ indices then entry i else table i := by
  induction indices generalizing table with
  | nil => rw [List.foldl_nil, if_neg List.not_mem_nil]
  | cons index indices ih =>
    rw [List.foldl_cons, ih]
    by_cases hlater : i ∈ indices
    · rw [if_pos hlater, if_pos (List.mem_cons_of_mem _ hlater)]
    · rw [if_neg hlater, Function.update_apply]
      by_cases heq : i = index
      · rw [if_pos heq, if_pos (heq ▸ List.mem_cons_self), heq]
      · rw [if_neg heq, if_neg fun hmem => (List.mem_cons.mp hmem).elim heq hlater]

section EntryWords

/-- The address in an entry that maps `2 ^ shift` bytes, below the `width` bits of an address. -/
def frameAddress (shift width : Nat) (entry : UInt64) : UInt64 :=
  UInt64.ofNat (entry.toNat % 2 ^ width / 2 ^ shift * 2 ^ shift)

theorem frameAddress_aligned {shift width : Nat} {address : UInt64}
    (haligned : address.toNat % 2 ^ shift = 0) (hwidth : address.toNat < 2 ^ width) :
    frameAddress shift width address = address := by
  rw [frameAddress, Nat.mod_eq_of_lt hwidth, Nat.div_mul_cancel (Nat.dvd_of_mod_eq_zero haligned),
    UInt64.ofNat_toNat]

variable {shift : Nat} {mask : UInt64} (hmask : mask.toNat = 2 ^ shift - 1)

include hmask

/-- Masking the low bits off rounds down. -/
theorem toNat_clearLow (address : UInt64) :
    (address &&& ~~~mask).toNat = 2 ^ shift * (address.toNat / 2 ^ shift) := by
  apply Nat.eq_of_testBit_eq
  intro bit
  rw [UInt64.toNat_and, Nat.testBit_and, ← UInt64.toNat_toBitVec (x := ~~~mask),
    UInt64.toBitVec_not, BitVec.testBit_toNat, BitVec.getLsbD_not, ← BitVec.testBit_toNat,
    UInt64.toNat_toBitVec, hmask, Nat.testBit_two_pow_sub_one, Nat.testBit_two_pow_mul,
    Nat.testBit_div_two_pow]
  by_cases hlow : bit < shift
  · simp [hlow, Nat.not_le.mpr hlow]
  · have hle : shift ≤ bit := Nat.not_lt.mp hlow
    rw [Nat.sub_add_cancel hle]
    by_cases hbit : bit < 64
    · simp [hlow, hle, hbit]
    · have hzero : address.toNat.testBit bit = false :=
        Nat.testBit_lt_two_pow (Nat.lt_of_lt_of_le address.toNat_lt
          (Nat.pow_le_pow_right (by decide) (Nat.not_lt.mp hbit)))
      simp [hzero]

/-- An entry is the sum of an address and its flags. -/
theorem toNat_entry (address : UInt64) {flags : UInt64} (hflags : flags.toNat < 2 ^ shift) :
    ((address &&& ~~~mask) ||| flags).toNat =
      2 ^ shift * (address.toNat / 2 ^ shift) + flags.toNat := by
  rw [UInt64.toNat_or, toNat_clearLow hmask, ← Nat.two_pow_add_eq_or_of_lt hflags]

/-- The low bits of an entry are its flags. -/
theorem testBit_entry (address : UInt64) {flags : UInt64} (hflags : flags.toNat < 2 ^ shift)
    {bit : Nat} (hbit : bit < shift) :
    ((address &&& ~~~mask) ||| flags).toNat.testBit bit = flags.toNat.testBit bit := by
  rw [toNat_entry hmask address hflags, Nat.testBit_two_pow_mul_add _ hflags, if_pos hbit]

/-- An entry of an aligned address leads to that address. -/
theorem frameAddress_entry {width : Nat} {address flags : UInt64}
    (haligned : address.toNat % 2 ^ shift = 0) (hwidth : address.toNat < 2 ^ width)
    (hflags : flags.toNat < 2 ^ shift) (hshift : shift ≤ width) :
    frameAddress shift width ((address &&& ~~~mask) ||| flags) = address := by
  obtain ⟨count, hcount⟩ := Nat.dvd_of_mod_eq_zero haligned
  have hpos : 0 < 2 ^ shift := Nat.two_pow_pos shift
  have hdiv : address.toNat / 2 ^ shift = count := by
    rw [hcount, Nat.mul_div_cancel_left _ hpos]
  have hsum : 2 ^ shift * count + flags.toNat < 2 ^ width := by
    obtain ⟨high, rfl⟩ := Nat.exists_eq_add_of_le hshift
    rw [hcount, Nat.pow_add] at hwidth
    have hlt := Nat.lt_of_mul_lt_mul_left hwidth
    calc 2 ^ shift * count + flags.toNat
        < 2 ^ shift * count + 2 ^ shift := Nat.add_lt_add_left hflags _
      _ = 2 ^ shift * (count + 1) := by rw [Nat.mul_add, Nat.mul_one]
      _ ≤ 2 ^ shift * 2 ^ high := Nat.mul_le_mul_left _ hlt
      _ = 2 ^ (shift + high) := (Nat.pow_add ..).symm
  rw [frameAddress, toNat_entry hmask address hflags, hdiv, Nat.mod_eq_of_lt hsum,
    Nat.mul_add_div hpos, Nat.div_eq_of_lt hflags, Nat.add_zero, Nat.mul_comm, ← hcount,
    UInt64.ofNat_toNat]

end EntryWords

section Isolation

variable {D V : Type} (translate : D → ByteMemory → V → Option UInt64)
  (Protected : UInt64 → Prop)

/-- A byte stored through the translation of a domain; where nothing is mapped, nothing is
stored. -/
def storeThrough (domain : D) (memory : ByteMemory) (address : V) (byte : UInt8) : ByteMemory :=
  match translate domain memory address with
  | none => memory
  | some target => Function.update memory target byte

/-- The memory changes by a store of a domain, or outside the protected bytes. -/
inductive MemoryStep : ByteMemory → ByteMemory → Prop
  | user (memory : ByteMemory) (domain : D) (address : V) (byte : UInt8) :
    MemoryStep memory (storeThrough translate domain memory address byte)
  | kernel {memory memory' : ByteMemory} :
    (∀ target, Protected target → memory' target = memory target) → MemoryStep memory memory'

variable {translate} {Protected}

/-- A stored byte changes at most what its own address is translated to. -/
theorem storeThrough_apart {domain : D} {memory : ByteMemory} {address : V} {byte : UInt8}
    {target : UInt64} (h : translate domain memory address ≠ some target) :
    storeThrough translate domain memory address byte target = memory target := by
  unfold storeThrough
  cases hwritten : translate domain memory address with
  | none => rfl
  | some written =>
    refine Function.update_of_ne ?_ _ _
    rintro rfl
    exact h hwritten

/-- When translations are read from protected bytes and never lead to one, no sequence of steps
changes a protected byte or a translation. -/
theorem memorySteps_protected {memory memory' : ByteMemory}
    (hread : ∀ domain (memory' : ByteMemory), (∀ target, Protected target →
      memory' target = memory target) → translate domain memory' = translate domain memory)
    (hsafe : ∀ domain address target,
      translate domain memory address = some target → ¬ Protected target)
    (h : Relation.ReflTransGen (MemoryStep translate Protected) memory memory') :
    (∀ target, Protected target → memory' target = memory target) ∧
      ∀ domain, translate domain memory' = translate domain memory := by
  have hkept : ∀ target, Protected target → memory' target = memory target := by
    induction h with
    | refl => exact fun _ _ => rfl
    | tail _ hlast ih =>
      intro target htarget
      refine Eq.trans ?_ (ih target htarget)
      cases hlast with
      | user domain address byte =>
        refine storeThrough_apart fun hleads => ?_
        rw [hread domain _ ih] at hleads
        exact hsafe domain address target hleads htarget
      | kernel hprotected => exact hprotected target htarget
  exact ⟨hkept, fun domain => hread domain _ hkept⟩

end Isolation

end Ringos.Core

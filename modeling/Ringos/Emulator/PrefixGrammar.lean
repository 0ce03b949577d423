import Ringos.Emulator.ByteRegisters
import Ringos.Emulator.Faults

/-!
# Prefix bytes

The prefix bytes at an address are a list of bytes that ends where a byte is no
prefix or cannot be read. The decoder passes all of them, however many there are,
and keeps the bits of the last REX byte; in the grammar of the architecture a REX
byte counts only right in front of the opcode, and an instruction has at most
fifteen bytes.
-/

namespace Ringos.Emulator

variable {σ : Type}

/-- The byte is one of the prefixes that the decoder knows. -/
def isPrefix (byte : UInt8) : Bool :=
  byte == 0x66 || byte == 0xF2 || byte == 0xF3 || byte == 0x2E || isRex byte

/-- The REX byte with the bits of the record. -/
def DecodedInstruction.rexByte (instruction : DecodedInstruction) : UInt8 :=
  0x40 ||| (if instruction.rexW then 8 else 0) ||| (if instruction.rexR then 4 else 0) |||
    (if instruction.rexX then 2 else 0) ||| (if instruction.rexB then 1 else 0)

/-- The REX byte among prefixes that the architecture regards: the last prefix, if it is one. -/
def rexInForce (prefixes : List UInt8) : UInt8 := (prefixes.getLast?.filter isRex).getD 0x40

/-- The last REX byte among prefixes. -/
def lastRex (prefixes : List UInt8) : Option UInt8 := (prefixes.filter isRex).getLast?

/-- The architectural limit for the length of an instruction. -/
def instructionLengthLimit : Nat := 15

/-- The prefix bytes at an address: no other prefix follows. -/
structure Machine.PrefixesAt (machine : Machine σ) (address : UInt64) (prefixes : List UInt8) :
    Prop where
  bytes : ∀ index (h : index < prefixes.length),
    machine.byteAt (address + UInt64.ofNat index) = some prefixes[index]
  arePrefixes : ∀ byte ∈ prefixes, isPrefix byte = true
  noneFollows : ∀ byte, machine.byteAt (address + UInt64.ofNat prefixes.length) = some byte →
    isPrefix byte = false

/-- What the grammar says about an instruction with these prefixes. -/
structure FollowsGrammar (machine : Machine σ) (prefixes : List UInt8)
    (instruction : DecodedInstruction) : Prop where
  address : instruction.address = machine.state.instructionPointer
  opcodeAddress : instruction.opcodeAddress =
    machine.state.instructionPointer + UInt64.ofNat prefixes.length
  opcode : machine.byteAt instruction.opcodeAddress = some instruction.opcode
  nextAddress : instruction.nextAddress = instruction.opcodeAddress + 1
  prefix66 : instruction.prefix66 = true ↔ 0x66 ∈ prefixes
  prefixF2 : instruction.prefixF2 = true ↔ 0xF2 ∈ prefixes
  prefixF3 : instruction.prefixF3 = true ↔ 0xF3 ∈ prefixes
  rex : instruction.rexByte = rexInForce prefixes
  length : prefixes.length < instructionLengthLimit

/-- The decoder ends behind finitely many prefixes, with the instruction if its opcode can be read,
and the instruction follows the grammar. -/
def DecodesByGrammar (start : ExecutionContext σ) : Prop :=
  ∃ prefixes, start.machine.PrefixesAt start.machine.state.instructionPointer prefixes ∧
    ((decodeX64Instruction start).1.isSome = true ↔ (start.machine.byteAt
      (start.machine.state.instructionPointer + UInt64.ofNat prefixes.length)).isSome = true) ∧
    ∀ instruction final, decodeX64Instruction start = (some instruction, final) →
      FollowsGrammar start.machine prefixes instruction

/-- The instruction at the instruction pointer, if there is one, has fewer than fifteen prefixes,
and the last REX byte among them sets no bit or is the last prefix. -/
def Machine.HasPlainPrefixes (machine : Machine σ) : Prop :=
  ∀ prefixes, machine.PrefixesAt machine.state.instructionPointer prefixes →
    (machine.byteAt
      (machine.state.instructionPointer + UInt64.ofNat prefixes.length)).isSome = true →
    (∀ rex, lastRex prefixes = some rex → rex = 0x40 ∨ prefixes.getLast? = some rex) ∧
      prefixes.length < instructionLengthLimit

/-- A REX byte has the bits that are taken from it. -/
theorem rexByte_of_isRex {instruction : DecodedInstruction} {byte : UInt8}
    (hrex : isRex byte = true) :
    DecodedInstruction.rexByte { instruction with
      rexW := byte &&& 0x08 ≠ 0, rexR := byte &&& 0x04 ≠ 0,
      rexX := byte &&& 0x02 ≠ 0, rexB := byte &&& 0x01 ≠ 0 } = byte := by
  have hall : ∀ value < 256, isRex (UInt8.ofNat value) = true →
      (0x40 ||| (if decide (UInt8.ofNat value &&& 0x08 ≠ 0) then 8 else 0) |||
        (if decide (UInt8.ofNat value &&& 0x04 ≠ 0) then 4 else 0) |||
        (if decide (UInt8.ofNat value &&& 0x02 ≠ 0) then 2 else 0) |||
        (if decide (UInt8.ofNat value &&& 0x01 ≠ 0) then 1 else 0) : UInt8) =
        UInt8.ofNat value := by decide +kernel
  have hbyte := hall byte.toNat byte.toNat_lt
  rw [UInt8.ofNat_toNat] at hbyte
  exact hbyte hrex

section Prefixes

variable {instruction prefixed : DecodedInstruction}

/-- The record after a prefix byte. -/
structure Prefixed (instruction prefixed : DecodedInstruction) : Prop where
  isPrefix : isPrefix instruction.opcode = true
  address : prefixed.address = instruction.address
  opcodeAddress : prefixed.opcodeAddress = instruction.opcodeAddress
  prefix66 : prefixed.prefix66 = true ↔ instruction.opcode = 0x66 ∨ instruction.prefix66 = true
  prefixF2 : prefixed.prefixF2 = true ↔ instruction.opcode = 0xF2 ∨ instruction.prefixF2 = true
  prefixF3 : prefixed.prefixF3 = true ↔ instruction.opcode = 0xF3 ∨ instruction.prefixF3 = true
  rex : prefixed.rexByte =
    if isRex instruction.opcode then instruction.opcode else instruction.rexByte

/-- The `if` chain takes the prefixes, each with its own effect. -/
theorem applyPrefix_spec (h : instruction.applyPrefix = some prefixed) :
    Prefixed instruction prefixed := by
  unfold DecodedInstruction.applyPrefix at h
  split at h
  next hbyte =>
    obtain rfl := Option.some.inj h
    have hrex : isRex 0x66 = false := by decide
    constructor <;> simp [hbyte, hrex, isPrefix, DecodedInstruction.rexByte]
  split at h
  next hbyte =>
    obtain rfl := Option.some.inj h
    have hrex : isRex 0xF2 = false := by decide
    constructor <;> simp [hbyte, hrex, isPrefix, DecodedInstruction.rexByte]
  split at h
  next hbyte =>
    obtain rfl := Option.some.inj h
    have hrex : isRex 0xF3 = false := by decide
    constructor <;> simp [hbyte, hrex, isPrefix, DecodedInstruction.rexByte]
  split at h
  next hbyte =>
    obtain rfl := Option.some.inj h
    have hrex : isRex 0x2E = false := by decide
    constructor <;> simp [hbyte, hrex, isPrefix, DecodedInstruction.rexByte]
  split at h
  next h66 hF2 hF3 h2E hbyte =>
    obtain rfl := Option.some.inj h
    have hrex : isRex instruction.opcode = true := by simpa [isRex] using hbyte
    refine ⟨?_, rfl, rfl, ?_, ?_, ?_, ?_⟩
    · simp [isPrefix, hrex]
    · simp [h66]
    · simp [hF2]
    · simp [hF3]
    · rw [if_pos hrex]
      exact rexByte_of_isRex hrex
  next hother => cases h

theorem isPrefix_of_applyPrefix_none (h : instruction.applyPrefix = none) :
    isPrefix instruction.opcode = false := by
  unfold DecodedInstruction.applyPrefix at h
  split at h
  next => cases h
  split at h
  next => cases h
  split at h
  next => cases h
  split at h
  next => cases h
  split at h
  next => cases h
  next h66 hF2 hF3 h2E hrex => simp [isPrefix, isRex, h66, hF2, hF3, h2E, hrex]

end Prefixes

section Lists

theorem lastRex_cons (byte : UInt8) (prefixes : List UInt8) (rex : UInt8) :
    (lastRex (byte :: prefixes)).getD rex =
      (lastRex prefixes).getD (if isRex byte then byte else rex) := by
  rw [lastRex, lastRex]
  cases hrex : isRex byte with
  | true =>
    rw [List.filter_cons_of_pos hrex, List.getLast?_cons, Option.getD_some, if_pos rfl]
  | false =>
    rw [List.filter_cons_of_neg (by simp [hrex])]
    rfl

theorem lastRex_concat (prefixes : List UInt8) (last : UInt8) :
    lastRex (prefixes ++ [last]) = if isRex last then some last else lastRex prefixes := by
  rw [lastRex, List.filter_append]
  cases hrex : isRex last with
  | true => rw [List.filter_cons_of_pos hrex, List.filter_nil, List.getLast?_concat, if_pos rfl]
  | false =>
    rw [List.filter_cons_of_neg (by simp [hrex]), List.filter_nil, List.append_nil, ← lastRex]
    rfl

theorem isRex_of_lastRex {prefixes : List UInt8} {rex : UInt8} (h : lastRex prefixes = some rex) :
    isRex rex = true :=
  (List.mem_filter.mp (List.mem_of_getLast? h)).2

/-- The last REX byte is the one in force if it sets no bit or is the last prefix. -/
theorem lastRex_eq_rexInForce_iff (prefixes : List UInt8) :
    (lastRex prefixes).getD 0x40 = rexInForce prefixes ↔
      ∀ rex, lastRex prefixes = some rex → rex = 0x40 ∨ prefixes.getLast? = some rex := by
  rcases List.eq_nil_or_concat prefixes with rfl | ⟨front, last, rfl⟩
  · simp [lastRex, rexInForce]
  · rw [List.concat_eq_append, lastRex_concat, rexInForce, List.getLast?_concat]
    cases hrex : isRex last with
    | true => simp [Option.filter_some, hrex]
    | false =>
      have hne (rex : UInt8) (h : lastRex front = some rex) : last ≠ rex := by
        rintro rfl
        rw [isRex_of_lastRex h] at hrex
        cases hrex
      cases hlast : lastRex front with
      | none => simp [Option.filter_some, hrex]
      | some rex =>
        have hlastNe := hne rex hlast
        simp [Option.filter_some, hrex, hlastNe]

end Lists

section Bytes

variable {machine : Machine σ} {address : UInt64} {prefixes : List UInt8}

theorem Machine.prefixesAt_nil
    (h : ∀ byte, machine.byteAt address = some byte → isPrefix byte = false) :
    machine.PrefixesAt address [] := by
  refine ⟨fun index hindex => absurd hindex (Nat.not_lt_zero index), ?_, ?_⟩
  · exact List.forall_mem_nil _
  · simpa using h

theorem Machine.PrefixesAt.cons {byte : UInt8} (hbyte : machine.byteAt address = some byte)
    (hfirst : isPrefix byte = true) (h : machine.PrefixesAt (address + 1) prefixes) :
    machine.PrefixesAt address (byte :: prefixes) := by
  refine ⟨fun index hindex => ?_, ?_, ?_⟩
  · cases index with
    | zero => simpa using hbyte
    | succ index =>
      rw [← Core.add_one_add_ofNat]
      exact h.bytes index (Nat.lt_of_succ_lt_succ hindex)
  · exact List.forall_mem_cons.mpr ⟨hfirst, h.arePrefixes⟩
  · rw [List.length_cons, ← Core.add_one_add_ofNat]
    exact h.noneFollows

/-- The prefixes at an address end where the first byte is no prefix. -/
theorem Machine.PrefixesAt.length_le {others : List UInt8} (h : machine.PrefixesAt address prefixes)
    (hothers : machine.PrefixesAt address others) : others.length ≤ prefixes.length := by
  by_contra hlt
  have hindex : prefixes.length < others.length := Nat.lt_of_not_le hlt
  have hno := h.noneFollows _ (hothers.bytes prefixes.length hindex)
  rw [hothers.arePrefixes _ (List.getElem_mem hindex)] at hno
  cases hno

theorem Machine.PrefixesAt.unique {others : List UInt8} (h : machine.PrefixesAt address prefixes)
    (hothers : machine.PrefixesAt address others) : prefixes = others := by
  apply List.ext_getElem
  · exact Nat.le_antisymm (hothers.length_le h) (h.length_le hothers)
  · intro index hleft hright
    exact Option.some.inj ((h.bytes index hleft).symm.trans (hothers.bytes index hright))

end Bytes

section Decoding

variable {machine : Machine σ}

/-- The record behind the prefixes that follow a record. -/
structure Passed (machine : Machine σ) (instruction : DecodedInstruction) (prefixes : List UInt8)
    (decoded : DecodedInstruction) : Prop where
  address : decoded.address = instruction.address
  opcodeAddress : decoded.opcodeAddress =
    instruction.opcodeAddress + UInt64.ofNat prefixes.length
  opcode : machine.byteAt decoded.opcodeAddress = some decoded.opcode
  prefix66 : decoded.prefix66 = true ↔ 0x66 ∈ prefixes ∨ instruction.prefix66 = true
  prefixF2 : decoded.prefixF2 = true ↔ 0xF2 ∈ prefixes ∨ instruction.prefixF2 = true
  prefixF3 : decoded.prefixF3 = true ↔ 0xF3 ∈ prefixes ∨ instruction.prefixF3 = true
  rex : decoded.rexByte = (lastRex prefixes).getD instruction.rexByte

theorem Passed.nil {instruction : DecodedInstruction}
    (hopcode : machine.byteAt instruction.opcodeAddress = some instruction.opcode) :
    Passed machine instruction [] instruction := by
  constructor <;> simp [hopcode, lastRex]

/-- One more prefix in front. -/
theorem Passed.cons {instruction prefixed decoded : DecodedInstruction} {opcode : UInt8}
    {prefixes : List UInt8} (hprefixed : Prefixed instruction prefixed)
    (h : Passed machine
      { prefixed with opcodeAddress := prefixed.opcodeAddress + 1, opcode := opcode } prefixes
      decoded) :
    Passed machine instruction (instruction.opcode :: prefixes) decoded := by
  refine ⟨h.address.trans hprefixed.address, ?_, h.opcode, ?_, ?_, ?_, ?_⟩
  · rw [h.opcodeAddress, List.length_cons, ← Core.add_one_add_ofNat, hprefixed.opcodeAddress]
  · rw [h.prefix66, hprefixed.prefix66, List.mem_cons, eq_comm (a := (0x66 : UInt8))]
    tauto
  · rw [h.prefixF2, hprefixed.prefixF2, List.mem_cons, eq_comm (a := (0xF2 : UInt8))]
    tauto
  · rw [h.prefixF3, hprefixed.prefixF3, List.mem_cons, eq_comm (a := (0xF3 : UInt8))]
    tauto
  · rw [h.rex, lastRex_cons]
    exact congrArg _ hprefixed.rex

/-- The loop passes exactly the prefixes at the address, by induction on the bytes left in the
region. -/
theorem decodeFrom_passes {fuel : Nat} {instruction : DecodedInstruction}
    (hopcode : machine.byteAt instruction.opcodeAddress = some instruction.opcode)
    (hfuel : machine.memory.size.toNat ≤ fuel +
      (instruction.opcodeAddress - machine.memory.baseAddress).toNat) :
    ∃ prefixes, machine.PrefixesAt instruction.opcodeAddress prefixes ∧
      ((machine.decodeFrom fuel instruction).isSome = true ↔ (machine.byteAt
        (instruction.opcodeAddress + UInt64.ofNat prefixes.length)).isSome = true) ∧
      ∀ decoded, machine.decodeFrom fuel instruction = some decoded →
        Passed machine instruction prefixes decoded := by
  have hlt := Machine.offset_lt_of_byteAt hopcode
  induction fuel generalizing instruction with
  | zero => omega
  | succ fuel ih =>
    unfold Machine.decodeFrom
    cases happly : instruction.applyPrefix with
    | none =>
      refine ⟨[], Machine.prefixesAt_nil fun byte hbyte => ?_, ?_, ?_⟩
      · obtain rfl := Option.some.inj (hopcode.symm.trans hbyte)
        exact isPrefix_of_applyPrefix_none happly
      · simp [hopcode]
      · rintro decoded hdecoded
        obtain rfl := Option.some.inj hdecoded
        exact .nil hopcode
    | some prefixed =>
      have hprefixed := applyPrefix_spec happly
      simp only [hprefixed.opcodeAddress]
      cases hnext : machine.byteAt (instruction.opcodeAddress + 1) with
      | none =>
        refine ⟨[instruction.opcode], .cons hopcode hprefixed.isPrefix
          (Machine.prefixesAt_nil fun byte hbyte => ?_), ?_, ?_⟩
        · rw [hnext] at hbyte
          cases hbyte
        · simp [hnext]
        · rintro decoded hdecoded
          cases hdecoded
      | some opcode =>
        have hinside := offset_succ hlt
        obtain ⟨prefixes, hprefixes, hsome, hdecodes⟩ := @ih
          { prefixed with opcodeAddress := instruction.opcodeAddress + 1, opcode := opcode } hnext
          (by simp only; omega) (Machine.offset_lt_of_byteAt hnext)
        refine ⟨instruction.opcode :: prefixes, .cons hopcode hprefixed.isPrefix hprefixes, ?_, ?_⟩
        · rw [List.length_cons, ← Core.add_one_add_ofNat]
          exact hsome
        · intro decoded hdecoded
          rw [← hprefixed.opcodeAddress] at hdecodes hdecoded
          exact .cons hprefixed (hdecodes decoded hdecoded)

/-- Fetching an instruction passes the prefixes at the instruction pointer. -/
theorem fetchInstruction_passes (machine : Machine σ) :
    ∃ prefixes, machine.PrefixesAt machine.state.instructionPointer prefixes ∧
      (machine.fetchInstruction.isSome = true ↔ (machine.byteAt
        (machine.state.instructionPointer + UInt64.ofNat prefixes.length)).isSome = true) ∧
      ∀ instruction, machine.fetchInstruction = some instruction →
        instruction.nextAddress = instruction.opcodeAddress + 1 ∧
        Passed machine (.initial machine.state.instructionPointer) prefixes instruction := by
  cases hopcode : machine.byteAt machine.state.instructionPointer with
  | none =>
    have hnone : machine.fetchInstruction = none := by rw [Machine.fetchInstruction, hopcode]; rfl
    refine ⟨[], Machine.prefixesAt_nil fun byte hbyte => ?_, ?_, ?_⟩
    · rw [hopcode] at hbyte
      cases hbyte
    · simp [hopcode, hnone]
    · rintro instruction hinstruction
      rw [hnone] at hinstruction
      cases hinstruction
  | some opcode =>
    obtain ⟨prefixes, hprefixes, hsome, hdecodes⟩ := @decodeFrom_passes _ machine
      machine.memory.size.toNat
      { DecodedInstruction.initial machine.state.instructionPointer with opcode := opcode } hopcode
      (Nat.le_add_right _ _)
    rw [Machine.fetchInstruction, hopcode, Option.bind_some]
    refine ⟨prefixes, hprefixes, ?_, ?_⟩
    · rw [Option.isSome_map]
      exact hsome
    · rintro instruction hinstruction
      obtain ⟨decoded, hdecoded, rfl⟩ := Option.map_eq_some_iff.mp hinstruction
      obtain ⟨haddress, hopcodeAddress, hbyte, h66, hF2, hF3, hrex⟩ := hdecodes decoded hdecoded
      exact ⟨rfl, haddress, hopcodeAddress, hbyte, h66, hF2, hF3, hrex⟩

/-- Where the instruction departs from the grammar: a REX byte in front of another prefix, and too
many prefixes. -/
theorem Passed.followsGrammar_iff {prefixes : List UInt8} {instruction : DecodedInstruction}
    (h : Passed machine (.initial machine.state.instructionPointer) prefixes instruction)
    (hnext : instruction.nextAddress = instruction.opcodeAddress + 1) :
    FollowsGrammar machine prefixes instruction ↔
      (∀ rex, lastRex prefixes = some rex → rex = 0x40 ∨ prefixes.getLast? = some rex) ∧
        prefixes.length < instructionLengthLimit := by
  have hinitial : (DecodedInstruction.initial machine.state.instructionPointer).rexByte = 0x40 := by
    simp [DecodedInstruction.initial, DecodedInstruction.rexByte]
  have hrex : instruction.rexByte = (lastRex prefixes).getD 0x40 := hinitial ▸ h.rex
  rw [← lastRex_eq_rexInForce_iff]
  constructor
  · intro hfollows
    exact ⟨hrex.symm.trans hfollows.rex, hfollows.length⟩
  · rintro ⟨hinForce, hlength⟩
    exact {
      address := h.address
      opcodeAddress := h.opcodeAddress
      opcode := h.opcode
      nextAddress := hnext
      prefix66 := by simp [h.prefix66, DecodedInstruction.initial]
      prefixF2 := by simp [h.prefixF2, DecodedInstruction.initial]
      prefixF3 := by simp [h.prefixF3, DecodedInstruction.initial]
      rex := hrex.trans hinForce
      length := hlength }

end Decoding

/-- Decoding follows the grammar exactly if no REX byte that sets a bit stands in front of another
prefix, as the last of its kind, and there are fewer than fifteen prefixes. -/
theorem decodesByGrammar_iff (start : ExecutionContext σ) (hbytes : start.machine.memory.bytes ≠ 0) :
    DecodesByGrammar start ↔ start.machine.HasPlainPrefixes := by
  have hfetch : (decodeX64Instruction start).1 = start.machine.fetchInstruction :=
    (decodeX64Instruction_denotes hbytes).fst_eq
  obtain ⟨prefixes, hprefixes, hsome, hpasses⟩ := fetchInstruction_passes start.machine
  constructor
  · rintro ⟨others, hothers, -, hfollows⟩ prefixes' hprefixes' hreadable
    obtain rfl := hprefixes.unique hothers
    obtain rfl := hprefixes.unique hprefixes'
    obtain ⟨instruction, hinstruction⟩ := Option.isSome_iff_exists.mp (hsome.mpr hreadable)
    obtain ⟨hnext, hpassed⟩ := hpasses instruction hinstruction
    exact (hpassed.followsGrammar_iff hnext).mp
      (hfollows instruction _ (Prod.ext (hfetch.trans hinstruction) rfl))
  · intro hplain
    refine ⟨prefixes, hprefixes, by rw [hfetch]; exact hsome, fun instruction final hrun => ?_⟩
    have hinstruction : start.machine.fetchInstruction = some instruction := by
      rw [← hfetch, hrun]
    obtain ⟨hnext, hpassed⟩ := hpasses instruction hinstruction
    have hreadable := hsome.mp (by rw [hinstruction]; rfl)
    exact (hpassed.followsGrammar_iff hnext).mpr (hplain prefixes hprefixes hreadable)

/-- Three bytes of code: two prefixes and `nop`. -/
def prefixedNopSample (first second : UInt8) : ExecutionContext Unit :=
  .start (sampleMachine [first, second, 0x90] 0x1010)

/-- The prefixes of the sample, if both bytes are some. -/
theorem prefixedNopSample_prefixesAt {first second : UInt8}
    (hcode : (prefixedNopSample first second).machine.byteAt 0x1000 = some first ∧
      (prefixedNopSample first second).machine.byteAt 0x1001 = some second ∧
      (prefixedNopSample first second).machine.byteAt 0x1002 = some 0x90)
    (hprefixes : isPrefix first = true ∧ isPrefix second = true) :
    (prefixedNopSample first second).machine.PrefixesAt 0x1000 [first, second] := by
  refine .cons hcode.1 hprefixes.1 (.cons hcode.2.1 hprefixes.2
    (Machine.prefixesAt_nil fun byte hbyte => ?_))
  obtain rfl := Option.some.inj (hcode.2.2.symm.trans hbyte)
  decide

/-- `66 48 90` has its REX byte in front of the opcode. -/
theorem prefixedNop_decodesByGrammar : DecodesByGrammar (prefixedNopSample 0x66 0x48) := by
  refine (decodesByGrammar_iff (prefixedNopSample 0x66 0x48) (by decide)).mpr
    fun prefixes hprefixes _ => ?_
  obtain rfl := (prefixedNopSample_prefixesAt (by decide +kernel) (by decide)).unique hprefixes
  refine ⟨fun rex hrex => ?_, by decide⟩
  exact .inr (hrex ▸ rfl)

/-- `48 66 90` is decoded with REX.W. -/
theorem rexInFront_not_decodesByGrammar : ¬ DecodesByGrammar (prefixedNopSample 0x48 0x66) := by
  rintro ⟨prefixes, hprefixes, -, hfollows⟩
  obtain rfl := (prefixedNopSample_prefixesAt (by decide +kernel) (by decide)).unique hprefixes
  have hrun : (decodeX64Instruction (prefixedNopSample 0x48 0x66)).1 =
      some { DecodedInstruction.initial 0x1000 with
        opcodeAddress := 0x1002, nextAddress := 0x1003, opcode := 0x90, prefix66 := true,
        rexW := true } := by decide +kernel
  have hrex := (hfollows _ _ (Prod.ext hrun rfl)).rex
  exact absurd hrex (by decide)

end Ringos.Emulator

import Ringos.Core.PageWalk
import Mathlib.Data.List.Nodup

/-!
# Straight-line transfers between registers and memory

Entry and exit code of a kernel moves registers to a save area and back. Each of
its instructions is a short list of transfers. Registers that are stored one
behind the other make up a block of words, pushed registers make up one from the
last to the first, and loads read the words of a block back.
-/

namespace Ringos.Core

section Words

/-- Store a word, least significant byte first. -/
def storeWord (memory : ByteMemory) (address word : UInt64) : ByteMemory :=
  storeBytes memory address (toLittleEndian 8 word)

/-- The words that lie one behind the other from an address on. -/
def WordsAt (memory : ByteMemory) (address : UInt64) (words : List UInt64) : Prop :=
  ∀ (i : Nat) (hi : i < words.length),
    wordAt memory (address + UInt64.ofNat (8 * i)) = words[i]

/-- A block of words is stored, and nothing else changes. -/
structure Stored (memory after : ByteMemory) (address : UInt64) (words : List UInt64) : Prop where
  held : WordsAt after address words
  outside : ∀ target, ¬ InRange address (8 * words.length) target → after target = memory target

variable {memory middle after : ByteMemory} {address word : UInt64} {lower upper : List UInt64}

theorem wordAt_congr (h : ∀ target, InRange address 8 target → after target = memory target) :
    wordAt after address = wordAt memory address :=
  congrArg ofLittleEndian (loadBytes_congr (by decide) h)

/-- A stored word is read back. -/
theorem wordAt_storeWord : wordAt (storeWord memory address word) address = word := by
  have hload := @loadBytes_storeBytes memory address (toLittleEndian 8 word)
    (by rw [length_toLittleEndian]; decide)
  rw [length_toLittleEndian] at hload
  rw [wordAt, storeWord, hload]
  apply UInt64.toNat_inj.mp
  rw [ofLittleEndian_toLittleEndian (by decide), Nat.mod_eq_of_lt word.toNat_lt]

theorem stored_storeWord (memory : ByteMemory) (address word : UInt64) :
    Stored memory (storeWord memory address word) address [word] where
  held i hi := by
    obtain rfl : i = 0 := Nat.lt_one_iff.mp hi
    exact (congrArg _ (UInt64.add_zero address)).trans wordAt_storeWord
  outside target hout := storeBytes_of_not_inRange (by rw [length_toLittleEndian]; decide)
    (by rwa [length_toLittleEndian])

/-- A word of a block, by its offset. -/
theorem WordsAt.wordAt (h : WordsAt memory address lower) {offset : UInt64} (i : Nat)
    (hoffset : offset = UInt64.ofNat (8 * i)) (hword : lower[i]? = some word) :
    Core.wordAt memory (address + offset) = word := by
  obtain ⟨hi, hvalue⟩ := List.getElem?_eq_some_iff.mp hword
  rw [hoffset, h i hi, hvalue]

theorem WordsAt.congr (h : WordsAt memory address lower)
    (hfit : 8 * lower.length < 2 ^ 64)
    (hsame : ∀ target, InRange address (8 * lower.length) target → after target = memory target) :
    WordsAt after address lower := by
  intro i hi
  refine (wordAt_congr fun target hin => hsame target ?_).trans (h i hi)
  have hoffset : (UInt64.ofNat (8 * i)).toNat = 8 * i :=
    UInt64.toNat_ofNat_of_lt' (by show 8 * i < 2 ^ 64; omega)
  exact hin.within (by rw [hoffset]; omega) (by omega)

/-- Two blocks, one behind the other. -/
theorem WordsAt.append (hlower : WordsAt memory address lower)
    (hupper : WordsAt memory (address + UInt64.ofNat (8 * lower.length)) upper) :
    WordsAt memory address (lower ++ upper) := by
  intro i hi
  rw [List.length_append] at hi
  by_cases hlow : i < lower.length
  · rw [List.getElem_append_left hlow]
    exact hlower i hlow
  · have hsplit : 8 * i = 8 * lower.length + 8 * (i - lower.length) := by omega
    rw [List.getElem_append_right (Nat.not_lt.mp hlow), hsplit, UInt64.ofNat_add,
      ← UInt64.add_assoc]
    exact hupper (i - lower.length) (by omega)

/-- Two blocks that follow each other have no byte in common. -/
theorem not_inRange_behind {first second : Nat} {target : UInt64}
    (hfit : first + second < 2 ^ 64) (h : InRange (address + UInt64.ofNat first) second target) :
    ¬ InRange address first target := by
  have hfirst : (UInt64.ofNat first).toNat = first :=
    UInt64.toNat_ofNat_of_lt' (by show first < 2 ^ 64; omega)
  unfold InRange at *
  rw [UInt64.toNat_sub] at *
  rw [UInt64.toNat_add, hfirst] at h
  have ha := address.toNat_lt
  have ht := target.toNat_lt
  omega

variable (hfit : 8 * lower.length + 8 * upper.length < 2 ^ 64)

include hfit

/-- The bytes of two blocks that follow each other. -/
theorem outside_append {target : UInt64}
    (hout : ¬ InRange address (8 * (lower ++ upper).length) target) :
    ¬ InRange address (8 * lower.length) target ∧
      ¬ InRange (address + UInt64.ofNat (8 * lower.length)) (8 * upper.length) target := by
  rw [List.length_append, Nat.mul_add] at hout
  have hlower : (UInt64.ofNat (8 * lower.length)).toNat = 8 * lower.length :=
    UInt64.toNat_ofNat_of_lt' (by show 8 * lower.length < 2 ^ 64; omega)
  exact ⟨fun hin => hout (Nat.lt_of_lt_of_le hin (Nat.le_add_right _ _)),
    fun hin => hout (hin.within (Nat.add_le_add_right (Nat.le_of_eq hlower) _) (by omega))⟩

/-- The upper block is stored first. -/
theorem Stored.below (hupper : Stored memory middle
      (address + UInt64.ofNat (8 * lower.length)) upper)
    (hlower : Stored middle after address lower) :
    Stored memory after address (lower ++ upper) where
  held := hlower.held.append <| hupper.held.congr (by omega) fun target hin =>
    hlower.outside target (not_inRange_behind hfit hin)
  outside target hout := by
    obtain ⟨hlow, hhigh⟩ := outside_append hfit hout
    exact (hlower.outside target hlow).trans (hupper.outside target hhigh)

/-- The lower block is stored first. -/
theorem Stored.above (hlower : Stored memory middle address lower)
    (hupper : Stored middle after (address + UInt64.ofNat (8 * lower.length)) upper) :
    Stored memory after address (lower ++ upper) where
  held := (hlower.held.congr (by omega) fun target hin => hupper.outside target fun hbehind =>
    not_inRange_behind hfit hbehind hin).append hupper.held
  outside target hout := by
    obtain ⟨hlow, hhigh⟩ := outside_append hfit hout
    exact (hupper.outside target hhigh).trans (hlower.outside target hlow)

end Words

/-- Registers and memory. -/
structure Cpu (R : Type) where
  registers : R → UInt64
  memory : ByteMemory

/-- A step of straight-line code. -/
inductive Transfer (R : Type) where
  /-- The target is computed from the source. -/
  | compute (target source : R) (f : UInt64 → UInt64)
  | swap (first second : R)
  | load (target base : R) (offset : UInt64)
  | store (base : R) (offset : UInt64) (source : R)

variable {R : Type} [DecidableEq R]

/-- Write a register. -/
def Cpu.set (cpu : Cpu R) (target : R) (value : UInt64) : Cpu R :=
  { cpu with registers := Function.update cpu.registers target value }

def Transfer.apply (cpu : Cpu R) : Transfer R → Cpu R
  | .compute target source f => cpu.set target (f (cpu.registers source))
  | .swap first second =>
    (cpu.set first (cpu.registers second)).set second (cpu.registers first)
  | .load target base offset =>
    cpu.set target (wordAt cpu.memory (cpu.registers base + offset))
  | .store base offset source =>
    { cpu with
      memory := storeWord cpu.memory (cpu.registers base + offset) (cpu.registers source) }

/-- Straight-line code. -/
def Cpu.run (cpu : Cpu R) (code : List (Transfer R)) : Cpu R :=
  code.foldl Transfer.apply cpu

section Registers

variable {cpu : Cpu R}

@[simp] theorem Cpu.set_registers (cpu : Cpu R) (target : R) (value : UInt64) :
    (cpu.set target value).registers = Function.update cpu.registers target value := rfl

@[simp] theorem Cpu.set_memory (cpu : Cpu R) (target : R) (value : UInt64) :
    (cpu.set target value).memory = cpu.memory := rfl

theorem Cpu.run_append (cpu : Cpu R) (code code' : List (Transfer R)) :
    cpu.run (code ++ code') = (cpu.run code).run code' := List.foldl_append

theorem Cpu.run_cons (cpu : Cpu R) (transfer : Transfer R) (code : List (Transfer R)) :
    cpu.run (transfer :: code) = (transfer.apply cpu).run code := rfl

/-- The registers that a transfer writes. -/
def Transfer.writes : Transfer R → List R
  | .compute target _ _ => [target]
  | .swap first second => [first, second]
  | .load target _ _ => [target]
  | .store _ _ _ => []

/-- Code leaves a register alone that none of its transfers writes. -/
theorem Cpu.run_register (code : List (Transfer R)) {register : R}
    (h : ∀ transfer ∈ code, register ∉ transfer.writes) :
    (cpu.run code).registers register = cpu.registers register := by
  induction code generalizing cpu with
  | nil => rfl
  | cons transfer code ih =>
    rw [Cpu.run_cons, ih fun later hlater => h later (List.mem_cons_of_mem _ hlater)]
    have hfirst := h transfer List.mem_cons_self
    cases transfer with
    | compute target source f =>
      exact Function.update_of_ne (List.ne_of_not_mem_cons hfirst) _ _
    | swap first second =>
      simp only [Transfer.writes, List.mem_cons, List.not_mem_nil, or_false, not_or] at hfirst
      simp only [Transfer.apply, Cpu.set_registers, Function.update_of_ne hfirst.1,
        Function.update_of_ne hfirst.2]
    | load target base offset =>
      exact Function.update_of_ne (List.ne_of_not_mem_cons hfirst) _ _
    | store base offset source => rfl

/-- The transfer writes memory. -/
def Transfer.isStore : Transfer R → Bool
  | .store _ _ _ => true
  | _ => false

/-- Code without stores leaves memory alone. -/
theorem Cpu.run_memory (code : List (Transfer R)) (h : ∀ transfer ∈ code, ¬ transfer.isStore) :
    (cpu.run code).memory = cpu.memory := by
  induction code generalizing cpu with
  | nil => rfl
  | cons transfer code ih =>
    rw [Cpu.run_cons, ih fun later hlater => h later (List.mem_cons_of_mem _ hlater)]
    have hfirst := h transfer List.mem_cons_self
    cases transfer with
    | compute target source f => rfl
    | swap first second => rfl
    | load target base offset => rfl
    | store base offset source => exact absurd rfl hfirst

end Registers

section SaveAreas

variable {cpu : Cpu R} {base : R}

/-- Store registers one behind the other. -/
def saves (base : R) (offset : UInt64) : List R → List (Transfer R)
  | [] => []
  | source :: rest => .store base offset source :: saves base (offset + 8) rest

theorem run_saves {sources : List R} (offset : UInt64) (hfit : 8 * sources.length < 2 ^ 64) :
    (cpu.run (saves base offset sources)).registers = cpu.registers ∧
      Stored cpu.memory (cpu.run (saves base offset sources)).memory
        (cpu.registers base + offset) (sources.map cpu.registers) := by
  induction sources generalizing cpu offset with
  | nil => exact ⟨rfl, nofun, fun _ _ => rfl⟩
  | cons source rest ih =>
    rw [List.length_cons] at hfit
    obtain ⟨hregisters, hstored⟩ :=
      @ih ((Transfer.store base offset source).apply cpu) (offset + 8) (by omega)
    refine ⟨hregisters, ?_⟩
    rw [← UInt64.add_assoc] at hstored
    exact (stored_storeWord cpu.memory (cpu.registers base + offset)
      (cpu.registers source)).above (by simp only [List.length_singleton, List.length_map]; omega)
      hstored

/-- Load registers from offsets. -/
def loads (base : R) (entries : List (R × UInt64)) : List (Transfer R) :=
  entries.map fun entry => .load entry.1 base entry.2

omit [DecidableEq R] in
theorem loads_writes {entries : List (R × UInt64)} {register : R}
    (h : register ∉ entries.map Prod.fst) :
    ∀ transfer ∈ loads base entries, register ∉ transfer.writes := by
  intro transfer hmem
  obtain ⟨entry, hentry, rfl⟩ := List.mem_map.mp hmem
  exact List.not_mem_cons_of_ne_of_not_mem
    (fun heq => h (heq ▸ List.mem_map_of_mem hentry)) List.not_mem_nil

theorem run_loads_memory (entries : List (R × UInt64)) :
    (cpu.run (loads base entries)).memory = cpu.memory := by
  refine Cpu.run_memory _ fun transfer hmem => ?_
  obtain ⟨entry, -, rfl⟩ := List.mem_map.mp hmem
  exact Bool.false_ne_true

/-- Each of them gets the word at its offset. -/
theorem run_loads {entries : List (R × UInt64)} (hnodup : (entries.map Prod.fst).Nodup)
    (hbase : base ∉ entries.map Prod.fst) {entry : R × UInt64} (hentry : entry ∈ entries) :
    (cpu.run (loads base entries)).registers entry.1 =
      wordAt cpu.memory (cpu.registers base + entry.2) := by
  induction entries generalizing cpu with
  | nil => cases hentry
  | cons first rest ih =>
    rw [List.map_cons, List.nodup_cons] at hnodup
    rw [List.map_cons, List.mem_cons, not_or] at hbase
    have hrun : cpu.run (loads base (first :: rest)) =
        ((Transfer.load first.1 base first.2).apply cpu).run (loads base rest) := rfl
    rw [hrun]
    rcases List.mem_cons.mp hentry with rfl | hlater
    · rw [Cpu.run_register _ (loads_writes hnodup.1)]
      exact Function.update_self ..
    · rw [ih hnodup.2 hbase.2 hlater]
      simp only [Transfer.apply, Cpu.set_registers, Cpu.set_memory, Function.update_of_ne hbase.1]

end SaveAreas

section Stacks

/-- Push a register. -/
def push (stack source : R) : List (Transfer R) :=
  [.compute stack stack (· - 8), .store stack 0 source]

/-- Registers of `start` are being saved on a stack: words lie from the stack pointer on, and only
scratch registers have changed. -/
structure Saving (start : Cpu R) (scratch : List R) (stack : R) (words : List UInt64)
    (bottom : UInt64) (cpu : Cpu R) : Prop where
  registers : ∀ register ∉ scratch, cpu.registers register = start.registers register
  pointer : cpu.registers stack = bottom
  stored : Stored start.memory cpu.memory bottom words

variable {start cpu : Cpu R} {scratch : List R} {stack : R} {words : List UInt64}
  {bottom : UInt64}

omit [DecidableEq R] in
theorem saving_nil (cpu : Cpu R) (scratch : List R) (stack : R) :
    Saving cpu scratch stack [] (cpu.registers stack) cpu :=
  ⟨fun _ _ => rfl, rfl, nofun, fun _ _ => rfl⟩

/-- The next words are stored behind those that are there. -/
theorem Saving.saves (h : Saving start scratch stack words bottom cpu) (sources : List R)
    {offset : UInt64} (hoffset : offset = UInt64.ofNat (8 * words.length))
    (hfit : 8 * words.length + 8 * sources.length < 2 ^ 64) :
    Saving start scratch stack (words ++ sources.map cpu.registers) bottom
      (cpu.run (saves stack offset sources)) := by
  obtain ⟨hregisters, hstored⟩ := @run_saves _ _ cpu stack sources offset (by omega)
  rw [h.pointer, hoffset] at hstored
  rw [hoffset] at hregisters ⊢
  refine ⟨fun register hregister => ?_, ?_, h.stored.above ?_ hstored⟩
  · rw [hregisters, h.registers register hregister]
  · rw [hregisters, h.pointer]
  · rwa [List.length_map]

/-- Code between the saves that writes scratch registers only. -/
theorem Saving.clobber (h : Saving start scratch stack words bottom cpu) (code : List (Transfer R))
    (hwrites : ∀ transfer ∈ code, ∀ register ∈ transfer.writes,
      register ∈ scratch ∧ register ≠ stack)
    (hstores : ∀ transfer ∈ code, ¬ transfer.isStore) :
    Saving start scratch stack words bottom (cpu.run code) where
  registers register hregister := by
    refine (Cpu.run_register code fun transfer hmem hwritten => ?_).trans
      (h.registers register hregister)
    exact hregister (hwrites transfer hmem register hwritten).1
  pointer := by
    refine (Cpu.run_register code fun transfer hmem hwritten => ?_).trans h.pointer
    exact (hwrites transfer hmem stack hwritten).2 rfl
  stored := by
    rw [Cpu.run_memory code hstores]
    exact h.stored

/-- The next word is stored by way of a scratch register. -/
theorem Saving.saveThrough (h : Saving start scratch stack words bottom cpu) (through source : R)
    {offset : UInt64} (hthrough : through ∈ scratch) (hstack : through ≠ stack)
    (hsource : source ∉ scratch) (hoffset : offset = UInt64.ofNat (8 * words.length))
    (hfit : 8 * words.length + 8 < 2 ^ 64) :
    Saving start scratch stack (words ++ [start.registers source]) bottom
      ((cpu.run [.compute through source id]).run (Core.saves stack offset [through])) := by
  have hmoved := h.clobber [.compute through source id]
    (fun transfer hmem register hwritten => by
      obtain rfl := List.mem_singleton.mp hmem
      obtain rfl := List.mem_singleton.mp hwritten
      exact ⟨hthrough, hstack⟩)
    (fun transfer hmem => by
      obtain rfl := List.mem_singleton.mp hmem
      exact Bool.false_ne_true)
  have hvalue : (cpu.run [.compute through source id]).registers through =
      start.registers source := by
    rw [← h.registers source hsource]
    exact @Function.update_self R (fun _ => UInt64) _ through _ cpu.registers
  rw [← hvalue]
  exact hmoved.saves [through] hoffset hfit

omit [DecidableEq R] in
/-- The word that the stack pointer points at counts as saved. -/
theorem saving_top (cpu : Cpu R) (scratch : List R) (stack : R) :
    Saving cpu scratch stack [wordAt cpu.memory (cpu.registers stack)] (cpu.registers stack)
      cpu where
  registers _ _ := rfl
  pointer := rfl
  stored := ⟨fun i hi => by
    obtain rfl : i = 0 := Nat.lt_one_iff.mp hi
    exact congrArg _ (UInt64.add_zero _), fun _ _ => rfl⟩

omit [DecidableEq R] in
theorem Saving.weaken (h : Saving start scratch stack words bottom cpu) {scratch' : List R}
    (hsub : scratch ⊆ scratch') : Saving start scratch' stack words bottom cpu where
  registers register hregister := h.registers register fun hmem => hregister (hsub hmem)
  pointer := h.pointer
  stored := h.stored

variable (hstack : stack ∈ scratch)

include hstack

theorem Saving.push (h : Saving start scratch stack words bottom cpu)
    (source : R) (hsource : source ≠ stack) (hfit : 8 + 8 * words.length < 2 ^ 64) :
    Saving start scratch stack (cpu.registers source :: words) (bottom - 8)
      (cpu.run (push stack source)) where
  registers register hregister := by
    refine (Function.update_of_ne ?_ _ _).trans (h.registers register hregister)
    rintro rfl
    exact hregister hstack
  pointer := by
    rw [← h.pointer]
    exact Function.update_self ..
  stored := by
    have hword := stored_storeWord cpu.memory (bottom - 8) (cpu.registers source)
    have hrun : (cpu.run (Core.push stack source)).memory =
        storeWord cpu.memory (bottom - 8) (cpu.registers source) := by
      simp only [Core.push, Cpu.run, List.foldl_cons, List.foldl_nil, Transfer.apply,
        Cpu.set_registers, Cpu.set_memory, Function.update_self, Function.update_of_ne hsource,
        UInt64.add_zero, h.pointer]
    rw [← hrun] at hword
    refine @Stored.below _ _ _ _ [cpu.registers source] _ hfit ?_ hword
    have hnext : bottom - 8 + UInt64.ofNat (8 * [cpu.registers source].length) = bottom :=
      UInt64.sub_add_cancel ..
    rw [hnext]
    exact h.stored

/-- Pushed registers lie one behind the other, the last one first. -/
theorem Saving.pushes (h : Saving start scratch stack words bottom cpu) (sources : List R)
    (hsources : ∀ source ∈ sources, source ∉ scratch)
    (hfit : 8 * sources.length + 8 * words.length < 2 ^ 64) :
    Saving start scratch stack (sources.reverse.map start.registers ++ words)
      (bottom - UInt64.ofNat (8 * sources.length))
      (cpu.run (sources.flatMap (Core.push stack))) := by
  induction sources generalizing cpu words bottom with
  | nil =>
    have hsame : bottom - UInt64.ofNat (8 * 0) = bottom := UInt64.sub_zero _
    rw [List.length_nil, hsame]
    exact h
  | cons source rest ih =>
    rw [List.length_cons] at hfit
    have hfirst := hsources source List.mem_cons_self
    have hne : source ≠ stack := by
      rintro rfl
      exact hfirst hstack
    have hpushed := h.push hstack source hne (by omega)
    rw [h.registers source hfirst] at hpushed
    have hrest := ih hpushed (fun later hlater => hsources later (List.mem_cons_of_mem _ hlater))
      (by rw [List.length_cons]; omega)
    have hdepth : bottom - 8 - UInt64.ofNat (8 * rest.length) =
        bottom - UInt64.ofNat (8 * (rest.length + 1)) := by
      have hsum : UInt64.ofNat (8 * (rest.length + 1)) = 8 + UInt64.ofNat (8 * rest.length) := by
        rw [Nat.mul_succ, Nat.add_comm, UInt64.ofNat_add]
        rfl
      rw [hsum]
      grind
    rw [hdepth] at hrest
    rw [List.flatMap_cons, Cpu.run_append, List.length_cons, List.reverse_cons, List.map_append,
      List.append_assoc]
    exact hrest

end Stacks

section Pops

variable {stack : R}

/-- Pop into a register. -/
def pop (stack target : R) : List (Transfer R) :=
  [.load target stack 0, .compute stack stack (· + 8)]

theorem run_pop (cpu : Cpu R) {target : R} (htarget : target ≠ stack) :
    cpu.run (pop stack target) =
      { registers := Function.update (Function.update cpu.registers target
          (wordAt cpu.memory (cpu.registers stack))) stack (cpu.registers stack + 8)
        memory := cpu.memory } := by
  simp only [pop, Cpu.run, List.foldl_cons, List.foldl_nil, Transfer.apply, Cpu.set,
    UInt64.add_zero, Function.update_of_ne htarget.symm]

theorem WordsAt.tail {memory : ByteMemory} {address word : UInt64} {words : List UInt64}
    (h : WordsAt memory address (word :: words)) : WordsAt memory (address + 8) words := by
  intro i hi
  have hword := h (i + 1) (Nat.succ_lt_succ hi)
  rw [Nat.mul_succ, Nat.add_comm, UInt64.ofNat_add, ← UInt64.add_assoc] at hword
  exact hword

/-- Words that are popped are those of the registers they go to, and the stack pointer is behind
them. -/
theorem run_pops {cpu : Cpu R} {targets : List R} (hstack : stack ∉ targets) {values : R → UInt64}
    (hwords : WordsAt cpu.memory (cpu.registers stack) (targets.map values)) :
    (∀ target ∈ targets, (cpu.run (targets.flatMap (pop stack))).registers target =
        values target) ∧
      (∀ register ∉ targets, register ≠ stack →
        (cpu.run (targets.flatMap (pop stack))).registers register = cpu.registers register) ∧
      (cpu.run (targets.flatMap (pop stack))).registers stack =
        cpu.registers stack + UInt64.ofNat (8 * targets.length) ∧
      (cpu.run (targets.flatMap (pop stack))).memory = cpu.memory := by
  induction targets generalizing cpu with
  | nil => exact ⟨nofun, fun _ _ _ => rfl, (UInt64.add_zero _).symm, rfl⟩
  | cons target rest ih =>
    rw [List.mem_cons, not_or] at hstack
    have htop : wordAt cpu.memory (cpu.registers stack) = values target := by
      rw [← UInt64.add_zero (cpu.registers stack)]
      exact hwords 0 (Nat.zero_lt_succ _)
    rw [List.flatMap_cons, Cpu.run_append, run_pop cpu (Ne.symm hstack.1), htop]
    generalize hpopped : Function.update (Function.update cpu.registers target _) stack _ = popped
    have hpointer : popped stack = cpu.registers stack + 8 := by
      rw [← hpopped, Function.update_self]
    have htail : WordsAt cpu.memory (popped stack) (rest.map values) := by
      rw [hpointer]
      exact hwords.tail
    obtain ⟨hloaded, hkept, hlast, hmemory⟩ := @ih ⟨popped, cpu.memory⟩ hstack.2 htail
    dsimp only at hkept hlast
    have hfirst : popped target = values target := by
      rw [← hpopped, Function.update_of_ne (Ne.symm hstack.1), Function.update_self]
    refine ⟨fun register hregister => ?_, fun register hregister hother => ?_, ?_, hmemory⟩
    · by_cases hlater : register ∈ rest
      · exact hloaded register hlater
      · obtain rfl : register = target := (List.mem_cons.mp hregister).resolve_right hlater
        exact (hkept register hlater (Ne.symm hstack.1)).trans hfirst
    · rw [List.mem_cons, not_or] at hregister
      rw [hkept register hregister.2 hother, ← hpopped, Function.update_of_ne hother,
        Function.update_of_ne hregister.1]
    · have hdepth : UInt64.ofNat (8 * (rest.length + 1)) = 8 + UInt64.ofNat (8 * rest.length) := by
        rw [Nat.mul_succ, Nat.add_comm, UInt64.ofNat_add]
        rfl
      rw [hlast, hpointer, List.length_cons, hdepth, UInt64.add_assoc]

end Pops

end Ringos.Core

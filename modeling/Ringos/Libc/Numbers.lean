import Mathlib.Data.Nat.Digits.Lemmas
import Ringos.Libc.Formatting

/-!
# Numbers and their texts

The digits that `append_unsigned_value` divides off are those of the number, last
one first; the text is read back digit by digit. The magnitude of a negative
number is found without leaving the range of its type.
-/

namespace Ringos.Libc

/-- The digit that a character stands for. -/
def digitOf (character : UInt8) : Option Nat :=
  if 48 ≤ character ∧ character ≤ 57 then some (character.toNat - 48)
  else if 65 ≤ character ∧ character ≤ 70 then some (character.toNat - 55)
  else if 97 ≤ character ∧ character ≤ 102 then some (character.toNat - 87)
  else none

/-- The number behind a number and the digits that follow it. -/
def readDigits (base : Nat) (number : Nat) : List UInt8 → Option Nat
  | [] => some number
  | character :: text => do
    let digit ← digitOf character
    if digit < base then readDigits base (number * base + digit) text else none

/-- The number that a text stands for. -/
def readUnsigned (base : Nat) (text : List UInt8) : Option Nat :=
  if text = [] then none else readDigits base 0 text

/-- The decimal number that a text with an optional minus sign stands for. -/
def readSigned : List UInt8 → Option Int
  | 45 :: text => (readUnsigned 10 text).map fun magnitude : Nat => -(magnitude : Int)
  | text => (readUnsigned 10 text).map Int.ofNat

/-- The text of a number in canonical form: it consists of digits of the alphabet, it does not start
with a zero unless it is one, and read from its most significant digit on it is the number. -/
structure Numeral (base : UInt64) (uppercase : Bool) (number : Nat) (text : List UInt8) : Prop where
  digits : ∀ character ∈ text, ∃ digit < base, character = Output.alphabet uppercase digit
  zero : number = 0 → text = [48]
  noLeadingZero : number ≠ 0 → text.head? ≠ some 48
  value : readUnsigned base.toNat text = some number

/-- The text of a signed number: an optional minus sign and the numeral of the absolute value. -/
structure SignedNumeral (value : Int64) (text : List UInt8) : Prop where
  magnitude : ∃ digits, text = (if value < 0 then 45 :: digits else digits) ∧
    Numeral 10 false value.toInt.natAbs digits
  value : readSigned text = some value.toInt

/-- The signed operations on a negative number stay in the range of their type. -/
def NegatesExactly (value : Int64) : Prop :=
  value < 0 → (value + 1).toInt = value.toInt + 1 ∧ (-(value + 1)).toInt = -(value.toInt + 1)

/-- A digit as its number. -/
theorem digitOf_alphabet (uppercase : Bool) {digit : Nat} (hdigit : digit < 16) :
    digitOf (Output.alphabet uppercase (UInt64.ofNat digit)) = some digit := by
  revert digit uppercase
  decide

theorem alphabet_zero_iff (uppercase : Bool) {digit : Nat} (hdigit : digit < 16) :
    Output.alphabet uppercase (UInt64.ofNat digit) = 48 ↔ digit = 0 := by
  revert digit uppercase
  decide

theorem readDigits_append (base number : Nat) (before after : List UInt8) :
    readDigits base number (before ++ after) =
      (readDigits base number before).bind (readDigits base · after) := by
  induction before generalizing number with
  | nil => rfl
  | cons character before ih =>
    rw [List.cons_append, readDigits, readDigits]
    cases digitOf character with
    | none => rfl
    | some digit =>
      simp only [Option.bind_eq_bind, Option.bind_some]
      split
      next hdigit => exact ih _
      next hlarge => rfl

/-- The characters of digits, least significant digit first. -/
def charactersOf (uppercase : Bool) (digits : List Nat) : List UInt8 :=
  digits.map fun digit => Output.alphabet uppercase (UInt64.ofNat digit)

/-- Reading the digits from the most significant one on gives the number they are the digits of. -/
theorem readDigits_charactersOf {base : Nat} (hbase : base ≤ 16) (uppercase : Bool)
    {digits : List Nat} (hdigits : ∀ digit ∈ digits, digit < base) (number : Nat) :
    readDigits base number (charactersOf uppercase digits).reverse =
      some (number * base ^ digits.length + Nat.ofDigits base digits) := by
  induction digits with
  | nil => simp [charactersOf, readDigits]
  | cons digit digits ih =>
    have hdigit := hdigits digit List.mem_cons_self
    have hread := ih fun other hother => hdigits other (List.mem_cons_of_mem _ hother)
    rw [charactersOf, List.map_cons, List.reverse_cons, ← charactersOf, readDigits_append, hread,
      Option.bind_some, readDigits, digitOf_alphabet uppercase (by omega), Nat.ofDigits_cons,
      List.length_cons]
    simp only [Option.bind_eq_bind, Option.bind_some, hdigit, ↓reduceIte, readDigits]
    congr 1
    ring

/-- The loop divides off the digits of the value. -/
theorem digitsLoop_eq {base : UInt64} (hbase : 1 < base.toNat) (uppercase : Bool) {fuel : Nat}
    {value : UInt64} (hfuel : value.toNat < 2 ^ fuel) :
    Output.digitsLoop base uppercase fuel value =
      charactersOf uppercase (Nat.digits base.toNat value.toNat) := by
  induction fuel generalizing value with
  | zero =>
    have hzero : value.toNat = 0 := by omega
    rw [hzero, Nat.digits_zero]
    rfl
  | succ fuel ih =>
    rw [Output.digitsLoop]
    split
    next hzero =>
      rw [hzero]
      simp [charactersOf]
    next hvalue =>
      have hpos : 0 < value.toNat := Nat.pos_of_ne_zero fun hzero => hvalue (UInt64.toNat.inj hzero)
      have hdigit : UInt64.ofNat (value.toNat % base.toNat) = value % base := by
        rw [← UInt64.toNat_mod, UInt64.ofNat_toNat]
      have hquotient : (value / base).toNat < 2 ^ fuel := by
        rw [UInt64.toNat_div]
        calc value.toNat / base.toNat ≤ value.toNat / 2 := Nat.div_le_div_left hbase (by decide)
          _ < 2 ^ fuel := by omega
      rw [ih hquotient, Nat.digits_def' hbase hpos, charactersOf, charactersOf, List.map_cons, hdigit,
        UInt64.toNat_div]

/-- The text of a number is its numeral. -/
theorem renderUnsigned_numeral {base : UInt64} (hbase : 1 < base.toNat) (hlimit : base.toNat ≤ 16)
    (uppercase : Bool) (value : UInt64) :
    Numeral base uppercase value.toNat (Output.renderUnsigned base uppercase value) := by
  have hbasePos : (0 : UInt64) < base := UInt64.lt_iff_toNat_lt.mpr (by
    rw [UInt64.toNat_zero]
    omega)
  have hloop : Output.digitsLoop base uppercase 64 value = _ :=
    digitsLoop_eq hbase uppercase value.toNat_lt
  have hsmall : ∀ digit ∈ Nat.digits base.toNat value.toNat, digit < base.toNat :=
    fun digit hdigit => Nat.digits_lt_base hbase hdigit
  rw [Output.renderUnsigned]
  split
  next hzero =>
    subst hzero
    refine ⟨?_, fun _ => rfl, fun hne => absurd rfl hne, ?_⟩
    · intro character hcharacter
      obtain rfl := List.mem_singleton.mp hcharacter
      exact ⟨0, hbasePos, by cases uppercase <;> rfl⟩
    · have hdigit : digitOf 48 = some 0 := by decide
      have hlt : 0 < base.toNat := by omega
      simp [readUnsigned, readDigits, hdigit, hlt]
  next hvalue =>
    have hne : value.toNat ≠ 0 := fun hzero => hvalue (UInt64.toNat.inj hzero)
    have hdigits : Nat.digits base.toNat value.toNat ≠ [] := Nat.digits_ne_nil_iff_ne_zero.mpr hne
    rw [hloop]
    refine ⟨?_, fun hzero => absurd hzero hne, fun _ => ?_, ?_⟩
    · intro character hcharacter
      obtain ⟨digit, hdigit, rfl⟩ := List.mem_map.mp (List.mem_reverse.mp hcharacter)
      have hlt := hsmall digit hdigit
      refine ⟨UInt64.ofNat digit, UInt64.lt_iff_toNat_lt.mpr ?_, rfl⟩
      rwa [UInt64.toNat_ofNat_of_lt' (hlt.trans base.toNat_lt)]
    · -- the first character is that of the most significant digit
      have hlast := hsmall _ (List.getLast_mem hdigits)
      rw [List.head?_reverse, charactersOf, List.getLast?_map, List.getLast?_eq_some_getLast hdigits,
        Option.map_some, Ne, Option.some_inj, alphabet_zero_iff uppercase (by omega)]
      exact Nat.getLast_digit_ne_zero _ hne
    · have hnonempty : (charactersOf uppercase (Nat.digits base.toNat value.toNat)).reverse ≠ [] := by
        simpa [charactersOf] using hdigits
      rw [readUnsigned, if_neg hnonempty, readDigits_charactersOf hlimit uppercase hsmall,
        Nat.ofDigits_digits, Nat.zero_mul, Nat.zero_add]

/-- The loop uses at most as many entries of its array as the largest number has decimal digits. -/
theorem length_digitsLoop {base : UInt64} (hbase : 10 ≤ base.toNat) (uppercase : Bool)
    (value : UInt64) : (Output.digitsLoop base uppercase 64 value).length ≤ 20 := by
  have hone : 1 < base.toNat := by omega
  rw [digitsLoop_eq hone uppercase value.toNat_lt, charactersOf, List.length_map,
    Nat.digits_length_le_iff hone]
  calc value.toNat < 2 ^ 64 := value.toNat_lt
    _ ≤ 10 ^ 20 := by decide
    _ ≤ base.toNat ^ 20 := Nat.pow_le_pow_left hbase 20

/-- The negation is taken of a number that has a negative. -/
theorem negatesExactly (value : Int64) : NegatesExactly value := by
  intro hnegative
  have hlow := value.le_toInt
  have hvalue : value.toInt < 0 := Int64.lt_iff_toInt_lt.mp hnegative
  have hnext : (value + 1).toInt = value.toInt + 1 := by
    rw [Int64.toInt_add, show (1 : Int64).toInt = 1 from rfl]
    exact Int.bmod_eq_of_le (by omega) (by omega)
  refine ⟨hnext, ?_⟩
  rw [Int64.toInt_neg, hnext]
  exact Int.bmod_eq_of_le (by omega) (by omega)

/-- The magnitude of a negative number. -/
theorem magnitude_toNat {value : Int64} (hnegative : value < 0) :
    ((-(value + 1)).toUInt64 + 1).toNat = value.toInt.natAbs := by
  have hlow := value.le_toInt
  have hvalue : value.toInt < 0 := Int64.lt_iff_toInt_lt.mp hnegative
  have hnegated := (negatesExactly value hnegative).2
  have hnonneg : (0 : Int64) ≤ -(value + 1) := Int64.le_iff_toInt_le.mpr (by
    rw [hnegated, Int64.toInt_zero]
    omega)
  have hmagnitude : ((-(value + 1)).toUInt64.toNat : Int) = -(value.toInt + 1) := by
    rw [Int64.toNat_toUInt64_of_le hnonneg, ← Int64.toInt_eq_toNatClampNeg hnonneg, hnegated]
  rw [UInt64.toNat_add, show (1 : UInt64).toNat = 1 from rfl]
  omega

/-- A numeral does not start with a minus sign. -/
theorem Numeral.readSigned_eq {number : Nat} {text : List UInt8}
    (h : Numeral 10 false number text) : readSigned text = some (number : Int) := by
  have hminus : (45 : UInt8) ∉ text := by
    intro hmem
    obtain ⟨digit, hdigit, heq⟩ := h.digits 45 hmem
    have hlt : digit.toNat < 10 := UInt64.lt_iff_toNat_lt.mp hdigit
    have hsome := digitOf_alphabet false (show digit.toNat < 16 by omega)
    rw [UInt64.ofNat_toNat, ← heq] at hsome
    cases hsome
  have hvalue : readUnsigned 10 text = some number := h.value
  rw [readSigned, hvalue]
  · rfl
  · rintro rest rfl
    exact hminus List.mem_cons_self

/-- The text of a signed number is its sign and its numeral. -/
theorem renderSigned_numeral (value : Int64) : SignedNumeral value (Output.renderSigned value) := by
  rw [Output.renderSigned]
  split
  next hnegative =>
    have hnumeral := @renderUnsigned_numeral 10 (by decide) (by decide) false
      ((-(value + 1)).toUInt64 + 1)
    rw [magnitude_toNat hnegative] at hnumeral
    have hvalue : value.toInt < 0 := Int64.lt_iff_toInt_lt.mp hnegative
    refine ⟨⟨_, (if_pos hnegative).symm, hnumeral⟩, ?_⟩
    have hread : readUnsigned 10 _ = some value.toInt.natAbs := hnumeral.value
    rw [readSigned, hread, Option.map_some]
    congr 1
    omega
  next hnonneg =>
    have hle : 0 ≤ value := Int64.not_lt.mp hnonneg
    have hvalue : (value.toUInt64.toNat : Int) = value.toInt := by
      rw [Int64.toNat_toUInt64_of_le hle, Int64.toInt_eq_toNatClampNeg hle]
    have hnumeral := @renderUnsigned_numeral 10 (by decide) (by decide) false
      value.toUInt64
    have habs : value.toUInt64.toNat = value.toInt.natAbs := by omega
    refine ⟨⟨_, (if_neg hnonneg).symm, habs ▸ hnumeral⟩, ?_⟩
    rw [hnumeral.readSigned_eq, hvalue]

/-- A text has been emitted: the characters for which there is room in front of the last byte are
stored from the cursor on, the cursor stands behind them, and all of them are counted. -/
structure Output.Emitted (before after : Output) (text : List UInt8) : Prop where
  stored : ∀ offset < min (before.remaining - 1) text.length,
    some (after.memory (before.cursor + offset)) = text[offset]?
  unwritten : ∀ address, (address < before.cursor ∨
    before.cursor + min (before.remaining - 1) text.length ≤ address) →
      after.memory address = before.memory address
  cursor : after.cursor = before.cursor + min (before.remaining - 1) text.length
  remaining : after.remaining = before.remaining - text.length
  totalWritten : after.totalWritten = before.totalWritten + Int32.ofNat text.length

section Emitted

variable (output : Output)

theorem emitted_nil : output.Emitted output [] where
  stored offset hoffset := by
    rw [List.length_nil, Nat.min_zero] at hoffset
    exact absurd hoffset (Nat.not_lt_zero _)
  unwritten _ _ := rfl
  cursor := by rw [List.length_nil, Nat.min_zero, Nat.add_zero]
  remaining := rfl
  totalWritten := (Int32.add_zero _).symm

/-- One character. -/
theorem emitted_appendCharacter (value : UInt8) :
    output.Emitted (output.appendCharacter value) [value] := by
  have hcount : (output.appendCharacter value).totalWritten = output.totalWritten + 1 := by
    unfold Output.appendCharacter
    dsimp only
    split <;> split <;> rfl
  by_cases hroom : output.remaining > 1
  · have hwritten : output.appendCharacter value =
        ⟨Function.update output.memory output.cursor value, output.cursor + 1,
          output.remaining - 1, output.totalWritten + 1⟩ := by
      simp only [Output.appendCharacter, if_pos hroom, if_pos (Nat.lt_of_succ_lt hroom)]
    have hone : min (output.remaining - 1) [value].length = 1 := by
      rw [List.length_singleton]
      omega
    rw [hwritten]
    refine ⟨fun offset hoffset => ?_, fun address haddress => ?_, ?_, rfl, rfl⟩
    · rw [hone] at hoffset
      obtain rfl : offset = 0 := by omega
      exact congrArg some (Function.update_self ..)
    · refine Function.update_of_ne ?_ _ _
      omega
    · rw [hone]
  · have hnone : min (output.remaining - 1) [value].length = 0 := by omega
    have hkept : (output.appendCharacter value).memory = output.memory ∧
        (output.appendCharacter value).cursor = output.cursor ∧
        (output.appendCharacter value).remaining = output.remaining - 1 := by
      unfold Output.appendCharacter
      rw [if_neg hroom]
      dsimp only
      split
      · exact ⟨rfl, rfl, rfl⟩
      · exact ⟨rfl, rfl, by omega⟩
    refine ⟨fun offset hoffset => ?_, fun address _ => by rw [hkept.1], ?_, hkept.2.2, hcount⟩
    · omega
    · rw [hkept.2.1, hnone, Nat.add_zero]

variable {output}

/-- One text after the other. -/
theorem Output.Emitted.append {middle after : Output} {first second : List UInt8}
    (hfirst : output.Emitted middle first) (hsecond : middle.Emitted after second) :
    output.Emitted after (first ++ second) := by
  have hcursor := hfirst.cursor
  have hremaining := hfirst.remaining
  have hlength : (first ++ second).length = first.length + second.length := List.length_append
  refine ⟨fun offset hoffset => ?_, fun address haddress => ?_, ?_, ?_, ?_⟩
  · by_cases hbefore : offset < min (output.remaining - 1) first.length
    · rw [List.getElem?_append_left (by omega), ← hfirst.stored offset hbefore]
      exact congrArg some (hsecond.unwritten _ (.inl (by omega)))
    · -- All of the first text is stored, and the second one begins behind it.
      have hplace : output.cursor + offset = middle.cursor + (offset - first.length) := by omega
      rw [List.getElem?_append_right (by omega), hplace]
      exact hsecond.stored _ (by omega)
  · exact (hsecond.unwritten address (by omega)).trans (hfirst.unwritten address (by omega))
  · rw [hsecond.cursor, hcursor, hlength]
    omega
  · rw [hsecond.remaining, hremaining, hlength]
    omega
  · rw [hsecond.totalWritten, hfirst.totalWritten, hlength, Int32.ofNat_add, Int32.add_assoc]

variable (output)

theorem emitted_appendCharacters (text : List UInt8) :
    output.Emitted (output.appendCharacters text) text := by
  induction text generalizing output with
  | nil => exact emitted_nil output
  | cons value text ih =>
    exact (emitted_appendCharacter output value).append (ih (output.appendCharacter value))

/-- `append_unsigned_value` emits the text of the number. -/
theorem emitted_appendUnsignedValue (value base : UInt64) (uppercase : Bool) :
    output.Emitted (output.appendUnsignedValue value base uppercase)
      (Output.renderUnsigned base uppercase value) := by
  rw [Output.appendUnsignedValue, Output.renderUnsigned]
  split
  next hzero => exact emitted_appendCharacter output 48
  next hvalue => exact emitted_appendCharacters output _

/-- `append_signed_value` emits the text of the number. -/
theorem emitted_appendSignedValue (value : Int64) :
    output.Emitted (output.appendSignedValue value) (Output.renderSigned value) := by
  rw [Output.appendSignedValue, Output.renderSigned]
  split
  next hnegative =>
    exact (emitted_appendCharacter output 45).append (emitted_appendUnsignedValue _ _ 10 false)
  next hnonneg => exact emitted_appendUnsignedValue output _ 10 false

/-- Every number is emitted as its numeral, in base 10 or 16 with at most 20 entries of `digits`,
and every signed number as its sign and the numeral of its absolute value. -/
theorem numbers_canonical {base : UInt64} (hbase : base = 10 ∨ base = 16) (uppercase : Bool)
    (value : UInt64) (signedValue : Int64) :
    (∃ text, output.Emitted (output.appendUnsignedValue value base uppercase) text ∧
      Numeral base uppercase value.toNat text) ∧
    (Output.digitsLoop base uppercase 64 value).length ≤ 20 ∧
    (∃ text, output.Emitted (output.appendSignedValue signedValue) text ∧
      SignedNumeral signedValue text) ∧
    NegatesExactly signedValue := by
  have hrange : 10 ≤ base.toNat ∧ base.toNat ≤ 16 := by
    rcases hbase with rfl | rfl <;> decide
  refine ⟨⟨_, emitted_appendUnsignedValue output value base uppercase, ?_⟩,
    length_digitsLoop hrange.1 uppercase value,
    ⟨_, emitted_appendSignedValue output signedValue, renderSigned_numeral signedValue⟩,
    negatesExactly signedValue⟩
  exact renderUnsigned_numeral (by omega) hrange.2 uppercase value

end Emitted

/-- The largest number in hexadecimal and the smallest signed one. -/
theorem extremes_canonical :
    (∃ text, (Output.mk (fun _ => 0) 0 32 0).Emitted
        ((Output.mk (fun _ => 0) 0 32 0).appendUnsignedValue 0xFFFFFFFFFFFFFFFF 16 true) text ∧
      Numeral 16 true 0xFFFFFFFFFFFFFFFF text) ∧
    (Output.digitsLoop 16 true 64 0xFFFFFFFFFFFFFFFF).length ≤ 20 ∧
    (∃ text, (Output.mk (fun _ => 0) 0 32 0).Emitted
        ((Output.mk (fun _ => 0) 0 32 0).appendSignedValue Int64.minValue) text ∧
      SignedNumeral Int64.minValue text) ∧
    NegatesExactly Int64.minValue :=
  numbers_canonical ⟨fun _ => 0, 0, 32, 0⟩ (.inr rfl) true 0xFFFFFFFFFFFFFFFF Int64.minValue

end Ringos.Libc

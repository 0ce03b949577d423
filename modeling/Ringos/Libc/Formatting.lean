import Mathlib.Data.List.Basic
import Ringos.Libc.Stdio

/-!
# What formatting writes

The output functions append a text, whatever the size of the buffer; what the
buffer then holds is a function of the text. A format is a sequence of
directives, literal text and conversions, and the loop of `vsnprintf` appends
the text of one directive after the other. `renderOn` is that text with the
target's argument handling, `render` is the text in which every conversion
renders its own argument.
-/

namespace Ringos.Libc

open Ringos.Kernel

namespace Output

/-- The output after a text has been appended to the empty output. -/
def holding (memory : Nat → UInt8) (bufferSize : Nat) (text : List UInt8) : Output where
  memory := fun offset => (text.take (bufferSize - 1))[offset]?.getD (memory offset)
  cursor := min text.length (bufferSize - 1)
  remaining := bufferSize - text.length
  totalWritten := Int32.ofNat text.length

variable {memory : Nat → UInt8} {bufferSize : Nat}

theorem holding_nil : holding memory bufferSize [] = ⟨memory, 0, bufferSize, 0⟩ := by
  simp [holding]

theorem appendCharacter_of_room {output : Output} (hroom : 1 < output.remaining) (value : UInt8) :
    output.appendCharacter value =
      ⟨Function.update output.memory output.cursor value, output.cursor + 1,
        output.remaining - 1, output.totalWritten + 1⟩ := by
  have hpos : 0 < output.remaining := by omega
  simp only [appendCharacter, gt_iff_lt, hroom, hpos, ↓reduceIte]

theorem appendCharacter_of_full {output : Output} (hfull : output.remaining ≤ 1) (value : UInt8) :
    output.appendCharacter value =
      ⟨output.memory, output.cursor, output.remaining - 1, output.totalWritten + 1⟩ := by
  have hroom : ¬ 1 < output.remaining := by omega
  simp only [appendCharacter, gt_iff_lt, hroom, ↓reduceIte]
  split
  next => rfl
  next hzero => rw [Nat.eq_zero_of_not_pos hzero]

/-- A character is appended to the text, stored or not. -/
@[simp] theorem appendCharacter_holding (text : List UInt8) (value : UInt8) :
    (holding memory bufferSize text).appendCharacter value =
      holding memory bufferSize (text ++ [value]) := by
  have hlength : (text ++ [value]).length = text.length + 1 := List.length_append
  have htotal : Int32.ofNat (text.length + 1) = Int32.ofNat text.length + 1 := Int32.ofNat_add _ _
  have hremaining : (holding memory bufferSize text).remaining = bufferSize - text.length := rfl
  rcases Nat.lt_or_ge (text.length + 1) bufferSize with hroom | hfull
  · rw [appendCharacter_of_room (by omega)]
    have hcursor : min text.length (bufferSize - 1) = text.length := Nat.min_eq_left (by omega)
    have hmemory : Function.update
          (fun offset => (text.take (bufferSize - 1))[offset]?.getD (memory offset)) text.length
          value =
        fun offset => ((text ++ [value]).take (bufferSize - 1))[offset]?.getD (memory offset) := by
      rw [List.take_of_length_le (by omega), List.take_of_length_le (by omega)]
      funext offset
      rcases Nat.lt_trichotomy offset text.length with hlt | rfl | hgt
      · rw [Function.update_of_ne (by omega), List.getElem?_append_left hlt]
      · simp
      · rw [Function.update_of_ne (by omega), List.getElem?_eq_none (by omega),
          List.getElem?_eq_none (by omega)]
    rw [holding, hcursor, hmemory, holding, hlength, htotal,
      Nat.min_eq_left (by omega : text.length + 1 ≤ bufferSize - 1), Nat.sub_add_eq]
  · rw [appendCharacter_of_full (by omega)]
    have hmemory : (text ++ [value]).take (bufferSize - 1) = text.take (bufferSize - 1) :=
      List.take_append_of_le_length (by omega)
    rw [holding, holding, hlength, htotal, hmemory, Nat.min_eq_right (by omega),
      Nat.min_eq_right (by omega), Nat.sub_add_eq]

@[simp] theorem appendCharacters_holding (text value : List UInt8) :
    (holding memory bufferSize text).appendCharacters value =
      holding memory bufferSize (text ++ value) := by
  induction value generalizing text with
  | nil => rw [List.append_nil, appendCharacters, List.foldl_nil]
  | cons character value ih =>
    rw [appendCharacters, List.foldl_cons, appendCharacter_holding, ← appendCharacters, ih,
      List.append_assoc, List.singleton_append]

/-- The digits of a number. -/
def renderUnsigned (base : UInt64) (uppercase : Bool) (value : UInt64) : List UInt8 :=
  if value = 0 then [48] else (digitsLoop base uppercase 64 value).reverse

@[simp] theorem appendUnsignedValue_holding (text : List UInt8) (value base : UInt64) (uppercase : Bool) :
    (holding memory bufferSize text).appendUnsignedValue value base uppercase =
      holding memory bufferSize (text ++ renderUnsigned base uppercase value) := by
  rw [appendUnsignedValue, renderUnsigned]
  split
  · exact appendCharacter_holding text 48
  · exact appendCharacters_holding text _

/-- The sign and the digits of a number. -/
def renderSigned (value : Int64) : List UInt8 :=
  if value < 0 then 45 :: renderUnsigned 10 false ((-(value + 1)).toUInt64 + 1)
  else renderUnsigned 10 false value.toUInt64

@[simp] theorem appendSignedValue_holding (text : List UInt8) (value : Int64) :
    (holding memory bufferSize text).appendSignedValue value =
      holding memory bufferSize (text ++ renderSigned value) := by
  rw [appendSignedValue, renderSigned]
  split
  · rw [appendCharacter_holding, appendUnsignedValue_holding, List.append_assoc,
      List.singleton_append]
  · exact appendUnsignedValue_holding text _ 10 false

/-- The text of a string argument. -/
def renderString (strings : Strings) (value : UInt64) : Except FormatStop (List UInt8) :=
  if value = 0 then .ok nullText
  else
    match strings value with
    | none => .error .undefinedBehaviour
    | some string => .ok string.characters

@[simp] theorem appendString_holding (strings : Strings) (text : List UInt8) (value : UInt64) :
    (holding memory bufferSize text).appendString strings value =
      (renderString strings value).map fun rendered =>
        holding memory bufferSize (text ++ rendered) := by
  rw [appendString, renderString]
  split
  · rw [appendCharacters_holding]
    rfl
  · cases strings value with
    | none => rfl
    | some string =>
      simp only [appendCharacters_holding]
      rfl

/-- What a buffer holds after a text has been formatted into it: the text, cut so that the NUL still
fits, and the NUL. -/
def stored (memory : Nat → UInt8) (bufferSize : Nat) (text : List UInt8) : Nat → UInt8 :=
  if bufferSize = 0 then memory
  else fun offset => ((text.take (bufferSize - 1)) ++ [0])[offset]?.getD (memory offset)

theorem terminate_holding (text : List UInt8) :
    (holding memory bufferSize text).terminate bufferSize = stored memory bufferSize text := by
  rcases Nat.eq_zero_or_pos bufferSize with rfl | hpos
  · rw [terminate, stored, if_neg (not_not.mpr rfl), if_pos rfl]
    funext offset
    simp [holding]
  · have hne : bufferSize ≠ 0 := by omega
    rw [terminate, stored, if_pos hne, if_neg hne]
    have hlength : (text.take (bufferSize - 1)).length = min text.length (bufferSize - 1) := by
      rw [List.length_take, Nat.min_comm]
    have hposition : (if (holding memory bufferSize text).remaining > 0 then
          Function.update (holding memory bufferSize text).memory
            (holding memory bufferSize text).cursor 0
        else Function.update (holding memory bufferSize text).memory (bufferSize - 1) 0) =
        Function.update (holding memory bufferSize text).memory
          (text.take (bufferSize - 1)).length 0 := by
      rw [hlength]
      split
      next hroom => rfl
      next hfull =>
        have hlong : bufferSize - text.length = 0 := Nat.eq_zero_of_not_pos hfull
        rw [Nat.min_eq_right (by omega)]
    rw [hposition]
    funext offset
    rcases Nat.lt_trichotomy offset (text.take (bufferSize - 1)).length with hlt | rfl | hgt
    · rw [Function.update_of_ne (by omega), List.getElem?_append_left hlt]
      rfl
    · rw [Function.update_self, List.getElem?_append_right (Nat.le_refl _), Nat.sub_self]
      rfl
    · rw [Function.update_of_ne (by omega), List.getElem?_eq_none (by
        rw [List.length_append, List.length_singleton]; omega)]
      simp only [holding]
      rw [List.getElem?_eq_none (by omega)]

end Output

/-- The alphabets of `u`, `x` and `X`. -/
inductive Radix where
  | decimal
  | lowerHex
  | upperHex
  deriving DecidableEq, Repr

/-- The text of a number. -/
def Radix.render (value : UInt64) : Radix → List UInt8
  | decimal => Output.renderUnsigned 10 false value
  | lowerHex => Output.renderUnsigned 16 false value
  | upperHex => Output.renderUnsigned 16 true value

/-- A conversion of a format, with what its argument is read as. -/
inductive Conversion where
  | char
  | signed (length : FormatLength)
  | pointer
  | string
  | unsigned (length : FormatLength) (radix : Radix)
  deriving DecidableEq, Repr

namespace Conversion

/-- The conversion of a specifier, if it is one. -/
def ofSpecifier (length : FormatLength) (specifier : UInt8) : Option Conversion :=
  if specifier = 99 then some char
  else if specifier = 100 ∨ specifier = 105 then some (signed length)
  else if specifier = 112 then some pointer
  else if specifier = 115 then some string
  else if specifier = 117 then some (unsigned length .decimal)
  else if specifier = 120 then some (unsigned length .lowerHex)
  else if specifier = 88 then some (unsigned length .upperHex)
  else none

/-- The conversions whose argument is read by one of the `read_*_argument` functions. -/
def isInteger : Conversion → Bool
  | signed _ => true
  | unsigned _ _ => true
  | _ => false

/-- The text of a value. -/
def render (strings : Strings) (value : UInt64) : Conversion → Except FormatStop (List UInt8)
  | char => .ok [value.toUInt8]
  | signed _ => .ok (Output.renderSigned value.toInt64)
  | pointer => .ok ([48, 120] ++ Output.renderUnsigned 16 false value)
  | string => Output.renderString strings value
  | unsigned _ radix => .ok (radix.render value)

/-- The value that a target reads from a slot. -/
def valueOf (arch : Arch) (slot : UInt64) : Conversion → UInt64
  | signed length => (asSigned (length.bits arch) slot).toUInt64
  | unsigned length _ => asUnsigned (length.bits arch) slot
  | _ => slot

end Conversion

/-- A part of a format: text, or a conversion. -/
inductive Directive where
  | literal (text : List UInt8)
  | conversion (conversion : Conversion)
  deriving DecidableEq, Repr

/-- The length modifier in front of a specifier. -/
def readLength (format : List UInt8) : FormatLength × List UInt8 :=
  if format.head? = some 108 then
    if format.tail.head? = some 108 then (.longLong, format.tail.tail) else (.long, format.tail)
  else if format.head? = some 122 then (.size, format.tail)
  else (.default, format)

/-- The directive behind a percent sign. A format that ends there has a literal percent sign. -/
def readSpecifier (length : FormatLength) : List UInt8 → Directive × List UInt8
  | [] => (.literal [37], [])
  | specifier :: rest =>
    match Conversion.ofSpecifier length specifier with
    | some conversion => (.conversion conversion, rest)
    | none => (.literal [37, specifier], rest)

/-- The first directive of a format. -/
def readDirective : List UInt8 → Directive × List UInt8
  | [] => (.literal [], [])
  | first :: rest =>
    if first ≠ 37 then (.literal [first], rest)
    else if rest.head? = some 37 then (.literal [37], rest.tail)
    else
      let (length, rest) := readLength rest
      readSpecifier length rest

/-- The directives of a format, each of at least one character. -/
def directivesFrom : Nat → List UInt8 → List Directive
  | 0, _ => []
  | _, [] => []
  | fuel + 1, format => (readDirective format).1 :: directivesFrom fuel (readDirective format).2

/-- The directives of a format. -/
def CString.directives (format : CString) : List Directive :=
  directivesFrom format.characters.length format.characters

/-- The conversions among directives. -/
def conversions (directives : List Directive) : List Conversion :=
  directives.filterMap fun
    | .literal _ => none
    | .conversion conversion => some conversion

/-- The text in which every conversion renders its own argument. -/
def render (strings : Strings) : List Directive → List UInt64 → Except FormatStop (List UInt8)
  | [], _ => .ok []
  | .literal text :: directives, values => do
    let rest ← render strings directives values
    return text ++ rest
  | .conversion _ :: _, [] => .error .undefinedBehaviour
  | .conversion conversion :: directives, value :: values => do
    let text ← conversion.render strings value
    let rest ← render strings directives values
    return text ++ rest

/-- The text that a target renders for a directive, and the `va_list` behind it: a conversion that
has its argument read by another function leaves the `va_list` as that function does. -/
def renderDirective (arch : Arch) (strings : Strings) (arguments : VaList) :
    Directive → Except FormatStop (List UInt8 × VaList)
  | .literal text => .ok (text, arguments)
  | .conversion conversion => do
    let (slot, callee) ← vaArg arguments
    let text ← conversion.render strings (conversion.valueOf arch slot)
    return (text, if conversion.isInteger then afterCall arch arguments callee else callee)

/-- The text that a target renders for directives. -/
def renderOn (arch : Arch) (strings : Strings) :
    List Directive → VaList → Except FormatStop (List UInt8)
  | [], _ => .ok []
  | directive :: directives, arguments => do
    let (text, arguments) ← renderDirective arch strings arguments directive
    let rest ← renderOn arch strings directives arguments
    return text ++ rest

section Text

variable {arch : Arch} {strings : Strings}

theorem render_literal (text : List UInt8) (directives : List Directive) (values : List UInt64) :
    render strings (.literal text :: directives) values =
      (render strings directives values).map (text ++ ·) := by
  rw [render]
  cases render strings directives values <;> rfl

theorem render_conversion {conversion : Conversion} {value : UInt64} {text : List UInt8}
    (htext : conversion.render strings value = .ok text) (directives : List Directive)
    (values : List UInt64) :
    render strings (.conversion conversion :: directives) (value :: values) =
      (render strings directives values).map (text ++ ·) := by
  rw [render, htext]
  cases render strings directives values <;> rfl

theorem renderOn_literal (text : List UInt8) (directives : List Directive) (arguments : VaList) :
    renderOn arch strings (.literal text :: directives) arguments =
      (renderOn arch strings directives arguments).map (text ++ ·) := by
  rw [renderOn, renderDirective]
  cases h : renderOn arch strings directives arguments <;> simp [h, bind, Except.bind] <;> rfl

theorem renderOn_conversion {conversion : Conversion} {slot : UInt64} {text : List UInt8}
    (htext : conversion.render strings (conversion.valueOf arch slot) = .ok text)
    (directives : List Directive) (slots : VaList) :
    renderOn arch strings (.conversion conversion :: directives) (slot :: slots) =
      (renderOn arch strings directives
        (if conversion.isInteger then afterCall arch (slot :: slots) slots else slots)).map
        (text ++ ·) := by
  have hdirective : renderDirective arch strings (slot :: slots) (.conversion conversion) =
      .ok (text, if conversion.isInteger then afterCall arch (slot :: slots) slots else slots) := by
    simp only [renderDirective, vaArg, bind, Except.bind, htext]
    rfl
  rw [renderOn, hdirective]
  simp only [bind, Except.bind]
  cases renderOn arch strings directives
    (if conversion.isInteger then afterCall arch (slot :: slots) slots else slots) <;> rfl

end Text

section Loop

variable {memory : Nat → UInt8} {bufferSize : Nat} {arch : Arch} {strings : Strings}

/-- A specifier other than NUL appends the text of its directive and keeps the cursor. -/
theorem formatSpecifier_eq (length : FormatLength) (passed : List UInt8) {specifier : UInt8}
    (hspecifier : specifier ≠ 0) (rest : List UInt8) (arguments : VaList) (text : List UInt8) :
    formatSpecifier arch strings length ⟨passed, specifier :: rest⟩ arguments
        (.holding memory bufferSize text) =
      (renderDirective arch strings arguments (readSpecifier length (specifier :: rest)).1).map
        fun (rendered, arguments) =>
          (⟨passed, specifier :: rest⟩, arguments, .holding memory bufferSize (text ++ rendered)) := by
  have hcurrent : FormatCursor.current ⟨passed, specifier :: rest⟩ = specifier := rfl
  rw [formatSpecifier, hcurrent, readSpecifier, Conversion.ofSpecifier]
  -- the two chains of tests are in the same order; each conversion reads one slot, if there is one
  split
  next hchar =>
    cases arguments <;>
      simp [renderDirective, vaArg, Conversion.render, Conversion.valueOf, Conversion.isInteger,
        bind, Except.bind, pure, Except.pure, Except.map]
  split
  next hsigned =>
    cases arguments <;>
      simp [renderDirective, readSignedArgument, vaArg, Conversion.render, Conversion.valueOf,
        Conversion.isInteger, bind, Except.bind, pure, Except.pure, Except.map]
  split
  next hpointer =>
    cases arguments <;>
      simp [renderDirective, vaArg, Conversion.render, Conversion.valueOf, Conversion.isInteger,
        bind, Except.bind, pure, Except.pure, Except.map]
  split
  next hstring =>
    cases arguments with
    | nil => rfl
    | cons slot slots =>
      simp only [renderDirective, vaArg, Conversion.render, Conversion.valueOf,
        Conversion.isInteger, bind, Except.bind, pure, Except.pure, Output.appendString_holding]
      cases Output.renderString strings slot <;> rfl
  split
  next hdecimal =>
    cases arguments <;>
      simp [renderDirective, readUnsignedArgument, vaArg, Conversion.render, Radix.render,
        Conversion.valueOf, Conversion.isInteger, bind, Except.bind, pure, Except.pure, Except.map]
  split
  next hlower =>
    cases arguments <;>
      simp [renderDirective, readUnsignedArgument, vaArg, Conversion.render, Radix.render,
        Conversion.valueOf, Conversion.isInteger, bind, Except.bind, pure, Except.pure, Except.map]
  split
  next hupper =>
    cases arguments <;>
      simp [renderDirective, readUnsignedArgument, vaArg, Conversion.render, Radix.render,
        Conversion.valueOf, Conversion.isInteger, bind, Except.bind, pure, Except.pure, Except.map]
  next hother => simp [renderDirective, pure, Except.pure, Except.map]

theorem current_eq_iff (cursor : FormatCursor) {character : UInt8} (hne : character ≠ 0) :
    cursor.current = character ↔ cursor.rest.head? = some character := by
  obtain ⟨passed, rest⟩ := cursor
  cases rest with
  | nil => simpa [FormatCursor.current] using hne.symm
  | cons first rest => simp [FormatCursor.current]

theorem increment_eq {cursor : FormatCursor} {character : UInt8}
    (hhead : cursor.rest.head? = some character) :
    cursor.increment = ⟨character :: cursor.passed, cursor.rest.tail⟩ := by
  obtain ⟨passed, rest⟩ := cursor
  cases rest with
  | nil => cases hhead
  | cons first rest =>
    cases hhead
    rfl

/-- The length modifier is read from the front; what has been passed still ends in a character other
than NUL. -/
theorem parseFormatLength_eq {cursor : FormatCursor} (hpassed : cursor.passed.headD 0 ≠ 0) :
    ∃ passed, parseFormatLength cursor =
        ((readLength cursor.rest).1, ⟨passed, (readLength cursor.rest).2⟩) ∧
      passed.headD 0 ≠ 0 := by
  rw [parseFormatLength, readLength]
  simp only [current_eq_iff _ (show (108 : UInt8) ≠ 0 by decide),
    current_eq_iff _ (show (122 : UInt8) ≠ 0 by decide)]
  split
  next hl =>
    simp only [increment_eq hl]
    split
    next hll => exact ⟨108 :: 108 :: cursor.passed, by rw [increment_eq hll], by simp⟩
    next hother => exact ⟨108 :: cursor.passed, rfl, by simp⟩
  next hother =>
    split
    next hz => exact ⟨122 :: cursor.passed, by rw [increment_eq hz], by simp⟩
    next hother => exact ⟨cursor.passed, rfl, hpassed⟩

/-- Reading takes characters from the front. -/
theorem readLength_suffix (format : List UInt8) : (readLength format).2 <:+ format := by
  rw [readLength]
  split
  next hl =>
    split
    next hll => exact (List.tail_suffix _).trans (List.tail_suffix _)
    next hother => exact List.tail_suffix _
  next hother =>
    split
    next hz => exact List.tail_suffix _
    next hother => exact List.suffix_rfl

theorem readSpecifier_suffix (length : FormatLength) (format : List UInt8) :
    (readSpecifier length format).2 <:+ format := by
  cases format with
  | nil => exact List.suffix_rfl
  | cons specifier rest =>
    rw [readSpecifier]
    split <;> exact List.suffix_cons specifier rest

theorem readDirective_suffix (first : UInt8) (rest : List UInt8) :
    (readDirective (first :: rest)).2 <:+ rest := by
  rw [readDirective]
  split
  next htext => exact List.suffix_rfl
  next hpercent =>
    split
    next hescaped => exact List.tail_suffix rest
    next hconversion => exact (readSpecifier_suffix _ _).trans (readLength_suffix rest)

/-- Behind a percent sign, the switch and the increment after it leave the cursor behind the
directive. -/
theorem formatConversion_eq {passed rest : List UInt8} (hpassed : passed.headD 0 ≠ 0)
    (hnulFree : 0 ∉ rest) (length : FormatLength) (arguments : VaList) (text : List UInt8) :
    ∃ passed', (do
      let (cursor, arguments, output) ← formatSpecifier arch strings length ⟨passed, rest⟩ arguments
        (.holding memory bufferSize text)
      return (if cursor.current ≠ 0 then cursor.increment else cursor, arguments, output)) =
      (renderDirective arch strings arguments (readSpecifier length rest).1).map
        fun (rendered, arguments) => (⟨passed', (readSpecifier length rest).2⟩, arguments,
          Output.holding memory bufferSize (text ++ rendered)) := by
  cases rest with
  | nil =>
    -- the format ends: the step back and the increment cancel
    obtain ⟨last, passed, rfl⟩ := List.exists_cons_of_ne_nil
      (l := passed) (by rintro rfl; exact hpassed rfl)
    have hlast : last ≠ 0 := hpassed
    refine ⟨last :: passed, ?_⟩
    simp [formatSpecifier, FormatCursor.current, FormatCursor.decrement, FormatCursor.increment,
      readSpecifier, renderDirective, hlast, pure, Except.pure, bind, Except.bind, Except.map]
  | cons specifier rest =>
    have hspecifier : specifier ≠ 0 := by
      rintro rfl
      exact hnulFree List.mem_cons_self
    have hrest : (readSpecifier length (specifier :: rest)).2 = rest := by
      rw [readSpecifier]
      split <;> rfl
    refine ⟨specifier :: passed, ?_⟩
    rw [formatSpecifier_eq length passed hspecifier, hrest]
    cases renderDirective arch strings arguments (readSpecifier length (specifier :: rest)).1 with
    | error stop => rfl
    | ok rendered =>
      simp [FormatCursor.current, FormatCursor.increment, hspecifier, pure, Except.pure, bind,
        Except.bind, Except.map]

/-- An iteration of the loop appends the text of the first directive. -/
theorem formatStep_eq (passed : List UInt8) {first : UInt8} {rest : List UInt8}
    (hnulFree : 0 ∉ first :: rest) (arguments : VaList) (text : List UInt8) :
    ∃ passed', formatStep arch strings ⟨passed, first :: rest⟩ arguments
        (.holding memory bufferSize text) =
      (renderDirective arch strings arguments (readDirective (first :: rest)).1).map
        fun (rendered, arguments) => (⟨passed', (readDirective (first :: rest)).2⟩, arguments,
          .holding memory bufferSize (text ++ rendered)) := by
  have hcurrent : FormatCursor.current ⟨passed, first :: rest⟩ = first := rfl
  have hincrement : FormatCursor.increment ⟨passed, first :: rest⟩ = ⟨first :: passed, rest⟩ := rfl
  rw [formatStep, hcurrent, hincrement, readDirective]
  split
  next htext =>
    refine ⟨first :: passed, ?_⟩
    rw [Output.appendCharacter_holding]
    rfl
  next hpercent =>
    have hfirst : first = 37 := not_not.mp hpercent
    simp only [current_eq_iff _ (show (37 : UInt8) ≠ 0 by decide)]
    split
    next hescaped =>
      refine ⟨37 :: first :: passed, ?_⟩
      rw [increment_eq hescaped, Output.appendCharacter_holding]
      rfl
    next hconversion =>
      have hpassed : (FormatCursor.passed ⟨first :: passed, rest⟩).headD 0 ≠ 0 := by
        rw [List.headD_cons, hfirst]
        decide
      obtain ⟨passed', hparse, hpassed'⟩ := parseFormatLength_eq hpassed
      have hsuffix := readLength_suffix rest
      rw [hparse]
      exact formatConversion_eq hpassed'
        (fun hzero => hnulFree (List.mem_cons_of_mem _ (hsuffix.subset hzero))) _ arguments text

/-- The loop appends the text of all directives. -/
theorem formatLoop_eq (fuel : Nat) (passed : List UInt8) {rest : List UInt8}
    (hfuel : rest.length ≤ fuel) (hnulFree : 0 ∉ rest) (arguments : VaList) (text : List UInt8) :
    formatLoop arch strings (fuel + 1) ⟨passed, rest⟩ arguments (.holding memory bufferSize text) =
      (renderOn arch strings (directivesFrom fuel rest) arguments).map fun rendered =>
        .holding memory bufferSize (text ++ rendered) := by
  induction fuel generalizing passed rest arguments text with
  | zero =>
    have hnil : rest = [] := List.length_eq_zero_iff.mp (Nat.le_zero.mp hfuel)
    rw [hnil, formatLoop, directivesFrom, renderOn, Except.map, List.append_nil]
    rfl
  | succ fuel ih =>
    cases rest with
    | nil =>
      rw [formatLoop, directivesFrom, renderOn, Except.map, List.append_nil]
      · rfl
      · simp
    | cons first rest =>
      have hfirst : FormatCursor.current ⟨passed, first :: rest⟩ ≠ 0 := by
        rintro hzero
        exact hnulFree (by rw [← show first = 0 from hzero]; exact List.mem_cons_self)
      obtain ⟨passed', hstep⟩ :=
        @formatStep_eq memory bufferSize arch strings passed first rest hnulFree arguments text
      have hsuffix := readDirective_suffix first rest
      have hshort : (readDirective (first :: rest)).2.length ≤ fuel :=
        hsuffix.length_le.trans (Nat.le_of_succ_le_succ hfuel)
      rw [formatLoop, if_neg hfirst, hstep, directivesFrom, renderOn]
      · cases renderDirective arch strings arguments (readDirective (first :: rest)).1 with
        | error stop => rfl
        | ok rendered =>
          simp only [Except.map, bind, Except.bind]
          rw [ih passed' hshort
            fun hzero => hnulFree (List.mem_cons_of_mem _ (hsuffix.subset hzero))]
          cases renderOn arch strings (directivesFrom fuel (readDirective (first :: rest)).2)
            rendered.2 with
          | error stop => rfl
          | ok following => simp [Except.map, pure, Except.pure]
      · simp

/-- `vsnprintf` formats the text that the target renders for the format. -/
theorem vsnprintf_eq {bufferIsNull : Bool} (hbuffer : ¬ (bufferIsNull ∧ bufferSize ≠ 0))
    (errno : Int32) (format : CString) (arguments : VaList) :
    vsnprintf arch strings errno bufferIsNull memory bufferSize (some format) arguments =
      (renderOn arch strings format.directives arguments).map fun text =>
        ⟨Int32.ofNat text.length, Output.stored memory bufferSize text, errno⟩ := by
  have hloop := @formatLoop_eq memory bufferSize arch strings format.characters.length []
    format.characters (Nat.le_refl _) format.nulFree arguments []
  simp only [vsnprintf, if_neg hbuffer, ← Output.holding_nil, hloop, List.nil_append,
    CString.directives]
  cases renderOn arch strings (directivesFrom format.characters.length format.characters)
    arguments with
  | error stop => rfl
  | ok text =>
    simp only [Except.map, bind, Except.bind, pure, Except.pure, Output.terminate_holding]
    rfl

end Loop

end Ringos.Libc

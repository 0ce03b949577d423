import Mathlib.Logic.Function.Basic
import Ringos.Kernel.Types

/-!
# Formatted output of the C library

`vsnprintf` with its helpers. A `va_list` is the list of the argument slots that
are still to be read, of 64 bits each; all conversions take their argument from
one slot. The targets differ in two ways. On x64 `va_list` is an array type, so
a function that is given one works on the caller's; on arm64 it is a pointer and
is copied into the parameter. And `long` has 64 bits on x64, 32 on arm64.

Strings in memory are a parameter: the string that starts at an address, where
one can be read.
-/

namespace Ringos.Libc

open Ringos.Kernel

/-- How formatting can fail to return. -/
inductive FormatStop where
  | undefinedBehaviour
  | outOfFuel
  deriving DecidableEq, Repr

/-- The characters of a C string in front of its NUL. -/
structure CString where
  characters : List UInt8
  nulFree : 0 ∉ characters

/-- The readable strings, by address. They stay as they are while the buffer is written: a string
argument that overlaps the buffer is undefined behaviour in C. -/
abbrev Strings := UInt64 → Option CString

/-- The state of a `va_list`: the slots not read yet. -/
abbrev VaList := List UInt64

/-- `EINVAL`. -/
def einval : Int32 := 22

/-- `RINGOS_STDIO_LOG_BUFFER_CAPACITY`. -/
def ringosStdioLogBufferCapacity : Nat := 512

/-- The width of `long`. -/
def longBits : Arch → Nat
  | .x64 => 64
  | .arm64 => 32

/-- The `va_list` of a function that has passed it to another, which has left its own parameter at
`callee`. -/
def afterCall : Arch → (caller callee : VaList) → VaList
  | .x64, _, callee => callee
  | .arm64, caller, _ => caller

/-- The slot that `va_arg` reads, and the `va_list` it leaves. -/
def vaArg : VaList → Except FormatStop (UInt64 × VaList)
  | [] => .error .undefinedBehaviour
  | slot :: rest => .ok (slot, rest)

/-- A slot read as an unsigned type of 32 or 64 bits. -/
def asUnsigned (bits : Nat) (slot : UInt64) : UInt64 :=
  if bits = 32 then slot.toUInt32.toUInt64 else slot

/-- A slot read as a signed type of 32 or 64 bits. -/
def asSigned (bits : Nat) (slot : UInt64) : Int64 :=
  if bits = 32 then slot.toUInt32.toInt32.toInt64 else slot.toInt64

/-- The bytes from `buffer` upwards by their offset, and the variables that the `append_*` functions
share. -/
structure Output where
  memory : Nat → UInt8
  cursor : Nat
  remaining : Nat
  totalWritten : Int32

namespace Output

/-- `append_character`. -/
def appendCharacter (output : Output) (value : UInt8) : Output :=
  let output :=
    if output.remaining > 1 then
      { output with
        memory := Function.update output.memory output.cursor value
        cursor := output.cursor + 1 }
    else output
  let output :=
    if output.remaining > 0 then { output with remaining := output.remaining - 1 } else output
  { output with totalWritten := output.totalWritten + 1 }

/-- The loop of `append_string`. -/
def appendCharacters (output : Output) (value : List UInt8) : Output :=
  value.foldl appendCharacter output

/-- The string literal `"(null)"`. -/
def nullText : List UInt8 := [40, 110, 117, 108, 108, 41]

/-- `append_string`. -/
def appendString (strings : Strings) (output : Output) (value : UInt64) :
    Except FormatStop Output :=
  if value = 0 then .ok (output.appendCharacters nullText)
  else
    match strings value with
    | none => .error .undefinedBehaviour
    | some text => .ok (output.appendCharacters text.characters)

/-- A character of the digit alphabet, `"0123456789ABCDEF"` or `"0123456789abcdef"`. -/
def alphabet (uppercase : Bool) (digit : UInt64) : UInt8 :=
  if digit < 10 then 48 + digit.toUInt8
  else if uppercase then 55 + digit.toUInt8 else 87 + digit.toUInt8

/-- The first loop of `append_unsigned_value`: the used part of `digits`, index 0 first. A word has
at most 64 digits. -/
def digitsLoop (base : UInt64) (uppercase : Bool) : Nat → UInt64 → List UInt8
  | 0, _ => []
  | fuel + 1, value =>
    if value = 0 then []
    else alphabet uppercase (value % base) :: digitsLoop base uppercase fuel (value / base)

/-- `append_unsigned_value`. -/
def appendUnsignedValue (output : Output) (value base : UInt64) (uppercase : Bool) : Output :=
  if value = 0 then output.appendCharacter 48
  else output.appendCharacters (digitsLoop base uppercase 64 value).reverse

/-- `append_signed_value`. -/
def appendSignedValue (output : Output) (value : Int64) : Output :=
  if value < 0 then
    (output.appendCharacter 45).appendUnsignedValue ((-(value + 1)).toUInt64 + 1) 10 false
  else output.appendUnsignedValue value.toUInt64 10 false

end Output

/-- `format_length`. -/
inductive FormatLength where
  | default
  | long
  | longLong
  | size
  deriving DecidableEq, Repr

/-- `format_cursor`: the characters it has passed, the last one first, and those in front of it; the
NUL is behind the last. -/
structure FormatCursor where
  passed : List UInt8
  rest : List UInt8

namespace FormatCursor

/-- `*format_cursor`. -/
def current (cursor : FormatCursor) : UInt8 := cursor.rest.headD 0

/-- `++format_cursor`. -/
def increment (cursor : FormatCursor) : FormatCursor :=
  match cursor.rest with
  | [] => cursor
  | character :: rest => ⟨character :: cursor.passed, rest⟩

/-- `--format_cursor`. -/
def decrement (cursor : FormatCursor) : FormatCursor :=
  match cursor.passed with
  | [] => cursor
  | character :: passed => ⟨passed, character :: cursor.rest⟩

end FormatCursor

/-- `parse_format_length`. -/
def parseFormatLength (cursor : FormatCursor) : FormatLength × FormatCursor :=
  if cursor.current = 108 then
    let cursor := cursor.increment
    if cursor.current = 108 then (.longLong, cursor.increment) else (.long, cursor)
  else if cursor.current = 122 then (.size, cursor.increment)
  else (.default, cursor)

/-- The width of the type that a length stands for. -/
def FormatLength.bits (arch : Arch) : FormatLength → Nat
  | .default => 32
  | .long => longBits arch
  | .longLong => 64
  | .size => 64

/-- `read_unsigned_argument`: the value, and the parameter `arguments` at the return. -/
def readUnsignedArgument (arch : Arch) (arguments : VaList) (length : FormatLength) :
    Except FormatStop (UInt64 × VaList) := do
  let (slot, arguments) ← vaArg arguments
  return (asUnsigned (length.bits arch) slot, arguments)

/-- `read_signed_argument`: the value, and the parameter `arguments` at the return. -/
def readSignedArgument (arch : Arch) (arguments : VaList) (length : FormatLength) :
    Except FormatStop (Int64 × VaList) := do
  let (slot, arguments) ← vaArg arguments
  return (asSigned (length.bits arch) slot, arguments)

/-- The `switch` on the specifier: the cursor, the `va_list` and the output behind it. -/
def formatSpecifier (arch : Arch) (strings : Strings) (length : FormatLength)
    (cursor : FormatCursor) (arguments : VaList) (output : Output) :
    Except FormatStop (FormatCursor × VaList × Output) :=
  let specifier := cursor.current
  if specifier = 99 then do
    let (slot, arguments) ← vaArg arguments
    return (cursor, arguments, output.appendCharacter slot.toUInt8)
  else if specifier = 100 ∨ specifier = 105 then do
    let (value, callee) ← readSignedArgument arch arguments length
    return (cursor, afterCall arch arguments callee, output.appendSignedValue value)
  else if specifier = 112 then do
    let output := output.appendCharacters [48, 120]
    let (slot, arguments) ← vaArg arguments
    return (cursor, arguments, output.appendUnsignedValue slot 16 false)
  else if specifier = 115 then do
    let (slot, arguments) ← vaArg arguments
    let output ← output.appendString strings slot
    return (cursor, arguments, output)
  else if specifier = 117 then do
    let (value, callee) ← readUnsignedArgument arch arguments length
    return (cursor, afterCall arch arguments callee, output.appendUnsignedValue value 10 false)
  else if specifier = 120 then do
    let (value, callee) ← readUnsignedArgument arch arguments length
    return (cursor, afterCall arch arguments callee, output.appendUnsignedValue value 16 false)
  else if specifier = 88 then do
    let (value, callee) ← readUnsignedArgument arch arguments length
    return (cursor, afterCall arch arguments callee, output.appendUnsignedValue value 16 true)
  else if specifier = 0 then
    return (cursor.decrement, arguments, output.appendCharacter 37)
  else
    return (cursor, arguments, (output.appendCharacter 37).appendCharacter specifier)

/-- One iteration of the loop of `vsnprintf`, at a character that is not NUL. -/
def formatStep (arch : Arch) (strings : Strings) (cursor : FormatCursor) (arguments : VaList)
    (output : Output) : Except FormatStop (FormatCursor × VaList × Output) :=
  if cursor.current ≠ 37 then
    .ok (cursor.increment, arguments, output.appendCharacter cursor.current)
  else
    let cursor := cursor.increment
    if cursor.current = 37 then
      .ok (cursor.increment, arguments, output.appendCharacter 37)
    else do
      let (length, cursor) := parseFormatLength cursor
      let (cursor, arguments, output) ←
        formatSpecifier arch strings length cursor arguments output
      return (if cursor.current ≠ 0 then cursor.increment else cursor, arguments, output)

/-- The loop of `vsnprintf`. -/
def formatLoop (arch : Arch) (strings : Strings) :
    Nat → FormatCursor → VaList → Output → Except FormatStop Output
  | 0, _, _, _ => .error .outOfFuel
  | fuel + 1, cursor, arguments, output =>
    if cursor.current = 0 then .ok output
    else do
      let (cursor, arguments, output) ← formatStep arch strings cursor arguments output
      formatLoop arch strings fuel cursor arguments output

/-- What `vsnprintf` returns, the bytes at `buffer`, and `errno`. -/
structure FormatResult where
  value : Int32
  memory : Nat → UInt8
  errno : Int32

/-- The terminator that `vsnprintf` stores behind its loop. -/
def Output.terminate (output : Output) (bufferSize : Nat) : Nat → UInt8 :=
  if bufferSize ≠ 0 then
    if output.remaining > 0 then Function.update output.memory output.cursor 0
    else Function.update output.memory (bufferSize - 1) 0
  else output.memory

/-- `vsnprintf`, where the format and the string arguments lie apart from the buffer. Every iteration
of its loop passes a character of the format. -/
def vsnprintf (arch : Arch) (strings : Strings) (errno : Int32) (bufferIsNull : Bool)
    (memory : Nat → UInt8) (bufferSize : Nat) (format : Option CString)
    (arguments : VaList) : Except FormatStop FormatResult :=
  match format with
  | none => .ok ⟨-1, memory, einval⟩
  | some format =>
    if bufferIsNull ∧ bufferSize ≠ 0 then .ok ⟨-1, memory, einval⟩
    else do
      let output ← formatLoop arch strings (format.characters.length + 1)
        ⟨[], format.characters⟩ arguments ⟨memory, 0, bufferSize, 0⟩
      return ⟨output.totalWritten, output.terminate bufferSize, errno⟩

end Ringos.Libc

import Mathlib.Algebra.Group.Nat.Defs
import Ringos.Libc.Formatting

/-!
# Truncation

A text that does not fit is cut: the buffer holds the characters in front of its
last byte, and the result is the length of the whole text.
-/

namespace Ringos.Libc

open Ringos.Kernel

/-- The outcome of formatting a text into a buffer: its length as the result, the characters for
which there is room and a NUL in the buffer, and nothing behind the buffer. -/
structure Truncated (memory : Nat → UInt8) (bufferSize : Nat) (text : List UInt8)
    (result : FormatResult) : Prop where
  value : result.value.toInt = text.length
  characters : 0 < bufferSize → ∀ offset < min (bufferSize - 1) text.length,
    some (result.memory offset) = text[offset]?
  terminator : 0 < bufferSize → result.memory (min (bufferSize - 1) text.length) = 0
  unwritten : ∀ offset, bufferSize ≤ offset → result.memory offset = memory offset

section Stored

variable (memory : Nat → UInt8) {bufferSize : Nat} (text : List UInt8)

/-- A buffer of some size holds the cut text, a NUL and what it held before. -/
theorem stored_of_pos (hsize : 0 < bufferSize) (offset : Nat) :
    Output.stored memory bufferSize text offset =
      (text.take (bufferSize - 1) ++ [0])[offset]?.getD (memory offset) := by
  rw [Output.stored, if_neg (Nat.ne_of_gt hsize)]

theorem length_take_pred : (text.take (bufferSize - 1)).length = min (bufferSize - 1) text.length :=
  List.length_take

theorem stored_character (hsize : 0 < bufferSize) {offset : Nat}
    (hoffset : offset < min (bufferSize - 1) text.length) :
    some (Output.stored memory bufferSize text offset) = text[offset]? := by
  have hcut : offset < (text.take (bufferSize - 1)).length := by rwa [length_take_pred]
  rw [stored_of_pos memory text hsize, List.getElem?_append_left hcut,
    List.getElem?_take_of_lt (by omega), List.getElem?_eq_getElem (by omega), Option.getD_some]

theorem stored_terminator (hsize : 0 < bufferSize) :
    Output.stored memory bufferSize text (min (bufferSize - 1) text.length) = 0 := by
  rw [stored_of_pos memory text hsize, ← length_take_pred, List.getElem?_concat_length,
    Option.getD_some]

/-- Nothing is stored at the size of the buffer or behind it, nor anywhere in a buffer of size 0. -/
theorem stored_unwritten {offset : Nat} (hoffset : bufferSize ≤ offset) :
    Output.stored memory bufferSize text offset = memory offset := by
  rcases Nat.eq_zero_or_pos bufferSize with hzero | hsize
  · rw [Output.stored, if_pos hzero]
  · have hlength : (text.take (bufferSize - 1) ++ [0]).length ≤ offset := by
      rw [List.length_append, length_take_pred, List.length_singleton]
      omega
    rw [stored_of_pos memory text hsize, List.getElem?_eq_none hlength, Option.getD_none]

end Stored

/-- A format that ends in a percent sign, with or without a length modifier, ends in a percent
character. -/
theorem readDirective_trailingPercent (modifier : List UInt8)
    (hmodifier : modifier ∈ [[], [108], [108, 108], [122]]) :
    readDirective (37 :: modifier) = (.literal [37], []) := by
  revert modifier
  decide

/-- Formatting into a buffer of any size returns the length of the text that is rendered and stores
as much of it as fits. -/
theorem vsnprintf_truncated {arch : Arch} {strings : Strings} {format : CString}
    {arguments : VaList} {text : List UInt8}
    (htext : renderOn arch strings format.directives arguments = .ok text)
    (hlength : text.length < 2 ^ 31) {bufferIsNull : Bool} {bufferSize : Nat}
    (hbuffer : ¬ (bufferIsNull ∧ bufferSize ≠ 0)) (memory : Nat → UInt8) (errno : Int32) :
    ∃ result, vsnprintf arch strings errno bufferIsNull memory bufferSize (some format) arguments =
        .ok result ∧ Truncated memory bufferSize text result ∧ result.errno = errno := by
  have hvalue : (Int32.ofNat text.length).toInt = text.length := Int32.toInt_ofNat_of_lt hlength
  rw [vsnprintf_eq hbuffer, htext]
  refine ⟨_, rfl, ⟨hvalue, fun hsize offset hoffset => ?_, fun hsize => ?_,
    fun offset hoffset => ?_⟩, rfl⟩
  · exact stored_character memory text hsize hoffset
  · exact stored_terminator memory text hsize
  · exact stored_unwritten memory text hoffset

/-- `snprintf(buffer, 4, "a%d%l", -42)`. -/
theorem trailingPercent_truncated :
    ∃ result, vsnprintf .x64 (fun _ => none) 0 false (fun _ => 255) 4
        (some ⟨[97, 37, 100, 37, 108], by decide⟩) [0xFFFFFFD6] = .ok result ∧
      Truncated (fun _ => 255) 4 [97, 45, 52, 50, 37] result ∧ result.errno = 0 :=
  vsnprintf_truncated rfl (by decide) (by decide) _ _

end Ringos.Libc

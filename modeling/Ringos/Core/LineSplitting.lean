import Mathlib.Data.List.Basic
import Mathlib.Order.Basic
import Mathlib.Tactic.ByContra

/-!
# Streams cut into bounded lines

A stream is split at its breaks, and each line is cut into pieces of a bounded
length; the last piece of the last line is still open. `LineBuffer` computes the
same from left to right with a pending piece that is completed by a break, or by
the first element that does not fit any more.
-/

namespace Ringos.Core

variable {α : Type*}

/-- The consecutive pieces of `capacity` elements, of which the last may be shorter. -/
def pieces (capacity : Nat) (text : List α) : List (List α) :=
  (List.range ((text.length + capacity - 1) / capacity)).map fun index =>
    (text.drop (index * capacity)).take capacity

@[simp] theorem pieces_nil (capacity : Nat) : pieces capacity ([] : List α) = [] := by
  have hcount : (0 + capacity - 1) / capacity = 0 := by
    rcases Nat.eq_zero_or_pos capacity with rfl | hpos
    · rfl
    · exact Nat.div_eq_of_lt (by omega)
  rw [pieces, List.length_nil, hcount, List.range_zero, List.map_nil]

/-- A full piece comes off the front. -/
theorem pieces_append {capacity : Nat} (hpos : 0 < capacity) {front : List α}
    (hfull : front.length = capacity) (rest : List α) :
    pieces capacity (front ++ rest) = front :: pieces capacity rest := by
  have hcount : (capacity + rest.length + capacity - 1) / capacity =
      (rest.length + capacity - 1) / capacity + 1 := by
    rw [show capacity + rest.length + capacity - 1 = rest.length + capacity - 1 + capacity by omega,
      Nat.add_div_right _ hpos]
  rw [pieces, List.length_append, hfull, hcount, List.range_succ_eq_map, List.map_cons,
    List.map_map, pieces]
  congr 1
  · rw [Nat.zero_mul, List.drop_zero, ← hfull, List.take_left]
  · apply List.map_congr_left
    intro index _
    rw [Function.comp_apply, Nat.succ_mul, Nat.add_comm, ← List.drop_drop, ← hfull, List.drop_left]

/-- What fits is one piece. -/
theorem pieces_of_le {capacity : Nat} {text : List α} (hne : text ≠ [])
    (hle : text.length ≤ capacity) : pieces capacity text = [text] := by
  have hlen : 0 < text.length := List.length_pos_iff.mpr hne
  have hcount : (text.length + capacity - 1) / capacity = 1 := by
    rw [show text.length + capacity - 1 = text.length - 1 + capacity by omega,
      Nat.add_div_right _ (by omega), Nat.div_eq_of_lt (by omega)]
  rw [pieces, hcount]
  simp [List.take_of_length_le hle]

/-- A text that is not empty has a piece. -/
theorem pieces_ne_nil {capacity : Nat} (hpos : 0 < capacity) {text : List α} (hne : text ≠ []) :
    pieces capacity text ≠ [] := by
  have hlen : 0 < text.length := List.length_pos_iff.mpr hne
  have hcount : 0 < (text.length + capacity - 1) / capacity := Nat.div_pos (by omega) hpos
  intro hnil
  have hlength := congrArg List.length hnil
  rw [pieces, List.length_map, List.length_range, List.length_nil] at hlength
  omega

/-- Every piece has an element, and no more than the capacity. -/
theorem length_of_mem_pieces {capacity : Nat} {text piece : List α}
    (hmem : piece ∈ pieces capacity text) : 1 ≤ piece.length ∧ piece.length ≤ capacity := by
  obtain ⟨index, hindex, rfl⟩ := List.mem_map.mp hmem
  have hpos : 0 < capacity := by
    by_contra hzero
    simp [Nat.eq_zero_of_not_pos hzero] at hindex
  have hlt : index * capacity < text.length := by
    have hle := (Nat.le_div_iff_mul_le hpos).mp (List.mem_range.mp hindex)
    rw [Nat.succ_mul] at hle
    omega
  simp only [List.length_take, List.length_drop]
  omega

section Lines

variable (capacity : Nat) (isBreak : α → Bool)

/-- The pieces of the terminated lines, and those of the last line that are followed by more. -/
def completedLines (text : List α) : List (List α) :=
  (text.splitOnP isBreak).dropLast.flatMap (pieces capacity) ++
    (pieces capacity ((text.splitOnP isBreak).getLastD [])).dropLast

/-- The last piece of the last line. -/
def pendingLine (text : List α) : List α :=
  (pieces capacity ((text.splitOnP isBreak).getLastD [])).getLastD []

/-- A line buffer: what it has passed on, and what it holds. -/
structure LineBuffer (α : Type*) where
  completed : List (List α)
  pending : List α

namespace LineBuffer

/-- Pass on what is held. -/
def flush (buffer : LineBuffer α) : LineBuffer α :=
  if buffer.pending = [] then buffer else ⟨buffer.completed ++ [buffer.pending], []⟩

/-- Take one element of the stream. -/
def push (buffer : LineBuffer α) (element : α) : LineBuffer α :=
  if isBreak element then buffer.flush
  else if buffer.pending.length = capacity then
    ⟨buffer.completed ++ [buffer.pending], [element]⟩
  else ⟨buffer.completed, buffer.pending ++ [element]⟩

end LineBuffer

end Lines

section Refinement

variable {capacity : Nat} {isBreak : α → Bool}

/-- What holds no break is put in front of the first line. -/
theorem splitOnP_append_of_forall {front : List α} (hfront : ∀ a ∈ front, isBreak a = false)
    (text : List α) :
    (front ++ text).splitOnP isBreak = (text.splitOnP isBreak).modifyHead (front ++ ·) := by
  induction front with
  | nil =>
    obtain ⟨line, lines, hlines⟩ := List.exists_cons_of_ne_nil (List.splitOnP_ne_nil isBreak text)
    rw [List.nil_append, hlines]
    rfl
  | cons a front ih =>
    obtain ⟨line, lines, hlines⟩ := List.exists_cons_of_ne_nil (List.splitOnP_ne_nil isBreak text)
    have ha : isBreak a = false := hfront a List.mem_cons_self
    rw [List.cons_append, List.splitOnP_cons_eq_if_modifyHead, ha,
      ih fun b hb => hfront b (List.mem_cons_of_mem a hb), hlines]
    rfl

/-- A piece without a break is pending, and nothing is completed. -/
theorem lines_of_open {front : List α} (hfront : ∀ a ∈ front, isBreak a = false)
    (hfits : front.length ≤ capacity) :
    completedLines capacity isBreak front = [] ∧ pendingLine capacity isBreak front = front := by
  rw [completedLines, pendingLine, List.splitOnP_eq_singleton hfront]
  rcases eq_or_ne front [] with rfl | hne
  · simp
  · simp [pieces_of_le hne hfits]

/-- A break completes the pieces of the line in front of it. -/
theorem lines_of_break {front text : List α} {a : α} (hfront : ∀ b ∈ front, isBreak b = false)
    (ha : isBreak a = true) :
    completedLines capacity isBreak (front ++ a :: text) =
        pieces capacity front ++ completedLines capacity isBreak text ∧
      pendingLine capacity isBreak (front ++ a :: text) = pendingLine capacity isBreak text := by
  obtain ⟨line, lines, hlines⟩ := List.exists_cons_of_ne_nil (List.splitOnP_ne_nil isBreak text)
  rw [completedLines, completedLines, pendingLine, pendingLine,
    List.splitOnP_append_cons_of_forall_mem hfront a ha, hlines]
  simp [List.dropLast]

/-- A full piece followed by more of its line is completed. -/
theorem lines_of_full {front text : List α} {a : α} (hpos : 0 < capacity)
    (hfront : ∀ b ∈ front, isBreak b = false) (hfull : front.length = capacity)
    (ha : isBreak a = false) :
    completedLines capacity isBreak (front ++ a :: text) =
        front :: completedLines capacity isBreak (a :: text) ∧
      pendingLine capacity isBreak (front ++ a :: text) =
        pendingLine capacity isBreak (a :: text) := by
  have hsplit := splitOnP_append_of_forall hfront (a :: text)
  have hsingle : ∀ b ∈ [a], isBreak b = false := by simpa using ha
  have htail := splitOnP_append_of_forall hsingle text
  obtain ⟨line, lines, hlines⟩ := List.exists_cons_of_ne_nil (List.splitOnP_ne_nil isBreak text)
  rw [List.singleton_append, hlines, List.modifyHead_cons] at htail
  rw [htail, List.modifyHead_cons] at hsplit
  have hpieces := pieces_append hpos hfull ([a] ++ line)
  rw [completedLines, completedLines, pendingLine, pendingLine, hsplit, htail]
  cases lines with
  | nil =>
    have hne : pieces capacity ([a] ++ line) ≠ [] := pieces_ne_nil hpos (List.cons_ne_nil a line)
    obtain ⟨piece, rest, hrest⟩ := List.exists_cons_of_ne_nil hne
    simp only [List.dropLast_singleton, List.flatMap_nil, List.nil_append, List.getLastD_cons,
      List.getLastD_nil, hpieces, hrest]
    simp
  | cons second lines =>
    simp only [List.dropLast_cons_cons, List.flatMap_cons, List.getLastD_cons, hpieces]
    exact ⟨by simp only [List.cons_append], trivial⟩

namespace LineBuffer

theorem flush_of_nil {buffer : LineBuffer α} (h : buffer.pending = []) : buffer.flush = buffer :=
  if_pos h

theorem flush_of_ne_nil {buffer : LineBuffer α} (h : buffer.pending ≠ []) :
    buffer.flush = ⟨buffer.completed ++ [buffer.pending], []⟩ :=
  if_neg h

theorem push_break (buffer : LineBuffer α) {a : α} (ha : isBreak a = true) :
    push capacity isBreak buffer a = buffer.flush := by
  rw [push, ha, if_pos rfl]

theorem push_full {buffer : LineBuffer α} {a : α} (ha : isBreak a = false)
    (hfull : buffer.pending.length = capacity) :
    push capacity isBreak buffer a = ⟨buffer.completed ++ [buffer.pending], [a]⟩ := by
  rw [push, ha, if_neg Bool.false_ne_true, if_pos hfull]

theorem push_room {buffer : LineBuffer α} {a : α} (ha : isBreak a = false)
    (hroom : buffer.pending.length < capacity) :
    push capacity isBreak buffer a = ⟨buffer.completed, buffer.pending ++ [a]⟩ := by
  rw [push, ha, if_neg Bool.false_ne_true, if_neg (by omega)]

end LineBuffer

/-- The buffer passes on the completed pieces of the stream and holds the pending one. -/
theorem LineBuffer.foldl_push (hpos : 0 < capacity) (text : List α) (buffer : LineBuffer α)
    (hopen : ∀ a ∈ buffer.pending, isBreak a = false) (hfits : buffer.pending.length ≤ capacity) :
    text.foldl (LineBuffer.push capacity isBreak) buffer =
      ⟨buffer.completed ++ completedLines capacity isBreak (buffer.pending ++ text),
        pendingLine capacity isBreak (buffer.pending ++ text)⟩ := by
  induction text generalizing buffer with
  | nil =>
    obtain ⟨hcompleted, hpending⟩ := lines_of_open hopen hfits
    rw [List.foldl_nil, List.append_nil, hcompleted, hpending, List.append_nil]
  | cons a text ih =>
    rw [List.foldl_cons]
    rcases hbreak : isBreak a with _ | _
    · rcases Nat.lt_or_ge buffer.pending.length capacity with hroom | hfull
      · rw [push_room hbreak hroom, ih]
        · simp
        · intro b hb
          rcases List.mem_append.mp hb with hb | hb
          · exact hopen b hb
          · rwa [List.mem_singleton.mp hb]
        · rw [List.length_append]
          exact hroom
      · obtain ⟨hcompleted, hpending⟩ := lines_of_full hpos hopen (by omega) hbreak
        rw [push_full hbreak (by omega), ih ⟨buffer.completed ++ [buffer.pending], [a]⟩ (by simpa using hbreak) hpos,
          hcompleted, hpending]
        simp
    · obtain ⟨hcompleted, hpending⟩ := lines_of_break hopen hbreak
      rw [push_break buffer hbreak, hcompleted, hpending]
      rcases eq_or_ne buffer.pending [] with hempty | hnonempty
      · rw [flush_of_nil hempty, ih buffer hopen hfits, hempty]
        simp
      · rw [flush_of_ne_nil hnonempty, ih _ (by simp) (Nat.zero_le _),
          pieces_of_le hnonempty hfits]
        simp

/-- An element is kept once, a break is dropped. -/
theorem LineBuffer.flatten_push (capacity : Nat) (isBreak : α → Bool) (buffer : LineBuffer α) (a : α) :
    (push capacity isBreak buffer a).completed.flatten ++
        (push capacity isBreak buffer a).pending =
      buffer.completed.flatten ++ buffer.pending ++ [a].filter (fun b => !isBreak b) := by
  rw [push]
  split
  next hbreak =>
    rw [flush]
    split <;> simp [*]
  next hkeep => split <;> simp [*]

theorem LineBuffer.flatten_foldl_push (capacity : Nat) (isBreak : α → Bool) (text : List α)
    (buffer : LineBuffer α) :
    (text.foldl (push capacity isBreak) buffer).completed.flatten ++
        (text.foldl (push capacity isBreak) buffer).pending =
      buffer.completed.flatten ++ buffer.pending ++ text.filter fun a => !isBreak a := by
  induction text generalizing buffer with
  | nil => simp
  | cons a text ih =>
    rw [List.foldl_cons, ih, flatten_push, List.append_assoc, ← List.filter_append,
      List.singleton_append]

/-- The elements of a stream other than the breaks, in order, are those of its pieces. -/
theorem flatten_lines (hpos : 0 < capacity) (text : List α) :
    (completedLines capacity isBreak text).flatten ++ pendingLine capacity isBreak text =
      text.filter fun a => !isBreak a := by
  have hflat := LineBuffer.flatten_foldl_push capacity isBreak text ⟨[], []⟩
  rw [LineBuffer.foldl_push hpos text ⟨[], []⟩ (by simp) (Nat.zero_le _)] at hflat
  simpa using hflat

/-- Every completed piece has an element, and no more than the capacity. -/
theorem length_of_mem_completedLines {text piece : List α}
    (hmem : piece ∈ completedLines capacity isBreak text) :
    1 ≤ piece.length ∧ piece.length ≤ capacity := by
  rcases List.mem_append.mp hmem with hmem | hmem
  · obtain ⟨line, _, hpiece⟩ := List.mem_flatMap.mp hmem
    exact length_of_mem_pieces hpiece
  · exact length_of_mem_pieces ((List.dropLast_subset _ hmem))

end Refinement

end Ringos.Core

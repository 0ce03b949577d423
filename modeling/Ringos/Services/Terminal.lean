import Ringos.Core.ByteMemory
import Ringos.Core.LineSplitting
import Ringos.Kernel.Types

/-!
# The terminal service

The service keeps one line in a global buffer. Requests append to it; a newline
flushes it, and so does the first character that finds it full. The debug log is
a parameter: given what it has logged so far and a string, it answers with a
status, and it has logged the string if the status is `STATUS_OK`.

The buffer refines a `LineBuffer`, so the text of all accepted requests together
determines what is logged and what is pending.
-/

namespace Ringos.Services

open Ringos.Core
open Ringos.Kernel

/-- `TERMINAL_SERVICE_LINE_CAPACITY`. -/
abbrev terminalServiceLineCapacity : Nat := 95

/-- `TERMINAL_SERVICE_WRITE_MAX_BYTES`. -/
def terminalServiceWriteMaxBytes : Nat := 240

/-- `sizeof(terminal_service_request_header)`. -/
def terminalServiceRequestHeaderSize : Nat := 8

/-- `sizeof(terminal_service_write_request)`. -/
def terminalServiceWriteRequestSize : Nat := 256

/-- `TERMINAL_SERVICE_RPC_OPERATION_WRITE_BUFFER`. -/
def terminalServiceRpcOperationWriteBuffer : UInt64 := 1

/-- `ringos_debug_log`: the strings logged so far, and the string to log. -/
abbrev DebugLog := List (List UInt8) → List UInt8 → Int32

/-- The service's globals, and what the debug log has received. -/
structure Terminal where
  /-- `g_terminal_line`. -/
  line : Vector UInt8 (terminalServiceLineCapacity + 1)
  /-- `g_terminal_line_length`. -/
  lineLength : Nat
  /-- The logged strings, oldest first. -/
  logged : List (List UInt8)

/-- The `request` and the `request_size` of the callback. -/
inductive RequestArgument where
  | null (requestSize : Nat)
  | bytes (contents : List UInt8)

/-- `terminal_service_write_request`. -/
structure WriteRequest where
  length : UInt64
  bytes : List UInt8

namespace Terminal

/-- The service before its first request. -/
def initial : Terminal := ⟨Vector.replicate _ 0, 0, []⟩

/-- The string that starts at the first byte of the line. -/
def lineString (terminal : Terminal) : List UInt8 := terminal.line.toList.takeWhile (· ≠ 0)

/-- `ringos_debug_log(g_terminal_line)`. -/
def log (debugLog : DebugLog) (terminal : Terminal) : Int32 × Terminal :=
  let status := debugLog terminal.logged terminal.lineString
  if status = Status.ok then
    (status, { terminal with logged := terminal.logged ++ [terminal.lineString] })
  else (status, terminal)

/-- `terminal_flush_line`. -/
def flushLine (debugLog : DebugLog) (terminal : Terminal) : Int32 × Terminal :=
  if terminal.lineLength = 0 then (Status.ok, terminal)
  else
    let (status, terminal) :=
      { terminal with line := terminal.line.setIfInBounds terminal.lineLength 0 }.log debugLog
    (status, { terminal with lineLength := 0 })

/-- `g_terminal_line[g_terminal_line_length++] = character`. -/
def append (terminal : Terminal) (character : UInt8) : Terminal :=
  { terminal with
    line := terminal.line.setIfInBounds terminal.lineLength character
    lineLength := terminal.lineLength + 1 }

/-- `terminal_write_character`. -/
def writeCharacter (debugLog : DebugLog) (terminal : Terminal) (character : UInt8) :
    Int32 × Terminal :=
  if character = 0 ∨ character = 13 then (Status.ok, terminal)
  else if character = 10 then terminal.flushLine debugLog
  else if terminal.lineLength = terminalServiceLineCapacity then
    let (flushStatus, terminal) := terminal.flushLine debugLog
    if flushStatus ≠ Status.ok then (flushStatus, terminal)
    else (Status.ok, terminal.append character)
  else (Status.ok, terminal.append character)

/-- The loop of `terminal_write_buffer` over the bytes it still has to write. -/
def writeCharacters (debugLog : DebugLog) (terminal : Terminal) : List UInt8 → Int32 × Terminal
  | [] => (Status.ok, terminal)
  | character :: rest =>
    let (status, terminal) := terminal.writeCharacter debugLog character
    if status ≠ Status.ok then (status, terminal) else terminal.writeCharacters debugLog rest

/-- `terminal_write_buffer`. -/
def writeBuffer (debugLog : DebugLog) (terminal : Terminal) (writeRequest : WriteRequest) :
    Int32 × Terminal :=
  if writeRequest.length = 0 ∨ writeRequest.length.toNat > terminalServiceWriteMaxBytes then
    (Status.invalidArgument, terminal)
  else terminal.writeCharacters debugLog (writeRequest.bytes.take writeRequest.length.toNat)

/-- The cast to `terminal_service_request_header`. -/
def readOperation (contents : List UInt8) : UInt64 := ofLittleEndian (contents.take 8)

/-- The cast to `terminal_service_write_request`. -/
def readWriteRequest (contents : List UInt8) : WriteRequest :=
  ⟨ofLittleEndian ((contents.drop 8).take 8), contents.drop 16⟩

/-- `terminal_handle_request`. -/
def handleRequest (debugLog : DebugLog) (terminal : Terminal) : RequestArgument → Int32 × Terminal
  | .null _ => (Status.invalidArgument, terminal)
  | .bytes contents =>
    if contents.length < terminalServiceRequestHeaderSize then (Status.invalidArgument, terminal)
    else if readOperation contents = terminalServiceRpcOperationWriteBuffer then
      if contents.length ≠ terminalServiceWriteRequestSize then (Status.invalidArgument, terminal)
      else terminal.writeBuffer debugLog (readWriteRequest contents)
    else (Status.notSupported, terminal)

/-- The service over a sequence of requests. -/
def serve (debugLog : DebugLog) (terminal : Terminal) (requests : List RequestArgument) :
    Terminal :=
  requests.foldl (fun terminal request => (terminal.handleRequest debugLog request).2) terminal

end Terminal

/-- The text a request asks to write, if it is a valid write request. -/
def RequestArgument.payload : RequestArgument → Option (List UInt8)
  | .null _ => none
  | .bytes contents =>
    let length := (ofLittleEndian ((contents.drop 8).take 8)).toNat
    if contents.length = terminalServiceWriteRequestSize ∧
        ofLittleEndian (contents.take 8) = terminalServiceRpcOperationWriteBuffer ∧
        1 ≤ length ∧ length ≤ terminalServiceWriteMaxBytes then
      some ((contents.drop 16).take length)
    else none

/-- A character that takes room in a line, or ends one. -/
def isText (character : UInt8) : Bool := character ≠ 0 ∧ character ≠ 13

/-- A newline. -/
def isNewline (character : UInt8) : Bool := character = 10

/-- The text the requests ask to write, without NUL and CR. -/
def writtenText (requests : List RequestArgument) : List UInt8 :=
  (requests.filterMap RequestArgument.payload).flatten.filter isText

/-- The debug log takes every string that fits the line. -/
def DebugLog.Accepts (debugLog : DebugLog) : Prop :=
  ∀ logged line, line.length ≤ terminalServiceLineCapacity → 0 ∉ line →
    debugLog logged line = Status.ok

namespace Terminal

/-- The characters that wait for the next flush. -/
def pending (terminal : Terminal) : List UInt8 := terminal.line.toList.take terminal.lineLength

/-- The line buffer that the service implements. -/
def buffer (terminal : Terminal) : LineBuffer UInt8 := ⟨terminal.logged, terminal.pending⟩

/-- What holds between two characters. -/
structure Holds (terminal : Terminal) : Prop where
  lineLength_le : terminal.lineLength ≤ terminalServiceLineCapacity
  pending_text : ∀ character ∈ terminal.pending, isText character ∧ isNewline character = false

theorem Holds.length_pending {terminal : Terminal} (h : terminal.Holds) :
    terminal.pending.length = terminal.lineLength := by
  have hle := h.lineLength_le
  rw [pending, List.length_take, Vector.length_toList]
  omega

theorem Holds.initial : Terminal.initial.Holds where
  lineLength_le := Nat.zero_le _
  pending_text := by simp [pending, Terminal.initial]

/-- A character is stored behind the pending ones. -/
theorem pending_append {terminal : Terminal}
    (hroom : terminal.lineLength ≤ terminalServiceLineCapacity) (character : UInt8) :
    (terminal.append character).pending = terminal.pending ++ [character] := by
  have hlen : terminal.lineLength < terminal.line.toList.length := by
    rw [Vector.length_toList]
    exact Nat.lt_succ_of_le hroom
  rw [pending, append, Vector.toList_setIfInBounds,
    List.take_succ_eq_append_getElem (by rwa [List.length_set]),
    List.take_set_of_le (Nat.le_refl _), List.getElem_set_self, pending]

/-- The string that a flush logs is the pending one. -/
theorem lineString_terminated {terminal : Terminal} (h : terminal.Holds) :
    lineString { terminal with line := terminal.line.setIfInBounds terminal.lineLength 0 } =
      terminal.pending := by
  have hsplit := pending_append h.lineLength_le 0
  have htext : ∀ character ∈ terminal.pending, character ≠ 0 := by
    intro character hmem
    have := (h.pending_text character hmem).1
    simp_all [isText]
  rw [pending, append] at hsplit
  rw [lineString, ← List.take_append_drop (terminal.lineLength + 1)
    (terminal.line.setIfInBounds terminal.lineLength 0).toList, hsplit, List.append_assoc,
    List.takeWhile_append_of_pos (by simpa using htext)]
  simp

/-- A flush passes on the pending characters, if there are any. -/
theorem flushLine_spec {debugLog : DebugLog} (haccepts : debugLog.Accepts) {terminal : Terminal}
    (h : terminal.Holds) :
    (terminal.flushLine debugLog).1 = Status.ok ∧ (terminal.flushLine debugLog).2.Holds ∧
      (terminal.flushLine debugLog).2.lineLength = 0 ∧
      (terminal.flushLine debugLog).2.buffer = terminal.buffer.flush := by
  have hlength := h.length_pending
  rw [flushLine]
  split
  next hempty =>
    have hnil : terminal.pending = [] := List.length_eq_zero_iff.mp (hlength.trans hempty)
    exact ⟨rfl, h, hempty, (LineBuffer.flush_of_nil hnil).symm⟩
  next hnonempty =>
    have hne : terminal.buffer.pending ≠ [] := by
      intro hnil
      rw [show terminal.pending = [] from hnil, List.length_nil] at hlength
      exact hnonempty hlength.symm
    have hzero : 0 ∉ terminal.pending := by
      intro hmem
      have htext := (h.pending_text 0 hmem).1
      simp [isText] at htext
    have hstatus := haccepts terminal.logged terminal.pending
      (hlength ▸ h.lineLength_le) hzero
    simp only [log, lineString_terminated h, hstatus, ↓reduceIte]
    rw [LineBuffer.flush_of_ne_nil hne]
    exact ⟨trivial, ⟨Nat.zero_le _, by simp [pending]⟩, trivial, by simp [buffer, pending]⟩

/-- A character of the text that finds room is added to the pending ones. -/
theorem append_spec {terminal : Terminal} (h : terminal.Holds)
    (hroom : terminal.lineLength < terminalServiceLineCapacity) {character : UInt8}
    (htext : isText character) (hline : isNewline character = false) :
    (terminal.append character).Holds ∧
      (terminal.append character).buffer = ⟨terminal.logged, terminal.pending ++ [character]⟩ := by
  have hpending := pending_append h.lineLength_le character
  refine ⟨⟨hroom, ?_⟩, ?_⟩
  · rw [hpending]
    intro other hmem
    rcases List.mem_append.mp hmem with hmem | hmem
    · exact h.pending_text other hmem
    · rw [List.mem_singleton.mp hmem]
      exact ⟨htext, hline⟩
  · rw [buffer, hpending]
    rfl

/-- The effect of the loop body: the status, the invariant and the line buffer. -/
def Wrote (terminal : Terminal) (text : List UInt8) (result : Int32 × Terminal) : Prop :=
  result.1 = Status.ok ∧ result.2.Holds ∧
    result.2.buffer =
      text.foldl (LineBuffer.push terminalServiceLineCapacity isNewline) terminal.buffer

/-- A character is pushed into the line buffer, if it is part of the text. -/
theorem writeCharacter_spec {debugLog : DebugLog} (haccepts : debugLog.Accepts)
    {terminal : Terminal} (h : terminal.Holds) (character : UInt8) :
    terminal.Wrote ([character].filter isText) (terminal.writeCharacter debugLog character) := by
  obtain ⟨hstatus, hholds, hlength, hbuffer⟩ := flushLine_spec haccepts h
  have hpending : terminal.buffer.pending.length = terminal.lineLength := h.length_pending
  have hle := h.lineLength_le
  rw [writeCharacter]
  split
  next hskip =>
    have htext : isText character = false := by rcases hskip with rfl | rfl <;> rfl
    rw [List.filter_singleton, htext]
    exact ⟨rfl, h, rfl⟩
  next hkeep =>
    have htext : isText character = true := by
      simp only [isText, decide_eq_true_eq]
      exact ⟨fun h => hkeep (.inl h), fun h => hkeep (.inr h)⟩
    rw [List.filter_singleton, htext]
    split
    next hnewline =>
      exact ⟨hstatus, hholds,
        hbuffer.trans (LineBuffer.push_break _ (by simp [isNewline, hnewline])).symm⟩
    next hother =>
      have hline : isNewline character = false := by simp [isNewline, hother]
      split
      next hfull =>
        obtain ⟨happended, hnew⟩ := append_spec hholds (by rw [hlength]; decide) htext hline
        have hne : terminal.buffer.pending ≠ [] := by
          intro hnil
          rw [hnil, hfull] at hpending
          exact absurd hpending (by decide)
        rw [LineBuffer.flush_of_ne_nil hne] at hbuffer
        have hlogged : (terminal.flushLine debugLog).2.logged = _ :=
          congrArg LineBuffer.completed hbuffer
        have hempty : (terminal.flushLine debugLog).2.pending = [] :=
          congrArg LineBuffer.pending hbuffer
        simp only [hstatus, ne_eq, not_true_eq_false, ↓reduceIte]
        refine ⟨rfl, happended, ?_⟩
        rw [hnew, hlogged, hempty]
        exact (LineBuffer.push_full hline (hpending.trans hfull)).symm
      next hroom =>
        have hroom : terminal.lineLength < terminalServiceLineCapacity :=
          Nat.lt_of_le_of_ne hle hroom
        obtain ⟨happended, hnew⟩ := append_spec h hroom htext hline
        exact ⟨rfl, happended,
          hnew.trans (LineBuffer.push_room hline (hpending.trans_lt hroom)).symm⟩

/-- The characters of a request are pushed one after the other. -/
theorem writeCharacters_spec {debugLog : DebugLog} (haccepts : debugLog.Accepts)
    {terminal : Terminal} (h : terminal.Holds) (characters : List UInt8) :
    terminal.Wrote (characters.filter isText) (terminal.writeCharacters debugLog characters) := by
  induction characters generalizing terminal with
  | nil => exact ⟨rfl, h, rfl⟩
  | cons character rest ih =>
    obtain ⟨hstatus, hholds, hbuffer⟩ := writeCharacter_spec haccepts h character
    obtain ⟨hrest, hend, hpushed⟩ := ih hholds
    rw [writeCharacters]
    simp only [hstatus, ne_eq, not_true_eq_false, ↓reduceIte]
    refine ⟨hrest, hend, ?_⟩
    rw [hpushed, hbuffer, ← List.foldl_append, ← List.filter_append, List.singleton_append]

/-- A request that is not a valid write request is refused and changes nothing. -/
theorem handleRequest_refused (debugLog : DebugLog) (terminal : Terminal)
    {request : RequestArgument} (hrefused : request.payload = none) :
    (terminal.handleRequest debugLog request).1 ≠ Status.ok ∧
      (terminal.handleRequest debugLog request).2 = terminal := by
  have hinvalid : Status.invalidArgument ≠ Status.ok := by decide
  have hunsupported : Status.notSupported ≠ Status.ok := by decide
  cases request with
  | null requestSize => exact ⟨hinvalid, rfl⟩
  | bytes contents =>
    simp only [RequestArgument.payload, ite_eq_right_iff, reduceCtorEq, imp_false] at hrefused
    rw [handleRequest]
    split
    next hshort => exact ⟨hinvalid, rfl⟩
    next hlong =>
      split
      next hoperation =>
        split
        next hsize => exact ⟨hinvalid, rfl⟩
        next hsize =>
          rw [writeBuffer, if_pos]
          · exact ⟨hinvalid, rfl⟩
          · by_contra hvalid
            rw [not_or] at hvalid
            have hzero : (readWriteRequest contents).length.toNat ≠ 0 :=
              fun h => hvalid.1 (UInt64.toNat_inj.mp h)
            exact hrefused ⟨not_not.mp hsize, hoperation, Nat.pos_of_ne_zero hzero,
              Nat.le_of_not_gt hvalid.2⟩
      next hoperation => exact ⟨hunsupported, rfl⟩

/-- The payload of a valid write request is pushed. -/
theorem handleRequest_payload {debugLog : DebugLog} (haccepts : debugLog.Accepts)
    {terminal : Terminal} (h : terminal.Holds) {request : RequestArgument} {payload : List UInt8}
    (hpayload : request.payload = some payload) :
    terminal.Wrote (payload.filter isText) (terminal.handleRequest debugLog request) := by
  cases request with
  | null requestSize => cases hpayload
  | bytes contents =>
    simp only [RequestArgument.payload] at hpayload
    split at hpayload
    next hvalid =>
      obtain ⟨hsize, hoperation, hpositive, hmax⟩ := hvalid
      have hnonzero : (readWriteRequest contents).length ≠ 0 := by
        intro h
        rw [show ofLittleEndian ((contents.drop 8).take 8) = 0 from h] at hpositive
        exact absurd hpositive (by decide)
      have hfits : ¬ (readWriteRequest contents).length.toNat > terminalServiceWriteMaxBytes :=
        Nat.not_lt.mpr hmax
      rw [handleRequest, if_neg (by rw [hsize]; decide), readOperation, if_pos hoperation,
        if_neg (not_not.mpr hsize), writeBuffer, if_neg (not_or.mpr ⟨hnonzero, hfits⟩)]
      cases hpayload
      exact writeCharacters_spec haccepts h _
    next hinvalid => cases hpayload

/-- The requests push what they ask to write. -/
theorem serve_spec {debugLog : DebugLog} (haccepts : debugLog.Accepts) {terminal : Terminal}
    (h : terminal.Holds) (requests : List RequestArgument) :
    (terminal.serve debugLog requests).Holds ∧
      (terminal.serve debugLog requests).buffer = (writtenText requests).foldl
        (LineBuffer.push terminalServiceLineCapacity isNewline) terminal.buffer := by
  induction requests generalizing terminal with
  | nil => exact ⟨h, rfl⟩
  | cons request requests ih =>
    rw [serve, List.foldl_cons, ← serve]
    cases hpayload : request.payload with
    | none =>
      rw [(handleRequest_refused debugLog terminal hpayload).2, writtenText,
        List.filterMap_cons_none hpayload]
      exact ih h
    | some payload =>
      obtain ⟨_, hholds, hbuffer⟩ := handleRequest_payload haccepts h hpayload
      rw [writtenText, List.filterMap_cons_some hpayload, List.flatten_cons, List.filter_append,
        List.foldl_append, ← hbuffer]
      exact ih hholds

/-- What the service has logged and what it holds are the pieces of the text of its valid requests,
whatever the requests are. -/
theorem serve_pieces {debugLog : DebugLog} (haccepts : debugLog.Accepts)
    (requests : List RequestArgument) :
    (initial.serve debugLog requests).logged =
        completedLines terminalServiceLineCapacity isNewline (writtenText requests) ∧
      (initial.serve debugLog requests).pending =
        pendingLine terminalServiceLineCapacity isNewline (writtenText requests) := by
  obtain ⟨_, hbuffer⟩ := serve_spec haccepts Holds.initial requests
  have hnil : initial.buffer.pending = [] := by simp [buffer, pending, initial]
  rw [LineBuffer.foldl_push (by decide) _ _ (by simp [hnil]) (by simp [hnil]), hnil,
    List.nil_append] at hbuffer
  exact ⟨congrArg LineBuffer.completed hbuffer, congrArg LineBuffer.pending hbuffer⟩

/-- The terminal service is a line buffer: what it logs and holds depends on the text alone, every
character of the text is in it once and in order, the logged lines have 1 to 95 characters, the
index stays in the buffer, and a malformed request has no effect. -/
theorem serve_lineBuffer {debugLog : DebugLog} (haccepts : debugLog.Accepts)
    (requests : List RequestArgument) :
    let terminal := initial.serve debugLog requests
    terminal.logged =
        completedLines terminalServiceLineCapacity isNewline (writtenText requests) ∧
      terminal.pending =
        pendingLine terminalServiceLineCapacity isNewline (writtenText requests) ∧
      terminal.logged.flatten ++ terminal.pending =
        (writtenText requests).filter (fun character => !isNewline character) ∧
      (∀ line ∈ terminal.logged, 1 ≤ line.length ∧ line.length ≤ 95) ∧
      terminal.lineLength ≤ 95 ∧
      (∀ request, if request.payload.isSome then
          (terminal.handleRequest debugLog request).1 = Status.ok
        else (terminal.handleRequest debugLog request).1 ≠ Status.ok ∧
          (terminal.handleRequest debugLog request).2 = terminal) := by
  obtain ⟨hlogged, hpending⟩ := serve_pieces haccepts requests
  have hholds := (serve_spec haccepts Holds.initial requests).1
  refine ⟨hlogged, hpending, ?_, ?_, hholds.lineLength_le, ?_⟩
  · rw [hlogged, hpending]
    exact flatten_lines (by decide) _
  · intro line hmem
    exact length_of_mem_completedLines (hlogged ▸ hmem)
  · intro request
    cases hpayload : request.payload with
    | none => exact handleRequest_refused debugLog _ hpayload
    | some payload => exact (handleRequest_payload haccepts hholds hpayload).1

/-- A debug log with the bound of the kernel's message buffer. -/
def boundedLog : DebugLog := fun _ line =>
  if line.length < 96 then Status.ok else Status.bufferTooSmall

/-- A write request for a text, as a client lays it out. -/
def writeRequestBytes (text : List UInt8) : List UInt8 :=
  toLittleEndian 8 terminalServiceRpcOperationWriteBuffer ++
    toLittleEndian 8 text.length.toUInt64 ++ text ++
    List.replicate (terminalServiceWriteMaxBytes - text.length) 0

/-- A null request, and `"hi\n"` and `"!"` in one request. -/
theorem serve_hi :
    let terminal := initial.serve boundedLog
      [.null 256, .bytes (writeRequestBytes [104, 105, 10, 33])]
    terminal.logged.flatten ++ terminal.pending = [104, 105, 33] ∧ terminal.lineLength ≤ 95 := by
  have haccepts : DebugLog.Accepts boundedLog := fun _ line hfits _ => by
    rw [boundedLog, if_pos (Nat.lt_succ_of_le hfits)]
  have hbuffer := serve_lineBuffer haccepts
    [.null 256, .bytes (writeRequestBytes [104, 105, 10, 33])]
  exact ⟨hbuffer.2.2.1.trans (by decide +kernel), hbuffer.2.2.2.2.1⟩

end Terminal

end Ringos.Services

import Mathlib.Data.List.TakeWhile
import Ringos.Calls.Names
import Ringos.Calls.UserStrings
import Ringos.Libc.Formatting

/-!
# Printing through the debug log

`vprintf` formats into a buffer of 512 bytes on its stack and hands the buffer to
the kernel, whose own buffer has 96. The status of the call is discarded. A
rendered text is emitted in full exactly if it fits the kernel's buffer and has
no NUL in it.
-/

namespace Ringos.Libc

open Ringos.Core
open Ringos.Kernel
open Ringos.Kernel.UserRuntime

/-- `ringos_debug_log`; `context` holds the other registers of the trap. -/
def ringosDebugLog (arch : Arch) (runtime : UserRuntime) (context : UserSyscallContext)
    (message : UInt64) : Int32 × UserRuntime :=
  if message = 0 then (Status.invalidArgument, runtime)
  else
    runtime.dispatchSyscall arch { context with syscallNumber := 1, argument0 := message }

/-- What `vprintf` returns, `errno`, and the kernel behind it. -/
structure PrintResult where
  value : Int32
  errno : Int32
  runtime : UserRuntime

/-- The stack of a call of `vprintf`: the address and the prior bytes of `buffer`, and user memory
with given bytes stored into it. -/
structure PrintBuffer where
  address : UInt64
  initial : Nat → UInt8
  stores : (Nat → UInt8) → ByteMemory

/-- `vprintf` in the current thread. -/
def vprintf (arch : Arch) (runtime : UserRuntime) (context : UserSyscallContext)
    (strings : Strings) (buffer : PrintBuffer) (errno : Int32) (format : Option CString)
    (arguments : VaList) : Except FormatStop PrintResult := do
  let result ← vsnprintf arch strings errno false buffer.initial ringosStdioLogBufferCapacity
    format arguments
  let runtime := runtime.act arch (.userStores (buffer.stores result.memory))
  if result.value < 0 then return ⟨result.value, result.errno, runtime⟩
  else
    let (_, runtime) := ringosDebugLog arch runtime context buffer.address
    return ⟨result.value, result.errno, runtime⟩

/-- The buffer is mapped memory of the process: what is stored into it can be read back through the
address space. -/
def PrintBuffer.MappedIn (buffer : PrintBuffer) (addressSpaceInfo : AddressSpace) : Prop :=
  buffer.address ≠ 0 ∧ ∀ contents, ∀ offset < ringosStdioLogBufferCapacity,
    ByteAt addressSpaceInfo (buffer.stores contents) (buffer.address + UInt64.ofNat offset)
      (contents offset)

/-- The text that the format renders, cut to what the buffer of `vprintf` holds. -/
def Renders (arch : Arch) (strings : Strings) (format : Option CString) (arguments : VaList)
    (text : List UInt8) : Prop :=
  ∃ characters, format = some characters ∧
    renderOn arch strings characters.directives arguments = .ok text

/-- Whenever `vprintf` returns a value that is not negative, the kernel has logged the rendered text,
cut to 511 characters. -/
def ReportsLostOutput (arch : Arch) (runtime : UserRuntime) (context : UserSyscallContext)
    (strings : Strings) (buffer : PrintBuffer) (errno : Int32) (format : Option CString)
    (arguments : VaList) : Prop :=
  ∀ result, vprintf arch runtime context strings buffer errno format arguments = .ok result →
    0 ≤ result.value →
    ∃ text, Renders arch strings format arguments text ∧
      result.runtime.debugLog = runtime.debugLog ++ [text.take (ringosStdioLogBufferCapacity - 1)]

variable {addressSpaceInfo : AddressSpace} {memory : ByteMemory}

/-- Bytes in memory hold the string in front of their first NUL. -/
theorem stringAt_of_byteAt {userAddress : UInt64} {text : List UInt8}
    (hbytes : ∀ offset < text.length + 1, ByteAt addressSpaceInfo memory
      (userAddress + UInt64.ofNat offset) ((text ++ [0])[offset]?.getD 0)) :
    StringAt addressSpaceInfo memory userAddress (text.takeWhile (· ≠ 0)) := by
  induction text generalizing userAddress with
  | nil => simpa [StringAt] using hbytes 0 (Nat.succ_pos _)
  | cons byte rest ih =>
    have hfirst : ByteAt addressSpaceInfo memory userAddress byte := by
      simpa using hbytes 0 (Nat.succ_pos _)
    by_cases hbyte : byte = 0
    · subst hbyte
      simpa [StringAt] using hfirst
    · rw [List.takeWhile_cons_of_pos (by simpa using hbyte)]
      refine ⟨hbyte, hfirst, ih fun offset hoffset => ?_⟩
      have hnext := hbytes (offset + 1) (Nat.succ_lt_succ hoffset)
      rw [UInt64.ofNat_add, UInt64.add_comm (UInt64.ofNat offset), ← UInt64.add_assoc] at hnext
      simpa using hnext

/-- A string of at least `length` characters has no NUL among the first of them. -/
theorem noNulWithin_of_stringAt {userAddress : UInt64} {name : List UInt8}
    (hname : StringAt addressSpaceInfo memory userAddress name) {length : Nat}
    (hlength : length ≤ name.length) : NoNulWithin addressSpaceInfo memory userAddress length := by
  induction name generalizing userAddress length with
  | nil =>
    rw [Nat.le_zero.mp hlength]
    exact fun i hi => absurd hi (Nat.not_lt_zero i)
  | cons byte rest ih =>
    cases length with
    | zero => exact fun i hi => absurd hi (Nat.not_lt_zero i)
    | succ length =>
      exact noNulWithin_succ.mpr
        ⟨⟨byte, hname.1, hname.2.1⟩, ih hname.2.2 (Nat.le_of_succ_le_succ hlength)⟩

/-- `SYSCALL_DEBUG_LOG` on a string in the process of the thread: it is logged if it fits. -/
theorem debugLogSyscall_debugLog {runtime : UserRuntime} (hbuilt : BuiltSpaces runtime)
    {active : ThreadRef} {context : UserSyscallContext} (hpointer : context.argument0 ≠ 0)
    {message : List UInt8}
    (hmessage : StringAt (runtime.process (runtime.thread active).process).addressSpaceInfo
      runtime.memory context.argument0 message) :
    (runtime.debugLogSyscall active context).2.debugLog =
      if message.length < debugMessageBufferSize then runtime.debugLog ++ [message]
      else runtime.debugLog := by
  rw [debugLogSyscall, if_neg hpointer]
  by_cases hfits : message.length < debugMessageBufferSize
  · obtain ⟨rest, hrest⟩ := padded_eq hfits
    have hnonzero : ∀ character ∈ message, character ≠ 0 := by
      rintro character hmem rfl
      exact hmessage.nulFree hmem
    have hlogged : (padded debugMessageBufferSize message).takeWhile (· ≠ 0) = message := by
      rw [hrest, List.takeWhile_append_of_pos (by simpa using hnonzero)]
      simp
    rw [copyUserString_of_stringAt (hbuilt.process _) hmessage hfits, if_pos hfits]
    simp only [ne_eq, not_true_eq_false, ↓reduceIte] at hlogged ⊢
    rw [hlogged]
  · have hstatus : (copyUserString
        (runtime.process (runtime.thread active).process).addressSpaceInfo runtime.memory
        context.argument0 debugMessageBufferSize).1 = Status.bufferTooSmall := by
      rw [copyUserString_fst]
      exact (copyUserStringLoop_bufferTooSmall (hbuilt.process _)).mpr
        (noNulWithin_of_stringAt hmessage (Nat.le_of_not_lt hfits))
    rw [if_neg hfits]
    simp only [hstatus]
    rw [if_pos (by decide)]

/-- The same through the dispatch of the current thread's trap. -/
theorem ringosDebugLog_debugLog (arch : Arch) {runtime : UserRuntime} (hbuilt : BuiltSpaces runtime)
    {active : ThreadRef} (hcurrent : runtime.currentThread = some active)
    (context : UserSyscallContext) {address : UInt64} (haddress : address ≠ 0)
    {message : List UInt8}
    (hmessage : StringAt (runtime.process (runtime.thread active).process).addressSpaceInfo
      runtime.memory address message) :
    (ringosDebugLog arch runtime context address).2.debugLog =
      if message.length < debugMessageBufferSize then runtime.debugLog ++ [message]
      else runtime.debugLog := by
  have hprocess (trap : UserSyscallContext) :
      ((runtime.enterSyscall active trap).thread active).process =
        (runtime.thread active).process :=
    thread_enterSyscall_keeps Thread.process (fun _ _ => rfl) active
  rw [ringosDebugLog, if_neg haddress, dispatchSyscall, hcurrent]
  exact @debugLogSyscall_debugLog (runtime.enterSyscall active _) hbuilt active _ haddress message
    (by rw [hprocess]; exact hmessage)

/-- The string that the kernel finds in the buffer of `vprintf`. -/
theorem PrintBuffer.MappedIn.stringAt {buffer : PrintBuffer} (hmapped : buffer.MappedIn addressSpaceInfo)
    (text : List UInt8) :
    StringAt addressSpaceInfo
      (buffer.stores (Output.stored buffer.initial ringosStdioLogBufferCapacity text))
      buffer.address ((text.take (ringosStdioLogBufferCapacity - 1)).takeWhile (· ≠ 0)) := by
  refine stringAt_of_byteAt fun offset hoffset => ?_
  have hcapacity : ringosStdioLogBufferCapacity = 512 := rfl
  have hcut := List.length_take_le (ringosStdioLogBufferCapacity - 1) text
  have hlength : offset < (text.take (ringosStdioLogBufferCapacity - 1) ++ [0]).length := by
    rw [List.length_append, List.length_singleton]
    exact hoffset
  have hcontents : Output.stored buffer.initial ringosStdioLogBufferCapacity text offset =
      (text.take (ringosStdioLogBufferCapacity - 1) ++ [0])[offset]?.getD 0 := by
    rw [Output.stored, if_neg (by decide)]
    simp only [List.getElem?_eq_getElem hlength, Option.getD_some]
  rw [← hcontents]
  exact hmapped.2 _ offset (by omega)

/-- What `vprintf` does with a rendered text. -/
theorem vprintf_eq {arch : Arch} {runtime : UserRuntime} {context : UserSyscallContext}
    {strings : Strings} {buffer : PrintBuffer} {errno : Int32} {format : CString}
    {arguments : VaList} {text : List UInt8}
    (htext : renderOn arch strings format.directives arguments = .ok text) :
    let stored := runtime.act arch (.userStores
      (buffer.stores (Output.stored buffer.initial ringosStdioLogBufferCapacity text)))
    vprintf arch runtime context strings buffer errno (some format) arguments =
      .ok ⟨Int32.ofNat text.length, errno,
        if Int32.ofNat text.length < 0 then stored
        else (ringosDebugLog arch stored context buffer.address).2⟩ := by
  have hbuffer : ¬ (false = true ∧ ringosStdioLogBufferCapacity ≠ 0) := by simp
  simp only [vprintf, vsnprintf_eq hbuffer, htext, Except.map, bind, Except.bind]
  split <;> rfl

/-- A text is emitted in full exactly if it fits and has no NUL. -/
theorem logged_iff {logged : List (List UInt8)} (text : List UInt8) :
    (if ((text.take (ringosStdioLogBufferCapacity - 1)).takeWhile (· ≠ 0)).length <
          debugMessageBufferSize then
        logged ++ [(text.take (ringosStdioLogBufferCapacity - 1)).takeWhile (· ≠ 0)]
      else logged) = logged ++ [text.take (ringosStdioLogBufferCapacity - 1)] ↔
      text.length ≤ 95 ∧ 0 ∉ text := by
  have hcapacity : ringosStdioLogBufferCapacity = 512 := rfl
  have hsize : debugMessageBufferSize = 96 := rfl
  constructor
  · intro h
    split at h
    next hfits =>
      have hwhole := List.singleton_inj.mp (List.append_cancel_left h)
      rw [hwhole, List.length_take] at hfits
      have hcut : text.take (ringosStdioLogBufferCapacity - 1) = text :=
        List.take_of_length_le (by omega)
      rw [hcut, List.takeWhile_eq_self_iff] at hwhole
      refine ⟨by omega, fun hzero => ?_⟩
      simpa using hwhole 0 hzero
    next hlong => exact absurd h (by simp)
  · rintro ⟨hfits, hnulFree⟩
    have hcut : text.take (ringosStdioLogBufferCapacity - 1) = text :=
      List.take_of_length_le (by omega)
    have hwhole : text.takeWhile (· ≠ 0) = text := by
      rw [List.takeWhile_eq_self_iff]
      intro character hmem
      have hne : character ≠ 0 := fun hzero => hnulFree (hzero ▸ hmem)
      simpa using hne
    rw [hcut, hwhole, if_pos (by omega)]

/-- Of a rendered text no output is lost unnoticed if it has at most 95 characters and no NUL, or if
its length is negative as an `int`. -/
theorem reportsLostOutput_of_text {arch : Arch} {runtime : UserRuntime}
    (hbuilt : BuiltSpaces runtime) {active : ThreadRef}
    (hcurrent : runtime.currentThread = some active) {context : UserSyscallContext}
    {strings : Strings} {buffer : PrintBuffer}
    (hmapped : buffer.MappedIn (runtime.process (runtime.thread active).process).addressSpaceInfo)
    {errno : Int32} {format : CString} {arguments : VaList} {text : List UInt8}
    (htext : renderOn arch strings format.directives arguments = .ok text) :
    ReportsLostOutput arch runtime context strings buffer errno (some format) arguments ↔
      (0 ≤ Int32.ofNat text.length → text.length ≤ 95 ∧ 0 ∉ text) := by
  have hrenders (other : List UInt8) :
      Renders arch strings (some format) arguments other ↔ text = other := by
    constructor
    · rintro ⟨_, hformat, hrendered⟩
      cases hformat
      exact Except.ok.inj (htext.symm.trans hrendered)
    · rintro rfl
      exact ⟨format, rfl, htext⟩
  simp only [ReportsLostOutput, hrenders, vprintf_eq htext, Except.ok.injEq, forall_eq',
    exists_eq_left']
  refine forall_congr' fun hvalue => ?_
  have hlog := @ringosDebugLog_debugLog arch
    (runtime.act arch (.userStores (buffer.stores
      (Output.stored buffer.initial ringosStdioLogBufferCapacity text)))) hbuilt active hcurrent
    context _ hmapped.1 _ (hmapped.stringAt text)
  rw [if_neg (Int32.not_lt.mpr hvalue), hlog]
  exact logged_iff text

/-- `vprintf` reports lost output exactly if the text has at most 95 characters and no NUL; a text
whose length is negative as an `int` is reported as an error. -/
theorem reportsLostOutput_iff (arch : Arch) {runtime : UserRuntime} (hbuilt : BuiltSpaces runtime)
    {active : ThreadRef} (hcurrent : runtime.currentThread = some active)
    (context : UserSyscallContext) (strings : Strings) {buffer : PrintBuffer}
    (hmapped : buffer.MappedIn (runtime.process (runtime.thread active).process).addressSpaceInfo)
    (errno : Int32) (format : Option CString) (arguments : VaList) :
    ReportsLostOutput arch runtime context strings buffer errno format arguments ↔
      ∀ text, Renders arch strings format arguments text →
        0 ≤ Int32.ofNat text.length → text.length ≤ 95 ∧ 0 ∉ text := by
  cases format with
  | none =>
    refine iff_of_true ?_ ?_
    · rintro result hprint hvalue
      cases hprint
      have hnegative : ¬ (0 : Int32) ≤ -1 := by decide
      exact absurd hvalue hnegative
    · rintro text ⟨characters, hformat, _⟩
      cases hformat
  | some characters =>
    cases htext : renderOn arch strings characters.directives arguments with
    | error stop =>
      refine iff_of_true ?_ ?_
      · intro result hprint
        rw [vprintf, vsnprintf_eq (by simp), htext] at hprint
        cases hprint
      · rintro text ⟨_, hformat, hrendered⟩
        cases hformat
        rw [htext] at hrendered
        cases hrendered
    | ok text =>
      rw [reportsLostOutput_of_text hbuilt hcurrent hmapped htext]
      constructor
      · rintro h other ⟨_, hformat, hrendered⟩
        cases hformat
        cases htext.symm.trans hrendered
        exact h
      · exact fun h => h text ⟨characters, rfl, htext⟩

/-- A stack buffer in the page of the booted process. -/
def bootBuffer : PrintBuffer where
  address := 0x1800
  initial := fun _ => 0
  stores := fun contents host => contents (host - 0x1800).toNat

theorem bootBuffer_mappedIn : bootBuffer.MappedIn
    ((bootStarted 1).process ((bootStarted 1).thread 0).process).addressSpaceInfo := by
  have hspace : ((bootStarted 1).process ((bootStarted 1).thread 0).process).addressSpaceInfo =
      ⟨0, [⟨0x1000, 0x1000, 0x1000⟩]⟩ := by decide +kernel
  rw [hspace]
  refine ⟨by decide, fun contents offset hoffset => ?_⟩
  have hcapacity : ringosStdioLogBufferCapacity = 512 := rfl
  have hnat : (UInt64.ofNat offset).toNat = offset := UInt64.toNat_ofNat_of_lt' (by
    rw [UInt64.size]
    omega)
  have haddress : (0x1800 + UInt64.ofNat offset).toNat = 0x1800 + offset := by
    rw [UInt64.toNat_add, hnat, show (0x1800 : UInt64).toNat = 0x1800 from rfl]
    omega
  refine ⟨0x1800 + UInt64.ofNat offset, ⟨_, List.mem_singleton.mpr rfl, by decide, ?_, ?_, ?_⟩, ?_⟩
  · simp only [bootBuffer, haddress, show (0x1000 : UInt64).toNat = 0x1000 from rfl]
    omega
  · simp only [bootBuffer, haddress, show (0x1000 : UInt64).toNat = 0x1000 from rfl]
    omega
  · simp only [bootBuffer, haddress, show (0x1000 : UInt64).toNat = 0x1000 from rfl]
    omega
  · have hoffset : (0x1800 + UInt64.ofNat offset - 0x1800).toNat = offset := by
      rw [UInt64.toNat_sub, haddress, show (0x1800 : UInt64).toNat = 0x1800 from rfl]
      omega
    simp only [bootBuffer, hoffset]

/-- `printf("hi")`. -/
theorem hi_reportsLostOutput :
    ReportsLostOutput .x64 (bootStarted 1) default (fun _ => none) bootBuffer 0
      (some ⟨[104, 105], by decide⟩) [] := by
  have hcurrent : (bootStarted 1).currentThread = some 0 := by decide +kernel
  refine (reportsLostOutput_iff .x64 (bootStarted_builtSpaces 1) hcurrent default (fun _ => none)
    bootBuffer_mappedIn 0 (some ⟨[104, 105], by decide⟩) []).mpr ?_
  rintro text ⟨_, hformat, hrendered⟩ _
  cases hformat
  cases hrendered
  decide

/-- A line of 96 characters. -/
def longLine : CString := ⟨List.replicate 96 97, by decide⟩

/-- `printf` of the line returns 96, and nothing is logged. -/
theorem longLine_not_reportsLostOutput :
    ¬ ReportsLostOutput .x64 (bootStarted 1) default (fun _ => none) bootBuffer 0
      (some longLine) [] := by
  have hcurrent : (bootStarted 1).currentThread = some 0 := by decide +kernel
  have htext : renderOn .x64 (fun _ => none) longLine.directives [] =
      .ok (List.replicate 96 97) := by decide +kernel
  rw [reportsLostOutput_of_text (bootStarted_builtSpaces 1) hcurrent bootBuffer_mappedIn htext]
  decide

end Ringos.Libc

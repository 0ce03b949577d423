import Ringos.Libc.Formatting

/-!
# Which argument a conversion renders

On x64 the n-th conversion renders the n-th argument. On arm64 an integer
conversion reads its argument through a copy of the `va_list`, so the next
conversion reads the same argument again; only the last conversion may be one.
-/

namespace Ringos.Libc

open Ringos.Kernel

/-- The slot holds the value as an argument of the type that the conversion reads on the target. -/
def Conversion.Holds (arch : Arch) (strings : Strings) (value slot : UInt64) : Conversion → Prop
  | char => slot.toUInt8 = value.toUInt8
  | string => slot = value ∧ (value = 0 ∨ (strings value).isSome)
  | conversion => conversion.valueOf arch slot = value

/-- The slots hold the values that match the conversions. -/
inductive Passed (arch : Arch) (strings : Strings) :
    List Conversion → (values : List UInt64) → VaList → Prop
  | nil : Passed arch strings [] [] []
  | cons {conversion : Conversion} {conversions : List Conversion} {value slot : UInt64}
      {values : List UInt64} {slots : VaList} :
      conversion.Holds arch strings value slot → Passed arch strings conversions values slots →
      Passed arch strings (conversion :: conversions) (value :: values) (slot :: slots)

/-- For every argument list that matches the format, on both targets and into every buffer, the
text that is formatted is the one in which the n-th conversion renders the n-th argument. -/
def FormatsInOrder (format : CString) : Prop :=
  ∀ (arch : Arch) (strings : Strings) (errno : Int32) (bufferIsNull : Bool)
    (memory : Nat → UInt8) (bufferSize : Nat) (values : List UInt64) (slots : VaList),
    ¬ (bufferIsNull ∧ bufferSize ≠ 0) →
    Passed arch strings (conversions format.directives) values slots →
    ∃ text, render strings format.directives values = .ok text ∧
      vsnprintf arch strings errno bufferIsNull memory bufferSize (some format) slots =
        .ok ⟨Int32.ofNat text.length, Output.stored memory bufferSize text, errno⟩

/-- A conversion renders the value that its slot holds. -/
theorem Conversion.Holds.render {arch : Arch} {strings : Strings} {value slot : UInt64}
    {conversion : Conversion} (h : conversion.Holds arch strings value slot) :
    ∃ text, conversion.render strings value = .ok text ∧
      conversion.render strings (conversion.valueOf arch slot) = .ok text := by
  cases conversion with
  | char => exact ⟨[value.toUInt8], rfl, congrArg (fun character => Except.ok [character]) h⟩
  | signed length => exact ⟨_, rfl, by rw [show _ = value from h]; rfl⟩
  | pointer => exact ⟨_, rfl, by rw [show _ = value from h]; rfl⟩
  | unsigned length radix => exact ⟨_, rfl, by rw [show _ = value from h]; rfl⟩
  | string =>
    obtain ⟨rfl, hread⟩ := h
    have hvalue : Conversion.string.valueOf arch slot = slot := rfl
    rw [hvalue, Conversion.render, Output.renderString]
    split
    next hnull => exact ⟨_, rfl, rfl⟩
    next hpointer =>
      obtain ⟨string, hstring⟩ := Option.isSome_iff_exists.mp (hread.resolve_left hpointer)
      rw [hstring]
      exact ⟨_, rfl, rfl⟩

@[simp] theorem conversions_literal (text : List UInt8) (directives : List Directive) :
    conversions (.literal text :: directives) = conversions directives := rfl

@[simp] theorem conversions_conversion (conversion : Conversion) (directives : List Directive) :
    conversions (.conversion conversion :: directives) = conversion :: conversions directives := rfl

/-- Text without conversions does not depend on the arguments. -/
theorem renderOn_of_conversions_nil {arch : Arch} {strings : Strings} {directives : List Directive}
    (hnil : conversions directives = []) (values : List UInt64) (slots : VaList) :
    ∃ text, render strings directives values = .ok text ∧
      renderOn arch strings directives slots = .ok text := by
  induction directives with
  | nil => exact ⟨[], rfl, rfl⟩
  | cons directive directives ih =>
    cases directive with
    | literal text =>
      obtain ⟨rest, hrender, hrenderOn⟩ := ih hnil
      exact ⟨text ++ rest, by rw [render_literal, hrender]; rfl,
        by rw [renderOn_literal, hrenderOn]; rfl⟩
    | conversion conversion => cases hnil

/-- Where only the last conversion may have its argument read by another function, or that function
works on the caller's `va_list`, every conversion renders its own argument. -/
theorem renderOn_eq {arch : Arch} {strings : Strings} {directives : List Directive}
    {values : List UInt64} {slots : VaList}
    (hpassed : Passed arch strings (conversions directives) values slots)
    (horder : arch = .arm64 → ∀ c ∈ (conversions directives).dropLast, c.isInteger = false) :
    ∃ text, render strings directives values = .ok text ∧
      renderOn arch strings directives slots = .ok text := by
  induction directives generalizing values slots with
  | nil => exact ⟨[], rfl, rfl⟩
  | cons directive directives ih =>
    cases directive with
    | literal text =>
      obtain ⟨rest, hrender, hrenderOn⟩ := ih hpassed horder
      exact ⟨text ++ rest, by rw [render_literal, hrender]; rfl,
        by rw [renderOn_literal, hrenderOn]; rfl⟩
    | conversion conversion =>
      rw [conversions_conversion] at hpassed horder
      cases hpassed with
      | cons hholds hrest =>
        rename_i value slot values slots
        obtain ⟨text, hvalue, hslot⟩ := hholds.render
        rw [render_conversion hvalue, renderOn_conversion hslot]
        have hfollowing : ∃ rest, render strings directives values = .ok rest ∧
            renderOn arch strings directives
              (if conversion.isInteger then afterCall arch (slot :: slots) slots else slots) =
              .ok rest := by
          rcases hlast : conversions directives with _ | ⟨next, others⟩
          · exact renderOn_of_conversions_nil hlast _ _
          · have hslots : (if conversion.isInteger then afterCall arch (slot :: slots) slots
                else slots) = slots := by
              cases arch with
              | x64 => exact ite_self slots
              | arm64 =>
                have hdirect := horder rfl conversion (by rw [hlast]; exact List.mem_cons_self)
                rw [hdirect, if_neg Bool.false_ne_true]
            rw [hslots]
            refine ih hrest fun harch c hc => horder harch c ?_
            rw [hlast] at hc ⊢
            exact List.mem_cons_of_mem _ hc
        obtain ⟨rest, hrender, hrenderOn⟩ := hfollowing
        exact ⟨text ++ rest, by rw [hrender]; rfl, by rw [hrenderOn]; rfl⟩

/-- Two texts that differ where both have a character. -/
def Differ (left right : List UInt8) : Prop :=
  ∃ position, position < left.length ∧ position < right.length ∧
    left[position]? ≠ right[position]?

theorem Differ.append_left {left right : List UInt8} (h : Differ left right) (front : List UInt8) :
    Differ (front ++ left) (front ++ right) := by
  obtain ⟨position, hleft, hright, hne⟩ := h
  refine ⟨front.length + position, ?_, ?_, ?_⟩
  · rw [List.length_append]
    omega
  · rw [List.length_append]
    omega
  · rwa [List.getElem?_append_right (Nat.le_add_right _ _),
      List.getElem?_append_right (Nat.le_add_right _ _), Nat.add_sub_cancel_left]

/-- Texts that differ are told apart in a buffer with room for both. -/
theorem Differ.stored_ne {left right : List UInt8} (h : Differ left right)
    (memory : Nat → UInt8) :
    Output.stored memory (left.length + right.length + 1) left ≠
      Output.stored memory (left.length + right.length + 1) right := by
  obtain ⟨position, hleft, hright, hne⟩ := h
  intro heq
  have hat := congrFun heq position
  simp only [Output.stored, Nat.succ_ne_zero, ↓reduceIte, Nat.add_sub_cancel] at hat
  rw [List.take_of_length_le (by omega), List.take_of_length_le (by omega),
    List.getElem?_append_left hleft, List.getElem?_append_left hright,
    List.getElem?_eq_getElem hleft, List.getElem?_eq_getElem hright] at hat
  rw [List.getElem?_eq_getElem hleft, List.getElem?_eq_getElem hright] at hne
  exact hne (congrArg some hat)

/-- The strings `"1"` and `"2"`. -/
def sampleStrings : Strings := fun address => some
  (if address = 1 then ⟨[49], by decide⟩ else ⟨[50], by decide⟩)

/-- The values 1 and 2 fit every conversion, and are rendered as texts that differ. -/
theorem sample_holds (conversion : Conversion) :
    conversion.Holds .arm64 sampleStrings 1 1 ∧ conversion.Holds .arm64 sampleStrings 2 2 := by
  cases conversion with
  | char => exact ⟨rfl, rfl⟩
  | signed length => cases length <;> exact ⟨rfl, rfl⟩
  | pointer => exact ⟨rfl, rfl⟩
  | string => exact ⟨⟨rfl, .inr rfl⟩, ⟨rfl, .inr rfl⟩⟩
  | unsigned length radix => cases length <;> exact ⟨rfl, rfl⟩

theorem sample_render (conversion : Conversion) :
    ∃ front left right, left ≠ right ∧
      conversion.render sampleStrings (conversion.valueOf .arm64 1) = .ok (front ++ [left]) ∧
      conversion.render sampleStrings 2 = .ok (front ++ [right]) := by
  cases conversion with
  | char => exact ⟨[], 1, 2, by decide, rfl, rfl⟩
  | signed length => cases length <;> exact ⟨[], 49, 50, by decide, by rfl, by rfl⟩
  | pointer => exact ⟨[48, 120], 49, 50, by decide, by rfl, by rfl⟩
  | string => exact ⟨[], 49, 50, by decide, by rfl, by rfl⟩
  | unsigned length radix =>
    cases length <;> cases radix <;> exact ⟨[], 49, 50, by decide, by rfl, by rfl⟩

theorem sample_renders (conversion : Conversion) (value : UInt64) :
    ∃ text, conversion.render sampleStrings value = .ok text := by
  cases conversion with
  | string =>
    rw [Conversion.render, Output.renderString]
    split
    next hnull => exact ⟨_, rfl⟩
    next hpointer => exact ⟨_, rfl⟩
  | _ => exact ⟨_, rfl⟩

/-- With enough arguments, formatting does not run out of them. -/
theorem sample_render_ok {directives : List Directive} {values : List UInt64}
    (henough : (conversions directives).length ≤ values.length) :
    ∃ text, render sampleStrings directives values = .ok text := by
  induction directives generalizing values with
  | nil => exact ⟨[], rfl⟩
  | cons directive directives ih =>
    cases directive with
    | literal text =>
      obtain ⟨rest, hrest⟩ := ih henough
      exact ⟨text ++ rest, by rw [render_literal, hrest]; rfl⟩
    | conversion conversion =>
      cases values with
      | nil => cases henough
      | cons value values =>
        obtain ⟨text, htext⟩ := sample_renders conversion value
        obtain ⟨rest, hrest⟩ := ih (Nat.le_of_succ_le_succ henough)
        exact ⟨text ++ rest, by rw [render_conversion htext, hrest]; rfl⟩

theorem sample_renderOn_ok {directives : List Directive} {slots : VaList}
    (henough : (conversions directives).length ≤ slots.length) :
    ∃ text, renderOn .arm64 sampleStrings directives slots = .ok text := by
  induction directives generalizing slots with
  | nil => exact ⟨[], rfl⟩
  | cons directive directives ih =>
    cases directive with
    | literal text =>
      obtain ⟨rest, hrest⟩ := ih henough
      exact ⟨text ++ rest, by rw [renderOn_literal, hrest]; rfl⟩
    | conversion conversion =>
      cases slots with
      | nil => cases henough
      | cons slot slots =>
        obtain ⟨text, htext⟩ := sample_renders conversion (conversion.valueOf .arm64 slot)
        have hshort : (conversions directives).length ≤ slots.length :=
          Nat.le_of_succ_le_succ henough
        have hslots : (conversions directives).length ≤
            (if conversion.isInteger then slot :: slots else slots).length := by
          split
          exacts [Nat.le_succ_of_le hshort, hshort]
        obtain ⟨rest, hrest⟩ := ih hslots
        exact ⟨text ++ rest, by rw [renderOn_conversion htext, afterCall, hrest]; rfl⟩

/-- The text of a target and the text in order, for arguments that tell them apart. -/
def ToldApart (directives : List Directive) (slots : VaList) (values : List UInt64) : Prop :=
  ∃ text ordered, renderOn .arm64 sampleStrings directives slots = .ok text ∧
    render sampleStrings directives values = .ok ordered ∧ Differ text ordered

theorem ToldApart.literal {directives : List Directive} {slots : VaList} {values : List UInt64}
    (h : ToldApart directives slots values) (front : List UInt8) :
    ToldApart (.literal front :: directives) slots values := by
  obtain ⟨text, ordered, htext, hordered, hdiffer⟩ := h
  exact ⟨front ++ text, front ++ ordered, by rw [renderOn_literal, htext]; rfl,
    by rw [render_literal, hordered]; rfl, hdiffer.append_left front⟩

/-- A first conversion that is given 1 in place of 2 shows it. -/
theorem toldApart_first {directives : List Directive} (hne : conversions directives ≠ [])
    {slots : VaList} {values : List UInt64}
    (hslots : (conversions directives).length ≤ slots.length + 1)
    (hvalues : (conversions directives).length ≤ values.length + 1) :
    ToldApart directives (1 :: slots) (2 :: values) := by
  induction directives with
  | nil => exact absurd rfl hne
  | cons directive directives ih =>
    cases directive with
    | literal text => exact (ih hne hslots hvalues).literal text
    | conversion conversion =>
      rw [conversions_conversion, List.length_cons] at hslots hvalues
      obtain ⟨front, left, right, hneq, hleft, hright⟩ := sample_render conversion
      have hleftOver : (conversions directives).length ≤
          (if conversion.isInteger then 1 :: slots else slots).length := by
        split
        exacts [Nat.le_of_succ_le_succ (Nat.le_succ_of_le hslots), Nat.le_of_succ_le_succ hslots]
      have henough : (conversions directives).length ≤ values.length := by omega
      obtain ⟨text, htext⟩ := sample_renderOn_ok hleftOver
      obtain ⟨ordered, hordered⟩ := sample_render_ok henough
      refine ⟨front ++ [left] ++ text, front ++ [right] ++ ordered,
        by rw [renderOn_conversion hleft, afterCall, htext]; rfl,
        by rw [render_conversion hright, hordered]; rfl, ?_⟩
      rw [List.append_assoc, List.append_assoc]
      refine Differ.append_left ⟨0, ?_, ?_, ?_⟩ front
      · simp
      · simp
      · simpa using hneq

/-- If an integer conversion is not the last one, some matching arguments tell the texts apart. -/
theorem exists_toldApart {directives : List Directive}
    (hinteger : ∃ c ∈ (conversions directives).dropLast, c.isInteger = true) :
    ∃ values, Passed .arm64 sampleStrings (conversions directives) values values ∧
      ToldApart directives values values := by
  have htwos (conversions : List Conversion) : Passed .arm64 sampleStrings conversions
      (List.replicate conversions.length 2) (List.replicate conversions.length 2) := by
    induction conversions with
    | nil => exact .nil
    | cons conversion conversions ih => exact .cons (sample_holds conversion).2 ih
  induction directives with
  | nil =>
    obtain ⟨c, hc, _⟩ := hinteger
    cases hc
  | cons directive directives ih =>
    cases directive with
    | literal text =>
      obtain ⟨values, hpassed, htold⟩ := ih hinteger
      exact ⟨values, hpassed, htold.literal text⟩
    | conversion conversion =>
      rw [conversions_conversion] at hinteger ⊢
      have hmore : conversions directives ≠ [] := by
        intro hnil
        obtain ⟨c, hc, _⟩ := hinteger
        rw [hnil] at hc
        cases hc
      rcases hkind : conversion.isInteger with _ | _
      · obtain ⟨c, hc, hcinteger⟩ := hinteger
        rw [List.dropLast_cons_of_ne_nil hmore] at hc
        rcases List.mem_cons.mp hc with rfl | hc
        · rw [hkind] at hcinteger
          cases hcinteger
        · obtain ⟨values, hpassed, text, ordered, htext, hordered, hdiffer⟩ := ih ⟨c, hc, hcinteger⟩
          obtain ⟨front, hvalue, hslot⟩ := (sample_holds conversion).1.render
          refine ⟨1 :: values, .cons (sample_holds conversion).1 hpassed, front ++ text,
            front ++ ordered, ?_, by rw [render_conversion hvalue, hordered]; rfl,
            hdiffer.append_left front⟩
          rw [renderOn_conversion hslot, hkind, if_neg Bool.false_ne_true, htext]
          rfl
      · -- the next conversion reads the argument of this one
        obtain ⟨text, ordered, htext, hordered, hdiffer⟩ := @toldApart_first directives hmore
          (List.replicate (conversions directives).length 2)
          (List.replicate ((conversions directives).length - 1) 2) (by simp) (by simp; omega)
        obtain ⟨front, hvalue, hslot⟩ := (sample_holds conversion).1.render
        have hreplicate : List.replicate (conversions directives).length (2 : UInt64) =
            2 :: List.replicate ((conversions directives).length - 1) 2 := by
          have hpos := List.length_pos_iff.mpr hmore
          rw [← List.replicate_succ, Nat.sub_add_cancel hpos]
        refine ⟨1 :: List.replicate (conversions directives).length 2,
          .cons (sample_holds conversion).1 (htwos _), front ++ text, front ++ ordered, ?_, ?_,
          hdiffer.append_left front⟩
        · rw [renderOn_conversion hslot, hkind, if_pos rfl, afterCall, htext]
          rfl
        · rw [render_conversion hvalue, hreplicate, hordered]
          rfl

/-- `vsnprintf` renders the n-th argument for the n-th conversion on both targets, whatever the
arguments are, exactly if no integer conversion of the format is followed by another conversion. -/
theorem formatsInOrder_iff (format : CString) :
    FormatsInOrder format ↔
      ∀ c ∈ (conversions format.directives).dropLast, c.isInteger = false := by
  constructor
  · intro horder
    by_contra hlast
    have hinteger : ∃ c ∈ (conversions format.directives).dropLast, c.isInteger = true := by
      simpa using hlast
    obtain ⟨values, hpassed, text, ordered, htext, hordered, hdiffer⟩ := exists_toldApart hinteger
    obtain ⟨rendered, hrendered, hformatted⟩ := horder .arm64 sampleStrings 0 false (fun _ => 0)
      (text.length + ordered.length + 1) values values (by simp) hpassed
    rw [vsnprintf_eq (by simp), htext] at hformatted
    obtain rfl : ordered = rendered := Except.ok.inj (hordered.symm.trans hrendered)
    have hmemory := congrArg FormatResult.memory (Except.ok.inj hformatted)
    exact hdiffer.stored_ne (fun _ => 0) hmemory
  · intro hlast arch strings errno bufferIsNull memory bufferSize values slots hbuffer hpassed
    obtain ⟨text, hrender, hrenderOn⟩ := renderOn_eq hpassed fun _ => hlast
    exact ⟨text, hrender, by rw [vsnprintf_eq hbuffer, hrenderOn]; rfl⟩

/-- `"%d%d"`. -/
def twoIntegers : CString := ⟨[37, 100, 37, 100], by decide⟩

/-- With the arguments 1 and 2, arm64 formats `"11"` where x64 formats `"12"`. -/
theorem twoIntegers_not_inOrder : ¬ FormatsInOrder twoIntegers := by
  intro horder
  obtain ⟨text, hrender, hformatted⟩ := horder .arm64 sampleStrings 0 false (fun _ => 0) 3 [1, 2]
    [1, 2] (by simp) (.cons rfl (.cons rfl .nil))
  obtain rfl : [49, 50] = text := Except.ok.inj hrender
  have hsecond : (vsnprintf .arm64 sampleStrings 0 false (fun _ => 0) 3 (some twoIntegers)
      [1, 2]).map (fun result => result.memory 1) = .ok 49 := by rfl
  rw [hformatted] at hsecond
  exact absurd (Except.ok.inj hsecond) (by decide)

end Ringos.Libc

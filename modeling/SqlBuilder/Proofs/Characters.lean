import SqlBuilder.Text.Basic

/-!
Texts by their characters: blanks at the ends, which trimming takes away, and digits, which are
read up to the first character that is none.
-/

namespace SqlBuilder.Text

/-! ### Trimmed texts -/

theorem trim_start_of_head {chars : List Char} (h : ∀ c ∈ chars.head?, isBlank c = false) :
    trimStart chars = chars := by
  cases chars with
  | nil => rfl
  | cons c rest =>
    unfold trimStart
    rw [List.dropWhile_cons_of_neg (by simp [h c rfl])]

theorem trim_start_head (chars : List Char) : ∀ c ∈ (trimStart chars).head?, isBlank c = false := by
  intro c hc
  have hnot := List.head?_dropWhile_not isBlank chars
  unfold trimStart at hc
  rw [hc] at hnot
  exact hnot

/-- What is cut off at the end of a text. -/
theorem trim_end_append (chars : List Char) :
    ∃ rear, chars = (trimStart chars.reverse).reverse ++ rear := by
  refine ⟨(chars.reverse.takeWhile isBlank).reverse, ?_⟩
  unfold trimStart
  rw [← List.reverse_append, List.takeWhile_append_dropWhile, List.reverse_reverse]

theorem trim_chars_part (chars : List Char) :
    ∃ front rear, chars = front ++ (trimChars chars ++ rear) := by
  obtain ⟨rear, hr⟩ := trim_end_append (trimStart chars)
  refine ⟨chars.takeWhile isBlank, rear, ?_⟩
  unfold trimChars
  rw [← hr]
  exact List.takeWhile_append_dropWhile.symm

/-- Only blanks are cut off. -/
theorem mem_trim_start {c : Char} (h : isBlank c = false) {chars : List Char} :
    c ∈ trimStart chars ↔ c ∈ chars := by
  refine ⟨fun hc => (List.dropWhile_sublist _).mem hc, fun hc => ?_⟩
  rw [← List.takeWhile_append_dropWhile (p := isBlank) (l := chars), List.mem_append] at hc
  refine hc.resolve_left fun hb => ?_
  rw [List.all_eq_true.mp List.all_takeWhile c hb] at h
  cases h

theorem mem_trim_chars {c : Char} (h : isBlank c = false) {chars : List Char} :
    c ∈ trimChars chars ↔ c ∈ chars := by
  rw [trimChars, List.mem_reverse, mem_trim_start h, List.mem_reverse, mem_trim_start h]

/-- What has no blank at either end is left as it is. -/
theorem trim_chars_of_ends {chars : List Char} (first : ∀ c ∈ chars.head?, isBlank c = false)
    (last : ∀ c ∈ chars.getLast?, isBlank c = false) : trimChars chars = chars := by
  have hrear : trimStart chars.reverse = chars.reverse := by
    apply trim_start_of_head
    rw [List.head?_reverse]
    exact last
  rw [trimChars, trim_start_of_head first, hrear, List.reverse_reverse]

theorem trim_chars_first (chars : List Char) :
    ∀ c ∈ (trimChars chars).head?, isBlank c = false := by
  obtain ⟨rear, hr⟩ := trim_end_append (trimStart chars)
  intro c hc
  apply trim_start_head chars c
  rw [hr, Option.mem_def, List.head?_append]
  unfold trimChars at hc
  rw [hc]
  rfl

theorem trim_chars_last (chars : List Char) :
    ∀ c ∈ (trimChars chars).getLast?, isBlank c = false := by
  unfold trimChars
  rw [List.getLast?_reverse]
  exact trim_start_head _

theorem trim_chars_trim (chars : List Char) : trimChars (trimChars chars) = trimChars chars :=
  trim_chars_of_ends (trim_chars_first chars) (trim_chars_last chars)

theorem trim_trim (text : String) : trim (trim text) = trim text := by
  unfold trim
  rw [String.toList_ofList, trim_chars_trim]

/-- The text has a first and a last character, and neither is a blank. -/
structure Tight (text : String) : Prop where
  first : ∃ c, text.toList.head? = some c ∧ isBlank c = false
  last : ∃ c, text.toList.getLast? = some c ∧ isBlank c = false

theorem Tight.trim_eq {text : String} (h : Tight text) : trim text = text := by
  obtain ⟨c, hc, hfirst⟩ := h.first
  obtain ⟨d, hd, hlast⟩ := h.last
  rw [trim, trim_chars_of_ends (by simpa [hc] using hfirst) (by simpa [hd] using hlast),
    String.ofList_toList]

/-- What stands between the two ends does not matter. -/
theorem Tight.append {x y : String} (hx : Tight x) (middle : String) (hy : Tight y) :
    Tight (x ++ middle ++ y) := by
  obtain ⟨c, hc, hfirst⟩ := hx.first
  obtain ⟨d, hd, hlast⟩ := hy.last
  constructor
  · exact ⟨c, by simp [List.head?_append, hc], hfirst⟩
  · exact ⟨d, by simp [List.getLast?_append, hd], hlast⟩

/-! ### Digits -/

/-- Digits and nothing else, and at least one of them. -/
structure Digits (chars : List Char) : Prop where
  some_digit : chars ≠ []
  each : ∀ c ∈ chars, c.isDigit = true

/-- What follows digits that are all read: nothing, or something that is no digit. -/
def NoDigit (rest : List Char) : Prop := ∀ c ∈ rest.head?, c.isDigit = false

theorem digit_bounds {c : Char} (h : c.isDigit = true) : 48 ≤ c.toNat ∧ c.toNat ≤ 57 := by
  simpa [Char.isDigit, Char.le_def, UInt32.le_iff_toNat_le] using h

theorem digit_not_blank {c : Char} (h : c.isDigit = true) : isBlank c = false := by
  obtain ⟨low, high⟩ := digit_bounds h
  simp only [isBlank, Bool.or_eq_false_iff, Bool.and_eq_false_iff, decide_eq_false_iff_not,
    beq_eq_false_iff_ne]
  omega

theorem Digits.head_digit {digits : List Char} (h : Digits digits) (rest : List Char) :
    ∀ c ∈ (digits ++ rest).head?, c.isDigit = true := by
  intro c hc
  cases digits with
  | nil => exact absurd rfl h.some_digit
  | cons d others =>
    cases hc
    exact h.each _ (List.mem_cons_self ..)

theorem Digits.tight {text : String} (h : Digits text.toList) : Tight text := by
  constructor
  · refine ⟨_, List.head?_eq_some_head h.some_digit, ?_⟩
    exact digit_not_blank (h.each _ (List.head_mem _))
  · refine ⟨_, List.getLast?_eq_some_getLast h.some_digit, ?_⟩
    exact digit_not_blank (h.each _ (List.getLast_mem _))

theorem trim_start_digits {digits : List Char} (h : Digits digits) (rest : List Char) :
    trimStart (digits ++ rest) = digits ++ rest :=
  trim_start_of_head fun c hc => digit_not_blank (h.head_digit rest c hc)

theorem take_digits {digits rest : List Char} (h : Digits digits) (ends : NoDigit rest) :
    (digits ++ rest).takeWhile Char.isDigit = digits := by
  rw [List.takeWhile_append_of_pos h.each]
  cases rest with
  | nil => rw [List.takeWhile_nil, List.append_nil]
  | cons c others =>
    rw [List.takeWhile_cons_of_neg (by simp [ends c rfl]), List.append_nil]

/-! ### Numbers in digits -/

theorem digits_of_nat (n : Nat) : Digits (Nat.toDigits 10 n) :=
  ⟨Nat.toDigits_ne_nil, fun _ hc => Nat.isDigit_of_mem_toDigits (by decide) (by decide) hc⟩

theorem digits_value_of_nat (n : Nat) : digitsValue (Nat.toDigits 10 n) = n :=
  Nat.ofDigitChars_ten_toDigits

/-- Nothing but zero itself begins with a zero. -/
theorem zero_head (n : Nat) (h : (Nat.toDigits 10 n).head? = some '0') :
    Nat.toDigits 10 n = ['0'] := by
  induction n using Nat.strongRecOn with
  | ind n ih =>
    rw [Nat.toDigits_eq_if (by decide)] at h ⊢
    split at h
    · rename_i hsmall
      rw [if_pos hsmall]
      simpa using h
    · rename_i hlarge
      rw [List.head?_append, List.head?_eq_some_head Nat.toDigits_ne_nil, Option.some_or,
        ← List.head?_eq_some_head Nat.toDigits_ne_nil] at h
      have hfront := ih (n / 10) (by omega) h
      have hzero := digits_value_of_nat (n / 10)
      rw [hfront] at hzero
      have : n / 10 = 0 := hzero.symm
      omega

theorem padded_digits (width n : Nat) : Digits (padded width n).toList := by
  have hdigits := digits_of_nat n
  rw [padded, String.toList_ofList]
  constructor
  · simp [hdigits.some_digit]
  · intro c hc
    rcases List.mem_append.mp hc with hz | hd
    · rw [List.eq_of_mem_replicate hz]
      rfl
    · exact hdigits.each c hd

/-- Zeros in front do not change what the digits say. -/
theorem digits_value_padded (width n : Nat) : digitsValue (padded width n).toList = n := by
  rw [padded, String.toList_ofList]
  change Nat.ofDigitChars 10 _ 0 = n
  rw [Nat.ofDigitChars_append, Nat.ofDigitChars_replicate_zero, Nat.mul_zero]
  exact digits_value_of_nat n

theorem padded_length {width n : Nat} (some_place : 0 < width) (fits : n < Nat.pow 10 width) :
    (padded width n).toList.length = width := by
  have hlength := (Nat.length_toDigits_le_iff (b := 10) (by decide) some_place).mpr fits
  rw [padded, String.toList_ofList, List.length_append, List.length_replicate]
  omega

end SqlBuilder.Text

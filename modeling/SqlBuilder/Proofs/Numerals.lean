import Mathlib.Data.Option.Basic
import SqlBuilder.Json.Reader
import SqlBuilder.Proofs.Characters
import SqlBuilder.Proofs.WellFormed

/-!
The numerals of integers. Each integer has one canonical numeral, which is how it is written, and
which a reader of documents takes for that integer as long as it fits 64 bits, with a sign or
without.
-/

namespace SqlBuilder

/-- The text is the digits of the integer in base ten, with no zero in front of others, and a minus
before them exactly if it is negative. -/
def Numeral.Canonical (n : Int) (text : String) : Prop :=
  ∃ digits, Text.Digits digits ∧ (digits.head? = some '0' → digits = ['0']) ∧
    Text.digitsValue digits = n.natAbs ∧ text.toList = if n < 0 then '-' :: digits else digits

/-! ### Writing -/

namespace Numeral

theorem canonical_text (n : Int) : Canonical n (toString n) := by
  refine ⟨Nat.toDigits 10 n.natAbs, Text.digits_of_nat _, Text.zero_head _,
    Text.digits_value_of_nat _, ?_⟩
  rw [Int.toString_eq_repr, Int.repr_eq_if]
  by_cases hn : 0 ≤ n
  · have habs : n.toNat = n.natAbs := by omega
    rw [if_pos hn, if_neg (by omega), habs, Nat.toList_repr]
  · have habs : (-n).toNat = n.natAbs := by omega
    rw [if_neg hn, if_pos (by omega), habs, String.toList_append, Nat.toList_repr]
    rfl

/-- No two integers have a numeral in common. -/
theorem Canonical.unique {n m : Int} {text : String} (hn : Canonical n text)
    (hm : Canonical m text) : n = m := by
  obtain ⟨digits, hd, -, hvalue, ht⟩ := hn
  obtain ⟨digits', hd', -, hvalue', ht'⟩ := hm
  rw [ht] at ht'
  split at ht'
  · split at ht'
    · rw [(List.cons.inj ht').2] at hvalue
      omega
    · have hminus := hd'.each '-' (by rw [← ht']; exact List.mem_cons_self)
      cases hminus
  · split at ht'
    · have hminus := hd.each '-' (by rw [ht']; exact List.mem_cons_self)
      cases hminus
    · rw [ht'] at hvalue
      omega

end Numeral

/-! ### Reading -/

namespace Json

variable {digits rest : List Char}

/-- What follows a number that is all read: nothing, or something that no number goes on with. -/
def NumberEnds (rest : List Char) : Prop :=
  ∀ c ∈ rest.head?, c.isDigit = false ∧ c ≠ '.' ∧ c ≠ 'e' ∧ c ≠ 'E'

theorem number_ends_nil : NumberEnds [] := by
  intro c hc
  cases hc

theorem split_digits (h : Text.Digits digits) (ends : Text.NoDigit rest) :
    Numeral.splitDigits (digits ++ rest) = (digits, rest) := by
  have htake : (digits ++ rest).takeWhile Char.isDigit = digits := Text.take_digits h ends
  have hboth := List.takeWhile_append_dropWhile (p := Char.isDigit) (l := digits ++ rest)
  rw [htake] at hboth
  rw [Numeral.splitDigits, htake, List.append_cancel_left hboth]

theorem read_fraction_none (ends : NumberEnds rest) : readFraction rest = some (none, rest) := by
  unfold readFraction
  split
  · exact absurd rfl (ends '.' rfl).2.1
  · rfl

theorem read_power_none (ends : NumberEnds rest) : readPower rest = some (none, rest) := by
  cases rest with
  | nil => rfl
  | cons c others =>
    obtain ⟨-, -, hlow, hhigh⟩ := ends c rfl
    rw [readPower, if_neg (by simp [hlow, hhigh])]

/-- The digits of a number that begin as they may. -/
theorem whole_digits (h : Text.Digits digits) (normal : digits.head? = some '0' → digits = ['0']) :
    (!digits.isEmpty && (digits.length == 1 || digits.head? != some '0')) = true := by
  by_cases hz : digits.head? = some '0'
  · rw [normal hz]
    rfl
  · simp [h.some_digit, hz]

theorem read_minus (h : Text.Digits digits) (normal : digits.head? = some '0' → digits = ['0'])
    (ends : NumberEnds rest) :
    readNumber ('-' :: (digits ++ rest)) = some (⟨true, digits, none, none⟩, rest) := by
  unfold readNumber
  simp only [split_digits h fun c hc => (ends c hc).1, whole_digits h normal,
    read_fraction_none ends, read_power_none ends, Option.bind_eq_bind, Option.bind_some]
  rfl

theorem read_plain (h : Text.Digits digits) (normal : digits.head? = some '0' → digits = ['0'])
    (ends : NumberEnds rest) :
    readNumber (digits ++ rest) = some (⟨false, digits, none, none⟩, rest) := by
  unfold readNumber
  split
  rename_i negative chars he
  split at he
  · rename_i hm
    have hminus := h.head_digit rest '-' (by rw [hm]; rfl)
    cases hminus
  · cases he
    simp only [split_digits h fun c hc => (ends c hc).1, whole_digits h normal,
      read_fraction_none ends, read_power_none ends, Option.bind_eq_bind, Option.bind_some]
    rfl

/-- A number at the front of a document is read as one: no other value begins with a minus or a
digit. -/
theorem read_value_number {chars : List Char} {number : WrittenNumber} {json : Json}
    (first : ∃ c, chars.head? = some c ∧ (c = '-' ∨ c.isDigit = true))
    (written : readNumber chars = some (number, rest)) (value : number.value? = some json)
    (members : List (String × Json) → List (String × Json)) (depth : Nat) :
    readValue (keeping members) depth chars = some (json, rest) := by
  obtain ⟨c, hc, hfirst⟩ := first
  unfold readValue
  split
  case h_7 => simp [written, keeping, value]
  all_goals
    cases hc
    exact absurd hfirst (by decide)

theorem digit_not_space {c : Char} (h : c.isDigit = true) : isSpace c = false := by
  have hbounds := Text.digit_bounds h
  simp only [isSpace, Bool.or_eq_false_iff, decide_eq_false_iff_not]
  refine ⟨⟨⟨?_, ?_⟩, ?_⟩, ?_⟩ <;>
  · rintro rfl
    simp at hbounds

theorem skip_number {chars : List Char}
    (first : ∃ c, chars.head? = some c ∧ (c = '-' ∨ c.isDigit = true)) : skip chars = chars := by
  obtain ⟨c, hc, hfirst⟩ := first
  cases chars with
  | nil => cases hc
  | cons d rest =>
    cases hc
    unfold skip
    refine List.dropWhile_cons_of_neg ?_
    rcases hfirst with rfl | hdigit
    · decide
    · simp [digit_not_space hdigit]

theorem parse_number {text : String} {number : WrittenNumber} {json : Json}
    (first : ∃ c, text.toList.head? = some c ∧ (c = '-' ∨ c.isDigit = true))
    (written : readNumber text.toList = some (number, [])) (value : number.value? = some json) :
    parse? text = some json := by
  rw [parse?, readDocument, skip_number first, read_value_number first written value]
  rfl

theorem whole_negative (digits : List Char) (some_unit : Text.digitsValue digits ≠ 0)
    (fits : Text.digitsValue digits ≤ Word.signedBound) :
    WrittenNumber.value? ⟨true, digits, none, none⟩ =
      some (.integer (-(Text.digitsValue digits : Int))) := by
  simp [WrittenNumber.value?, wholeNumber?, some_unit, fits]

theorem whole_plain (digits : List Char) (fits : Text.digitsValue digits < Word.bound) :
    WrittenNumber.value? ⟨false, digits, none, none⟩ =
      some (.integer (Text.digitsValue digits)) := by
  simp [WrittenNumber.value?, wholeNumber?, fits]

/-- A canonical numeral is read as the integer that it is of. Beyond 64 bits there would be a
float. -/
theorem parse_canonical {n : Int} {text : String} (h : Numeral.Canonical n text)
    (fits : Word.Fits n) : parse? text = some (.integer n) := by
  obtain ⟨digits, hd, normal, hvalue, ht⟩ := h
  have hbounds : -(Word.signedBound : Int) ≤ n ∧ n < (Word.bound : Int) := fits
  split at ht
  · have hn : -(Text.digitsValue digits : Int) = n := by omega
    have hwhole := whole_negative digits (by omega) (by omega)
    rw [hn] at hwhole
    have hread := read_minus hd normal number_ends_nil
    rw [List.append_nil, ← ht] at hread
    exact parse_number ⟨'-', by rw [ht]; rfl, .inl rfl⟩ hread hwhole
  · have hn : (Text.digitsValue digits : Int) = n := by omega
    have hwhole := whole_plain digits (by omega)
    rw [hn] at hwhole
    have hread := read_plain hd normal number_ends_nil
    rw [List.append_nil] at hread
    have hfirst : digits.head hd.some_digit ∈ digits := List.head_mem _
    refine parse_number ⟨_, ?_, .inr (hd.each _ hfirst)⟩ (ht ▸ hread) hwhole
    rw [ht, List.head?_eq_some_head hd.some_digit]

end Json

end SqlBuilder

import SqlBuilder.Json.Part
import SqlBuilder.Json.Printer
import SqlBuilder.Proofs.Numerals

/-!
The text of a document, and what its readers make of it. A reader that gives the written value
back before a comma, a closing bracket and the end of the text can be put to work on the items of a
list and on the fields of a record, and so the parts of a document are read from the text that it
has as a whole.
-/

namespace SqlBuilder.Json

/-! ### Strings -/

theorem hex_digit_char : ∀ d < 16, hexDigit? (Nat.digitChar d) = some d := by decide

/-- A control character without a letter of its own. -/
theorem escaped_control : ∀ n < 0x20, n ∉ [8, 9, 10, 12, 13] →
    (escapedChar (Char.ofNat n)).toList =
      ['\\', 'u', '0', '0', Nat.digitChar (n / 16), Nat.digitChar (n % 16)] := by
  decide +kernel

theorem read_unicode_control {n : Nat} (h : n < 0x20) (rest : List Char) :
    readUnicode ('0' :: '0' :: Nat.digitChar (n / 16) :: Nat.digitChar (n % 16) :: rest) =
      some (Char.ofNat n, rest) := by
  have hzero : hexDigit? '0' = some 0 := rfl
  have hvalue : 4096 * 0 + 256 * 0 + 16 * (n / 16) + n % 16 = n := by omega
  have hplane : n < 0xd800 ∨ 0xe000 ≤ n := by omega
  simp only [readUnicode, readHex4, hzero, hex_digit_char (n / 16) (by omega),
    hex_digit_char (n % 16) (by omega), hvalue, Option.bind_eq_bind, Option.bind_some,
    Option.pure_def, if_pos hplane]

theorem read_escaped_control {n : Nat} (h : n < 0x20) (rest : List Char) :
    readStringChar readUnicode ((escapedChar (Char.ofNat n)).toList ++ rest) =
      some (some (Char.ofNat n), rest) := by
  by_cases hown : n ∈ [8, 9, 10, 12, 13]
  · simp only [List.mem_cons, List.not_mem_nil, or_false] at hown
    rcases hown with rfl | rfl | rfl | rfl | rfl <;> rfl
  · rw [escaped_control n h hown]
    simp only [List.cons_append, List.nil_append, readStringChar, read_unicode_control h,
      Option.map_some]

theorem escaped_plain {c : Char} (quote : c ≠ '"') (slash : c ≠ '\\') (h : ¬c.toNat < 0x20) :
    (escapedChar c).toList = [c] := by
  have hline : c ≠ '\n' ∧ c ≠ '\r' ∧ c ≠ '\t' ∧ c.toNat ≠ 8 ∧ c.toNat ≠ 12 := by
    refine ⟨?_, ?_, ?_, by omega, by omega⟩ <;>
    · rintro rfl
      exact h (by decide)
  simp [escapedChar, quote, slash, hline, h]

theorem read_plain_char {c : Char} (quote : c ≠ '"') (slash : c ≠ '\\') (h : ¬c.toNat < 0x20)
    (rest : List Char) : readStringChar readUnicode (c :: rest) = some (some c, rest) := by
  unfold readStringChar
  split
  case h_4 =>
    rename_i he
    cases he
    rw [if_neg h]
  all_goals simp_all

theorem read_escaped_char (c : Char) (rest : List Char) :
    readStringChar readUnicode ((escapedChar c).toList ++ rest) = some (some c, rest) := by
  by_cases hcontrol : c.toNat < 0x20
  · have hread := read_escaped_control hcontrol rest
    rw [Char.ofNat_toNat] at hread
    exact hread
  · by_cases hquote : c = '"'
    · rw [hquote]
      rfl
    · by_cases hslash : c = '\\'
      · rw [hslash]
        rfl
      · rw [escaped_plain hquote hslash hcontrol]
        exact read_plain_char hquote hslash hcontrol rest

theorem escaped_char_length (c : Char) : 0 < (escapedChar c).toList.length := by
  apply List.length_pos_iff.mpr
  intro hnone
  have hread := read_escaped_char c []
  rw [hnone] at hread
  cases hread

/-- The characters of a string as they are written between its quotes. -/
def escapedChars (chars : List Char) : List Char := chars.flatMap fun c => (escapedChar c).toList

theorem read_string_chars (chars rest : List Char) {fuel : Nat}
    (h : (escapedChars chars).length < fuel) :
    readStringChars readUnicode fuel (escapedChars chars ++ '"' :: rest) = some (chars, rest) := by
  obtain ⟨fuel, rfl⟩ := Nat.exists_eq_succ_of_ne_zero (Nat.ne_zero_of_lt h)
  induction chars generalizing fuel with
  | nil => rfl
  | cons c others ih =>
    have hsplit : escapedChars (c :: others) = (escapedChar c).toList ++ escapedChars others :=
      List.flatMap_cons
    -- A character takes a place at least, so the fuel lasts for the others.
    have hlength := escaped_char_length c
    rw [hsplit, List.length_append] at h
    obtain ⟨fuel, rfl⟩ := Nat.exists_eq_succ_of_ne_zero (show fuel ≠ 0 by omega)
    rw [hsplit, List.append_assoc, readStringChars, read_escaped_char]
    simp [ih fuel (by omega)]

theorem quoted_chars (text : String) :
    (quoted text).toList = '"' :: (escapedChars text.toList ++ ['"']) := by
  simp [quoted, escapedChars, String.toList_join, List.flatMap_map]

/-- A string is read up to its closing quote, whatever comes after it. -/
theorem read_quoted (text : String) (rest : List Char) :
    readString ((quoted text).toList ++ rest) = some (text, rest) := by
  rw [quoted_chars, List.cons_append, List.append_assoc, List.singleton_append, readString,
    readStringBy, read_string_chars _ _ (by rw [List.length_append]; omega)]
  simp

/-! ### Values before what may follow them -/

/-- What may follow a value: nothing, a comma or a closing bracket. -/
def Ends (rest : List Char) : Prop := ∀ c ∈ rest.head?, c = ',' ∨ c = ']' ∨ c = '\x7d'

theorem Ends.number_ends {rest : List Char} (h : Ends rest) : NumberEnds rest := by
  intro c hc
  rcases h c hc with rfl | rfl | rfl <;> decide

/-- The reader gives the value for the text, up to what may follow it. The text does not begin as
what stands between values does. -/
structure Reads {α : Type} (read : Read α) (text : String) (value : α) : Prop where
  first : ∃ c, text.toList.head? = some c ∧ isSpace c = false ∧ c ≠ ']' ∧ c ≠ '\x7d'
  before : ∀ rest, Ends rest → read (text.toList ++ rest) = some (value, rest)

theorem reads_null : Reads whole null.text null :=
  ⟨⟨'n', rfl, by decide⟩, fun _ _ => rfl⟩

theorem reads_bool (value : Bool) : Reads whole (bool value).text (bool value) := by
  cases value with
  | false => exact ⟨⟨'f', rfl, by decide⟩, fun _ _ => rfl⟩
  | true => exact ⟨⟨'t', rfl, by decide⟩, fun _ _ => rfl⟩

theorem quoted_first (text : String) : (quoted text).toList.head? = some '"' := by
  rw [quoted_chars, List.head?_cons]

theorem reads_string (value : String) : Reads whole (string value).text (string value) := by
  refine ⟨⟨'"', quoted_first value, by decide⟩, fun rest _ => ?_⟩
  have hread : readStringBy (keeping id).unicode ((quoted value).toList ++ rest) =
    some (value, rest) := read_quoted value rest
  change readValue (keeping id) deepest ((quoted value).toList ++ rest) = _
  rw [quoted_chars, List.cons_append] at hread ⊢
  unfold readValue
  simp only [hread]
  rfl

theorem reads_natural {n : Nat} (fits : n < Word.bound) :
    Reads whole (integer n).text (integer n) := by
  have hdigits := Text.digits_of_nat n
  have htext : (integer n).text.toList = Nat.toDigits 10 n := Nat.toList_repr
  have hfirst := List.head?_eq_some_head hdigits.some_digit
  have hdigit := hdigits.each _ (List.head_mem hdigits.some_digit)
  constructor
  · rw [htext]
    refine ⟨_, hfirst, digit_not_space hdigit, ?_, ?_⟩ <;>
    · intro he
      rw [he] at hdigit
      cases hdigit
  · intro rest hends
    rw [htext]
    refine read_value_number ⟨_, ?_, .inr hdigit⟩
      (read_plain hdigits (Text.zero_head n) hends.number_ends) ?_ id deepest
    · rw [List.head?_append, hfirst]
      rfl
    · rw [whole_plain _ (by rwa [Text.digits_value_of_nat]), Text.digits_value_of_nat]

/-! ### Lists and records -/

section Items

variable {α β : Type} {read : Read α} {text : String} {value : α}

theorem Reads.skip_eq (h : Reads read text value) (rest : List Char) :
    skip (text.toList ++ rest) = text.toList ++ rest := by
  obtain ⟨c, hc, hspace, -⟩ := h.first
  obtain ⟨tail, ht⟩ := List.head?_eq_some_iff.mp hc
  rw [ht, List.cons_append, skip, List.dropWhile_cons_of_neg (by simp [hspace])]

/-- A document is the text of one value. -/
theorem Reads.read_document (h : Reads read text value) : readDocument read text = some value := by
  have hread := h.before [] (by simp [Ends])
  have hskip := h.skip_eq []
  rw [List.append_nil] at hread hskip
  rw [readDocument, hskip, hread]
  rfl

theorem read_items_last (h : Reads read text value) {close : Char}
    (closing : close = ']' ∨ close = '\x7d') (fuel : Nat) (rest : List Char) :
    readItems read close (fuel + 1) (text.toList ++ close :: rest) = some ([value], rest) := by
  have hread := h.before (close :: rest) (by simpa [Ends] using .inr closing)
  rw [readItems, h.skip_eq, hread]
  rcases closing with rfl | rfl <;> rfl

theorem read_items_next (h : Reads read text value) {close : Char} {fuel : Nat}
    {chars : List Char} {more : List α} {rest : List Char}
    (hmore : readItems read close fuel chars = some (more, rest)) :
    readItems read close (fuel + 1) (text.toList ++ ',' :: chars) = some (value :: more, rest) := by
  have hread := h.before (',' :: chars) (by simp [Ends])
  have hcomma : skip (',' :: chars) = ',' :: chars := rfl
  rw [readItems, h.skip_eq, hread]
  simp [hcomma, hmore]

variable {items : List β} {write : β → String} {made : β → α} {close : Char}

/-- The texts of items with commas between them are read as these items. -/
theorem read_items (each : ∀ a ∈ items, Reads read (write a) (made a)) (some_item : items ≠ [])
    (closing : close = ']' ∨ close = '\x7d') {fuel : Nat} (h : items.length ≤ fuel)
    (rest : List Char) :
    readItems read close fuel ((Text.joinWith "," (items.map write)).toList ++ close :: rest) =
      some (items.map made, rest) := by
  induction items generalizing fuel with
  | nil => exact absurd rfl some_item
  | cons a others ih =>
    obtain ⟨fuel, rfl⟩ := Nat.exists_eq_succ_of_ne_zero (Nat.ne_zero_of_lt h)
    have ha := each a (List.mem_cons_self ..)
    cases others with
    | nil => exact read_items_last ha closing fuel rest
    | cons b others =>
      have hmore := ih (fun c hc => each c (List.mem_cons_of_mem a hc)) (by simp)
        (Nat.le_of_succ_le_succ h)
      have hread := read_items_next ha hmore
      rw [List.map_cons, List.map_cons, Text.joinWith, String.toList_append, String.toList_append,
        List.append_assoc, List.append_assoc]
      exact hread

theorem join_length (each : ∀ a ∈ items, Reads read (write a) (made a)) :
    items.length ≤ (Text.joinWith "," (items.map write)).toList.length := by
  induction items with
  | nil => exact Nat.zero_le _
  | cons a others ih =>
    have hothers := ih fun c hc => each c (List.mem_cons_of_mem a hc)
    obtain ⟨c, hc, -⟩ := (each a (List.mem_cons_self ..)).first
    obtain ⟨tail, ht⟩ := List.head?_eq_some_iff.mp hc
    cases others with
    | nil => simp [Text.joinWith, ht]
    | cons b others =>
      rw [List.map_cons] at hothers
      simp only [List.map_cons, Text.joinWith, String.toList_append, List.length_append, ht,
        List.length_cons] at hothers ⊢
      omega

theorem join_first {c : Char} (h : text.toList.head? = some c) (others : List String) :
    (Text.joinWith "," (text :: others)).toList.head? = some c := by
  cases others with
  | nil => exact h
  | cons next others => simp [Text.joinWith, List.head?_append, h]

theorem read_list_some {chars : List Char} {c : Char} (first : chars.head? = some c)
    (space : isSpace c = false) (open_still : c ≠ close) :
    readList read close chars = readItems read close (chars.length + 1) chars := by
  obtain ⟨tail, rfl⟩ := List.head?_eq_some_iff.mp first
  have hskip : skip (c :: tail) = c :: tail := List.dropWhile_cons_of_neg (by simp [space])
  simp only [readList, hskip, if_neg open_still]

theorem read_list (each : ∀ a ∈ items, Reads read (write a) (made a))
    (closing : close = ']' ∨ close = '\x7d') (rest : List Char) :
    readList read close ((Text.joinWith "," (items.map write)).toList ++ close :: rest) =
      some (items.map made, rest) := by
  cases items with
  | nil => rcases closing with rfl | rfl <;> rfl
  | cons a others =>
    obtain ⟨c, hc, hspace, hsquare, hcurly⟩ := (each a (List.mem_cons_self ..)).first
    have hopen : c ≠ close := by rcases closing with rfl | rfl <;> assumption
    have hfirst := join_first hc (others.map write)
    have hlength := join_length each
    rw [read_list_some (by rw [List.head?_append, List.map_cons, hfirst]; rfl) hspace hopen]
    refine read_items each (by simp) closing ?_ rest
    rw [List.length_append]
    omega

end Items

theorem item_texts_eq (items : List Json) : itemTexts items = items.map text := by
  induction items with
  | nil => rfl
  | cons item rest ih => rw [itemTexts, ih, List.map_cons]

theorem member_texts_eq (members : List (String × Json)) :
    memberTexts members = members.map fun member => quoted member.1 ++ ":" ++ member.2.text := by
  induction members with
  | nil => rfl
  | cons member rest ih => rw [memberTexts, ih, List.map_cons]

theorem reads_list {α : Type} {read : Read Json} {write : α → Json} {items : List α}
    (each : ∀ a ∈ items, Reads read (write a).text (write a)) :
    Reads (listOf read) (array (items.map write)).text (array (items.map write)) := by
  have htext : (array (items.map write)).text.toList =
      '[' :: ((Text.joinWith "," (items.map fun a => (write a).text)).toList ++ [']']) := by
    simp [text, item_texts_eq, Function.comp_def]
  constructor
  · exact ⟨'[', by rw [htext, List.head?_cons], by decide⟩
  · intro rest _
    have hread := read_list each (.inl rfl) rest
    rw [htext, List.cons_append, List.append_assoc, List.singleton_append, listOf, hread]
    rfl

variable {fields : Fields}

/-- A member whose name is that of a field is read as the field is. -/
theorem reads_field {name : String} {value : Json} {read : Read Json}
    (known : fields.reader? name = some read) (h : Reads read value.text value) :
    Reads (readField fields) (quoted name ++ ":" ++ value.text) (some (name, value)) := by
  constructor
  · refine ⟨'"', ?_, by decide⟩
    simp [List.head?_append, quoted_first]
  · intro rest hends
    have hname := read_quoted name (':' :: (value.text.toList ++ rest))
    have hcolon : skip (':' :: (value.text.toList ++ rest)) = ':' :: (value.text.toList ++ rest) :=
      rfl
    have hchars : (quoted name ++ ":" ++ value.text).toList ++ rest =
        (quoted name).toList ++ ':' :: (value.text.toList ++ rest) := by
      simp
    simp only [readField, hchars, hname, hcolon, known, h.skip_eq, h.before rest hends,
      Option.bind_eq_bind, Option.bind_some, Option.pure_def]

theorem reads_record {members : List (String × Json)}
    (each : ∀ member ∈ members, ∃ read, fields.reader? member.1 = some read ∧
      Reads read member.2.text member.2) :
    Reads (recordOf fields) (object members).text (object members) := by
  have htext : (object members).text.toList = '\x7b' ::
      ((Text.joinWith "," (members.map fun member =>
        quoted member.1 ++ ":" ++ member.2.text)).toList ++ ['\x7d']) := by
    simp [text, member_texts_eq]
  have hfields : ∀ member ∈ members,
      Reads (readField fields) (quoted member.1 ++ ":" ++ member.2.text) (some member) := by
    intro member hm
    obtain ⟨read, hknown, hread⟩ := each member hm
    exact reads_field hknown hread
  constructor
  · exact ⟨'\x7b', by rw [htext, List.head?_cons], by decide⟩
  · intro rest _
    have hread := read_list hfields (.inr rfl) rest
    rw [htext, List.cons_append, List.append_assoc, List.singleton_append, recordOf, hread]
    simp [List.filterMap_map]

end SqlBuilder.Json

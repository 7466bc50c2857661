import SqlBuilder.Proofs.Characters
import SqlBuilder.Proofs.WritableValues

/-!
Dates and times written and read again. A number of full width is read whole, whatever follows it,
and a year with a sign up to the dash behind it. So the text that stands for a date or time in a
statement is read as that date or time, to the second, and columns of the calendar take it.
-/

namespace SqlBuilder

/-- The time without the fraction of its second. -/
def Time.whole (t : Time) : Time :=
  { t with
    nanosecond := 0
    valid := by
      have h := t.valid
      simp only [Calendar.isTime, Bool.and_eq_true] at h ⊢
      exact ⟨h.1, rfl⟩ }

namespace Calendar

/-! ### Numbers -/

theorem read_digits {most : Nat} {digits rest : List Char} (h : Text.Digits digits)
    (fits : digits.length ≤ most) (ends : digits.length = most ∨ Text.NoDigit rest) :
    readDigits most (digits ++ rest) = some (Text.digitsValue digits, rest) := by
  have htaken : ((digits ++ rest).take most).takeWhile Char.isDigit = digits := by
    rw [List.take_append, List.take_of_length_le fits]
    apply Text.take_digits h
    intro c hc
    rw [List.head?_take] at hc
    split at hc
    · cases hc
    · rename_i hmore
      rcases ends with hfull | hrest
      · omega
      · exact hrest c hc
  unfold readDigits
  dsimp only
  rw [htaken, if_neg (by simpa using h.some_digit), List.drop_left]

theorem read_number {n : Nat} (h : n < 100) (rest : List Char) :
    readNumber ((Text.padded 2 n).toList ++ rest) = some (n, rest) := by
  have hdigits := Text.padded_digits 2 n
  have hlength : (Text.padded 2 n).toList.length = 2 := Text.padded_length (by decide) h
  rw [readNumber, Text.trim_start_digits hdigits, read_digits hdigits (by omega) (.inl hlength),
    Text.digits_value_padded]

theorem no_digit_dash (rest : List Char) : Text.NoDigit ('-' :: rest) := by
  intro c hc
  cases hc
  rfl

/-- After a sign the year may have any number of digits. -/
theorem read_signed_digits (n : Nat) (rest : List Char) :
    readDigits ((Text.padded 4 n).toList ++ '-' :: rest).length
        ((Text.padded 4 n).toList ++ '-' :: rest) = some (n, '-' :: rest) := by
  have hdigits := Text.padded_digits 4 n
  rw [read_digits hdigits (by simp) (.inr (no_digit_dash rest)), Text.digits_value_padded]

theorem trim_start_sign {sign : Char} (h : Text.isBlank sign = false) (rest : List Char) :
    Text.trimStart (sign :: rest) = sign :: rest :=
  List.dropWhile_cons_of_neg (by simp [h])

theorem read_minus_year (n : Nat) (rest : List Char) :
    readYear ('-' :: ((Text.padded 4 n).toList ++ '-' :: rest)) =
      some (-(n : Int), '-' :: rest) := by
  rw [readYear, trim_start_sign (by decide)]
  simp only [read_signed_digits, Option.map_some]

theorem read_plus_year (n : Nat) (rest : List Char) :
    readYear ('+' :: ((Text.padded 4 n).toList ++ '-' :: rest)) =
      some ((n : Int), '-' :: rest) := by
  rw [readYear, trim_start_sign (by decide)]
  simp only [read_signed_digits, Option.map_some]

theorem read_plain_year {n : Nat} (h : n < 10000) (rest : List Char) :
    readYear ((Text.padded 4 n).toList ++ rest) = some ((n : Int), rest) := by
  have hdigits := Text.padded_digits 4 n
  have hlength : (Text.padded 4 n).toList.length = 4 := Text.padded_length (by decide) h
  unfold readYear
  rw [Text.trim_start_digits hdigits]
  split
  · rename_i he
    have hsign := hdigits.head_digit rest '-' (by rw [he]; rfl)
    cases hsign
  · rename_i he
    have hsign := hdigits.head_digit rest '+' (by rw [he]; rfl)
    cases hsign
  · rw [read_digits hdigits (by omega) (.inl hlength), Text.digits_value_padded]
    rfl

theorem read_year (d : Date) (rest : List Char) :
    readYear (d.yearText.toList ++ '-' :: rest) = some (d.year, '-' :: rest) := by
  have hminus : "-".toList = ['-'] := rfl
  have hplus : "+".toList = ['+'] := rfl
  unfold Date.yearText
  dsimp only
  split
  · have hyear : -(d.year.natAbs : Int) = d.year := by omega
    rw [String.toList_append, hminus, List.cons_append, List.nil_append, List.cons_append,
      read_minus_year, hyear]
  · have hyear : (d.year.natAbs : Int) = d.year := by omega
    split
    · rw [String.toList_append, hplus, List.cons_append, List.nil_append, List.cons_append,
        read_plus_year, hyear]
    · rw [read_plain_year (by omega), hyear]

/-! ### Patterns -/

theorem day_bounds (d : Date) : d.month < 100 ∧ d.day < 100 := by
  have hdays : daysIn d.year d.month ≤ 31 := by
    unfold daysIn
    split
    · split <;> omega
    all_goals omega
  have h := d.valid
  simp only [isDay, Bool.and_eq_true, decide_eq_true_eq] at h
  omega

theorem time_bounds (t : Time) : t.hour < 100 ∧ t.minute < 100 ∧ t.second < 100 := by
  have h := t.valid
  simp only [isTime, Bool.and_eq_true, decide_eq_true_eq] at h
  omega

theorem date_chars (d : Date) :
    d.text.toList = d.yearText.toList ++ '-' :: ((Text.padded 2 d.month).toList ++
      '-' :: (Text.padded 2 d.day).toList) := by
  simp [Date.text]

theorem time_chars (t : Time) :
    t.text.toList = (Text.padded 2 t.hour).toList ++ ':' :: ((Text.padded 2 t.minute).toList ++
      ':' :: (Text.padded 2 t.second).toList) := by
  simp [Time.text]

/-- A date is read from the front of a text, and the rest of the pattern from what follows it. -/
theorem read_date (d : Date) (pattern : Pattern) (f : Fields) (rest : List Char) :
    Pattern.read? (yearMonthDay ++ pattern) f (d.text.toList ++ rest) =
      pattern.read? { f with year := d.year, month := d.month, day := d.day } rest := by
  obtain ⟨hmonth, hday⟩ := day_bounds d
  rw [date_chars]
  simp only [yearMonthDay, List.cons_append, List.nil_append, List.append_assoc, Pattern.read?,
    Part.read, read_year, read_number hmonth, read_number hday, Option.map_some, Option.bind_some,
    if_true]

theorem read_time (t : Time) (pattern : Pattern) (f : Fields) (rest : List Char) :
    Pattern.read? (toTheSecond ++ pattern) f (t.text.toList ++ rest) =
      pattern.read? { f with hour := t.hour, minute := t.minute, second := t.second } rest := by
  obtain ⟨hhour, hminute, hsecond⟩ := time_bounds t
  rw [time_chars]
  simp only [toTheSecond, toTheMinute, List.cons_append, List.nil_append, List.append_assoc,
    Pattern.read?, Part.read, read_number hhour, read_number hminute, read_number hsecond,
    Option.map_some, Option.bind_some, if_true]

/-! ### Texts read back -/

theorem date_reads_back (d : Date) : date? yearMonthDay d.text = some d := by
  have hread := read_date d [] {} []
  rw [List.append_nil, List.append_nil] at hread
  rw [date?, hread]
  exact dif_pos d.valid

theorem time_reads_back (t : Time) : time? toTheSecond t.text = some t.whole := by
  have hread := read_time t [] {} []
  rw [List.append_nil, List.append_nil] at hread
  rw [time?, hread]
  exact dif_pos t.whole.valid

theorem read_gap (pattern : Pattern) (f : Fields) (chars : List Char) :
    Pattern.read? (.gap :: pattern) f chars = pattern.read? f (Text.trimStart chars) := by
  simp only [Pattern.read?, Part.read, Option.bind_some]

theorem trim_start_time (t : Time) : Text.trimStart (' ' :: t.text.toList) = t.text.toList := by
  have hskip : Text.trimStart (' ' :: t.text.toList) = Text.trimStart t.text.toList :=
    List.dropWhile_cons_of_pos (by decide)
  rw [hskip, time_chars, Text.trim_start_digits (Text.padded_digits 2 t.hour)]

theorem moment_reads_back (d : Date) (t : Time) :
    dateTime? (yearMonthDay ++ [.gap] ++ toTheSecond) (d.text ++ " " ++ t.text) =
      some (d, t.whole) := by
  have hdate : Date.of? d.year d.month d.day = some d := dif_pos d.valid
  have htime : Time.of? t.hour t.minute t.second 0 = some t.whole := dif_pos t.whole.valid
  have hread := read_time t [] { year := d.year, month := d.month, day := d.day } []
  rw [List.append_nil, List.append_nil] at hread
  have hblank : (" " ++ t.text).toList = ' ' :: t.text.toList := by simp
  rw [dateTime?, String.append_assoc, String.toList_append, hblank, List.append_assoc, read_date,
    List.singleton_append, read_gap, trim_start_time, hread]
  simp only [Pattern.read?, List.isEmpty_nil, if_true, Option.bind_eq_bind, Option.bind_some,
    Fields.date?, Fields.time?, hdate, htime]
  rfl

/-! ### Columns of the calendar -/

theorem year_tight (d : Date) : Text.Tight d.yearText := by
  have hdigits := (Text.padded_digits 4 d.year.natAbs).tight
  have hsign (sign : String) (hs : Text.Tight sign) :
      Text.Tight (sign ++ Text.padded 4 d.year.natAbs) := by
    simpa using hs.append "" hdigits
  unfold Date.yearText
  dsimp only
  split
  · exact hsign "-" ⟨⟨'-', by decide⟩, ⟨'-', by decide⟩⟩
  · split
    · exact hsign "+" ⟨⟨'+', by decide⟩, ⟨'+', by decide⟩⟩
    · exact hdigits

theorem date_tight (d : Date) : Text.Tight d.text :=
  ((year_tight d).append "-" (Text.padded_digits 2 d.month).tight).append "-"
    (Text.padded_digits 2 d.day).tight

theorem time_tight (t : Time) : Text.Tight t.text :=
  ((Text.padded_digits 2 t.hour).tight.append ":" (Text.padded_digits 2 t.minute).tight).append ":"
    (Text.padded_digits 2 t.second).tight

theorem date_is_moment (d : Date) : isMoment d.text = true := by
  have hread := date_reads_back d
  simp [isMoment, datePatterns, hread]

theorem time_is_moment (t : Time) : isMoment t.text = true := by
  have hread := time_reads_back t
  simp [isMoment, timePatterns, hread]

theorem moment_is_moment (d : Date) (t : Time) : isMoment (d.text ++ " " ++ t.text) = true := by
  have hread := moment_reads_back d t
  rw [isMoment, momentPatterns, List.any_cons, hread]
  simp

end Calendar

namespace Value

/-- The text is read as the value, which is one of the calendar, as far as the second. -/
def ReadFrom (text : String) : Value → Prop
  | date d => Calendar.date? Calendar.yearMonthDay text = some d
  | time t => Calendar.time? Calendar.toTheSecond text = some t.whole
  | dateTime d t =>
    Calendar.dateTime? (Calendar.yearMonthDay ++ [.gap] ++ Calendar.toTheSecond) text =
      some (d, t.whole)
  | _ => False

theorem check_moment {t : Table} {name text : String} {c : Column}
    (declared : t.column? name = some c) (temporal : c.type.isTemporal = true)
    (tight : Text.Tight text) (moment : Calendar.isMoment text = true) :
    t.check name (.text text) = .ok () := by
  have hcheck : t.check name (.text text) = c.check t.name (.text text) := by
    rw [Table.check, declared]
  rw [hcheck, Column.check_temporal temporal rfl, namesMoment, tight.trim_eq, moment]

/-- What a value of the calendar is written as, and what that text is then good for. -/
theorem calendar_written {value : Value} (calendar : value.isTemporal = true) :
    ∃ text, (∀ type, Literal.ofValue value type = Literal.ofCalendar text type) ∧
      value.ReadFrom text ∧ Calendar.isMoment text = true ∧ Text.Tight text := by
  cases value with
  | date d =>
    exact ⟨d.text, fun _ => rfl, Calendar.date_reads_back d, Calendar.date_is_moment d,
      Calendar.date_tight d⟩
  | time t =>
    exact ⟨t.text, fun _ => rfl, Calendar.time_reads_back t, Calendar.time_is_moment t,
      Calendar.time_tight t⟩
  | dateTime d t =>
    exact ⟨d.text ++ " " ++ t.text, fun _ => rfl, Calendar.moment_reads_back d t,
      Calendar.moment_is_moment d t, (Calendar.date_tight d).append " " (Calendar.time_tight t)⟩
  | null | bool | integer | float | text | list => cases calendar

/-- Every date or time, of any year and with a leap second or without, has a text in statements,
the same for every column that it can be written for. The text is read back as the value, as far
as the second, and every column of the calendar takes it. -/
theorem calendar_text_accepted (value : Value) (calendar : value.isTemporal = true) :
    ∃ text, Literal.ofValue value none = .ok (.text text) ∧
      (∀ type literal, Literal.ofValue value type = .ok literal → literal = .text text) ∧
      value.ReadFrom text ∧ Calendar.isMoment text = true ∧
      ∀ t name c, Table.column? t name = some c → c.type.isTemporal = true →
        t.check name (.text text) = .ok () := by
  obtain ⟨text, hwritten, hread, hmoment, htight⟩ := calendar_written calendar
  refine ⟨text, hwritten none, ?_, hread, hmoment, ?_⟩
  · intro type literal h
    rw [hwritten] at h
    exact literal_of_calendar h
  · intro t name c declared temporal
    exact check_moment declared temporal htight hmoment

/-- The end of a year before the first, in a leap second. -/
def lastSecond : Value :=
  .dateTime ⟨-44, 12, 31, by decide⟩ ⟨23, 59, 60, 500000000, by decide⟩

theorem calendar_text_accepted_last_second :
    Literal.ofValue lastSecond none = .ok (.text "-0044-12-31 23:59:60") ∧
      lastSecond.ReadFrom "-0044-12-31 23:59:60" ∧
      Calendar.isMoment "-0044-12-31 23:59:60" = true ∧
      Sample.users.check "born" (.text "-0044-12-31 23:59:60") = .ok () := by
  have hwritten : Literal.ofValue lastSecond none = .ok (.text "-0044-12-31 23:59:60") := by rfl
  obtain ⟨text, -, hsame, hread, hmoment, haccepted⟩ := calendar_text_accepted lastSecond rfl
  cases hsame none _ hwritten
  exact ⟨hwritten, hread, hmoment, haccepted Sample.users "born" _ rfl rfl⟩

end Value

end SqlBuilder

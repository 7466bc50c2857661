import SqlBuilder.Literal

/-!
Literals read from the front of a text. A reader for each style of quoting gives the text of the
literal and what is left behind it. The escapes of a text are read as the text whatever comes after
them, so a literal ends where it was written to end.
-/

namespace SqlBuilder.Quoting

/-! ### The readers -/

/-- The character that a backslash before another one stands for, if there is such an escape. -/
def escaped? (c : Char) : Option Char :=
  if c = '0' then some '\x00'
  else if c = 'n' then some '\n'
  else if c = 'r' then some '\r'
  else if c = 'Z' then some '\x1a'
  else if c = '\\' ∨ c = '\'' ∨ c = '"' then some c
  else none

/-- What was read with more characters in front. -/
def prepend (chars : List Char) (read : List Char × List Char) : List Char × List Char :=
  (chars ++ read.1, read.2)

/-- The text up to the first quote that no backslash escapes, and what is behind that quote. -/
def readEscaped : List Char → Option (List Char × List Char)
  | [] => none
  | c :: rest =>
    if c = '\'' then some ([], rest)
    else if c = '\\' then
      match rest with
      | [] => none
      | d :: rest => do
        let meant ← escaped? d
        (readEscaped rest).map (prepend [meant])
    else (readEscaped rest).map (prepend [c])

/-- The text up to the first quote that is not doubled, and what is behind that quote. -/
def readDoubled : List Char → Option (List Char × List Char)
  | [] => none
  | c :: rest =>
    if c = '\'' then
      match rest with
      | [] => some ([], [])
      | d :: rest =>
        if d = '\'' then (readDoubled rest).map (prepend [d]) else some ([], d :: rest)
    else (readDoubled rest).map (prepend [c])

/-- Reads what follows the opening quote. -/
def readInside : Quoting → List Char → Option (List Char × List Char)
  | mysql => readEscaped
  | ansi => readDoubled

/-- Reads the literal that a text starts with. -/
def readLiteral (style : Quoting) (sql : String) : Option (String × String) :=
  match sql.toList with
  | [] => none
  | c :: rest =>
    if c = '\'' then
      (style.readInside rest).map fun read => (String.ofList read.1, String.ofList read.2)
    else none

/-! ### What is read of a quoted text -/

theorem read_escaped_quote (rest : List Char) : readEscaped ('\'' :: rest) = some ([], rest) := by
  rw [readEscaped.eq_def]
  simp

theorem read_escaped_plain {c : Char} (hq : c ≠ '\'') (hb : c ≠ '\\') (rest : List Char) :
    readEscaped (c :: rest) = (readEscaped rest).map (prepend [c]) := by
  rw [readEscaped.eq_def]
  simp [hq, hb]

theorem read_escaped_pair {c d : Char} (hd : escaped? d = some c) (rest : List Char) :
    readEscaped ('\\' :: d :: rest) = (readEscaped rest).map (prepend [c]) := by
  simp [readEscaped, hd]

theorem read_doubled_plain {c : Char} (hq : c ≠ '\'') (rest : List Char) :
    readDoubled (c :: rest) = (readDoubled rest).map (prepend [c]) := by
  rw [readDoubled.eq_def]
  simp [hq]

/-- Behind a quote another one goes on with the literal, and anything else shows that it was the
end. -/
theorem read_doubled_quote (rest : List Char) :
    readDoubled ('\'' :: rest) =
      if rest.head? = some '\'' then (readDoubled rest.tail).map (prepend ['\''])
      else some ([], rest) := by
  cases rest with
  | nil => simp [readDoubled]
  | cons d others =>
    by_cases hd : d = '\''
    · simp [readDoubled, hd]
    · simp [readDoubled, hd]

/-- An escape of the style is read as the character that it stands for. -/
theorem read_escape (style : Quoting) (c : Char) (rest : List Char) :
    style.readInside (style.escape c ++ rest) = (style.readInside rest).map (prepend [c]) := by
  cases style with
  | mysql =>
    change readEscaped _ = (readEscaped rest).map _
    simp only [escape]
    iterate 7
      split
      · rename_i hc
        subst hc
        exact read_escaped_pair rfl rest
    rename_i hb hq _
    exact read_escaped_plain hq hb rest
  | ansi =>
    change readDoubled _ = (readDoubled rest).map _
    by_cases hc : c = '\''
    · subst hc
      exact read_doubled_quote ('\'' :: rest)
    · rw [escape, if_neg hc]
      exact read_doubled_plain hc rest

/-- The reader stands inside the literal after each escape, so what follows does not matter. -/
theorem read_escapes (style : Quoting) (chars rest : List Char) :
    style.readInside (chars.flatMap style.escape ++ rest) =
      (style.readInside rest).map (prepend chars) := by
  induction chars with
  | nil =>
    change style.readInside rest = (style.readInside rest).map id
    rw [Option.map_id, id]
  | cons c others ih =>
    rw [List.flatMap_cons, List.append_assoc, read_escape, ih, Option.map_map]
    rfl

theorem read_literal_quote (style : Quoting) (text rest : String) :
    style.readLiteral (style.quote text ++ rest) =
      (style.readInside ('\'' :: rest.toList)).map fun read =>
        (text ++ String.ofList read.1, String.ofList read.2) := by
  have hq : (style.quote text ++ rest).toList =
      '\'' :: (text.toList.flatMap style.escape ++ '\'' :: rest.toList) := by
    simp [quote]
  rw [readLiteral, hq]
  simp [read_escapes, Option.map_map, Function.comp_def, prepend]

/-- A quoted text is read back as it was, and the literal ends with it: with backslashes before
whatever follows, and with doubled quotes exactly before what is not a quote itself. -/
theorem quoted_reads_back (text rest : String) :
    readLiteral .mysql (quote .mysql text ++ rest) = some (text, rest) ∧
      (readLiteral .ansi (quote .ansi text ++ rest) = some (text, rest) ↔
        rest.toList.head? ≠ some '\'') := by
  constructor
  · rw [read_literal_quote]
    simp [readInside, read_escaped_quote]
  · rw [read_literal_quote, readInside, read_doubled_quote]
    constructor
    · intro h hq
      rw [if_pos hq, Option.map_map] at h
      obtain ⟨read, -, he⟩ := Option.map_eq_some_iff.mp h
      -- the text that is read has at least one quote too many
      have ht := congrArg String.length (Prod.mk.inj he).1
      simp [prepend] at ht
    · intro hq
      simp [hq]

end SqlBuilder.Quoting

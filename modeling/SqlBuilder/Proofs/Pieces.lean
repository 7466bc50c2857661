import SqlBuilder.Identifier
import SqlBuilder.Literal

/-!
A text cut into pieces by a scanner that knows nothing but quotes: each character outside them,
each name between backticks, and each literal with its escapes undone. What a text adds to the
pieces read so far does not depend on them, so the pieces of a text are those of its parts.
-/

namespace SqlBuilder

/-- What holds of the characters of a text is decided one by one. -/
scoped instance decidableChars (p : Char → Prop) [DecidablePred p] (chars : List Char) :
    Decidable (∀ c ∈ chars, p c) := List.decidableBAll p chars

theorem chars_append {p : Char → Prop} {x y : String} (hx : ∀ c ∈ x.toList, p c)
    (hy : ∀ c ∈ y.toList, p c) : ∀ c ∈ (x ++ y).toList, p c := by
  intro c hc
  rw [String.toList_append] at hc
  rcases List.mem_append.mp hc with hc | hc
  · exact hx c hc
  · exact hy c hc

inductive Piece where
  | bare (c : Char)
  | name (text : String)
  | literal (text : String)
deriving Repr, DecidableEq

namespace Piece

def literal? : Piece → Option String
  | literal text => some text
  | _ => none

/-- The pieces of a text without quotes. -/
def ofBare (text : String) : List Piece := text.toList.map bare

@[simp] theorem of_bare_append (x y : String) : ofBare (x ++ y) = ofBare x ++ ofBare y := by
  simp [ofBare]

@[simp] theorem literals_of_bare (text : String) : (ofBare text).filterMap literal? = [] := by
  simp [ofBare, List.filterMap_map, Function.comp_def, literal?]

end Piece

/-! ### The scanner -/

namespace Scanner

def backtick : Char := '\x60'

/-- Where the scanner stands, with what it has read of the name or literal there. After `quote` a
second quote is a character of the literal, and anything else shows that it was over. -/
inductive Place where
  | bare
  | name (read : List Char)
  | literal (read : List Char)
  | escape (read : List Char)
  | quote (read : List Char)

end Scanner

structure Scanner where
  place : Scanner.Place
  pieces : List Piece

namespace Scanner

/-- The character that stands behind a backslash. -/
def unescape (c : Char) : Char :=
  if c = '0' then '\x00'
  else if c = 'b' then '\x08'
  else if c = 'n' then '\n'
  else if c = 'r' then '\r'
  else if c = 't' then '\t'
  else if c = 'Z' then '\x1a'
  else c

/-- A character outside quotes. -/
def leave (pieces : List Piece) (c : Char) : Scanner :=
  if c = backtick then ⟨.name [], pieces⟩
  else if c = '\'' then ⟨.literal [], pieces⟩
  else ⟨.bare, pieces ++ [.bare c]⟩

/-- With backslashes the first quote that none escapes ends a literal. Without them a quote that
is not doubled does. -/
def step (style : Quoting) (s : Scanner) (c : Char) : Scanner :=
  match s.place with
  | .bare => leave s.pieces c
  | .name read =>
    if c = backtick then ⟨.bare, s.pieces ++ [.name (String.ofList read)]⟩
    else ⟨.name (read ++ [c]), s.pieces⟩
  | .literal read =>
    match style with
    | .mysql =>
      if c = '\\' then ⟨.escape read, s.pieces⟩
      else if c = '\'' then ⟨.bare, s.pieces ++ [.literal (String.ofList read)]⟩
      else ⟨.literal (read ++ [c]), s.pieces⟩
    | .ansi =>
      if c = '\'' then ⟨.quote read, s.pieces⟩ else ⟨.literal (read ++ [c]), s.pieces⟩
  | .escape read => ⟨.literal (read ++ [unescape c]), s.pieces⟩
  | .quote read =>
    if c = '\'' then ⟨.literal (read ++ [c]), s.pieces⟩
    else leave (s.pieces ++ [.literal (String.ofList read)]) c

def run (style : Quoting) (s : Scanner) (text : String) : Scanner :=
  text.toList.foldl (step style) s

/-- The pieces, if the scanner stands outside quotes. -/
def finish : Scanner → Option (List Piece)
  | ⟨.bare, pieces⟩ => some pieces
  | ⟨.quote read, pieces⟩ => some (pieces ++ [.literal (String.ofList read)])
  | _ => none

/-- The pieces of a text that ends outside quotes. -/
def scan (style : Quoting) (text : String) : Option (List Piece) :=
  (run style ⟨.bare, []⟩ text).finish

theorem run_append (style : Quoting) (s : Scanner) (x y : String) :
    run style s (x ++ y) = run style (run style s x) y := by
  simp [run, List.foldl_append]

end Scanner

/-! ### What a text adds -/

/-- Read outside quotes, the text adds the pieces and ends outside quotes. -/
def Adds (style : Quoting) (text : String) (added : List Piece) : Prop :=
  ∀ s before, Scanner.finish s = some before →
    (Scanner.run style s text).finish = some (before ++ added)

/-- Only characters that identifiers may have. There are no quotes among them. -/
def Kept (text : String) : Prop := ∀ c ∈ text.toList, Identifier.isKept c = true

instance (text : String) : Decidable (Kept text) :=
  inferInstanceAs (Decidable (∀ c ∈ text.toList, Identifier.isKept c = true))

theorem Kept.append {x y : String} (hx : Kept x) (hy : Kept y) : Kept (x ++ y) :=
  chars_append hx hy

theorem kept_ne {c : Char} (h : Identifier.isKept c = true) :
    c ≠ Scanner.backtick ∧ c ≠ '\'' := by
  constructor
  · rintro rfl
    exact absurd h (by decide)
  · rintro rfl
    exact absurd h (by decide)

namespace Adds

variable {style : Quoting}

theorem empty : Adds style "" [] := by
  intro s before hs
  simpa [Scanner.run] using hs

theorem append {x y : String} {px py : List Piece} (hx : Adds style x px)
    (hy : Adds style y py) : Adds style (x ++ y) (px ++ py) := by
  intro s before hs
  rw [Scanner.run_append, ← List.append_assoc]
  exact hy _ _ (hx s before hs)

theorem scan {text : String} {added : List Piece} (h : Adds style text added) :
    Scanner.scan style text = some added := h ⟨.bare, []⟩ [] rfl

end Adds

namespace Scanner

variable {style : Quoting} {s : Scanner} {before : List Piece}

/-- Outside quotes a character ends whatever was still open. -/
theorem step_outside (hs : s.finish = some before) {c : Char} (hc : c ≠ '\'') :
    step style s c = leave before c := by
  obtain ⟨place, pieces⟩ := s
  cases place with
  | bare =>
    cases hs
    rfl
  | quote read =>
    cases hs
    simp [step, hc]
  | name read => cases hs
  | literal read => cases hs
  | escape read => cases hs

theorem step_kept (style : Quoting) (hs : s.finish = some before) {c : Char}
    (hc : Identifier.isKept c = true) : step style s c = ⟨.bare, before ++ [.bare c]⟩ := by
  obtain ⟨hb, hq⟩ := kept_ne hc
  rw [step_outside hs hq]
  simp [leave, hb, hq]

theorem fold_kept (chars : List Char) (hk : ∀ c ∈ chars, Identifier.isKept c = true)
    (pieces : List Piece) :
    chars.foldl (step style) ⟨.bare, pieces⟩ = ⟨.bare, pieces ++ chars.map .bare⟩ := by
  induction chars generalizing pieces with
  | nil => simp
  | cons c rest ih =>
    have hs : (Scanner.mk .bare pieces).finish = some pieces := rfl
    rw [List.foldl_cons, step_kept style hs (hk c (by simp)), ih (fun d hd => hk d (by simp [hd]))]
    simp

/-- A text without quotes leaves the scanner outside for certain. -/
theorem run_kept (hs : s.finish = some before) {text : String} (hk : Kept text)
    (hn : text.toList ≠ []) : run style s text = ⟨.bare, before ++ Piece.ofBare text⟩ := by
  unfold Kept at hk
  unfold run Piece.ofBare
  cases ht : text.toList with
  | nil => exact absurd ht hn
  | cons c rest =>
    rw [ht] at hk
    rw [List.foldl_cons, step_kept style hs (hk c (by simp)),
      fold_kept rest (fun d hd => hk d (by simp [hd]))]
    simp

theorem fold_name (chars read : List Char) (hk : ∀ c ∈ chars, Identifier.isKept c = true)
    (pieces : List Piece) :
    chars.foldl (step style) ⟨.name read, pieces⟩ = ⟨.name (read ++ chars), pieces⟩ := by
  induction chars generalizing read with
  | nil => simp
  | cons c rest ih =>
    have hc := (kept_ne (hk c (by simp))).1
    have hs : step style ⟨.name read, pieces⟩ c = ⟨.name (read ++ [c]), pieces⟩ := by
      simp [step, hc]
    rw [List.foldl_cons, hs, ih _ (fun d hd => hk d (by simp [hd]))]
    simp

/-- Within a literal the escapes of a character read as the character. -/
theorem fold_escape (c : Char) (read : List Char) (pieces : List Piece) :
    (style.escape c).foldl (step style) ⟨.literal read, pieces⟩ =
      ⟨.literal (read ++ [c]), pieces⟩ := by
  cases style with
  | mysql =>
    unfold Quoting.escape
    repeat' split
    all_goals simp_all [step, unescape]
  | ansi =>
    by_cases hc : c = '\''
    · subst hc
      rfl
    · simp [Quoting.escape, step, hc]

theorem fold_literal (chars read : List Char) (pieces : List Piece) :
    (chars.flatMap style.escape).foldl (step style) ⟨.literal read, pieces⟩ =
      ⟨.literal (read ++ chars), pieces⟩ := by
  induction chars generalizing read with
  | nil => simp
  | cons c rest ih =>
    rw [List.flatMap_cons, List.foldl_append, fold_escape, ih]
    simp

/-- A quoted text is one literal, where no quote has just been read. -/
theorem run_quote (text : String) (pieces : List Piece) :
    (run style ⟨.bare, pieces⟩ (style.quote text)).finish = some (pieces ++ [.literal text]) := by
  have hopen : step style ⟨.bare, pieces⟩ '\'' = ⟨.literal [], pieces⟩ := rfl
  unfold run Quoting.quote
  rw [String.toList_ofList, List.foldl_cons, hopen, List.foldl_append, fold_literal]
  cases style <;> simp [step, finish]

end Scanner

/-! ### Names, literals and lists of them -/

theorem adds_bare (style : Quoting) (text : String) (hk : Kept text) :
    Adds style text (Piece.ofBare text) := by
  by_cases hn : text.toList = []
  · rw [String.toList_eq_nil_iff.mp hn]
    exact .empty
  · intro s before hs
    rw [Scanner.run_kept hs hk hn]
    rfl

theorem kept_sanitize (text : String) : Kept (Identifier.sanitize text) := by
  intro c hc
  rw [Identifier.sanitize, String.toList_ofList] at hc
  exact (List.mem_filter.mp hc).2

/-- What was kept once is kept again. -/
theorem Identifier.sanitize_again (text : String) : sanitize (sanitize text) = sanitize text := by
  simp [sanitize]

theorem adds_name (style : Quoting) (text : String) :
    Adds style (Identifier.quote text) [.name (Identifier.sanitize text)] := by
  intro s before hs
  have hopen : Scanner.step style s Scanner.backtick = ⟨.name [], before⟩ := by
    rw [Scanner.step_outside hs (by decide)]
    rfl
  have hticks : (Identifier.quote text).toList =
      Scanner.backtick :: ((Identifier.sanitize text).toList ++ [Scanner.backtick]) := by
    simp [Identifier.quote, Scanner.backtick]
  unfold Scanner.run
  rw [hticks, List.foldl_cons, hopen, List.foldl_append,
    Scanner.fold_name _ _ (kept_sanitize text)]
  simp [Scanner.step, Scanner.finish]

def ColumnName.pieces (name : ColumnName) : List Piece :=
  match name.qualifier with
  | some qualifier =>
    [.name (Identifier.sanitize qualifier), .bare '.', .name (Identifier.sanitize name.column)]
  | none => [.name (Identifier.sanitize name.column)]

theorem adds_column (style : Quoting) (name : ColumnName) :
    Adds style name.text name.pieces := by
  unfold ColumnName.text ColumnName.pieces
  cases name.qualifier with
  | none => exact adds_name style _
  | some qualifier =>
    exact ((adds_name style qualifier).append (adds_bare style "." (by decide))).append
      (adds_name style name.column)

/-- Only characters that numbers are written with. -/
def Numeral (text : String) : Prop :=
  ∀ c ∈ text.toList, c.isAlphanum = true ∨ c = '.' ∨ c = '-'

instance (text : String) : Decidable (Numeral text) :=
  inferInstanceAs (Decidable (∀ c ∈ text.toList, c.isAlphanum = true ∨ c = '.' ∨ c = '-'))

/-- Only digits and points. -/
def Unsigned (text : String) : Prop := ∀ c ∈ text.toList, c.isDigit = true ∨ c = '.'

instance (text : String) : Decidable (Unsigned text) :=
  inferInstanceAs (Decidable (∀ c ∈ text.toList, c.isDigit = true ∨ c = '.'))

namespace Unsigned

theorem append {x y : String} (hx : Unsigned x) (hy : Unsigned y) : Unsigned (x ++ y) :=
  chars_append hx hy

theorem of_digits {digits : List Char} (h : ∀ c ∈ digits, c.isDigit = true) :
    Unsigned (String.ofList digits) := by
  intro c hc
  rw [String.toList_ofList] at hc
  exact .inl (h c hc)

theorem zeros (n : Nat) : Unsigned (Layout.zeros n) := by
  apply of_digits
  intro c hc
  rw [List.eq_of_mem_replicate hc]
  rfl

theorem positional (d : Decimal) : Unsigned (Layout.plain.positionalText d) := by
  have hdigits : ∀ c ∈ Nat.toDigits 10 d.digits, c.isDigit = true :=
    fun _ hc => Nat.isDigit_of_mem_toDigits (by decide) (by decide) hc
  unfold Layout.positionalText
  dsimp only
  split
  · exact ((of_digits hdigits).append (zeros _)).append (by decide)
  · split
    · refine ((of_digits ?_).append (by decide)).append (of_digits ?_)
      · exact fun c hc => hdigits c (List.mem_of_mem_take hc)
      · exact fun c hc => hdigits c (List.mem_of_mem_drop hc)
    · exact (append (by decide) (zeros _)).append (of_digits hdigits)

theorem magnitude (mantissa : Nat) (exponent : Int) :
    Unsigned (Layout.plain.magnitudeText mantissa exponent) := by
  unfold Layout.magnitudeText
  split
  · decide
  · exact positional _

end Unsigned

namespace Numeral

theorem append {x y : String} (hx : Numeral x) (hy : Numeral y) : Numeral (x ++ y) :=
  chars_append hx hy

theorem kept {text : String} (h : Numeral text) : Kept text := by
  intro c hc
  rcases h c hc with ha | rfl | rfl
  · simp [Identifier.isKept, ha]
  · rfl
  · rfl

theorem of_unsigned {text : String} (h : Unsigned text) : Numeral text := by
  intro c hc
  rcases h c hc with hd | hp
  · exact .inl (by simp [Char.isAlphanum, hd])
  · exact .inr (.inl hp)

/-- A number is written with digits, a point and a sign, or as a word. -/
theorem number (x : Binary64) : Numeral (x.text .plain) := by
  cases x with
  | nan => decide
  | infinite negative => cases negative <;> decide
  | finite negative mantissa exponent =>
    exact append (by cases negative <;> decide) (of_unsigned (.magnitude _ _))

theorem number_ne_empty (x : Binary64) : x.text .plain ≠ "" := by
  have hpositional (d : Decimal) : Layout.plain.positionalText d ≠ "" := by
    unfold Layout.positionalText
    dsimp only
    split
    · simp [Layout.digitsText, Nat.toDigits_ne_nil]
    · split <;> simp
  cases x with
  | nan => decide
  | infinite negative => cases negative <;> decide
  | finite negative mantissa exponent =>
    intro h
    have hm := (String.append_eq_empty_iff.mp h).2
    unfold Layout.magnitudeText at hm
    split at hm
    · exact absurd hm (by decide)
    · exact hpositional _ hm

end Numeral

namespace Literal

def pieces : Literal → List Piece
  | null => Piece.ofBare "NULL"
  | text value => [.literal value]
  | point x y => Piece.ofBare ("POINT(" ++ x.text .plain ++ "," ++ y.text .plain ++ ")")

end Literal

/-- Text before a literal keeps its quote apart from the one before. -/
theorem adds_literal (style : Quoting) {lead : String} (hk : Kept lead) (hn : lead.toList ≠ [])
    (literal : Literal) :
    Adds style (lead ++ literal.sql style) (Piece.ofBare lead ++ literal.pieces) := by
  cases literal with
  | null => exact (adds_bare style lead hk).append (adds_bare style "NULL" (by decide))
  | point x y =>
    refine (adds_bare style lead hk).append (adds_bare style _ ?_)
    exact ((((Kept.append (by decide) (Numeral.number x).kept).append (by decide)).append
      (Numeral.number y).kept).append (by decide))
  | text value =>
    intro s before hs
    rw [Scanner.run_append, Scanner.run_kept hs hk hn, ← List.append_assoc]
    exact Scanner.run_quote value _

/-- The pieces in order with the separator between neighbours. -/
def Piece.joinWith (separator : List Piece) : List (List Piece) → List Piece
  | [] => []
  | [first] => first
  | first :: next :: rest => first ++ separator ++ Piece.joinWith separator (next :: rest)

theorem adds_join {α : Type} {style : Quoting} {separator : String} (hk : Kept separator)
    {text : α → String} {pieces : α → List Piece} (items : List α)
    (each : ∀ item ∈ items, Adds style (text item) (pieces item)) :
    Adds style (Text.joinWith separator (items.map text))
      (Piece.joinWith (Piece.ofBare separator) (items.map pieces)) := by
  induction items with
  | nil => exact .empty
  | cons item rest ih =>
    have hi := each item (by simp)
    have hr := ih (fun other ho => each other (by simp [ho]))
    cases rest with
    | nil => exact hi
    | cons next rest => exact (hi.append (adds_bare style separator hk)).append hr

theorem adds_literals (style : Quoting) (literals : List Literal) (lead : String)
    (hk : Kept lead) (hn : lead.toList ≠ []) :
    Adds style (lead ++ Text.joinWith "," (literals.map (Literal.sql style)))
      (Piece.ofBare lead ++ Piece.joinWith (Piece.ofBare ",") (literals.map Literal.pieces)) := by
  induction literals generalizing lead with
  | nil =>
    simp only [List.map_nil, Text.joinWith, Piece.joinWith, String.append_empty, List.append_nil]
    exact adds_bare style lead hk
  | cons literal rest ih =>
    have hl := adds_literal style hk hn literal
    cases rest with
    | nil => exact hl
    | cons next rest =>
      have hr := ih "," (by decide) (by decide)
      simpa only [List.map_cons, Text.joinWith, Piece.joinWith, String.append_assoc,
        List.append_assoc] using hl.append hr

end SqlBuilder

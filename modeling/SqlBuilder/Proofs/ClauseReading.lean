import SqlBuilder.Proofs.Containment
import SqlBuilder.Proofs.Reading

/-!
Clauses read back from their text. A level of clauses reads as the terms of what the clauses read
as, or as nothing at all if some operator in them is not known: parentheses lose nothing.
-/

namespace SqlBuilder

/-! ### What there is to read -/

def Literal.operand : Literal → Operand
  | null => .null
  | text value => .text value
  | point x y => .point (x.text .plain) (y.text .plain)

/-- The terms that factors make with a connective between them. A comma is no connective. -/
def Glue.terms? : Glue → List Reading → Option (List (List Reading))
  | .or, factors => some (factors.map fun factor => [factor])
  | .and, [] => some []
  | .and, factors => some [factors]
  | .comma, _ => none

/-- The terms with one more factor and the connective in front. -/
def Glue.prepend (glue : Glue) (factor : Reading) (terms : List (List Reading)) :
    List (List Reading) :=
  if glue = .and then Reading.conjoin factor terms else [factor] :: terms

theorem Glue.prepend_nil (glue : Glue) (factor : Reading) :
    glue.prepend factor [] = [[factor]] := by
  cases glue <;> rfl

theorem Glue.terms_nil {glue : Glue} (hg : glue ≠ .comma) : glue.terms? [] = some [] := by
  cases glue with
  | comma => exact absurd rfl hg
  | and => rfl
  | or => rfl

theorem Glue.terms_cons {glue : Glue} {readings : List Reading} {terms : List (List Reading)}
    (h : glue.terms? readings = some terms) (first : Reading) :
    glue.terms? (first :: readings) = some (glue.prepend first terms) := by
  cases glue with
  | or =>
    cases h
    rfl
  | comma => cases h
  | and =>
    cases readings with
    | nil =>
      cases h
      rfl
    | cons next others =>
      cases h
      rfl

theorem Glue.terms_some {glue : Glue} (hg : glue ≠ .comma) (readings : List Reading) :
    ∃ terms, glue.terms? readings = some terms := by
  induction readings with
  | nil => exact ⟨_, Glue.terms_nil hg⟩
  | cons first rest ih =>
    obtain ⟨terms, h⟩ := ih
    exact ⟨_, Glue.terms_cons h first⟩

namespace Reading

theorem tests_append (xs ys : List Reading) : testsAll (xs ++ ys) = testsAll xs ++ testsAll ys := by
  induction xs with
  | nil => rfl
  | cons reading rest ih => simp [testsAll, ih]

theorem tests_factors (readings : List Reading) :
    testsAny (readings.map fun reading => [reading]) = testsAll readings := by
  induction readings with
  | nil => rfl
  | cons reading rest ih => simp [testsAny, testsAll, ih]

theorem tests_terms {glue : Glue} {readings : List Reading} {terms : List (List Reading)}
    (h : glue.terms? readings = some terms) : testsAny terms = testsAll readings := by
  cases glue with
  | comma => cases h
  | or =>
    cases h
    exact tests_factors readings
  | and =>
    cases readings with
    | nil =>
      cases h
      rfl
    | cons first rest =>
      cases h
      rw [testsAny, testsAny, List.append_nil]

end Reading

namespace Clause

section

variable (known : List String)

mutual

/-- What a clause reads as, if the operators in it are known. -/
def reading? : Clause → Option Reading
  | compare column operator value =>
    if operator ∈ known then some (.compare column.text operator value.operand) else none
  | between column low high => some (.between column.text low.operand high.operand)
  | member column operator items =>
    some (.member column.text operator (items.map Literal.operand))
  | never => some .never
  | search columns value => some (.search (columns.map ColumnName.text) value.operand)
  | verbatim _ => none
  | group glue clauses => do return .group (← glue.terms? (← readings? clauses))

def readings? : List Clause → Option (List Reading)
  | [] => some []
  | clause :: rest => do return (← reading? clause) :: (← readings? rest)

end

end

variable {known : List String}

theorem readings_append (xs ys : List Clause) :
    readings? known (xs ++ ys) = do return (← readings? known xs) ++ (← readings? known ys) := by
  induction xs with
  | nil => simp [readings?]
  | cons clause rest ih => simp [readings?, ih, Option.bind_assoc]

theorem readings_length {clauses : List Clause} {readings : List Reading}
    (h : readings? known clauses = some readings) : readings.length = clauses.length := by
  induction clauses generalizing readings with
  | nil =>
    cases h
    rfl
  | cons clause rest ih =>
    rw [readings?] at h
    obtain ⟨first, _, h⟩ := Option.bind_eq_some_iff.mp h
    obtain ⟨others, ho, h⟩ := Option.bind_eq_some_iff.mp h
    cases h
    rw [List.length_cons, List.length_cons, ih ho]

end Clause

/-! ### Columns, values and operators -/

namespace Reading

open Token (ofPieces skip)
open CharClass (next?)

variable {known : List String} {rest : List Piece}

theorem name_first (name : ColumnName) (rest : List Piece) :
    ∃ text tokens, ofPieces (name.pieces ++ rest) = .name text :: tokens := by
  unfold ColumnName.pieces
  split
  · exact ⟨_, _, rfl⟩
  · exact ⟨_, _, rfl⟩

theorem read_column (name : ColumnName) (hr : (ofPieces rest).head? ≠ some (.word ".")) :
    readColumn (ofPieces (name.pieces ++ rest)) = some (name.text, ofPieces rest) := by
  unfold ColumnName.pieces ColumnName.text
  cases name.qualifier with
  | some qualifier => rfl
  | none =>
    simp only [List.cons_append, List.nil_append, ofPieces, readColumn, Token.skip_of_head hr]
    rfl

theorem read_operand (literal : Literal) (hr : next? rest ≠ some .word) :
    readOperand (ofPieces (literal.pieces ++ rest)) = some (literal.operand, ofPieces rest) := by
  cases literal with
  | null =>
    rw [Literal.pieces, Token.of_numeral (by decide) (by decide) hr]
    rfl
  | text value => rfl
  | point x y =>
    have hx (more : List Piece) (hm : next? more ≠ some .word) :=
      Token.of_numeral (Numeral.number_ne_empty x) (Numeral.number x) hm
    have hy (more : List Piece) (hm : next? more ≠ some .word) :=
      Token.of_numeral (Numeral.number_ne_empty y) (Numeral.number y) hm
    have hopen (more : List Piece) : ofPieces (Piece.ofBare "POINT(" ++ more) =
        .word "POINT" :: .mark '(' :: ofPieces more := rfl
    simp only [Literal.pieces, Piece.of_bare_append, List.append_assoc]
    rw [hopen, hx _ (CharClass.apart rfl (by decide) _), Token.of_comma,
      hy _ (CharClass.apart rfl (by decide) _), Token.of_close]
    rfl

theorem operand_first (literal : Literal) (hr : next? rest ≠ some .word) :
    ∃ first tokens, ofPieces (literal.pieces ++ rest) = first :: tokens ∧
      first.isOperator = false := by
  cases literal with
  | null => exact ⟨_, _, Token.of_numeral (by decide) (by decide) hr, by decide⟩
  | text value => exact ⟨_, _, rfl, rfl⟩
  | point x y =>
    simp only [Literal.pieces, Piece.of_bare_append, List.append_assoc]
    exact ⟨.word "POINT", _, rfl, by decide⟩

theorem of_operator (operator : String) (rest : List Piece) :
    ofPieces (Piece.ofBare (" " ++ operator ++ " ") ++ rest) =
      ofPieces (Piece.ofBare operator) ++ ofPieces rest := by
  have hp : Piece.ofBare (" " ++ operator ++ " ") ++ rest =
      .bare ' ' :: (operator.toList.map .bare ++ .bare ' ' :: rest) := by
    simp [Piece.ofBare]
  rw [hp]
  exact Token.of_blank operator.toList rest

theorem operator_first {operator : String} (ho : WellSpelled operator) (rest : List Piece) :
    (ofPieces (Piece.ofBare (" " ++ operator ++ " ") ++ rest)).head? ≠ some (.word ".") := by
  rw [of_operator]
  obtain ⟨first, others, ht⟩ := List.exists_cons_of_ne_nil ho.some_token
  have hfirst := ho.each first (by simp [ht])
  rw [ht]
  intro h
  obtain rfl := Option.some.inj h
  exact absurd hfirst (by decide)

/-- An operator ends before what can be no part of one. -/
theorem read_operator {operator : String} (ho : WellSpelled operator) {first : Token}
    {tokens : List Token} (hr : ofPieces rest = first :: tokens) (hf : first.isOperator = false) :
    readOperator (ofPieces (Piece.ofBare (" " ++ operator ++ " ") ++ rest)) =
      (operator, ofPieces rest) := by
  have hnot : ¬first.isOperator = true := by simp [hf]
  rw [of_operator, readOperator, List.takeWhile_append_of_pos ho.each,
    List.dropWhile_append_of_pos ho.each, hr, List.takeWhile_cons_of_neg hnot,
    List.dropWhile_cons_of_neg hnot, List.append_nil, ho.spaced]

/-! ### Lists -/

theorem join_cons (separator first next : List Piece) (others : List (List Piece)) :
    Piece.joinWith separator (first :: next :: others) =
      first ++ separator ++ Piece.joinWith separator (next :: others) := rfl

/-- A list has no more items than pieces, but for the one after the last comma. -/
theorem length_le_join {separator : List Piece} (hs : separator ≠ []) (parts : List (List Piece)) :
    parts.length ≤ (Piece.joinWith separator parts).length + 1 := by
  induction parts with
  | nil => simp
  | cons part rest ih =>
    cases rest with
    | nil => simp
    | cons next rest =>
      have hpos := List.length_pos_iff.mpr hs
      rw [join_cons]
      simp only [List.length_append, List.length_cons] at ih ⊢
      omega

/-- Items that can be read before punctuation can be read as a list. -/
theorem read_listed {α β : Type} {readItem : List Token → Option (β × List Token)}
    {pieces : α → List Piece} {value : α → β}
    (each : ∀ item rest, next? rest = some .mark →
      readItem (ofPieces (pieces item ++ rest)) = some (value item, ofPieces rest))
    {items : List α} (hn : items ≠ []) {fuel : Nat} (hf : items.length ≤ fuel) :
    readListed readItem fuel (ofPieces (Piece.joinWith (Piece.ofBare ",") (items.map pieces) ++
      (Piece.ofBare ")" ++ rest))) = some (items.map value, ofPieces rest) := by
  induction items generalizing fuel with
  | nil => exact absurd rfl hn
  | cons item others ih =>
    cases fuel with
    | zero => simp at hf
    | succ fuel =>
      have ho : others.length ≤ fuel := by simpa using hf
      cases others with
      | nil =>
        simp only [List.map_cons, List.map_nil, Piece.joinWith, readListed]
        rw [each item _ rfl, Token.of_close]
        rfl
      | cons next others =>
        have hrest := ih (by simp) ho
        simp only [List.map_cons, join_cons, List.append_assoc, readListed] at hrest ⊢
        rw [each item _ rfl, Token.of_comma]
        simp only [Option.bind_eq_bind, Option.bind_some, skip, if_pos]
        rw [hrest]
        rfl

theorem read_operands {items : List Literal} (hn : items ≠ []) {fuel : Nat}
    (hf : items.length ≤ fuel) :
    readListed readOperand fuel
        (ofPieces (Piece.joinWith (Piece.ofBare ",") (items.map Literal.pieces) ++
          (Piece.ofBare ")" ++ rest))) = some (items.map Literal.operand, ofPieces rest) :=
  read_listed (fun item rest h => read_operand item (by simp [h])) hn hf

theorem read_columns {columns : List ColumnName} (hn : columns ≠ []) {fuel : Nat}
    (hf : columns.length ≤ fuel) :
    readListed readColumn fuel
        (ofPieces (Piece.joinWith (Piece.ofBare ",") (columns.map ColumnName.pieces) ++
          (Piece.ofBare ")" ++ rest))) = some (columns.map ColumnName.text, ofPieces rest) := by
  refine read_listed (fun column rest h => read_column column ?_) hn hf
  obtain ⟨c, tokens, ht⟩ := Token.mark_first h
  simp [ht]

/-! ### Tests and searches -/

theorem read_test (column : ColumnName) {operator : String} {tokens : List Token}
    (hr : (ofPieces rest).head? ≠ some (.word "."))
    (ho : readOperator (ofPieces rest) = (operator, tokens)) (fuel : Nat) :
    readTest known fuel (ofPieces (column.pieces ++ rest)) =
      readCompared known fuel column.text operator tokens := by
  unfold readTest
  rw [read_column column hr, Option.bind_eq_bind, Option.bind_some]
  dsimp only
  rw [ho]

theorem read_compare (column : ColumnName) {operator : String} (ho : WellSpelled operator)
    (hs : operator ∉ ["BETWEEN", "IN", "NOT IN"]) (value : Literal) (hr : next? rest ≠ some .word)
    (fuel : Nat) :
    readTest known fuel (ofPieces ((Clause.compare column operator value).pieces ++ rest)) =
      ((Clause.compare column operator value).reading? known).map (·, ofPieces rest) := by
  obtain ⟨first, tokens, ht, hf⟩ := operand_first value hr
  have hb : operator ≠ "BETWEEN" := fun he => hs (by simp [he])
  have hi : ¬(operator = "IN" ∨ operator = "NOT IN") :=
    fun he => hs (by rcases he with he | he <;> simp [he])
  simp only [Clause.pieces, List.append_assoc]
  rw [read_test column (operator_first ho _) (read_operator ho ht hf), readCompared, if_neg hb,
    if_neg hi, read_operand value hr, Clause.reading?]
  split
  · rfl
  · rfl

theorem read_between (column : ColumnName) (low high : Literal) (hr : next? rest ≠ some .word)
    (fuel : Nat) :
    readTest known fuel (ofPieces ((Clause.between column low high).pieces ++ rest)) =
      some (.between column.text low.operand high.operand, ofPieces rest) := by
  have hbetween : WellSpelled "BETWEEN" := by decide
  have hlead : " BETWEEN " = " " ++ "BETWEEN" ++ " " := by decide
  have hand : next? (Piece.ofBare " AND " ++ (high.pieces ++ rest)) ≠ some .word :=
    CharClass.apart rfl (by decide) _
  have hhigh : skip [.word "AND"] (ofPieces (Piece.ofBare " AND " ++ (high.pieces ++ rest))) =
      some (ofPieces (high.pieces ++ rest)) := rfl
  obtain ⟨first, tokens, ht, hf⟩ := operand_first low hand
  simp only [Clause.pieces, List.append_assoc]
  rw [hlead, read_test column (operator_first hbetween _) (read_operator hbetween ht hf),
    readCompared, if_pos rfl, read_operand low hand, Option.bind_eq_bind, Option.bind_some]
  dsimp only
  rw [hhigh, Option.bind_eq_bind, Option.bind_some, read_operand high hr]
  rfl

theorem read_member (column : ColumnName) {operator : String}
    (ho : operator = "IN" ∨ operator = "NOT IN") {items : List Literal} (hn : items ≠ [])
    {fuel : Nat} (hf : items.length ≤ fuel) :
    readTest known fuel (ofPieces ((Clause.member column operator items).pieces ++ rest)) =
      some (.member column.text operator (items.map Literal.operand), ofPieces rest) := by
  have hb : operator ≠ "BETWEEN" := by
    rcases ho with rfl | rfl <;> decide
  have hspelled : WellSpelled operator := by
    rcases ho with rfl | rfl <;> decide
  have hlead : Piece.ofBare (" " ++ operator ++ " (") =
      Piece.ofBare (" " ++ operator ++ " ") ++ Piece.ofBare "(" := by
    simp only [Piece.of_bare_append, List.append_assoc]
    rfl
  have hopen (more : List Piece) : ofPieces (Piece.ofBare "(" ++ more) =
      .mark '(' :: ofPieces more := rfl
  have hinner (tokens : List Token) : skip [.mark '('] (.mark '(' :: tokens) = some tokens := rfl
  simp only [Clause.pieces, hlead, List.append_assoc]
  rw [read_test column (operator_first hspelled _) (read_operator hspelled (hopen _) rfl),
    readCompared, if_neg hb, if_pos ho, hopen, hinner, Option.bind_eq_bind, Option.bind_some,
    read_operands hn hf]
  rfl

theorem read_search {columns : List ColumnName} (hn : columns ≠ []) (value : Literal) {fuel : Nat}
    (hf : columns.length ≤ fuel) :
    readFactor known (fuel + 1) (ofPieces ((Clause.search columns value).pieces ++ rest)) =
      some (.search (columns.map ColumnName.text) value.operand, ofPieces rest) := by
  have hmatch (more : List Piece) :
      readFactor known (fuel + 1) (ofPieces (Piece.ofBare "MATCH(" ++ more)) =
        readSearch fuel (ofPieces more) := rfl
  have hsplit : Piece.ofBare ") AGAINST(" = Piece.ofBare ")" ++ Piece.ofBare " AGAINST(" := rfl
  have hagainst (more : List Piece) :
      skip [.word "AGAINST", .mark '('] (ofPieces (Piece.ofBare " AGAINST(" ++ more)) =
        some (ofPieces more) := rfl
  have hclose : next? (Piece.ofBare ")" ++ rest) ≠ some .word := CharClass.apart rfl (by decide) _
  simp only [Clause.pieces, hsplit, List.append_assoc]
  rw [hmatch, readSearch, read_columns hn hf, Option.bind_eq_bind, Option.bind_some]
  dsimp only
  rw [hagainst, Option.bind_eq_bind, Option.bind_some, read_operand value hclose]
  rfl

/-- A column starts a test. -/
theorem factor_of_column (column : ColumnName) (fuel : Nat) :
    readFactor known (fuel + 1) (ofPieces (column.pieces ++ rest)) =
      readTest known fuel (ofPieces (column.pieces ++ rest)) := by
  obtain ⟨text, tokens, ht⟩ := name_first column rest
  rw [ht]
  rfl

/-! ### Terms and groups -/

/-- The pieces of the clause are read as what it reads as, if that is anything, and never taken for
the constant. -/
structure Restores (known : List String) (clause : Clause) : Prop where
  first : ∀ rest, (ofPieces (clause.pieces ++ rest)).head? ≠ some (.word "1")
  factor : ∀ fuel rest, clause.pieces.length ≤ fuel → next? rest ≠ some .word →
    readFactor known fuel (ofPieces (clause.pieces ++ rest)) =
      (clause.reading? known).map (·, ofPieces rest)

/-- What can follow terms: nothing, or the end of their group. -/
def Ends (rest : List Piece) : Prop := rest = [] ∨ ∃ more, rest = Piece.ofBare ")" ++ more

theorem Ends.apart (h : Ends rest) : next? rest ≠ some .word := by
  rcases h with rfl | ⟨more, rfl⟩
  · simp [next?]
  · exact CharClass.apart rfl (by decide) _

theorem Ends.skip_word (h : Ends rest) (text : String) :
    skip [.word text] (ofPieces rest) = none := by
  rcases h with rfl | ⟨more, rfl⟩
  · rfl
  · exact Token.skip_of_head (by simp [Token.of_close])

theorem separator_apart (glue : Glue) (rest : List Piece) :
    next? (Piece.ofBare glue.separator ++ rest) ≠ some .word := by
  cases glue <;> exact CharClass.apart rfl (by decide) _

theorem joined_cons (glue : Glue) (clause next : Clause) (others : List Clause) :
    Clause.joinedPieces glue (clause :: next :: others) =
      clause.pieces ++ (Piece.ofBare glue.separator ++
        Clause.joinedPieces glue (next :: others)) := by
  simp only [Clause.joinedPieces, List.map_cons, join_cons, List.append_assoc]

theorem read_last {tokens : List Token} {reading : Reading} {fuel : Nat} (he : Ends rest)
    (h : readFactor known fuel tokens = some (reading, ofPieces rest)) :
    readTerms known (fuel + 1) tokens = some ([[reading]], ofPieces rest) := by
  rw [readTerms, h, Option.bind_eq_bind, Option.bind_some]
  dsimp only
  rw [he.skip_word, he.skip_word]
  rfl

theorem read_next {glue : Glue} (hg : glue ≠ .comma) {tokens : List Token} {reading : Reading}
    {fuel : Nat}
    (h : readFactor known fuel tokens =
      some (reading, ofPieces (Piece.ofBare glue.separator ++ rest))) :
    readTerms known (fuel + 1) tokens =
      (readTerms known fuel (ofPieces rest)).map fun found =>
        (glue.prepend reading found.1, found.2) := by
  rw [readTerms, h, Option.bind_eq_bind, Option.bind_some]
  dsimp only
  cases glue with
  | comma => exact absurd rfl hg
  | and =>
    have hand : skip [.word "AND"] (ofPieces (Piece.ofBare Glue.and.separator ++ rest)) =
        some (ofPieces rest) := rfl
    rw [hand]
    dsimp only
    cases readTerms known fuel (ofPieces rest) <;> rfl
  | or =>
    have hand : skip [.word "AND"] (ofPieces (Piece.ofBare Glue.or.separator ++ rest)) = none := rfl
    have hor : skip [.word "OR"] (ofPieces (Piece.ofBare Glue.or.separator ++ rest)) =
        some (ofPieces rest) := rfl
    rw [hand, hor]
    dsimp only
    cases readTerms known fuel (ofPieces rest) <;> rfl

-- Clauses never mix the connectives of a level. Where they are mixed, `AND` binds tighter.
example : read ["=", "IS"] .mysql
      "`a` = 'OR' OR `b` BETWEEN '1' AND '2' AND (`c` IS NULL OR (1=2))" =
    some [
      [.compare "`a`" "=" (.text "OR")],
      [.between "`b`" (.text "1") (.text "2"),
        .group [[.compare "`c`" "IS" .null], [.never]]]] := by cbv

/-- Every clause of a level is read in its place. -/
theorem read_terms {glue : Glue} (hg : glue ≠ .comma) {clauses : List Clause}
    (each : ∀ c ∈ clauses, Restores known c) (hn : clauses ≠ []) (fuel : Nat) (rest : List Piece)
    (hf : (Clause.joinedPieces glue clauses).length < fuel) (he : Ends rest) :
    readTerms known fuel (ofPieces (Clause.joinedPieces glue clauses ++ rest)) =
      ((Clause.readings? known clauses).bind glue.terms?).map (·, ofPieces rest) := by
  induction clauses generalizing fuel with
  | nil => exact absurd rfl hn
  | cons clause others ih =>
    obtain ⟨_, hread⟩ := each clause (by simp)
    obtain ⟨fuel, rfl⟩ : ∃ n, fuel = n + 1 := ⟨fuel - 1, by omega⟩
    cases others with
    | nil =>
      have hfactor := hread fuel rest (Nat.le_of_lt_succ hf) he.apart
      cases hreading : clause.reading? known with
      | none =>
        rw [hreading] at hfactor
        simp only [Clause.joinedPieces, List.map_cons, List.map_nil, Piece.joinWith, readTerms,
          hfactor, Clause.readings?, hreading]
        rfl
      | some reading =>
        rw [hreading] at hfactor
        have hterms : glue.terms? [reading] = some [[reading]] := by
          rw [Glue.terms_cons (Glue.terms_nil hg), Glue.prepend_nil]
        simp only [Clause.readings?, hreading, Option.bind_eq_bind, Option.bind_some,
          Option.pure_def, hterms, Option.map_some]
        exact read_last he hfactor
    | cons next others =>
      have hseparator : 0 < (Piece.ofBare glue.separator).length := by
        cases glue <;> decide
      simp only [joined_cons, List.length_append] at hf
      simp only [joined_cons, List.append_assoc]
      have hfactor := hread fuel (Piece.ofBare glue.separator ++
        (Clause.joinedPieces glue (next :: others) ++ rest)) (by omega) (separator_apart glue _)
      have hrest := ih (fun c hc => each c (List.mem_cons_of_mem _ hc)) (by simp) fuel (by omega)
      rw [Clause.readings?]
      cases hreading : clause.reading? known with
      | none =>
        rw [hreading] at hfactor
        simp only [readTerms, hfactor]
        rfl
      | some reading =>
        rw [hreading] at hfactor
        rw [read_next hg hfactor, hrest]
        cases hreadings : Clause.readings? known (next :: others) with
        | none => rfl
        | some readings =>
          obtain ⟨terms, hterms⟩ := Glue.terms_some hg readings
          simp [hterms, Glue.terms_cons hterms]

theorem read_group {inner : List Piece} {fuel : Nat}
    (hfirst : (ofPieces (inner ++ (Piece.ofBare ")" ++ rest))).head? ≠ some (.word "1"))
    {terms? : Option (List (List Reading))}
    (hterms : readTerms known fuel (ofPieces (inner ++ (Piece.ofBare ")" ++ rest))) =
      terms?.map (·, ofPieces (Piece.ofBare ")" ++ rest))) :
    readFactor known (fuel + 1)
        (ofPieces (Piece.ofBare "(" ++ (inner ++ (Piece.ofBare ")" ++ rest)))) =
      terms?.map fun terms => (.group terms, ofPieces rest) := by
  have hopen (more : List Piece) :
      ofPieces (Piece.ofBare "(" ++ more) = .mark '(' :: ofPieces more := rfl
  have hinner (tokens : List Token) : skip [.mark '('] (.mark '(' :: tokens) = some tokens := rfl
  have hnever : skip neverTokens
      (.mark '(' :: ofPieces (inner ++ (Piece.ofBare ")" ++ rest))) = none := by
    rw [neverTokens, skip, if_pos rfl]
    exact Token.skip_of_head hfirst
  rw [hopen, readFactor, hnever]
  dsimp only
  rw [hinner]
  dsimp only
  rw [hterms]
  cases terms? <;> rfl

end Reading

namespace Clause

open Reading
open Token (ofPieces)

variable {known : List String}

/-- Clauses that can be told apart again: operators can be read as they are written, no list is
empty, and no comma joins clauses. -/
inductive Legible : Clause → Prop where
  | compare {column : ColumnName} {operator : String} {value : Literal}
      (spelled : WellSpelled operator) (ordinary : operator ∉ ["BETWEEN", "IN", "NOT IN"]) :
      Legible (.compare column operator value)
  | between {column : ColumnName} {low high : Literal} : Legible (.between column low high)
  | member {column : ColumnName} {operator : String} {items : List Literal}
      (listing : operator = "IN" ∨ operator = "NOT IN") (some_item : items ≠ []) :
      Legible (.member column operator items)
  | never : Legible .never
  | search {columns : List ColumnName} {value : Literal} (named : columns ≠ []) :
      Legible (.search columns value)
  | group {glue : Glue} {clauses : List Clause} (connective : glue ≠ .comma)
      (some_clause : clauses ≠ []) (each : ∀ c ∈ clauses, Legible c) : Legible (.group glue clauses)

theorem column_length_pos (column : ColumnName) : 0 < column.pieces.length := by
  unfold ColumnName.pieces
  split <;> simp

/-- A clause that starts with a column is read as a test. -/
theorem restores_test {clause : Clause} {column : ColumnName} {others : List Piece}
    (hp : clause.pieces = column.pieces ++ others)
    (test : ∀ fuel rest, clause.pieces.length ≤ fuel + 1 → CharClass.next? rest ≠ some .word →
      readTest known fuel (ofPieces (clause.pieces ++ rest)) =
        (clause.reading? known).map (·, ofPieces rest)) : Restores known clause := by
  refine ⟨?_, ?_⟩
  · intro rest
    obtain ⟨text, tokens, ht⟩ := name_first column (others ++ rest)
    rw [hp, List.append_assoc, ht]
    simp
  · intro fuel rest hf hr
    cases fuel with
    | zero =>
      have hpos := column_length_pos column
      rw [hp, List.length_append] at hf
      omega
    | succ fuel =>
      rw [← test fuel rest hf hr, hp, List.append_assoc, factor_of_column]

theorem comma_ne_nil : Piece.ofBare "," ≠ [] := by decide

theorem joined_first {glue : Glue} {clauses : List Clause} (hn : clauses ≠ [])
    (each : ∀ c ∈ clauses, Restores known c) (rest : List Piece) :
    (ofPieces (joinedPieces glue clauses ++ rest)).head? ≠ some (.word "1") := by
  cases clauses with
  | nil => exact absurd rfl hn
  | cons clause others =>
    obtain ⟨hfirst, _⟩ := each clause (by simp)
    cases others with
    | nil => exact hfirst rest
    | cons next others =>
      rw [joined_cons, List.append_assoc]
      exact hfirst _

theorem restores_member (column : ColumnName) {operator : String} {items : List Literal}
    (listing : operator = "IN" ∨ operator = "NOT IN") (some_item : items ≠ []) :
    Restores known (.member column operator items) := by
  refine restores_test (by simp only [pieces, List.append_assoc]; rfl) ?_
  intro fuel rest hf _
  have hpos := column_length_pos column
  have hl := length_le_join comma_ne_nil (items.map Literal.pieces)
  have hclose : (Piece.ofBare ")").length = 1 := rfl
  simp only [pieces, List.length_append, List.length_map] at hf hl
  exact read_member column listing some_item (by omega)

theorem restores_search {columns : List ColumnName} (value : Literal) (named : columns ≠ []) :
    Restores known (.search columns value) := by
  refine ⟨?_, ?_⟩
  · intro rest
    simp only [pieces, List.append_assoc]
    exact fun h => absurd (Option.some.inj h) (by decide)
  · intro fuel rest hf _
    have hl := length_le_join comma_ne_nil (columns.map ColumnName.pieces)
    have hmatch : (Piece.ofBare "MATCH(").length = 6 := rfl
    simp only [pieces, List.length_append, List.length_map] at hf hl
    obtain ⟨fuel, rfl⟩ : ∃ n, fuel = n + 1 := ⟨fuel - 1, by omega⟩
    exact read_search named value (by omega)

theorem restores_group {glue : Glue} {clauses : List Clause} (connective : glue ≠ .comma)
    (some_clause : clauses ≠ []) (each : ∀ c ∈ clauses, Restores known c) :
    Restores known (.group glue clauses) := by
  have hp : (Clause.group glue clauses).pieces =
      Piece.ofBare "(" ++ joinedPieces glue clauses ++ Piece.ofBare ")" := by
    rw [pieces, pieces_all_eq_map, joinedPieces]
  have hreading : (Clause.group glue clauses).reading? known =
      ((readings? known clauses).bind glue.terms?).map .group := by
    rw [reading?, Option.map_eq_bind, Option.bind_assoc]
    rfl
  refine ⟨?_, ?_⟩
  · intro rest
    simp only [hp, List.append_assoc]
    exact fun h => absurd (Option.some.inj h) (by decide)
  · intro fuel rest hf _
    have hmarks : (Piece.ofBare "(").length = 1 ∧ (Piece.ofBare ")").length = 1 := ⟨rfl, rfl⟩
    simp only [hp, List.length_append] at hf
    obtain ⟨fuel, rfl⟩ : ∃ n, fuel = n + 1 := ⟨fuel - 1, by omega⟩
    simp only [hp, List.append_assoc]
    rw [read_group (joined_first some_clause each _)
      (read_terms connective each some_clause fuel _ (by omega) (.inr ⟨rest, rfl⟩)), hreading,
      Option.map_map]
    rfl

/-- A legible clause is read back, whatever follows it that is not part of a word. -/
theorem Legible.restores {clause : Clause} (h : Legible clause) (known : List String) :
    Restores known clause := by
  induction h with
  | @compare column operator value spelled ordinary =>
    refine restores_test (by simp only [pieces, List.append_assoc]; rfl) ?_
    intro fuel rest _ hr
    exact read_compare column spelled ordinary value hr fuel
  | @between column low high =>
    refine restores_test (by simp only [pieces, List.append_assoc]; rfl) ?_
    intro fuel rest _ hr
    exact read_between column low high hr fuel
  | member listing some_item => exact restores_member _ listing some_item
  | never =>
    refine ⟨?_, ?_⟩
    · intro rest
      exact fun h => absurd (Option.some.inj h) (by decide)
    · intro fuel rest hf _
      cases fuel with
      | zero => exact absurd hf (by decide)
      | succ fuel => rfl
  | search named => exact restores_search _ named
  | group connective some_clause each ih => exact restores_group connective some_clause ih

theorem pieces_ne_nil (clause : Clause) : clause.pieces ≠ [] := by
  have hcolumn (column : ColumnName) : column.pieces ≠ [] :=
    List.ne_nil_of_length_pos (column_length_pos column)
  cases clause <;> simp [pieces, hcolumn, Piece.ofBare]

theorem joined_ne_nil (glue : Glue) {clauses : List Clause} (hn : clauses ≠ []) :
    joinedPieces glue clauses ≠ [] := by
  obtain ⟨clause, others, rfl⟩ := List.exists_cons_of_ne_nil hn
  cases others with
  | nil => exact pieces_ne_nil clause
  | cons next others => simp [joined_cons, pieces_ne_nil]

/-- A level of legible clauses is read back from its text, as far as operators are known. -/
theorem read_joined {style : Quoting} {glue : Glue} (hg : glue ≠ .comma) {clauses : List Clause}
    (hp : ∀ c ∈ clauses, Plain c) (hl : ∀ c ∈ clauses, Legible c) :
    Reading.read known style (joined style glue clauses) =
      (readings? known clauses).bind glue.terms? := by
  unfold Reading.read
  rw [scan_joined hp, Option.bind_eq_bind, Option.bind_some]
  by_cases hn : clauses = []
  · subst hn
    exact (Glue.terms_nil hg).symm
  · have hall := read_terms hg (fun c hc => (hl c hc).restores known) hn _ []
      (Nat.lt_succ_self _) (.inl rfl)
    have hsome : (joinedPieces glue clauses).isEmpty = false := by
      simpa using joined_ne_nil glue hn
    rw [List.append_nil] at hall
    simp only [hsome, hall]
    cases (readings? known clauses).bind glue.terms? <;> rfl

end Clause

end SqlBuilder

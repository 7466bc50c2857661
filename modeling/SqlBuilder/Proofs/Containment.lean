import SqlBuilder.Proofs.Operators
import SqlBuilder.Proofs.Sample

/-!
Values stay inside their literals: the literals of a compiled text are the values of its
conditions, in order and with nothing added, whatever the values and the operators are.
-/

namespace SqlBuilder

/-! ### The pieces of clauses -/

namespace Clause

mutual

def pieces : Clause → List Piece
  | compare column operator value =>
    column.pieces ++ Piece.ofBare (" " ++ operator ++ " ") ++ value.pieces
  | between column low high =>
    column.pieces ++ Piece.ofBare " BETWEEN " ++ low.pieces ++ Piece.ofBare " AND " ++ high.pieces
  | member column operator items =>
    column.pieces ++ Piece.ofBare (" " ++ operator ++ " (") ++
      Piece.joinWith (Piece.ofBare ",") (items.map Literal.pieces) ++ Piece.ofBare ")"
  | never => Piece.ofBare "(1=2)"
  | search columns value =>
    Piece.ofBare "MATCH(" ++ Piece.joinWith (Piece.ofBare ",") (columns.map ColumnName.pieces) ++
      Piece.ofBare ") AGAINST(" ++ value.pieces ++ Piece.ofBare ")"
  | verbatim sql => Piece.ofBare ("(" ++ sql ++ ")")
  | group glue clauses =>
    Piece.ofBare "(" ++ Piece.joinWith (Piece.ofBare glue.separator) (piecesAll clauses) ++
      Piece.ofBare ")"

def piecesAll : List Clause → List (List Piece)
  | [] => []
  | clause :: rest => pieces clause :: piecesAll rest

end

theorem sql_all_eq_map (style : Quoting) (clauses : List Clause) :
    sqlAll style clauses = clauses.map (sql style) := by
  induction clauses with
  | nil => rfl
  | cons clause rest ih => simp [sqlAll, ih]

theorem pieces_all_eq_map (clauses : List Clause) : piecesAll clauses = clauses.map pieces := by
  induction clauses with
  | nil => rfl
  | cons clause rest ih => simp [piecesAll, ih]

/-- No SQL is passed on as it is, and operators have none but kept characters. -/
inductive Plain : Clause → Prop where
  | compare {column : ColumnName} {operator : String} {value : Literal} (kept : Kept operator) :
      Plain (.compare column operator value)
  | between {column : ColumnName} {low high : Literal} : Plain (.between column low high)
  | member {column : ColumnName} {operator : String} {items : List Literal}
      (kept : Kept operator) : Plain (.member column operator items)
  | never : Plain .never
  | search {columns : List ColumnName} {value : Literal} : Plain (.search columns value)
  | group {glue : Glue} {clauses : List Clause} (each : ∀ c ∈ clauses, Plain c) :
      Plain (.group glue clauses)

theorem kept_separator (glue : Glue) : Kept glue.separator := by
  cases glue <;> decide

theorem lead_ne_nil (operator : String) (tail : String) :
    (" " ++ operator ++ tail).toList ≠ [] := by
  simp

/-- A plain clause is scanned to its pieces in both styles of quoting. -/
theorem Plain.adds {style : Quoting} {clause : Clause} (h : Plain clause) :
    Adds style (clause.sql style) clause.pieces := by
  induction h with
  | @compare column operator value kept =>
    have hlead : Kept (" " ++ operator ++ " ") := (Kept.append (by decide) kept).append (by decide)
    have hv := adds_literal style hlead (lead_ne_nil operator " ") value
    simpa only [sql, pieces, String.append_assoc, List.append_assoc] using
      (adds_column style column).append hv
  | @between column low high =>
    have hbetween : Kept " BETWEEN " := by decide
    have hand : Kept " AND " := by decide
    have hl := adds_literal style hbetween (by simp) low
    have hh := adds_literal style hand (by simp) high
    simpa only [sql, pieces, String.append_assoc, List.append_assoc] using
      ((adds_column style column).append hl).append hh
  | @member column operator items kept =>
    have hlead : Kept (" " ++ operator ++ " (") :=
      (Kept.append (by decide) kept).append (by decide)
    have hi := adds_literals style items _ hlead (lead_ne_nil operator " (")
    have hend := adds_bare style ")" (by decide)
    simpa only [sql, pieces, String.append_assoc, List.append_assoc] using
      ((adds_column style column).append hi).append hend
  | never => exact adds_bare style "(1=2)" (by decide)
  | @search columns value =>
    have hopen := adds_bare style "MATCH(" (by decide)
    have hcomma : Kept "," := by decide
    have hagainst : Kept ") AGAINST(" := by decide
    have hc := adds_join hcomma columns (fun c _ => adds_column style c)
    have hv := adds_literal style hagainst (by simp) value
    have hend := adds_bare style ")" (by decide)
    simpa only [sql, pieces, String.append_assoc, List.append_assoc] using
      ((hopen.append hc).append hv).append hend
  | @group glue clauses each ih =>
    have hopen := adds_bare style "(" (by decide)
    have hi := adds_join (kept_separator glue) clauses ih
    have hend := adds_bare style ")" (by decide)
    simp only [sql, pieces, sql_all_eq_map, pieces_all_eq_map]
    exact (hopen.append hi).append hend

/-- The pieces of clauses with the connective between neighbours. -/
def joinedPieces (glue : Glue) (clauses : List Clause) : List Piece :=
  Piece.joinWith (Piece.ofBare glue.separator) (clauses.map pieces)

theorem scan_joined {style : Quoting} {glue : Glue} {clauses : List Clause}
    (h : ∀ c ∈ clauses, Plain c) :
    Scanner.scan style (joined style glue clauses) = some (joinedPieces glue clauses) := by
  unfold joined joinedPieces
  rw [sql_all_eq_map]
  exact (adds_join (kept_separator glue) clauses (fun c hc => (h c hc).adds)).scan

end Clause

/-! ### The texts of conditions -/

/-- The text that a scalar or a date or time is written as. -/
def Value.literalText? : Value → Option String
  | date d => some d.text
  | time t => some t.text
  | dateTime d t => some (d.text ++ " " ++ t.text)
  | value => value.scalarText?

/-- The texts of the values that a predicate compares with: the bounds of a range and the members
of a list one by one. An empty list has none, so it does not matter whether its test is left out. -/
def Predicate.texts (p : Predicate) : List String :=
  if p.writtenOperator ∈ ["BETWEEN", "IN", "NOT IN"] then
    match p.value with
    | .list items => items.filterMap Value.literalText?
    | _ => []
  else p.value.literalText?.toList

namespace Condition

mutual

def texts : Condition → List String
  | predicate p => p.texts
  | raw _ => []
  | group _ children => textsAll children

def textsAll : List Condition → List String
  | [] => []
  | condition :: rest => texts condition ++ textsAll rest

end

/-- No SQL is passed on as it is, at any depth. -/
inductive RawFree : Condition → Prop where
  | predicate (p : Predicate) : RawFree (.predicate p)
  | group (glue : Glue) (children : List Condition) (each : ∀ c ∈ children, RawFree c) :
      RawFree (.group glue children)

end Condition

/-! ### The literals of an outline -/

def Clause.literals (clause : Clause) : List String := clause.pieces.filterMap Piece.literal?

theorem literals_of_literal {value : Value} {literal : Literal}
    (h : value.literal? = some literal) :
    literal.pieces.filterMap Piece.literal? = value.literalText?.toList := by
  unfold Value.literal? at h
  split at h
  · cases h
    simp [Literal.pieces, Value.literalText?, Value.scalarText?]
  · cases h
    simp [Literal.pieces, Value.literalText?, Piece.literal?]
  · cases h
    simp [Literal.pieces, Value.literalText?, Piece.literal?]
  · cases h
    simp [Literal.pieces, Value.literalText?, Piece.literal?]
  · rename_i x y
    obtain ⟨a, _, h⟩ := Option.bind_eq_some_iff.mp h
    obtain ⟨b, _, h⟩ := Option.bind_eq_some_iff.mp h
    cases h
    simp [Literal.pieces, Value.literalText?, Value.scalarText?]
  · rename_i hd ht hdt hl
    obtain ⟨text, ht', rfl⟩ := Option.map_eq_some_iff.mp h
    have he : value.literalText? = value.scalarText? := by
      cases value <;> first | rfl | simp [Value.scalarText?] at ht'
    rw [he, ht']
    simp [Literal.pieces, Piece.literal?]

theorem literals_of_items {items : List Value} {literals : List Literal}
    (h : items.mapM Value.literal? = some literals) :
    literals.flatMap (fun l => l.pieces.filterMap Piece.literal?) =
      items.filterMap Value.literalText? := by
  induction items generalizing literals with
  | nil =>
    cases h
    rfl
  | cons item rest ih =>
    rw [List.mapM_cons] at h
    obtain ⟨first, hf, h⟩ := Option.bind_eq_some_iff.mp h
    obtain ⟨others, ho, h⟩ := Option.bind_eq_some_iff.mp h
    cases h
    rw [List.flatMap_cons, literals_of_literal hf, ih ho]
    cases ht : item.literalText? <;> simp [ht]

theorem literals_join (separator : String) (parts : List (List Piece)) :
    (Piece.joinWith (Piece.ofBare separator) parts).filterMap Piece.literal? =
      parts.flatMap (List.filterMap Piece.literal?) := by
  induction parts with
  | nil => rfl
  | cons part rest ih =>
    cases rest with
    | nil => simp [Piece.joinWith]
    | cons next rest => simp [Piece.joinWith, ih]

@[simp] theorem literals_column (name : ColumnName) :
    name.pieces.filterMap Piece.literal? = [] := by
  unfold ColumnName.pieces
  split <;> simp [Piece.literal?]

theorem literals_columns (columns : List ColumnName) :
    (Piece.joinWith (Piece.ofBare ",") (columns.map ColumnName.pieces)).filterMap
      Piece.literal? = [] := by
  rw [literals_join]
  induction columns with
  | nil => rfl
  | cons column rest ih => rw [List.map_cons, List.flatMap_cons, literals_column, ih]; rfl

namespace Predicate

variable {scope : Scope} {p : Predicate} {out : List Clause}

theorem outlined_plain (h : Outlined scope p out) : ∀ c ∈ out, c.Plain := by
  have hk := kept_effective p scope.filtering
  cases h with
  | search operator named literal => simpa using Clause.Plain.search
  | between on operator bounds lowest highest => simpa using Clause.Plain.between
  | never operator nothing => simpa using Clause.Plain.never
  | vacuous operator nothing => simp
  | member on effective listing members some_item each =>
    simpa using Clause.Plain.member (effective ▸ hk)
  | compare on effective ordinary literal => simpa using Clause.Plain.compare (effective ▸ hk)

theorem texts_of_list {items : List Value} (hv : p.value = .list items)
    (ho : p.writtenOperator ∈ ["BETWEEN", "IN", "NOT IN"]) :
    p.texts = items.filterMap Value.literalText? := by
  simp only [texts, if_pos ho, hv]

/-- Null has no text, so the operator that stands before it does not matter. -/
theorem texts_of_ordinary (filtering : Bool)
    (ho : p.effectiveOperator filtering ∉ ["BETWEEN", "IN", "NOT IN"]) :
    p.texts = p.value.literalText?.toList := by
  unfold texts
  split
  · rename_i hw
    cases hn : p.value.isNull with
    | false =>
      rw [effective_of_not_null hn] at ho
      exact absurd hw ho
    | true =>
      cases hv : p.value with
      | null => rfl
      | _ => simp [hv, Value.isNull] at hn
  · rfl

theorem outlined_literals (h : Outlined scope p out) :
    out.flatMap Clause.literals = p.texts := by
  cases h with
  | search operator named literal =>
    rw [texts_of_ordinary scope.filtering (by simp [operator])]
    simp only [List.flatMap_cons, List.flatMap_nil, Clause.literals, Clause.pieces,
      List.filterMap_append, Piece.literals_of_bare, literals_columns,
      literals_of_literal literal, List.nil_append, List.append_nil]
  | @between column low high first second on operator bounds lowest highest =>
    have hw := (effective_of_list bounds scope.filtering).symm.trans operator
    have each : [low, high].mapM Value.literal? = some [first, second] := by
      simp [lowest, highest]
    rw [texts_of_list bounds (by simp [hw]), ← literals_of_items each]
    simp [Clause.literals, Clause.pieces]
  | never operator nothing =>
    have hw := (effective_of_list nothing scope.filtering).symm.trans operator
    rw [texts_of_list nothing (by simp [hw])]
    simp [Clause.literals, Clause.pieces]
  | vacuous operator nothing =>
    have hw := (effective_of_list nothing scope.filtering).symm.trans operator
    rw [texts_of_list nothing (by simp [hw])]
    rfl
  | member on effective listing members some_item each =>
    have hw := (effective_of_list members scope.filtering).symm.trans effective
    rw [texts_of_list members (by rcases listing with hl | hl <;> simp [hw, hl]),
      ← literals_of_items each]
    simp [Clause.literals, Clause.pieces, literals_join, List.flatMap_map]
  | compare on effective ordinary literal =>
    rw [texts_of_ordinary scope.filtering (by simp_all)]
    simp [Clause.literals, Clause.pieces, literals_of_literal literal]

end Predicate

namespace Condition

variable {scope : Scope}

theorem RawFree.outline_plain {c : Condition} (hr : c.RawFree) (out : List Clause)
    (h : c.outline scope = some out) : ∀ k ∈ out, k.Plain := by
  induction hr generalizing out with
  | predicate p => exact Predicate.outlined_plain (Predicate.outlined h)
  | group glue children each ih =>
    obtain ⟨inner, hi, rfl⟩ := outline_group.mp h
    exact grouped_forall fun _ => .group (outline_all_forall ih hi)

theorem outline_all_literals {conditions : List Condition} {out : List Clause}
    (each : ∀ c ∈ conditions, ∀ first, c.outline scope = some first →
      first.flatMap Clause.literals = c.texts)
    (h : outlineAll scope conditions = some out) :
    out.flatMap Clause.literals = textsAll conditions := by
  induction conditions generalizing out with
  | nil =>
    cases h
    rfl
  | cons condition rest ih =>
    obtain ⟨first, others, hf, ho, rfl⟩ := outline_all_cons.mp h
    rw [List.flatMap_append, textsAll, each condition (List.mem_cons_self ..) first hf,
      ih (fun c hc => each c (List.mem_cons_of_mem _ hc)) ho]

theorem literals_grouped (glue : Glue) (clauses : List Clause) :
    (Clause.grouped glue clauses).flatMap Clause.literals = clauses.flatMap Clause.literals := by
  unfold Clause.grouped
  split
  · rename_i he
    rw [List.isEmpty_iff.mp he]
  · simp only [List.flatMap_cons, List.flatMap_nil, Clause.literals, Clause.pieces,
      Clause.pieces_all_eq_map, List.filterMap_append, Piece.literals_of_bare, literals_join,
      List.flatMap_map, List.nil_append, List.append_nil]
    rfl

/-- Raw SQL counts as text without literals here, whatever it holds. -/
theorem outline_literals (c : Condition) (out : List Clause) (h : c.outline scope = some out) :
    out.flatMap Clause.literals = c.texts := by
  induction c using Condition.induct generalizing out with
  | predicate p => exact Predicate.outlined_literals (Predicate.outlined h)
  | raw sql =>
    cases h
    simp [texts, Clause.literals, Clause.pieces]
  | group glue children ih =>
    obtain ⟨inner, hi, rfl⟩ := outline_group.mp h
    rw [literals_grouped, texts]
    exact outline_all_literals ih hi

/-- Scanned from its start, a compiled text ends outside quotes, and the literals in it are the
texts of the values, each once and in the order of the conditions. -/
theorem compiled_literals {style : Quoting} {schema : Schema} {conditions : List Condition}
    {sql : String} (hr : ∀ c ∈ conditions, c.RawFree)
    (h : compiledSql style schema scope conditions = .ok sql) :
    ∃ pieces, Scanner.scan style sql = some pieces ∧
      pieces.filterMap Piece.literal? = textsAll conditions := by
  obtain ⟨out, ho, rfl⟩ := compiled_sql_outline h
  have hp := outline_all_forall (fun c hc => (hr c hc).outline_plain) ho
  have hl := outline_all_literals (fun c _ => outline_literals c) ho
  refine ⟨_, Clause.scan_joined hp, ?_⟩
  rw [Clause.joinedPieces, literals_join, List.flatMap_map]
  exact hl

/-- A column, an operator and a value that all try to leave their places. -/
def hostile : List Condition := [
  .group .or [
    .predicate ⟨.one "name", "like'", .text "' OR \\"⟩,
    .predicate ⟨.one "nick`", " not in ", .list [.integer 7, .null]⟩],
  .predicate ⟨.one "id", "NOT IN", .list []⟩]

theorem compiled_literals_hostile :
    compiledSql .mysql Sample.schema (.filter "users") hostile =
        .ok "(`users`.`name` LIKE '\\' OR \\\\' OR `users`.`nick` NOT IN ('7',NULL))" ∧
      ∃ pieces, Scanner.scan .mysql
          "(`users`.`name` LIKE '\\' OR \\\\' OR `users`.`nick` NOT IN ('7',NULL))" = some pieces ∧
        pieces.filterMap Piece.literal? = ["' OR \\", "7"] := by
  have hr : ∀ c ∈ hostile, c.RawFree := by
    intro c hc
    simp only [hostile, List.mem_cons, List.not_mem_nil, or_false] at hc
    rcases hc with rfl | rfl
    · refine .group _ _ (fun c hc => ?_)
      simp only [List.mem_cons, List.not_mem_nil, or_false] at hc
      rcases hc with rfl | rfl
      · exact .predicate _
      · exact .predicate _
    · exact .predicate _
  have h : compiledSql .mysql Sample.schema (.filter "users") hostile =
      .ok "(`users`.`name` LIKE '\\' OR \\\\' OR `users`.`nick` NOT IN ('7',NULL))" := by rfl
  have ht : textsAll hostile = ["' OR \\", "7"] := by rfl
  obtain ⟨pieces, hs, hp⟩ := compiled_literals hr h
  exact ⟨h, pieces, hs, hp.trans ht⟩

end Condition

end SqlBuilder

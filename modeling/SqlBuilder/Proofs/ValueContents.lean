import Mathlib.Data.List.Forall2
import SqlBuilder.Proofs.Containment

/-!
What values contain and how they are quoted decides nothing but the literals. Two runs on conditions
that differ only in the contents of values write the same text around literals in the same places.
-/

namespace SqlBuilder

/-! ### Text around literals -/

namespace Piece

def text (style : Quoting) : Piece → String
  | bare c => String.singleton c
  | name text => "`" ++ text ++ "`"
  | literal text => style.quote text

def textAll (style : Quoting) (pieces : List Piece) : String :=
  String.join (pieces.map (text style))

/-- The piece without what a literal says. -/
def blank : Piece → Piece
  | literal _ => literal ""
  | piece => piece

/-- What stands before the first literal, and what follows each. -/
def cut : List Piece → String × List String
  | [] => ("", [])
  | literal _ :: rest => ("", (cut rest).1 :: (cut rest).2)
  | bare c :: rest => (String.singleton c ++ (cut rest).1, (cut rest).2)
  | name text :: rest => ("`" ++ text ++ "`" ++ (cut rest).1, (cut rest).2)

end Piece

/-- The lead, and then each text between quotes with its tail. -/
def Quoting.weave (style : Quoting) (lead : String) (tails texts : List String) : String :=
  lead ++ String.join (List.zipWith (fun text tail => style.quote text ++ tail) texts tails)

namespace Piece

@[simp] theorem text_all_append (style : Quoting) (xs ys : List Piece) :
    textAll style (xs ++ ys) = textAll style xs ++ textAll style ys := by
  simp [textAll]

@[simp] theorem text_all_of_bare (style : Quoting) (text : String) :
    textAll style (ofBare text) = text := by
  have h : ∀ chars : List Char,
      String.join (chars.map fun c => String.singleton c) = String.ofList chars := by
    intro chars
    induction chars with
    | nil => rfl
    | cons c rest ih =>
      rw [List.map_cons, String.join_cons, ih]
      apply String.toList_injective
      simp
  simp [textAll, ofBare, Piece.text, Function.comp_def, h]

theorem text_all_join (style : Quoting) (separator : List Piece) (parts : List (List Piece)) :
    textAll style (joinWith separator parts) =
      Text.joinWith (textAll style separator) (parts.map (textAll style)) := by
  induction parts with
  | nil => rfl
  | cons part rest ih =>
    cases rest with
    | nil => rfl
    | cons next rest => simp [joinWith, Text.joinWith, ih, String.append_assoc]

/-- The text of pieces is their literals between what stands around them. -/
theorem text_all_cut (style : Quoting) (pieces : List Piece) :
    textAll style pieces =
      style.weave (cut pieces).1 (cut pieces).2 (pieces.filterMap literal?) := by
  induction pieces with
  | nil => rfl
  | cons piece rest ih =>
    have hcons : textAll style (piece :: rest) = piece.text style ++ textAll style rest := by
      simp [textAll]
    rw [hcons, ih]
    cases piece <;>
      simp [cut, text, List.filterMap_cons, literal?, Quoting.weave, String.append_assoc]

theorem length_cut (pieces : List Piece) :
    (cut pieces).2.length = (pieces.filterMap literal?).length := by
  induction pieces with
  | nil => rfl
  | cons piece rest ih => cases piece <;> simp [cut, List.filterMap_cons, literal?, ih]

theorem cut_blank (pieces : List Piece) : cut (pieces.map blank) = cut pieces := by
  induction pieces with
  | nil => rfl
  | cons piece rest ih => cases piece <;> simp [cut, blank, ih]

@[simp] theorem blank_of_bare (text : String) : (ofBare text).map blank = ofBare text := by
  simp [ofBare, blank]

theorem blank_join (separator : List Piece) (parts : List (List Piece)) :
    (joinWith separator parts).map blank =
      joinWith (separator.map blank) (parts.map (List.map blank)) := by
  induction parts with
  | nil => rfl
  | cons part rest ih =>
    cases rest with
    | nil => rfl
    | cons next rest => simp [joinWith, ih]

end Piece

/-! ### The shape of clauses -/

theorem ColumnName.text_pieces (style : Quoting) (name : ColumnName) :
    name.text = Piece.textAll style name.pieces := by
  unfold ColumnName.text ColumnName.pieces
  cases name.qualifier with
  | none => simp [Piece.textAll, Piece.text, Identifier.quote]
  | some qualifier =>
    have hpoint : String.singleton '.' = "." := rfl
    simp only [Piece.textAll, List.map_cons, List.map_nil, Piece.text, String.join_cons,
      String.join_nil, hpoint, Identifier.quote, String.append_assoc, String.append_empty]

theorem Literal.sql_pieces (style : Quoting) (literal : Literal) :
    literal.sql style = Piece.textAll style literal.pieces := by
  cases literal with
  | null => simp [sql, pieces]
  | text value => simp [sql, pieces, Piece.textAll, Piece.text]
  | point x y => simp [sql, pieces, String.append_assoc]

namespace Clause

/-- Induction over a clause: a group may use the statement for all its members. -/
theorem induct {motive : Clause → Prop}
    (compare : ∀ column operator value, motive (.compare column operator value))
    (between : ∀ column low high, motive (.between column low high))
    (member : ∀ column operator items, motive (.member column operator items))
    (never : motive .never) (search : ∀ columns value, motive (.search columns value))
    (verbatim : ∀ sql, motive (.verbatim sql))
    (group : ∀ glue clauses, (∀ c ∈ clauses, motive c) → motive (.group glue clauses)) :
    ∀ c, motive c
  | .compare column operator value => compare column operator value
  | .between column low high => between column low high
  | .member column operator items => member column operator items
  | .never => never
  | .search columns value => search columns value
  | .verbatim sql => verbatim sql
  | .group glue clauses => group glue clauses fun c _ =>
      induct compare between member never search verbatim group c

theorem texts_join {α : Type} (style : Quoting) (separator : String) {text : α → String}
    {pieces : α → List Piece} {items : List α}
    (each : ∀ item ∈ items, text item = Piece.textAll style (pieces item)) :
    Text.joinWith separator (items.map text) =
      Piece.textAll style (Piece.joinWith (Piece.ofBare separator) (items.map pieces)) := by
  rw [Piece.text_all_join, Piece.text_all_of_bare, List.map_map]
  exact congrArg _ (List.map_congr_left each)

/-- A clause is the text of its pieces. -/
theorem sql_pieces (style : Quoting) (c : Clause) :
    c.sql style = Piece.textAll style c.pieces := by
  have hcolumn := ColumnName.text_pieces style
  have hliteral := Literal.sql_pieces style
  induction c using Clause.induct with
  | compare column operator value =>
    simp [sql, pieces, hcolumn, hliteral, String.append_assoc]
  | between column low high =>
    simp [sql, pieces, hcolumn, hliteral, String.append_assoc]
  | member column operator items =>
    simp [sql, pieces, hcolumn, texts_join style "," (fun l _ => hliteral l), String.append_assoc]
  | never => simp [sql, pieces]
  | search columns value =>
    simp [sql, pieces, hliteral, texts_join style "," (fun c _ => hcolumn c), String.append_assoc]
  | verbatim sql => simp [Clause.sql, pieces, String.append_assoc]
  | group glue clauses ih =>
    simp [sql, pieces, sql_all_eq_map, pieces_all_eq_map, texts_join style glue.separator ih,
      String.append_assoc]

theorem joined_text (style : Quoting) (glue : Glue) (clauses : List Clause) :
    joined style glue clauses = Piece.textAll style (joinedPieces glue clauses) := by
  rw [joined, sql_all_eq_map, joinedPieces]
  exact texts_join style glue.separator fun c _ => sql_pieces style c

end Clause

def Literal.shape (literal : Literal) : List Piece := literal.pieces.map Piece.blank

/-- The pieces of a clause without what its literals say. -/
def Clause.shape (c : Clause) : List Piece := c.pieces.map Piece.blank

@[simp] theorem ColumnName.blank_pieces (name : ColumnName) :
    name.pieces.map Piece.blank = name.pieces := by
  unfold ColumnName.pieces
  cases name.qualifier <;> rfl

namespace Clause

theorem shape_compare (column : ColumnName) (operator : String) (value : Literal) :
    shape (.compare column operator value) =
      column.pieces ++ Piece.ofBare (" " ++ operator ++ " ") ++ value.shape := by
  simp [shape, pieces, Literal.shape]

theorem shape_between (column : ColumnName) (low high : Literal) :
    shape (.between column low high) =
      column.pieces ++ Piece.ofBare " BETWEEN " ++ low.shape ++ Piece.ofBare " AND " ++
        high.shape := by
  simp [shape, pieces, Literal.shape]

theorem shape_member (column : ColumnName) (operator : String) (items : List Literal) :
    shape (.member column operator items) =
      column.pieces ++ Piece.ofBare (" " ++ operator ++ " (") ++
        Piece.joinWith (Piece.ofBare ",") (items.map Literal.shape) ++ Piece.ofBare ")" := by
  simp only [shape, pieces, List.map_append, ColumnName.blank_pieces, Piece.blank_of_bare,
    Piece.blank_join, List.map_map]
  rfl

theorem shape_search (columns : List ColumnName) (value : Literal) :
    shape (.search columns value) =
      Piece.ofBare "MATCH(" ++
        (Piece.joinWith (Piece.ofBare ",") (columns.map ColumnName.pieces)).map Piece.blank ++
        Piece.ofBare ") AGAINST(" ++ value.shape ++ Piece.ofBare ")" := by
  simp [shape, pieces, Literal.shape]

theorem shape_group (glue : Glue) (clauses : List Clause) :
    shape (.group glue clauses) =
      Piece.ofBare "(" ++ Piece.joinWith (Piece.ofBare glue.separator) (clauses.map shape) ++
        Piece.ofBare ")" := by
  simp only [shape, pieces, pieces_all_eq_map, List.map_append, Piece.blank_of_bare,
    Piece.blank_join, List.map_map]
  rfl

theorem blank_joined (glue : Glue) (clauses : List Clause) :
    (joinedPieces glue clauses).map Piece.blank =
      Piece.joinWith (Piece.ofBare glue.separator) (clauses.map shape) := by
  rw [joinedPieces, Piece.blank_join, Piece.blank_of_bare, List.map_map]
  rfl

end Clause

/-! ### Values that differ only in their contents -/

/-- Null answers to null, a list to a list of the same length, and any other value to any other. -/
inductive Value.Alike : Value → Value → Prop where
  | null : Alike .null .null
  | single {x y : Value} {text text' : String} (first : x.literalText? = some text)
      (second : y.literalText? = some text') : Alike x y
  | list {xs ys : List Value} (each : List.Forall₂ Alike xs ys) : Alike (.list xs) (.list ys)

/-- Whether the one column that is tested is declared to hold points. -/
def Predicate.OnPoint (schema : Schema) (scope : Scope) (p : Predicate) : Prop :=
  ∃ column subject, p.column = .one column ∧ Subject.find schema scope column = .ok subject ∧
    subject.type? = some .point

structure Predicate.Alike (schema : Schema) (scope : Scope) (p q : Predicate) : Prop where
  column : p.column = q.column
  operator : p.operator = q.operator
  value : p.value.Alike q.value
  point : p.OnPoint schema scope → p.value = q.value

/-- The same conditions but for the contents of values. Coordinates of points are not contents. -/
inductive Condition.Alike (schema : Schema) (scope : Scope) : Condition → Condition → Prop where
  | predicate {p q : Predicate} (h : p.Alike schema scope q) :
      Alike schema scope (.predicate p) (.predicate q)
  | raw (sql : String) : Alike schema scope (.raw sql) (.raw sql)
  | group {glue : Glue} {xs ys : List Condition} (each : List.Forall₂ (Alike schema scope) xs ys) :
      Alike schema scope (.group glue xs) (.group glue ys)

/-! ### Two runs -/

theorem Value.not_null_of_text {value : Value} {text : String}
    (h : value.literalText? = some text) : value.isNull = false := by
  cases value with
  | null => cases h
  | _ => rfl

theorem Value.Alike.is_null {x y : Value} (h : x.Alike y) : x.isNull = y.isNull := by
  cases h with
  | null => rfl
  | single first second =>
    rw [Value.not_null_of_text first, Value.not_null_of_text second]
  | list each => rfl

/-- A value that is neither null nor a list is written as its text, whatever the column. -/
theorem literal_of_text {value : Value} {type : Option ColumnType} {literal : Literal}
    {text : String} (ht : value.literalText? = some text)
    (h : Literal.ofValue value type = .ok literal) : literal = .text text := by
  have hl := literal_of_value h
  cases value with
  | null => cases ht
  | list items => cases ht
  | bool | integer | float | text | date | time | dateTime =>
    rw [← Option.some.inj ht]
    exact (Option.some.inj hl).symm

namespace Literal

theorem shape_alike {x y : Value} {type : Option ColumnType} {literal literal' : Literal}
    (ha : x.Alike y) (hp : type ≠ some .point) (hx : ofValue x type = .ok literal)
    (hy : ofValue y type = .ok literal') : literal.shape = literal'.shape := by
  cases ha with
  | null =>
    cases hx
    cases hy
    rfl
  | single first second =>
    rw [literal_of_text first hx, literal_of_text second hy]
    rfl
  | list each =>
    simp only [ofValue, ofList] at hx
    split at hx
    · exact absurd rfl hp
    · cases hx

end Literal

theorem Subject.shapes_alike {s : Subject} {validate : Bool} (hp : s.type? ≠ some .point)
    {xs ys : List Value} (ha : List.Forall₂ Value.Alike xs ys) {literals literals' : List Literal}
    (hx : s.checkedLiterals validate xs = .ok literals)
    (hy : s.checkedLiterals validate ys = .ok literals') :
    literals.map Literal.shape = literals'.map Literal.shape := by
  induction ha generalizing literals literals' with
  | nil =>
    cases hx
    cases hy
    rfl
  | cons first rest ih =>
    simp only [Subject.checkedLiterals] at hx hy
    obtain ⟨_, _, hx⟩ := bind_ok.mp hx
    obtain ⟨l, hl, hx⟩ := bind_ok.mp hx
    obtain ⟨others, ho, hx⟩ := bind_ok.mp hx
    obtain ⟨_, _, hy⟩ := bind_ok.mp hy
    obtain ⟨l', hl', hy⟩ := bind_ok.mp hy
    obtain ⟨others', ho', hy⟩ := bind_ok.mp hy
    rw [← pure_ok.mp hx, ← pure_ok.mp hy, List.map_cons, List.map_cons,
      Literal.shape_alike first hp hl hl', ih ho ho']

/-- The shape of what becomes of a predicate. -/
def Settled.shape (settled : Settled) : List (List Piece) := settled.clauses.map Clause.shape

namespace Predicate

variable {s : Subject} {validate : Bool} {x y : Value} {settled settled' : Settled}

theorem between_bounds (h : settleBetween s validate x = .ok settled) :
    ∃ low high first second, x = .list [low, high] ∧ s.literal low = .ok first ∧
      s.literal high = .ok second ∧ settled = .clause (.between s.reference.name first second) := by
  unfold settleBetween at h
  split at h
  · rename_i low high
    split at h
    · cases h
    · obtain ⟨_, _, h⟩ := bind_ok.mp h
      obtain ⟨_, _, h⟩ := bind_ok.mp h
      obtain ⟨first, hf, h⟩ := bind_ok.mp h
      obtain ⟨second, hs, h⟩ := bind_ok.mp h
      exact ⟨low, high, first, second, rfl, hf, hs, (pure_ok.mp h).symm⟩
  · cases h

theorem between_alike (hp : s.type? ≠ some .point) (ha : x.Alike y)
    (hx : settleBetween s validate x = .ok settled)
    (hy : settleBetween s validate y = .ok settled') : settled.shape = settled'.shape := by
  obtain ⟨low, high, first, second, rfl, hf, hs, rfl⟩ := between_bounds hx
  obtain ⟨low', high', first', second', rfl, hf', hs', rfl⟩ := between_bounds hy
  cases ha with
  | single text _ => cases text
  | list each =>
    obtain ⟨hl, hh, _⟩ : low.Alike low' ∧ high.Alike high' ∧ True := by simpa using each
    simp only [Settled.shape, Settled.clauses, List.map_cons, List.map_nil, Clause.shape_between,
      Literal.shape_alike hl hp hf hf', Literal.shape_alike hh hp hs hs']

theorem member_alike (hp : s.type? ≠ some .point) (operator : String) (ha : x.Alike y)
    (hx : settleMember s validate operator x = .ok settled)
    (hy : settleMember s validate operator y = .ok settled') : settled.shape = settled'.shape := by
  cases ha with
  | null => cases hx
  | single first second =>
    cases x with
    | list items => cases first
    | _ => cases hx
  | list each =>
    cases each with
    | nil => rw [Except.ok.inj (hx.symm.trans hy)]
    | cons first rest =>
      obtain ⟨literals, hl, hx⟩ := bind_ok.mp hx
      obtain ⟨literals', hl', hy⟩ := bind_ok.mp hy
      rw [← pure_ok.mp hx, ← pure_ok.mp hy]
      simp only [Settled.shape, Settled.clauses, List.map_cons, List.map_nil, Clause.shape_member,
        Subject.shapes_alike hp (.cons first rest) hl hl']

theorem compare_alike (hp : s.type? ≠ some .point) (operator : String) (ha : x.Alike y)
    (hx : settleCompare s validate operator x = .ok settled)
    (hy : settleCompare s validate operator y = .ok settled') : settled.shape = settled'.shape := by
  obtain ⟨_, _, hx⟩ := bind_ok.mp hx
  obtain ⟨l, hl, hx⟩ := bind_ok.mp hx
  obtain ⟨_, _, hy⟩ := bind_ok.mp hy
  obtain ⟨l', hl', hy⟩ := bind_ok.mp hy
  rw [← pure_ok.mp hx, ← pure_ok.mp hy]
  simp only [Settled.shape, Settled.clauses, List.map_cons, List.map_nil, Clause.shape_compare,
    Literal.shape_alike ha hp hl hl']

theorem on_alike {schema : Schema} {scope : Scope} {column operator : String}
    (hp : ∀ subject, Subject.find schema scope column = .ok subject →
      subject.type? ≠ some .point) (ha : x.Alike y)
    (hx : settleOn schema scope column operator x = .ok settled)
    (hy : settleOn schema scope column operator y = .ok settled') :
    settled.shape = settled'.shape := by
  obtain ⟨subject, hs, hx⟩ := bind_ok.mp hx
  obtain ⟨subject', hs', hy⟩ := bind_ok.mp hy
  cases hs.symm.trans hs'
  have hpoint := hp subject hs
  split at hx
  · rename_i hb
    rw [if_pos hb] at hy
    exact between_alike hpoint ha hx hy
  · rename_i hb
    rw [if_neg hb] at hy
    split at hx
    · rename_i hm
      rw [if_pos hm] at hy
      exact member_alike hpoint operator ha hx hy
    · rename_i hm
      rw [if_neg hm] at hy
      exact compare_alike hpoint operator ha hx hy

theorem search_alike {schema : Schema} {scope : Scope} {p q : Predicate}
    (h : p.Alike schema scope q) (hx : settleSearch schema scope p = .ok settled)
    (hy : settleSearch schema scope q = .ok settled') : settled.shape = settled'.shape := by
  unfold settleSearch at hx hy
  rw [← h.column] at hy
  split at hx
  · cases hx
  · rename_i hn
    rw [if_neg hn] at hy
    obtain ⟨columns, hc, hx⟩ := bind_ok.mp hx
    obtain ⟨value, hv, hx⟩ := bind_ok.mp hx
    obtain ⟨columns', hc', hy⟩ := bind_ok.mp hy
    obtain ⟨value', hv', hy⟩ := bind_ok.mp hy
    cases hc.symm.trans hc'
    rw [← pure_ok.mp hx, ← pure_ok.mp hy]
    simp only [Settled.shape, Settled.clauses, List.map_cons, List.map_nil, Clause.shape_search,
      Literal.shape_alike h.value (by simp) hv hv']

/-- Whether null is written decides the operator, and the contents of a value do not. -/
theorem operator_alike {schema : Schema} {scope : Scope} {p q : Predicate}
    (h : p.Alike schema scope q) (filtering : Bool) :
    p.settledOperator filtering = q.settledOperator filtering := by
  simp only [settledOperator, h.operator, h.value.is_null]

theorem settle_alike {schema : Schema} {scope : Scope} {p q : Predicate}
    (h : p.Alike schema scope q) (hx : p.settle schema scope = .ok settled)
    (hy : q.settle schema scope = .ok settled') : settled.shape = settled'.shape := by
  by_cases hp : p.OnPoint schema scope
  · have he : p = q := by
      obtain ⟨column, operator, value⟩ := p
      obtain ⟨column', operator', value'⟩ := q
      rw [Predicate.mk.injEq]
      exact ⟨h.column, h.operator, h.point hp⟩
    rw [← he] at hy
    rw [Except.ok.inj (hx.symm.trans hy)]
  · unfold settle at hx hy
    rw [← operator_alike h] at hy
    obtain ⟨operator, ho, hx⟩ := bind_ok.mp hx
    obtain ⟨operator', ho', hy⟩ := bind_ok.mp hy
    cases ho.symm.trans ho'
    split at hx
    · rename_i hm
      rw [if_pos hm] at hy
      exact search_alike h hx hy
    · rename_i hm
      rw [if_neg hm, ← h.column] at hy
      cases hc : p.column with
      | one column =>
        rw [hc] at hx hy
        refine on_alike (fun subject hs ht => ?_) h.value hx hy
        exact hp ⟨column, subject, hc, hs, ht⟩
      | many names =>
        rw [hc] at hx
        cases hx

end Predicate

namespace Condition

variable {schema : Schema} {scope : Scope}

theorem clauses_all_alike {xs ys : List Condition} {out out' : List Clause}
    (ha : List.Forall₂ (Alike schema scope) xs ys)
    (each : ∀ x ∈ xs, ∀ y first first', Alike schema scope x y →
      (clauses schema scope x).result = .ok first → (clauses schema scope y).result = .ok first' →
      first.map Clause.shape = first'.map Clause.shape)
    (hx : (clausesAll schema scope xs).result = .ok out)
    (hy : (clausesAll schema scope ys).result = .ok out') :
    out.map Clause.shape = out'.map Clause.shape := by
  induction ha generalizing out out' with
  | nil =>
    cases hx
    cases hy
    rfl
  | cons hc rest ih =>
    obtain ⟨first, others, hf, ho, rfl⟩ := clauses_all_cons.mp hx
    obtain ⟨first', others', hf', ho', rfl⟩ := clauses_all_cons.mp hy
    have hfirst := each _ (List.mem_cons_self ..) _ _ _ hc hf hf'
    have hrest := ih (fun x hm => each x (List.mem_cons_of_mem _ hm)) ho ho'
    rw [List.map_append, List.map_append, hfirst, hrest]

theorem grouped_alike {glue : Glue} {inner inner' : List Clause}
    (h : inner.map Clause.shape = inner'.map Clause.shape) :
    (Clause.grouped glue inner).map Clause.shape =
      (Clause.grouped glue inner').map Clause.shape := by
  have he : inner.isEmpty = inner'.isEmpty := by
    rw [← List.isEmpty_map, h, List.isEmpty_map]
  unfold Clause.grouped
  rw [he]
  split
  · rfl
  · simp only [List.map_cons, List.map_nil, Clause.shape_group, h]

/-- One tree in two runs. -/
theorem clauses_alike (x y : Condition) (out out' : List Clause) (ha : Alike schema scope x y)
    (hx : (clauses schema scope x).result = .ok out)
    (hy : (clauses schema scope y).result = .ok out') :
    out.map Clause.shape = out'.map Clause.shape := by
  induction x using Condition.induct generalizing y out out' with
  | predicate p =>
    cases ha with
    | predicate h =>
      rw [clauses, Predicate.result_clauses] at hx hy
      obtain ⟨settled, hs, rfl⟩ := map_ok.mp hx
      obtain ⟨settled', hs', rfl⟩ := map_ok.mp hy
      exact Predicate.settle_alike h hs hs'
  | raw sql =>
    cases ha with
    | raw => rw [Except.ok.inj (hx.symm.trans hy)]
  | group glue children ih =>
    cases ha with
    | group each =>
      rw [result_group] at hx hy
      obtain ⟨inner, hi, rfl⟩ := map_ok.mp hx
      obtain ⟨inner', hi', rfl⟩ := map_ok.mp hy
      exact grouped_alike (clauses_all_alike each ih hi hi')

theorem compile_alike {xs ys : List Condition} {out out' : List Clause}
    (ha : List.Forall₂ (Alike schema scope) xs ys)
    (hx : (compile schema scope xs).result = .ok out)
    (hy : (compile schema scope ys).result = .ok out') :
    out.map Clause.shape = out'.map Clause.shape := by
  simp only [compile, Traced.result_bind] at hx hy
  obtain ⟨_, _, hx⟩ := bind_ok.mp hx
  obtain ⟨_, _, hy⟩ := bind_ok.mp hy
  exact clauses_all_alike ha (fun x _ => clauses_alike x) hx hy

/-- A compiled text is woven from the texts of its values and what its pieces leave around them. -/
theorem compiled_weave {style : Quoting} {conditions : List Condition} {out : List Clause}
    (h : (compile schema scope conditions).result = .ok out) :
    let around := Piece.cut (Clause.joinedPieces scope.glue out)
    Clause.joined style scope.glue out = style.weave around.1 around.2 (textsAll conditions) ∧
      around.2.length = (textsAll conditions).length := by
  have hl := outline_all_literals (fun c _ => outline_literals c) (compile_outline h)
  have hp : (Clause.joinedPieces scope.glue out).filterMap Piece.literal? =
      textsAll conditions := by
    rw [Clause.joinedPieces, literals_join, List.flatMap_map]
    exact hl
  dsimp only
  rw [Clause.joined_text, Piece.text_all_cut, Piece.length_cut, hp]
  exact ⟨rfl, rfl⟩

/-- Both styles of quoting give a text or both the same error. Conditions that differ only in the
contents of values give, in any style each, one text around their literals. -/
theorem contents_fill_literals (schema : Schema) (scope : Scope) :
    (∀ conditions,
      (∃ e, compiledSql .mysql schema scope conditions = .error e ∧
        compiledSql .ansi schema scope conditions = .error e) ∨
      (∃ sql sql', compiledSql .mysql schema scope conditions = .ok sql ∧
        compiledSql .ansi schema scope conditions = .ok sql')) ∧
    (∀ style style' xs ys sql sql', List.Forall₂ (Alike schema scope) xs ys →
      compiledSql style schema scope xs = .ok sql →
      compiledSql style' schema scope ys = .ok sql' →
      ∃ lead tails, tails.length = (textsAll xs).length ∧ tails.length = (textsAll ys).length ∧
        sql = style.weave lead tails (textsAll xs) ∧
        sql' = style'.weave lead tails (textsAll ys)) := by
  constructor
  · intro conditions
    unfold compiledSql
    cases (compile schema scope conditions).result with
    | error e => exact .inl ⟨e, rfl, rfl⟩
    | ok out => exact .inr ⟨_, _, rfl, rfl⟩
  · intro style style' xs ys sql sql' ha hx hy
    obtain ⟨out, hout, rfl⟩ := map_ok.mp hx
    obtain ⟨out', hout', rfl⟩ := map_ok.mp hy
    have hcut : Piece.cut (Clause.joinedPieces scope.glue out) =
        Piece.cut (Clause.joinedPieces scope.glue out') := by
      rw [← Piece.cut_blank, ← Piece.cut_blank (Clause.joinedPieces scope.glue out'),
        Clause.blank_joined, Clause.blank_joined, compile_alike ha hout hout']
    obtain ⟨hsql, hlength⟩ := compiled_weave hout
    obtain ⟨hsql', hlength'⟩ := compiled_weave hout'
    rw [← hcut] at hsql' hlength'
    exact ⟨_, _, hlength, hlength', hsql, hsql'⟩

/-- Raw SQL, a null and a point stay, and other values may change. -/
def filled (first second : Value) : List Condition := [
  .group .or [
    .predicate ⟨.one "name", "like", first⟩,
    .predicate ⟨.one "id", "in", .list [second, .null]⟩],
  .raw "1=1",
  .predicate ⟨.one "home", "=", .list [.integer 1, .integer 2]⟩]

theorem filled_alike {first second first' second' : Value} (hf : first.Alike first')
    (hs : second.Alike second') :
    List.Forall₂ (Alike Sample.schema { Scope.filter "users" with validate := false })
      (filled first second) (filled first' second') := by
  have hlist : (Value.list [second, .null]).Alike (.list [second', .null]) :=
    .list (.cons hs (.cons .null .nil))
  have hpoint : (Value.list [.integer 1, .integer 2]).Alike (.list [.integer 1, .integer 2]) :=
    .list (.cons (.single rfl rfl) (.cons (.single rfl rfl) .nil))
  refine .cons (.group (.cons (.predicate ⟨rfl, rfl, hf, ?_⟩)
    (.cons (.predicate ⟨rfl, rfl, hlist, ?_⟩) .nil)))
    (.cons (.raw _) (.cons (.predicate ⟨rfl, rfl, hpoint, fun _ => rfl⟩) .nil))
  · rintro ⟨column, subject, hc, hs, ht⟩
    cases hc
    cases hs
    cases ht
  · rintro ⟨column, subject, hc, hs, ht⟩
    cases hc
    cases hs
    cases ht

/-- The text of these conditions around two literals. -/
def filledSql (first second : String) : String :=
  "(`users`.`name` LIKE " ++ first ++ " OR `users`.`id` IN (" ++ second ++ ",NULL))" ++
    " AND (1=1) AND `users`.`home` = POINT(1,2)"

/-- A name and a number in one style, and in the other values that try to leave their places. -/
theorem contents_fill_literals_users :
    compiledSql .mysql Sample.schema { Scope.filter "users" with validate := false }
        (filled (.text "Ann") (.integer 7)) = .ok (filledSql "'Ann'" "'7'") ∧
      compiledSql .ansi Sample.schema { Scope.filter "users" with validate := false }
        (filled (.text "' OR \\") (.text "(")) = .ok (filledSql "''' OR \\'" "'('") ∧
      ∃ lead tails, tails.length = 2 ∧
        filledSql "'Ann'" "'7'" = Quoting.mysql.weave lead tails ["Ann", "7"] ∧
        filledSql "''' OR \\'" "'('" = Quoting.ansi.weave lead tails ["' OR \\", "("] := by
  have hx : compiledSql .mysql Sample.schema { Scope.filter "users" with validate := false }
      (filled (.text "Ann") (.integer 7)) = .ok (filledSql "'Ann'" "'7'") := by rfl
  have hy : compiledSql .ansi Sample.schema { Scope.filter "users" with validate := false }
      (filled (.text "' OR \\") (.text "(")) = .ok (filledSql "''' OR \\'" "'('") := by rfl
  have hfirst : (Value.text "Ann").Alike (.text "' OR \\") := .single rfl rfl
  have hsecond : (Value.integer 7).Alike (.text "(") := .single rfl rfl
  obtain ⟨lead, tails, hl, _, hsql, hsql'⟩ :=
    (contents_fill_literals Sample.schema _).2 .mysql .ansi _ _ _ _
      (filled_alike hfirst hsecond) hx hy
  exact ⟨hx, hy, lead, tails, hl, hsql, hsql'⟩

end Condition

end SqlBuilder

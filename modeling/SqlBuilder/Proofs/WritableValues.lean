import SqlBuilder.Proofs.ValidationSwitch

/-!
What passes a check has a literal. Checking a value and writing it each tell the kinds of values in
a way of their own, but on columns of numbers, of the calendar and of points they agree: there a
value that passes can be written. So under validation no value of such a column goes unwritten.
-/

namespace SqlBuilder

/-- The types that take values of one kind only: numbers, dates and times, or points. -/
def ColumnType.isStrict (type : ColumnType) : Bool :=
  type.isNumeric || type.isTemporal || type = .point

/-! ### What a check asks for -/

theorem ColumnType.temporal_apart {type : ColumnType} (h : type.isTemporal = true) :
    type.isNumeric = false ∧ type.isText = false := by
  cases type with
  | date | time | dateTime => exact ⟨rfl, rfl⟩
  | int | tinyInt | smallInt | mediumInt | bigInt | float | decimal | double | year | char | varchar
  | point | other => cases h

namespace Column

variable {c : Column} {value : Value}

theorem check_numeric (numeric : c.type.isNumeric = true) (given : value.isNull = false)
    (table : String) : c.check table value = .ok () ↔ value.number?.isSome = true := by
  simp only [check, given, numeric, if_true, Bool.false_eq_true, if_false]
  split <;> simp_all

theorem check_temporal (temporal : c.type.isTemporal = true) (given : value.isNull = false)
    (table : String) : c.check table value = .ok () ↔ value.namesMoment = true := by
  obtain ⟨hnumeric, htext⟩ := ColumnType.temporal_apart temporal
  simp only [check, given, hnumeric, htext, temporal, if_true, Bool.false_eq_true, if_false]
  split <;> simp_all

theorem check_point (point : c.type = .point) (given : value.isNull = false) (table : String) :
    c.check table value = .ok () ↔ value.isPoint = true := by
  simp only [check, given, point, ColumnType.isNumeric, ColumnType.isText, ColumnType.isTemporal,
    if_true, Bool.false_eq_true, if_false]
  split <;> simp_all

end Column

/-! ### What can be written -/

namespace Value

variable {value : Value}

theorem number_written (h : value.number?.isSome = true) (type : Option ColumnType) :
    ∃ literal, Literal.ofValue value type = .ok literal := by
  cases value with
  | integer n => exact ⟨_, rfl⟩
  | float x => exact ⟨_, rfl⟩
  | text s => exact ⟨_, rfl⟩
  | null | bool | date | time | dateTime | list => cases h

theorem moment_written {type : ColumnType} (h : value.namesMoment = true)
    (temporal : type.isTemporal = true) :
    ∃ literal, Literal.ofValue value (some type) = .ok literal := by
  cases value with
  | date d => exact ⟨_, if_pos temporal⟩
  | time t => exact ⟨_, if_pos temporal⟩
  | dateTime d t => exact ⟨_, if_pos temporal⟩
  | text s => exact ⟨_, rfl⟩
  | null | bool | integer | float | list => cases h

theorem is_point_iff {items : List Value} :
    (list items).isPoint = true ↔ ∃ x y, items.map number? = [some x, some y] := by
  match items with
  | [] => simp [isPoint]
  | [a] => simp [isPoint]
  | [a, b] => simp [isPoint, Option.isSome_iff_exists]
  | a :: b :: d :: rest => simp [isPoint]

/-- A list is written for a point exactly if it is two numbers, and then as these. -/
theorem point_written_iff {items : List Value} {x y : Binary64} :
    Literal.ofValue (list items) (some .point) = .ok (.point x y) ↔
      items.map number? = [some x, some y] := by
  match items with
  | [] => simp [Literal.ofValue, Literal.ofList]
  | [a] => simp [Literal.ofValue, Literal.ofList]
  | [a, b] =>
    cases ha : a.number? <;> cases hb : b.number? <;>
      simp [Literal.ofValue, Literal.ofList, ha, hb]
  | a :: b :: d :: rest => simp [Literal.ofValue, Literal.ofList]

end Value

/-- The check and the writing of a value agree on columns that take one kind of value. -/
theorem Column.literal_of_check {c : Column} {table : String} {value : Value}
    (strict : c.type.isStrict = true) (h : c.check table value = .ok ()) :
    ∃ literal, Literal.ofValue value (some c.type) = .ok literal := by
  cases hn : value.isNull with
  | true =>
    cases value with
    | null => exact ⟨.null, rfl⟩
    | bool | integer | float | text | date | time | dateTime | list => cases hn
  | false =>
    simp only [ColumnType.isStrict, Bool.or_eq_true, decide_eq_true_eq] at strict
    rcases strict with (numeric | temporal) | point
    · exact Value.number_written ((check_numeric numeric hn table).mp h) _
    · exact Value.moment_written ((check_temporal temporal hn table).mp h) temporal
    · have hpoint := (check_point point hn table).mp h
      cases value with
      | list items =>
        obtain ⟨x, y, hxy⟩ := Value.is_point_iff.mp hpoint
        rw [point]
        exact ⟨_, Value.point_written_iff.mpr hxy⟩
      | null | bool | integer | float | text | date | time | dateTime => cases hpoint

/-! ### Runs that write every value -/

/-- The step does not fail for want of a literal. -/
def Supported {α : Type} (x : Except Error α) : Prop :=
  ∀ fault, x ≠ .error (.unsupportedValue fault)

namespace Supported

variable {α β : Type} {x : Except Error α}

theorem of_ok {a : α} (h : x = .ok a) : Supported x := by
  intro fault he
  cases h.symm.trans he

theorem bind {f : α → Except Error β} (hx : Supported x) (hf : ∀ a, x = .ok a → Supported (f a)) :
    Supported (x >>= f) := by
  cases x with
  | error e =>
    intro fault he
    cases he
    exact hx fault rfl
  | ok a => exact hf a rfl

theorem map (f : α → β) (hx : Supported x) : Supported (x.map f) := by
  cases x with
  | error e =>
    intro fault he
    cases he
    exact hx fault rfl
  | ok a => exact of_ok rfl

end Supported

/-- The column is declared in its table with a type that takes one kind of value. -/
def Reference.Strict (schema : Schema) (r : Reference) : Prop :=
  ∃ name table c, r.table = some name ∧ schema.table? name = some table ∧
    table.column? r.column = some c ∧ c.type.isStrict = true

namespace Subject

/-- The subject has a declaration, and with a type that takes one kind of value. -/
def Strict (s : Subject) : Prop :=
  ∃ table c, s.owner = some (table, c) ∧ table.column? s.reference.column = some c ∧
    c.type.isStrict = true

variable {s : Subject} {value : Value}

theorem find_strict {schema : Schema} {scope : Scope} {column : String}
    (h : (scope.resolve column).Strict schema) :
    ∃ s, Subject.find schema scope column = .ok s ∧ s.Strict := by
  obtain ⟨name, table, c, hname, htable, hcolumn, hstrict⟩ := h
  have howner : (scope.resolve column).owner schema = .ok (some (table, c)) := by
    simp only [Reference.owner, hname, Schema.getTable, htable, ok_bind, Table.getColumn, hcolumn]
    rfl
  refine ⟨⟨scope.resolve column, some (table, c)⟩, ?_, table, c, rfl, hcolumn, hstrict⟩
  rw [find, howner]
  rfl

theorem check_supported (strict : s.Strict) (validate : Bool) :
    Supported (s.check validate value) := by
  obtain ⟨table, c, howner, hcolumn, -⟩ := strict
  intro fault he
  unfold check at he
  split at he
  · cases he
  · rw [howner] at he
    simp only [Table.check, hcolumn] at he
    cases check_refusal he

theorem literal_of_check (strict : s.Strict) (h : s.check true value = .ok ()) :
    ∃ literal, s.literal value = .ok literal := by
  obtain ⟨table, c, howner, hcolumn, hstrict⟩ := strict
  rw [literal, type?, howner]
  unfold check at h
  split at h
  · -- a null that a join may have made is not checked
    rename_i hnull
    cases value with
    | null => exact ⟨.null, rfl⟩
    | bool | integer | float | text | date | time | dateTime | list => simp [Value.isNull] at hnull
  · rw [howner] at h
    simp only [Table.check, hcolumn] at h
    exact Column.literal_of_check hstrict h

theorem literal_supported (strict : s.Strict) (h : s.check true value = .ok ()) :
    Supported (s.literal value) := by
  obtain ⟨literal, hl⟩ := literal_of_check strict h
  exact .of_ok hl

theorem literals_supported (strict : s.Strict) (values : List Value) :
    Supported (s.checkedLiterals true values) := by
  induction values with
  | nil => exact .of_ok rfl
  | cons value rest ih =>
    refine (check_supported strict true).bind fun _ hc => ?_
    refine (literal_supported strict hc).bind fun literal _ => ?_
    exact ih.bind fun literals _ => .of_ok rfl

end Subject

namespace Predicate

variable {s : Subject}

theorem between_supported (strict : s.Strict) (value : Value) :
    Supported (settleBetween s true value) := by
  unfold settleBetween
  split
  · split
    · intro fault he
      cases he
    · refine (Subject.check_supported strict true).bind fun _ hlow => ?_
      refine (Subject.check_supported strict true).bind fun _ hhigh => ?_
      refine (Subject.literal_supported strict hlow).bind fun low _ => ?_
      exact (Subject.literal_supported strict hhigh).bind fun high _ => .of_ok rfl
  · intro fault he
    cases he

theorem member_supported (strict : s.Strict) (operator : String) (value : Value) :
    Supported (settleMember s true operator value) := by
  unfold settleMember
  split
  · exact .of_ok rfl
  · exact (Subject.literals_supported strict _).bind fun literals _ => .of_ok rfl
  · intro fault he
    cases he

theorem compare_supported (strict : s.Strict) (operator : String) (value : Value) :
    Supported (settleCompare s true operator value) := by
  refine (Subject.check_supported strict true).bind fun _ hc => ?_
  exact (Subject.literal_supported strict hc).bind fun literal _ => .of_ok rfl

/-- The predicate is no search, and the column that it tests takes one kind of value. -/
structure Strict (schema : Schema) (scope : Scope) (p : Predicate) : Prop where
  ordinary : p.writtenOperator ≠ "MATCH"
  column : ∀ name, p.column = .one name → (scope.resolve name).Strict schema

variable {schema : Schema} {scope : Scope} {p : Predicate}

theorem operator_supported (p : Predicate) (filtering : Bool) :
    Supported (p.settledOperator filtering) := by
  intro fault he
  unfold settledOperator at he
  dsimp only at he
  repeat' split at he
  all_goals cases he

theorem effective_ne_match (ordinary : p.writtenOperator ≠ "MATCH") (filtering : Bool) :
    p.effectiveOperator filtering ≠ "MATCH" := by
  unfold effectiveOperator
  split
  · split
    · decide
    · split
      · decide
      · exact ordinary
  · exact ordinary

theorem settle_supported (strict : p.Strict schema scope) (validate : scope.validate = true) :
    Supported (p.settle schema scope) := by
  refine (operator_supported p scope.filtering).bind fun operator ho => ?_
  rw [settled_operator ho, if_neg (effective_ne_match strict.ordinary scope.filtering)]
  cases hc : p.column with
  | many names =>
    intro fault he
    cases he
  | one name =>
    obtain ⟨s, hs, hstrict⟩ := Subject.find_strict (strict.column name hc)
    simp only [settleOn, hs, ok_bind, validate]
    split
    · exact between_supported hstrict p.value
    · split
      · exact member_supported hstrict _ p.value
      · exact compare_supported hstrict _ p.value

end Predicate

namespace Condition

variable {schema : Schema} {scope : Scope}

theorem clauses_all_supported {conditions : List Condition}
    (each : ∀ c ∈ conditions, Supported (clauses schema scope c).result) :
    Supported (clausesAll schema scope conditions).result := by
  induction conditions with
  | nil => exact .of_ok rfl
  | cons condition rest ih =>
    have hfirst := each condition (List.mem_cons_self ..)
    have hrest := ih fun c hc => each c (List.mem_cons_of_mem _ hc)
    simp only [clausesAll, Traced.result_bind]
    exact hfirst.bind fun first _ => hrest.bind fun others _ => .of_ok rfl

theorem clauses_supported (validate : scope.validate = true) {c : Condition}
    (strict : c.Each (Predicate.Strict schema scope)) :
    Supported (clauses schema scope c).result := by
  induction strict with
  | predicate h =>
    rw [clauses, Predicate.result_clauses]
    exact (Predicate.settle_supported h validate).map _
  | raw sql => exact .of_ok rfl
  | group each ih =>
    rw [result_group]
    exact (clauses_all_supported ih).map _

theorem get_table_supported (schema : Schema) (scope : Scope) :
    Supported (scope.getTable schema) := by
  unfold Scope.getTable
  split
  · exact .of_ok rfl
  · apply Supported.map
    intro fault he
    unfold Schema.getTable at he
    split at he
    · cases he
    · cases he

theorem compiled_supported (style : Quoting) (validate : scope.validate = true)
    {conditions : List Condition}
    (strict : ∀ c ∈ conditions, c.Each (Predicate.Strict schema scope)) :
    Supported (compiledSql style schema scope conditions) := by
  apply Supported.map
  simp only [compile, Traced.result_bind, Traced.result_lifted]
  refine (get_table_supported schema scope).bind fun _ _ => ?_
  exact clauses_all_supported fun c hc => clauses_supported validate (strict c hc)

/-- On columns of numbers, of the calendar and of points a value that passes its check has a
literal, so under validation conditions on such columns never fail for want of one. A list passes
for a point exactly if it is written as one. -/
theorem checked_values_written :
    (∀ (t : Table) name c value, t.column? name = some c → c.type.isStrict = true →
      t.check name value = .ok () → ∃ literal, Literal.ofValue value (some c.type) = .ok literal) ∧
    (∀ style schema scope conditions, scope.validate = true →
      (∀ c ∈ conditions, c.Each (Predicate.Strict schema scope)) →
      ∀ fault, compiledSql style schema scope conditions ≠ .error (.unsupportedValue fault)) ∧
    (∀ style (t : Table) name c items, t.column? name = some c → c.type = .point →
      (t.check name (.list items) = .ok () ↔
        ∃ x y, Literal.ofValue (.list items) (some c.type) = .ok (.point x y)) ∧
      ∀ x y, Literal.ofValue (.list items) (some c.type) = .ok (.point x y) →
        items.map Value.number? = [some x, some y] ∧
          (Literal.point x y).sql style =
            "POINT(" ++ x.text .plain ++ "," ++ y.text .plain ++ ")") := by
  refine ⟨?_, ?_, ?_⟩
  · intro t name c value declared strict h
    rw [Table.check, declared] at h
    exact Column.literal_of_check strict h
  · intro style schema scope conditions validate strict
    exact compiled_supported style validate strict
  · intro style t name c items declared point
    have hcheck : t.check name (.list items) = c.check t.name (.list items) := by
      rw [Table.check, declared]
    rw [hcheck, Column.check_point point rfl, Value.is_point_iff, point]
    constructor
    · exact exists_congr fun x => exists_congr fun y => Value.point_written_iff.symm
    · intro x y h
      exact ⟨Value.point_written_iff.mp h, rfl⟩

/-- A range, a list and a point, in a group and beside it. -/
def strictTests (bound : Value) : List Condition := [
  .group .or [
    .predicate ⟨.one "id", "between", .list [.integer 1, bound]⟩,
    .predicate ⟨.one "born", "not in", .list [.text "2024-02-29", .null]⟩],
  .predicate ⟨.one "home", "=", .list [.integer 1, .text "2.5"]⟩]

theorem strict_tests_each (bound : Value) :
    ∀ c ∈ strictTests bound, c.Each (Predicate.Strict Sample.schema (.filter "users")) := by
  have hid : (Scope.resolve (.filter "users") "id").Strict Sample.schema :=
    ⟨"users", _, _, rfl, rfl, rfl, rfl⟩
  have hborn : (Scope.resolve (.filter "users") "born").Strict Sample.schema :=
    ⟨"users", _, _, rfl, rfl, rfl, rfl⟩
  have hhome : (Scope.resolve (.filter "users") "home").Strict Sample.schema :=
    ⟨"users", _, _, rfl, rfl, rfl, rfl⟩
  have hone {name : String} (h : (Scope.resolve (.filter "users") name).Strict Sample.schema) :
      ∀ other, ColumnRef.one name = .one other →
        (Scope.resolve (.filter "users") other).Strict Sample.schema := by
    intro other he
    cases he
    exact h
  have hbetween : Text.upper (Identifier.sanitize (Text.trim "between")) ≠ "MATCH" := by decide
  intro c hc
  simp only [strictTests, List.mem_cons, List.not_mem_nil, or_false] at hc
  rcases hc with rfl | rfl
  · refine .group fun c hc => ?_
    simp only [List.mem_cons, List.not_mem_nil, or_false] at hc
    rcases hc with rfl | rfl
    · exact .predicate ⟨hbetween, hone hid⟩
    · exact .predicate ⟨by decide, hone hborn⟩
  · exact .predicate ⟨by decide, hone hhome⟩

/-- A bound that is no number has no literal. With validation it is refused before that shows. -/
theorem checked_values_written_users :
    compiledSql .mysql Sample.schema { Scope.filter "users" with validate := false }
        (strictTests (.list [])) = .error (.unsupportedValue (.list 0)) ∧
      (∀ fault, compiledSql .mysql Sample.schema (.filter "users") (strictTests (.list [])) ≠
        .error (.unsupportedValue fault)) ∧
      (∃ literal, Literal.ofValue (.text "2024-02-29") (some .date) = .ok literal) ∧
      Sample.users.check "home" (.list [.integer 1, .text "2.5"]) = .ok () := by
  obtain ⟨hliteral, hcompiled, hpoint⟩ := checked_values_written
  refine ⟨by rfl, ?_, ?_, ?_⟩
  · exact hcompiled .mysql Sample.schema (.filter "users") _ rfl (strict_tests_each _)
  · exact hliteral Sample.users "born" _ (.text "2024-02-29") rfl rfl (by rfl)
  · exact (hpoint .mysql Sample.users "home" _ _ rfl rfl).1.mpr ⟨_, _, rfl⟩

end Condition

end SqlBuilder

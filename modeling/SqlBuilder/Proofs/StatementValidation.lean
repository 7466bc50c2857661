import SqlBuilder.Proofs.DeclaredColumns

/-!
Validation and whole statements. The switch is handed to every part of a statement, and it never
changes the text: a statement is refused, or it is the one that is made without validation.
-/

namespace SqlBuilder

/-! ### Requests -/

/-- The errors of a row that does not suit its table. -/
def Error.isRowRefusal : Error → Bool
  | unknownColumn .. => true
  | unsupportedValue _ => true
  | e => e.isRefusal

/-- What a statement can be asked for by. -/
inductive Request where
  | insert (verb : InsertVerb) (table : String) (data : Json)
  | update (table : String) (filter data : Json)
  | delete (table : String) (filter : Json)
  | select (query : SelectQuery)

namespace Request

/-- The statement that is made. An update without data makes none. -/
def statement (schema : Schema) (validate : Bool) : Request → Except Error (Option Statement)
  | insert verb table data => (Statement.ofInsert schema validate verb table data).result.map some
  | update table filter data => (Statement.ofUpdate schema validate table filter data).result
  | delete table filter => (Statement.ofDelete schema validate table filter).result.map some
  | select query => (Statement.ofQuery schema validate query).result.map some

def sql (style : Quoting) (schema : Schema) (validate : Bool) (request : Request) :
    Except Error (Option String) :=
  (request.statement schema validate).map (Option.map (Statement.sql style))

/-- What validation may refuse a request for. -/
def mayRefuse : Request → Error → Bool
  | insert .. => Error.isRowRefusal
  | _ => Error.isRefusal

end Request

/-! ### A run with validation beside the same run without -/

/-- What the strict run gives the lax run gives too, and where only the lax run succeeds the strict
one fails as it is allowed to. -/
structure Narrows {α : Type} (allowed : Error → Prop) (strict lax : Except Error α) : Prop where
  keep : ∀ a, strict = .ok a → lax = .ok a
  refuse : ∀ a, lax = .ok a → strict = .ok a ∨ ∃ e, strict = .error e ∧ allowed e

namespace Narrows

variable {α β : Type} {allowed : Error → Prop} {strict lax : Except Error α}

theorem refl (x : Except Error α) : Narrows allowed x x :=
  ⟨fun _ h => h, fun _ h => Or.inl h⟩

theorem of_eq (h : strict = lax) : Narrows allowed strict lax := h ▸ refl strict

theorem of_restricts {P : Prop} (h : Restricts P strict lax) :
    Narrows (fun e => e.isRefusal = true) strict lax := by
  constructor
  · intro a hs
    exact ((h.ok_iff a).mp hs).1
  · intro a hl
    by_cases hp : P
    · exact Or.inl (h.keep a hl hp)
    · exact Or.inr (h.refuse a hl hp)

theorem mono {wider : Error → Prop} (hw : ∀ e, allowed e → wider e)
    (h : Narrows allowed strict lax) : Narrows wider strict lax := by
  refine ⟨h.keep, fun a hl => ?_⟩
  rcases h.refuse a hl with hs | ⟨e, hs, he⟩
  · exact Or.inl hs
  · exact Or.inr ⟨e, hs, hw e he⟩

theorem bind {f g : α → Except Error β} (h : Narrows allowed strict lax)
    (hf : ∀ a, Narrows allowed (f a) (g a)) :
    Narrows allowed (strict >>= f) (lax >>= g) := by
  constructor
  · intro b hs
    obtain ⟨a, ha, hb⟩ := bind_ok.mp hs
    exact bind_ok.mpr ⟨a, h.keep a ha, (hf a).keep b hb⟩
  · intro b hl
    obtain ⟨a, ha, hb⟩ := bind_ok.mp hl
    rcases h.refuse a ha with hs | ⟨e, hs, he⟩
    · rw [hs]
      exact (hf a).refuse b hb
    · rw [hs]
      exact Or.inr ⟨e, rfl, he⟩

theorem bind_same (h : Narrows allowed strict lax) (k : α → Except Error β) :
    Narrows allowed (strict >>= k) (lax >>= k) :=
  h.bind fun a => refl (k a)

theorem bind_after {f g : α → Except Error β} (x : Except Error α)
    (hf : ∀ a, Narrows allowed (f a) (g a)) : Narrows allowed (x >>= f) (x >>= g) :=
  (refl x).bind hf

theorem map (f : α → β) (h : Narrows allowed strict lax) :
    Narrows allowed (strict.map f) (lax.map f) :=
  h.bind_same fun a => .ok (f a)

/-- A check that only the strict run makes, and makes first. -/
theorem check {x : Except Error Unit}
    (hx : ∀ e, x = .error e → ∀ a, lax = .ok a → allowed e) (h : Narrows allowed strict lax) :
    Narrows allowed (x >>= fun _ => strict) lax := by
  cases hr : x with
  | ok u => exact h
  | error e => exact ⟨fun _ hs => (nomatch hs), fun a hl => Or.inr ⟨e, rfl, hx e hr a hl⟩⟩

end Narrows

/-! ### Conditions and joins -/

theorem Condition.input_narrows (schema : Schema) (scope : Scope) (input : Json) :
    Narrows (fun e => e.isRefusal = true)
      (compileInput schema { scope with validate := true } input).result
      (compileInput schema { scope with validate := false } input).result := by
  simp only [compileInput, Traced.result_bind, Traced.result_lifted]
  refine Narrows.bind_after (scope.getTable schema) fun table => ?_
  refine Narrows.bind_after (read table input) fun conditions => ?_
  exact .of_restricts (clauses_all_restricts fun c _ => clauses_restricts c)

namespace Join

theorem filter_links_narrows (schema : Schema) (j : Join) :
    Narrows (fun e => e.isRefusal = true) (filterLinks schema true j).result
      (filterLinks schema false j).result := by
  unfold filterLinks
  cases j.filter with
  | none => exact .refl _
  | some input =>
    simp only [Traced.result_bind]
    exact (Condition.input_narrows schema (j.filterScope true) input).bind_same _

/-- Only the filter of a join is validated. -/
theorem clause_narrows (schema : Schema) (j : Join) :
    Narrows (fun e => e.isRefusal = true) (j.clause schema true).result
      (j.clause schema false).result := by
  simp only [clause, Traced.result_bind]
  refine Narrows.bind_after _ fun links => ?_
  exact (filter_links_narrows schema j).bind_same _

end Join

/-! ### Statements -/

theorem Error.row_refusal {e : Error} (h : e.isRefusal = true) : e.isRowRefusal = true := by
  cases e <;> first | rfl | cases h

namespace Statement

theorem check_row_refusal {t : Table} {column : String} {value : Value} {e : Error}
    (h : t.check column value = .error e) : e.isRowRefusal = true := by
  unfold Table.check at h
  split at h
  · exact Error.row_refusal (Subject.check_refusal h)
  · cases h
    rfl

theorem check_members_refusal {t : Table} {members : List (String × Json)} {e : Error}
    (h : checkMembers t members = .error e) : e.isRowRefusal = true := by
  induction members with
  | nil => cases h
  | cons member rest ih =>
    obtain ⟨column, json⟩ := member
    unfold checkMembers at h
    split at h
    · cases h
      rfl
    · rename_i value _
      cases hc : t.check column value with
      | error e' =>
        rw [hc] at h
        cases h
        exact check_row_refusal hc
      | ok u =>
        rw [hc] at h
        exact ih h

/-- The check of the data fails over the data, unless there is no table to put it into. -/
theorem check_data_refusal {schema : Schema} {table : String} {data : Json} {t : Table}
    (ht : schema.getTable table = .ok t) {e : Error} (h : checkData schema table data = .error e) :
    e.isRowRefusal = true := by
  unfold checkData at h
  rw [ht, ok_bind] at h
  split at h
  · exact check_members_refusal h
  · cases h

theorem of_insert_narrows (schema : Schema) (verb : InsertVerb) (table : String) (data : Json) :
    Narrows (fun e => e.isRowRefusal = true) (ofInsert schema true verb table data).result
      (ofInsert schema false verb table data).result := by
  unfold ofInsert
  split
  · exact .refl _
  · have hcompiled := (Condition.input_narrows schema (assignmentScope table true) data).mono
      fun _ => Error.row_refusal
    simp only [Traced.result_bind, Traced.result_pure, Traced.result_lifted, if_true, if_false,
      Bool.false_eq_true]
    refine Narrows.check ?_ (hcompiled.bind_same _)
    intro e he statement hl
    obtain ⟨clauses, hc, _⟩ := bind_ok.mp hl
    obtain ⟨found, _, hf, _⟩ := Condition.compile_input_ok hc
    obtain ⟨t, ht, _⟩ := map_ok.mp hf
    exact check_data_refusal ht he

theorem of_update_narrows (schema : Schema) (table : String) (filter data : Json) :
    Narrows (fun e => e.isRefusal = true) (ofUpdate schema true table filter data).result
      (ofUpdate schema false table filter data).result := by
  unfold ofUpdate
  split
  · exact .refl _
  · simp only [Traced.result_bind]
    refine (Condition.input_narrows schema (filterScope table true) filter).bind fun clauses => ?_
    exact (Condition.input_narrows schema (assignmentScope table true) data).bind_same _

theorem of_delete_narrows (schema : Schema) (table : String) (filter : Json) :
    Narrows (fun e => e.isRefusal = true) (ofDelete schema true table filter).result
      (ofDelete schema false table filter).result := by
  simp only [ofDelete, Traced.result_bind]
  exact (Condition.input_narrows schema (filterScope table true) filter).bind_same _

end Statement

namespace Selection

/-! Columns are looked up without regard to the switch. -/

theorem checked_columns_validate (schema : Schema) (scope : Scope) (validate : Bool)
    (names : List String) :
    checkedColumns schema { scope with validate } names = checkedColumns schema scope names := by
  induction names with
  | nil => rfl
  | cons name rest ih =>
    simp only [checkedColumns, ih]
    rfl

theorem ordered_columns_validate (schema : Schema) (scope : Scope) (validate : Bool)
    (entries : List OrderEntry) :
    orderedColumns schema { scope with validate } entries =
      orderedColumns schema scope entries := by
  induction entries with
  | nil => rfl
  | cons entry rest ih =>
    simp only [orderedColumns, ih]
    rfl

theorem own_shown_validate (schema : Schema) (scope : Scope) (validate : Bool) (table : String)
    (fields : List String) :
    ownShown schema { scope with validate } table fields = ownShown schema scope table fields := by
  simp only [ownShown, checked_columns_validate]

theorem join_clauses_narrows (schema : Schema) (joins : List Join) :
    Narrows (fun e => e.isRefusal = true) (joinClauses schema true joins).result
      (joinClauses schema false joins).result := by
  induction joins with
  | nil => exact .refl _
  | cons join rest ih =>
    simp only [joinClauses, Traced.result_bind]
    exact (join.clause_narrows schema).bind fun clause => ih.bind_same _

theorem of_query_narrows (schema : Schema) (query : SelectQuery) :
    Narrows (fun e => e.isRefusal = true) (ofQuery schema true query).result
      (ofQuery schema false query).result := by
  simp only [ofQuery, Traced.result_bind, Traced.result_lifted]
  refine Narrows.bind_after _ fun _ => ?_
  refine Narrows.bind_after _ fun joins => ?_
  have hown := own_shown_validate schema (queryScope query false []) true query.table query.fields
  have hgroup := checked_columns_validate schema (queryScope query false joins) true query.groupBy
  have horder :=
    ordered_columns_validate schema (queryScope query false joins) true query.orderBy
  have hfilter := Condition.input_narrows schema (queryScope query true joins) query.filter
  refine (Narrows.of_eq hown).bind fun own => ?_
  refine Narrows.bind_after _ fun others => ?_
  refine (join_clauses_narrows schema joins).bind fun clauses => ?_
  refine hfilter.bind fun filter => ?_
  refine (Narrows.of_eq hgroup).bind fun groupBy => ?_
  exact (Narrows.of_eq horder).bind_same _

end Selection

namespace Request

theorem statement_narrows (schema : Schema) (request : Request) :
    Narrows (fun e => request.mayRefuse e = true) (request.statement schema true)
      (request.statement schema false) := by
  cases request with
  | insert verb table data => exact (Statement.of_insert_narrows schema verb table data).map some
  | update table filter data => exact Statement.of_update_narrows schema table filter data
  | delete table filter => exact (Statement.of_delete_narrows schema table filter).map some
  | select query =>
    simp only [statement, Statement.ofQuery, Traced.result_bind]
    exact ((Selection.of_query_narrows schema query).bind_same _).map some

/-- With validation a request gives the text that it gives without, or is refused. -/
theorem validation_keeps_text (style : Quoting) (schema : Schema) (request : Request) :
    (∀ sql, request.sql style schema true = .ok sql → request.sql style schema false = .ok sql) ∧
    (∀ sql, request.sql style schema false = .ok sql →
      request.sql style schema true = .ok sql ∨
        ∃ e, request.sql style schema true = .error e ∧ request.mayRefuse e = true) := by
  have h := (statement_narrows schema request).map (Option.map (Statement.sql style))
  exact ⟨h.keep, h.refuse⟩

/-- A row whose one column is qualified. It is not the name of a declared column. -/
def qualifiedRow : Request :=
  .insert .replace "users" (.object [("users.nick", .string "x")])

theorem validation_keeps_text_row :
    qualifiedRow.sql .mysql Sample.schema false =
      .ok (some "REPLACE INTO `users` SET `users`.`nick` = 'x'") ∧
    qualifiedRow.sql .mysql Sample.schema true =
      .error (.unknownColumn "users" "users.nick" none) ∧
    qualifiedRow.mayRefuse (.unknownColumn "users" "users.nick" none) = true ∧
    ∃ sql, (select Selection.authoredTitles).sql .ansi Sample.schema true = .ok (some sql) ∧
      (select Selection.authoredTitles).sql .ansi Sample.schema false = .ok (some sql) := by
  have hlax : qualifiedRow.sql .mysql Sample.schema false =
      .ok (some "REPLACE INTO `users` SET `users`.`nick` = 'x'") := by rfl
  have hstrict : qualifiedRow.sql .mysql Sample.schema true =
      .error (.unknownColumn "users" "users.nick" none) := by rfl
  have hselect : ∃ sql,
      (select Selection.authoredTitles).sql .ansi Sample.schema true = .ok (some sql) := ⟨_, rfl⟩
  obtain ⟨sql, hs⟩ := hselect
  refine ⟨hlax, hstrict, ?_, sql, hs, (validation_keeps_text _ _ _).1 _ hs⟩
  rcases (validation_keeps_text .mysql Sample.schema qualifiedRow).2 _ hlax with hok | ⟨e, he, hr⟩
  · cases hstrict.symm.trans hok
  · cases hstrict.symm.trans he
    exact hr

end Request

end SqlBuilder

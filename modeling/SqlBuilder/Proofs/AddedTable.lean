import SqlBuilder.Proofs.StatementValidation

/-!
A table more in the schema. Tables are found by name and the first one counts, so whatever was not
refused for want of the new table stays as it was, text or error.
-/

namespace SqlBuilder

/-! ### A run beside the same run with one table more -/

/-- The later result is the earlier one, unless that was a lack of the table. -/
def Stays {α : Type} (schema : Schema) (added : Table) (earlier later : Except Error α) : Prop :=
  (schema.table? added.name = none ∧ earlier = .error (.unknownTable added.name)) ∨ later = earlier

namespace Stays

variable {α β : Type} {schema : Schema} {added : Table} {earlier later : Except Error α}

theorem refl (x : Except Error α) : Stays schema added x x := Or.inr rfl

theorem bind {f g : α → Except Error β} (h : Stays schema added earlier later)
    (hf : ∀ a, Stays schema added (f a) (g a)) :
    Stays schema added (earlier >>= f) (later >>= g) := by
  rcases h with ⟨hnone, he⟩ | he
  · refine Or.inl ⟨hnone, ?_⟩
    rw [he]
    rfl
  · rw [he]
    cases earlier with
    | error e => exact refl _
    | ok a => exact hf a

theorem bind_same (h : Stays schema added earlier later) (k : α → Except Error β) :
    Stays schema added (earlier >>= k) (later >>= k) :=
  h.bind fun a => refl (k a)

theorem bind_after {f g : α → Except Error β} (x : Except Error α)
    (hf : ∀ a, Stays schema added (f a) (g a)) : Stays schema added (x >>= f) (x >>= g) :=
  (refl x).bind hf

theorem map (f : α → β) (h : Stays schema added earlier later) :
    Stays schema added (earlier.map f) (later.map f) :=
  h.bind_same fun a => .ok (f a)

end Stays

/-! ### Tables and columns -/

variable (schema : Schema) (added : Table)

theorem Schema.table_added (name : String) :
    (schema.addTable added).table? name =
      (schema.table? name).or (if added.name = name then some added.link else none) := by
  unfold Schema.table? Schema.addTable
  rw [List.find?_append]
  by_cases h : added.name = name
  · simp [h, Table.link]
  · simp [h, Table.link]

/-- The one step that looks at the schema. -/
theorem Schema.get_table_stays (name : String) :
    Stays schema added (schema.getTable name) ((schema.addTable added).getTable name) := by
  unfold Schema.getTable
  rw [schema.table_added added]
  cases hfound : schema.table? name with
  | some t => exact .refl _
  | none =>
    by_cases h : added.name = name
    · subst h
      exact Or.inl ⟨hfound, rfl⟩
    · rw [if_neg h]
      exact .refl _

theorem Scope.get_table_stays (scope : Scope) :
    Stays schema added (scope.getTable schema) (scope.getTable (schema.addTable added)) := by
  unfold Scope.getTable
  cases scope.table with
  | none => exact .refl _
  | some name => exact (schema.get_table_stays added name).map some

theorem Subject.find_stays (scope : Scope) (column : String) :
    Stays schema added (Subject.find schema scope column)
      (Subject.find (schema.addTable added) scope column) := by
  unfold Subject.find Reference.owner
  refine Stays.bind ?_ fun owner => .refl _
  cases (scope.resolve column).table with
  | none => exact .refl _
  | some name => exact (schema.get_table_stays added name).bind_same _

/-! ### Conditions -/

namespace Predicate

theorem search_columns_stay (scope : Scope) (names : List String) :
    Stays schema added (searchColumns schema scope names)
      (searchColumns (schema.addTable added) scope names) := by
  induction names with
  | nil => exact .refl _
  | cons name rest ih =>
    exact (Subject.find_stays schema added scope name).bind fun _ => ih.bind_same _

theorem settle_stays (scope : Scope) (p : Predicate) :
    Stays schema added (p.settle schema scope) (p.settle (schema.addTable added) scope) := by
  unfold settle
  refine Stays.bind_after _ fun operator => ?_
  split
  · unfold settleSearch
    split
    · exact .refl _
    · exact (search_columns_stay schema added scope _).bind_same _
  · cases p.column with
    | one column => exact (Subject.find_stays schema added scope column).bind_same _
    | many names => exact .refl _

end Predicate

namespace Condition

theorem clauses_all_stay {scope : Scope} {conditions : List Condition}
    (each : ∀ c ∈ conditions, Stays schema added (clauses schema scope c).result
      (clauses (schema.addTable added) scope c).result) :
    Stays schema added (clausesAll schema scope conditions).result
      (clausesAll (schema.addTable added) scope conditions).result := by
  induction conditions with
  | nil => exact .refl _
  | cons condition rest ih =>
    have hc := each condition (List.mem_cons_self ..)
    have hr := ih fun c hm => each c (List.mem_cons_of_mem _ hm)
    simp only [clausesAll, Traced.result_bind]
    exact hc.bind fun _ => hr.bind_same _

theorem clauses_stay (scope : Scope) (c : Condition) :
    Stays schema added (clauses schema scope c).result
      (clauses (schema.addTable added) scope c).result := by
  induction c using Condition.induct with
  | predicate p =>
    simp only [clauses, Predicate.result_clauses]
    exact (Predicate.settle_stays schema added scope p).map _
  | raw sql => exact .refl _
  | group glue children ih =>
    simp only [result_group]
    exact (clauses_all_stay schema added ih).map _

theorem compile_stays (scope : Scope) (conditions : List Condition) :
    Stays schema added (compile schema scope conditions).result
      (compile (schema.addTable added) scope conditions).result := by
  simp only [compile, Traced.result_bind, Traced.result_lifted]
  refine (scope.get_table_stays schema added).bind fun _ => ?_
  exact clauses_all_stay schema added fun c _ => clauses_stay schema added scope c

theorem compile_input_stays (scope : Scope) (input : Json) :
    Stays schema added (compileInput schema scope input).result
      (compileInput (schema.addTable added) scope input).result := by
  simp only [compileInput, Traced.result_bind, Traced.result_lifted]
  refine (scope.get_table_stays schema added).bind fun table => ?_
  refine Stays.bind_after (read table input) fun conditions => ?_
  exact clauses_all_stay schema added fun c _ => clauses_stay schema added scope c

end Condition

/-! ### Joins -/

namespace Join

/-- Both tables of a link are found first; what follows looks at nothing else. -/
theorem infer_link_stays (j : Join) (column : Option String) :
    Stays schema added (inferLink schema j column).result
      (inferLink (schema.addTable added) j column).result := by
  simp only [inferLink, Traced.result_bind, Traced.result_lifted]
  refine (schema.get_table_stays added j.origin).bind fun origin => ?_
  exact (schema.get_table_stays added j.table).bind_same _

theorem pair_link_stays (j : Join) (left right : String) :
    Stays schema added (pairLink schema j left right)
      (pairLink (schema.addTable added) j left right) := by
  unfold pairLink
  refine (schema.get_table_stays added j.origin).bind fun origin => ?_
  exact (schema.get_table_stays added j.table).bind_same _

theorem entry_link_stays (j : Join) (entry : OnEntry) :
    Stays schema added (entryLink schema j entry).result
      (entryLink (schema.addTable added) j entry).result := by
  cases entry with
  | column name => exact infer_link_stays schema added j (some name)
  | pair left right => exact pair_link_stays schema added j left right
  | raw sql => exact .refl _

theorem entry_links_stay (j : Join) (entries : List OnEntry) :
    Stays schema added (entryLinks schema j entries).result
      (entryLinks (schema.addTable added) j entries).result := by
  induction entries with
  | nil => exact .refl _
  | cons entry rest ih =>
    simp only [entryLinks, Traced.result_bind]
    exact (entry_link_stays schema added j entry).bind fun _ => ih.bind_same _

theorem on_links_stay (j : Join) :
    Stays schema added (onLinks schema j).result (onLinks (schema.addTable added) j).result := by
  unfold onLinks
  split
  · split
    · exact .refl _
    · simp only [Traced.result_bind]
      exact (infer_link_stays schema added j none).bind_same _
  · exact entry_links_stay schema added j j.on

theorem filter_links_stay (validate : Bool) (j : Join) :
    Stays schema added (filterLinks schema validate j).result
      (filterLinks (schema.addTable added) validate j).result := by
  unfold filterLinks
  cases j.filter with
  | none => exact .refl _
  | some input =>
    simp only [Traced.result_bind]
    exact (Condition.compile_input_stays schema added _ input).bind_same _

theorem clause_stays (validate : Bool) (j : Join) :
    Stays schema added (j.clause schema validate).result
      (j.clause (schema.addTable added) validate).result := by
  simp only [clause, Traced.result_bind]
  refine (on_links_stay schema added j).bind fun links => ?_
  exact (filter_links_stay schema added validate j).bind_same _

end Join

/-! ### Statements -/

namespace Statement

theorem of_insert_stays (validate : Bool) (verb : InsertVerb) (table : String) (data : Json) :
    Stays schema added (ofInsert schema validate verb table data).result
      (ofInsert (schema.addTable added) validate verb table data).result := by
  have hcheck : Stays schema added (checkData schema table data)
      (checkData (schema.addTable added) table data) :=
    (schema.get_table_stays added table).bind_same _
  have hcompiled := Condition.compile_input_stays schema added (assignmentScope table validate) data
  unfold ofInsert
  split
  · exact .refl _
  · cases validate with
    | true =>
      simp only [Traced.result_bind, Traced.result_lifted, if_true]
      exact hcheck.bind fun _ => hcompiled.bind_same _
    | false =>
      simp only [Traced.result_bind, Bool.false_eq_true, if_false]
      exact hcompiled.bind_same _

theorem of_update_stays (validate : Bool) (table : String) (filter data : Json) :
    Stays schema added (ofUpdate schema validate table filter data).result
      (ofUpdate (schema.addTable added) validate table filter data).result := by
  unfold ofUpdate
  split
  · exact .refl _
  · simp only [Traced.result_bind]
    refine (Condition.compile_input_stays schema added _ filter).bind fun clauses => ?_
    exact (Condition.compile_input_stays schema added _ data).bind_same _

theorem of_delete_stays (validate : Bool) (table : String) (filter : Json) :
    Stays schema added (ofDelete schema validate table filter).result
      (ofDelete (schema.addTable added) validate table filter).result := by
  simp only [ofDelete, Traced.result_bind]
  exact (Condition.compile_input_stays schema added _ filter).bind_same _

end Statement

namespace Selection

theorem checked_column_stays (scope : Scope) (column : String) :
    Stays schema added (checkedColumn schema scope column)
      (checkedColumn (schema.addTable added) scope column) :=
  (Subject.find_stays schema added scope column).bind_same _

theorem checked_columns_stay (scope : Scope) (names : List String) :
    Stays schema added (checkedColumns schema scope names)
      (checkedColumns (schema.addTable added) scope names) := by
  induction names with
  | nil => exact .refl _
  | cons name rest ih =>
    exact (checked_column_stays schema added scope name).bind fun _ => ih.bind_same _

theorem ordered_columns_stay (scope : Scope) (entries : List OrderEntry) :
    Stays schema added (orderedColumns schema scope entries)
      (orderedColumns (schema.addTable added) scope entries) := by
  induction entries with
  | nil => exact .refl _
  | cons entry rest ih =>
    exact (checked_column_stays schema added scope entry.column).bind fun _ => ih.bind_same _

theorem own_shown_stays (scope : Scope) (table : String) (fields : List String) :
    Stays schema added (ownShown schema scope table fields)
      (ownShown (schema.addTable added) scope table fields) := by
  unfold ownShown
  split
  · exact .refl _
  · exact (checked_columns_stay schema added scope fields).map _

theorem joins_shown_stay (joins : List Join) :
    Stays schema added (joinsShown schema joins) (joinsShown (schema.addTable added) joins) := by
  induction joins with
  | nil => exact .refl _
  | cons join rest ih =>
    refine (schema.get_table_stays added join.table).bind fun table => ?_
    exact Stays.bind_after _ fun shown => ih.bind_same _

theorem join_clauses_stay (validate : Bool) (joins : List Join) :
    Stays schema added (joinClauses schema validate joins).result
      (joinClauses (schema.addTable added) validate joins).result := by
  induction joins with
  | nil => exact .refl _
  | cons join rest ih =>
    simp only [joinClauses, Traced.result_bind]
    exact (join.clause_stays schema added validate).bind fun _ => ih.bind_same _

theorem of_query_stays (validate : Bool) (query : SelectQuery) :
    Stays schema added (ofQuery schema validate query).result
      (ofQuery (schema.addTable added) validate query).result := by
  simp only [ofQuery, Traced.result_bind, Traced.result_lifted]
  -- The joins are read without the schema, so both runs go on with the same ones.
  refine (schema.get_table_stays added query.table).bind fun _ => ?_
  refine Stays.bind_after _ fun joins => ?_
  refine (own_shown_stays schema added _ _ _).bind fun own => ?_
  refine (joins_shown_stay schema added joins).bind fun others => ?_
  refine (join_clauses_stay schema added validate joins).bind fun clauses => ?_
  refine (Condition.compile_input_stays schema added _ _).bind fun filter => ?_
  refine (checked_columns_stay schema added _ _).bind fun groupBy => ?_
  exact (ordered_columns_stay schema added _ _).bind_same _

end Selection

theorem Request.statement_stays (validate : Bool) (request : Request) :
    Stays schema added (request.statement schema validate)
      (request.statement (schema.addTable added) validate) := by
  cases request with
  | insert verb table data =>
    exact (Statement.of_insert_stays schema added validate verb table data).map some
  | update table filter data =>
    exact Statement.of_update_stays schema added validate table filter data
  | delete table filter =>
    exact (Statement.of_delete_stays schema added validate table filter).map some
  | select query =>
    simp only [Request.statement, Statement.ofQuery, Traced.result_bind]
    exact ((Selection.of_query_stays schema added validate query).bind_same _).map some

/-! ### Calls -/

/-- Everything that a text can be asked for by: conditions, read or not, a join or a statement. -/
inductive Call where
  | conditions (scope : Scope) (read : List Condition)
  | input (scope : Scope) (json : Json)
  | join (validate : Bool) (j : Join)
  | statement (validate : Bool) (request : Request)

namespace Call

/-- The text that a call gives. Only an update may give none. -/
def sql (style : Quoting) (schema : Schema) : Call → Except Error (Option String)
  | .conditions scope read => (Condition.compiledSql style schema scope read).map some
  | .input scope json =>
    (Condition.compileInput schema scope json).result.map fun clauses =>
      some (Clause.joined style scope.glue clauses)
  | .join validate j =>
    (j.clause schema validate).result.map fun clause => some (clause.sql style)
  | .statement validate request => request.sql style schema validate

theorem sql_stays (style : Quoting) (call : Call) :
    Stays schema added (call.sql style schema) (call.sql style (schema.addTable added)) := by
  cases call with
  | conditions scope read =>
    exact ((Condition.compile_stays schema added scope read).map _).map some
  | input scope json => exact (Condition.compile_input_stays schema added scope json).map _
  | join validate j => exact (j.clause_stays schema added validate).map _
  | statement validate request => exact (request.statement_stays schema added validate).map _

/-- A table that is added changes no text and no error but the lack of a table of its name. If the
name is taken, it changes nothing. -/
theorem added_table_apart (style : Quoting) (schema : Schema) (added : Table) (call : Call)
    (h : schema.table? added.name ≠ none ∨
      call.sql style schema ≠ .error (.unknownTable added.name)) :
    call.sql style (schema.addTable added) = call.sql style schema := by
  rcases sql_stays schema added style call with ⟨hnone, he⟩ | he
  · rcases h with htaken | hsql
    · exact absurd hnone htaken
    · exact absurd he hsql
  · exact he

/-- A second table of users, without any column. -/
def shadow : Table := { name := "users", columns := [] }

def deletion (table : String) : Call :=
  .statement true (.delete table (.object [("id", .integer 7)]))

theorem added_table_apart_shadow :
    (deletion "users").sql .mysql (Sample.schema.addTable shadow) =
      .ok (some "DELETE FROM `users` WHERE `users`.`id` = '7'") ∧
    (deletion "tags").sql .mysql (Sample.schema.addTable shadow) =
      .error (.unknownTable "tags") ∧
    (deletion "users").sql .mysql ⟨[shadow]⟩ = .error (.missingColumn "users" "id" none) := by
  have hid : (deletion "users").sql .mysql Sample.schema =
      .ok (some "DELETE FROM `users` WHERE `users`.`id` = '7'") := by rfl
  have htags : (deletion "tags").sql .mysql Sample.schema = .error (.unknownTable "tags") := by rfl
  have hother :
      (deletion "tags").sql .mysql Sample.schema ≠ .error (.unknownTable shadow.name) := by
    rw [htags]
    simp [shadow]
  refine ⟨?_, ?_, rfl⟩
  · rw [added_table_apart .mysql Sample.schema shadow (deletion "users") (Or.inl nofun), hid]
  · rw [added_table_apart .mysql Sample.schema shadow (deletion "tags") (Or.inr hother), htags]

end Call

end SqlBuilder

import SqlBuilder.Proofs.FilterPresence
import SqlBuilder.Proofs.ValidationSwitch

/-!
The columns that a selection names. Each is qualified, or declared in the table that it belongs to,
and this does not hang on the validation of values.
-/

namespace SqlBuilder

/-- The table of the reference is in the schema and has the column. -/
def Reference.Declared (schema : Schema) (r : Reference) : Prop :=
  ∃ name table column, r.table = some name ∧ schema.table? name = some table ∧
    table.column? r.column = some column

/-- The reference has no table to be checked against, or it is declared. -/
def Reference.Checked (schema : Schema) (r : Reference) : Prop :=
  r.table = none ∨ r.Declared schema

/-- A name that is qualified once it is cleaned, or that resolves to a declared column. -/
def Scope.Admits (schema : Schema) (scope : Scope) (column : String) : Prop :=
  (Identifier.split? (Identifier.sanitize column)).isSome = true ∨
    (scope.resolve column).Declared schema

namespace Condition

mutual

/-- The names of columns in a condition, also in tests of which no clause is left. -/
def columns : Condition → List String
  | predicate p => p.column.names
  | raw _ => []
  | group _ children => columnsAll children

def columnsAll : List Condition → List String
  | [] => []
  | condition :: rest => columns condition ++ columnsAll rest

end

end Condition

/-! ### One column -/

/-- In the scope of a table only a qualified name has no table. -/
theorem Scope.qualified_of_no_table {scope : Scope} {table column : String}
    (ht : scope.table = some table) (hn : (scope.resolve column).table = none) :
    (Identifier.split? (Identifier.sanitize column)).isSome = true := by
  unfold Scope.resolve Reference.resolve at hn
  dsimp only at hn
  split at hn
  · rename_i hs
    simp [hs]
  · split at hn
    · cases hn
    · rw [ht] at hn
      cases hn

theorem Reference.owner_checked {schema : Schema} {r : Reference}
    {owner : Option (Table × Column)} (h : r.owner schema = .ok owner) : r.Checked schema := by
  unfold Reference.owner at h
  split at h
  · rename_i hn
    exact Or.inl hn
  · rename_i name hn
    obtain ⟨table, ht, h⟩ := bind_ok.mp h
    obtain ⟨column, hc, _⟩ := bind_ok.mp h
    exact Or.inr ⟨name, table, column, hn, Subject.get_table_ok ht, Subject.get_column_ok hc⟩

theorem Scope.admits_of_checked {schema : Schema} {scope : Scope} {table column : String}
    (ht : scope.table = some table) (h : (scope.resolve column).Checked schema) :
    scope.Admits schema column := by
  rcases h with hn | hd
  · exact Or.inl (Scope.qualified_of_no_table ht hn)
  · exact Or.inr hd

section

variable {schema : Schema} {scope : Scope} {table : String}

theorem Subject.find_checked {column : String} {s : Subject}
    (h : Subject.find schema scope column = .ok s) : (scope.resolve column).Checked schema := by
  obtain ⟨owner, ho, _⟩ := bind_ok.mp h
  exact Reference.owner_checked ho

/-! ### Conditions -/

namespace Predicate

theorem search_checked {names : List String} {columns : List ColumnName}
    (h : searchColumns schema scope names = .ok columns) :
    ∀ name ∈ names, (scope.resolve name).Checked schema := by
  refine forall_of_walk ?_ h
  intro first rest out h
  obtain ⟨subject, hs, h⟩ := bind_ok.mp h
  obtain ⟨others, ho, _⟩ := bind_ok.mp h
  exact ⟨Subject.find_checked hs, others, ho⟩

/-- Whatever becomes of a predicate, its columns were looked up first. -/
theorem settle_checked {p : Predicate} {settled : Settled}
    (h : p.settle schema scope = .ok settled) :
    ∀ name ∈ p.column.names, (scope.resolve name).Checked schema := by
  unfold settle at h
  obtain ⟨operator, _, h⟩ := bind_ok.mp h
  split at h
  · unfold settleSearch at h
    split at h
    · cases h
    · obtain ⟨columns, hc, _⟩ := bind_ok.mp h
      exact search_checked hc
  · split at h
    · rename_i column hc
      unfold settleOn at h
      obtain ⟨subject, hs, _⟩ := bind_ok.mp h
      intro name hm
      rw [hc] at hm
      rw [List.mem_singleton.mp hm]
      exact Subject.find_checked hs
    · cases h

end Predicate

namespace Condition

theorem clauses_all_checked {conditions : List Condition} {out : List Clause}
    (each : ∀ c ∈ conditions, ∀ first, (clauses schema scope c).result = .ok first →
      ∀ name ∈ c.columns, (scope.resolve name).Checked schema)
    (h : (clausesAll schema scope conditions).result = .ok out) :
    ∀ name ∈ columnsAll conditions, (scope.resolve name).Checked schema := by
  induction conditions generalizing out with
  | nil => simp [columnsAll]
  | cons condition rest ih =>
    obtain ⟨first, others, hf, ho, _⟩ := clauses_all_cons.mp h
    intro name hm
    rcases List.mem_append.mp hm with hm | hm
    · exact each condition (List.mem_cons_self ..) first hf name hm
    · exact ih (fun c hc => each c (List.mem_cons_of_mem _ hc)) ho name hm

theorem clauses_checked (c : Condition) (out : List Clause)
    (h : (clauses schema scope c).result = .ok out) :
    ∀ name ∈ c.columns, (scope.resolve name).Checked schema := by
  induction c using Condition.induct generalizing out with
  | predicate p =>
    rw [clauses, Predicate.result_clauses] at h
    obtain ⟨settled, hs, _⟩ := map_ok.mp h
    exact Predicate.settle_checked hs
  | raw sql => simp [columns]
  | group glue children ih =>
    rw [result_group] at h
    obtain ⟨inner, hi, _⟩ := map_ok.mp h
    exact clauses_all_checked ih hi

theorem compile_checked {conditions : List Condition} {out : List Clause}
    (h : (compile schema scope conditions).result = .ok out) :
    ∀ name ∈ columnsAll conditions, (scope.resolve name).Checked schema := by
  simp only [compile, Traced.result_bind] at h
  obtain ⟨_, _, h⟩ := bind_ok.mp h
  exact clauses_all_checked (fun c _ => clauses_checked c) h

/-- An input that compiles was read as conditions whose columns are all admitted. -/
theorem input_admits (ht : scope.table = some table) {input : Json} {out : List Clause}
    (h : (compileInput schema scope input).result = .ok out) :
    ∃ declared conditions, schema.table? table = some declared ∧
      read (some declared) input = .ok conditions ∧
      ∀ name ∈ columnsAll conditions, scope.Admits schema name := by
  obtain ⟨found, conditions, hf, hr, hc⟩ := compile_input_ok h
  simp only [Scope.getTable, ht] at hf
  obtain ⟨declared, hd, rfl⟩ := map_ok.mp hf
  have each := fun name hm => Scope.admits_of_checked ht (compile_checked hc name hm)
  exact ⟨declared, conditions, Subject.get_table_ok hd, hr, each⟩

end Condition

/-! ### The parts of a selection -/

namespace Selection

/-- A column that is checked is written as it is resolved. -/
theorem checked_column_ok {column : String} {name : ColumnName}
    (h : checkedColumn schema scope column = .ok name) :
    name = (scope.resolve column).name ∧ (scope.resolve column).Checked schema := by
  obtain ⟨subject, hs, h⟩ := bind_ok.mp h
  rw [← pure_ok.mp h, Subject.find_reference hs]
  exact ⟨rfl, Subject.find_checked hs⟩

theorem checked_columns_ok {names : List String} {columns : List ColumnName}
    (h : checkedColumns schema scope names = .ok columns) :
    columns = names.map (fun name => (scope.resolve name).name) ∧
      ∀ name ∈ names, (scope.resolve name).Checked schema := by
  induction names generalizing columns with
  | nil =>
    cases h
    simp
  | cons first rest ih =>
    obtain ⟨column, hc, h⟩ := bind_ok.mp h
    obtain ⟨others, ho, h⟩ := bind_ok.mp h
    obtain ⟨rfl, hchecked⟩ := checked_column_ok hc
    obtain ⟨rfl, hrest⟩ := ih ho
    exact ⟨(pure_ok.mp h).symm, List.forall_mem_cons.mpr ⟨hchecked, hrest⟩⟩

theorem ordered_columns_ok {entries : List OrderEntry} {columns : List (ColumnName × SortOrder)}
    (h : orderedColumns schema scope entries = .ok columns) :
    columns = entries.map (fun entry => ((scope.resolve entry.column).name, entry.order)) ∧
      ∀ entry ∈ entries, (scope.resolve entry.column).Checked schema := by
  induction entries generalizing columns with
  | nil =>
    cases h
    simp
  | cons first rest ih =>
    obtain ⟨column, hc, h⟩ := bind_ok.mp h
    obtain ⟨others, ho, h⟩ := bind_ok.mp h
    obtain ⟨rfl, hchecked⟩ := checked_column_ok hc
    obtain ⟨rfl, hrest⟩ := ih ho
    exact ⟨(pure_ok.mp h).symm, List.forall_mem_cons.mpr ⟨hchecked, hrest⟩⟩

theorem checked_columns_admit (ht : scope.table = some table) {names : List String}
    {columns : List ColumnName} (h : checkedColumns schema scope names = .ok columns) :
    ∀ name ∈ names, scope.Admits schema name := by
  intro name hm
  exact Scope.admits_of_checked ht ((checked_columns_ok h).2 name hm)

theorem ordered_columns_admit (ht : scope.table = some table) {entries : List OrderEntry}
    {columns : List (ColumnName × SortOrder)}
    (h : orderedColumns schema scope entries = .ok columns) :
    ∀ entry ∈ entries, scope.Admits schema entry.column := by
  intro entry hm
  exact Scope.admits_of_checked ht ((ordered_columns_ok h).2 entry hm)

theorem own_shown_admits (ht : scope.table = some table) {name : String} {fields : List String}
    {shown : List Shown} (h : ownShown schema scope name fields = .ok shown) :
    ∀ field ∈ fields, scope.Admits schema field := by
  unfold ownShown at h
  split at h
  · rename_i he
    simp [List.isEmpty_iff.mp he]
  · obtain ⟨columns, hc, _⟩ := map_ok.mp h
    exact checked_columns_admit ht hc

theorem fields_shown_declared {declared : Table} {join : Join} {fields : List ProjectedField}
    {shown : List Shown} (h : fieldsShown declared join fields = .ok shown) :
    ∀ field ∈ fields, ∃ column, declared.column? field.source = some column := by
  refine forall_of_walk ?_ h
  intro first rest out h
  obtain ⟨column, hc, h⟩ := bind_ok.mp h
  obtain ⟨others, ho, _⟩ := bind_ok.mp h
  exact ⟨⟨column, Subject.get_column_ok hc⟩, others, ho⟩

/-- The joined table is in the schema, and so are the columns that the join shows. -/
def JoinDeclared (schema : Schema) (join : Join) : Prop :=
  ∃ declared, schema.table? join.table = some declared ∧
    ∀ field ∈ join.fields, ∃ column, declared.column? field.source = some column

theorem joins_shown_declared {joins : List Join} {shown : List Shown}
    (h : joinsShown schema joins = .ok shown) : ∀ join ∈ joins, JoinDeclared schema join := by
  refine forall_of_walk ?_ h
  intro first rest out h
  obtain ⟨declared, hd, h⟩ := bind_ok.mp h
  obtain ⟨own, hf, h⟩ := bind_ok.mp h
  obtain ⟨others, ho, _⟩ := bind_ok.mp h
  exact ⟨⟨declared, Subject.get_table_ok hd, fields_shown_declared hf⟩, others, ho⟩

/-- The filter of the join, if it has one, names only columns that its own table admits. -/
def JoinFiltered (schema : Schema) (validate : Bool) (join : Join) : Prop :=
  ∀ input, join.filter = some input →
    ∃ declared conditions, schema.table? join.table = some declared ∧
      Condition.read (some declared) input = .ok conditions ∧
      ∀ name ∈ Condition.columnsAll conditions, (join.filterScope validate).Admits schema name

theorem clause_filtered {validate : Bool} {join : Join} {clause : JoinClause}
    (h : (join.clause schema validate).result = .ok clause) :
    JoinFiltered schema validate join := by
  intro input hi
  simp only [Join.clause, Join.filterLinks, hi, Traced.result_bind] at h
  obtain ⟨links, _, h⟩ := bind_ok.mp h
  obtain ⟨filters, hf, _⟩ := bind_ok.mp h
  obtain ⟨clauses, hc, _⟩ := bind_ok.mp hf
  exact Condition.input_admits rfl hc

theorem join_clauses_filtered {validate : Bool} {joins : List Join} {out : List JoinClause}
    (h : (joinClauses schema validate joins).result = .ok out) :
    ∀ join ∈ joins, JoinFiltered schema validate join := by
  refine forall_of_walk (f := fun joins => (joinClauses schema validate joins).result) ?_ h
  intro first rest out h
  simp only [joinClauses, Traced.result_bind] at h
  obtain ⟨clause, hc, h⟩ := bind_ok.mp h
  obtain ⟨others, ho, _⟩ := bind_ok.mp h
  exact ⟨clause_filtered hc, others, ho⟩

end Selection

end

/-! ### Selections -/

namespace Selection

/-- Where the columns of a query stand, beside the joins that may provide them. -/
def queryScope (query : SelectQuery) (validate : Bool) (joins : List Join) : Scope :=
  { table := some query.table, alias? := query.alias?, joins, validate }

/-- Every table and column of a query with these joins and this filter is known. The fields of the
query are looked for without the joins. -/
structure Known (schema : Schema) (validate : Bool) (query : SelectQuery) (joins : List Join)
    (conditions : List Condition) : Prop where
  joined : ∀ join ∈ joins, JoinDeclared schema join
  filtered : ∀ join ∈ joins, JoinFiltered schema validate join
  fields : ∀ name ∈ query.fields, (queryScope query validate []).Admits schema name
  filter : ∀ name ∈ Condition.columnsAll conditions,
    (queryScope query validate joins).Admits schema name
  groupBy : ∀ name ∈ query.groupBy, (queryScope query validate joins).Admits schema name
  orderBy : ∀ entry ∈ query.orderBy, (queryScope query validate joins).Admits schema entry.column

/-- A selection that is made knows its tables and columns, with validation or without. -/
theorem selected_columns_known (schema : Schema) (validate : Bool) (query : SelectQuery)
    (statement : Statement) (h : (Statement.ofQuery schema validate query).result = .ok statement) :
    ∃ declared joins conditions, schema.table? query.table = some declared ∧
      (Join.read query.table query.alias? query.joins).result = .ok joins ∧
      Condition.read (some declared) query.filter = .ok conditions ∧
      Known schema validate query joins conditions := by
  simp only [Statement.ofQuery, Traced.result_bind] at h
  obtain ⟨selection, h, _⟩ := bind_ok.mp h
  simp only [ofQuery, Traced.result_bind] at h
  obtain ⟨_, _, h⟩ := bind_ok.mp h
  obtain ⟨joins, hj, h⟩ := bind_ok.mp h
  obtain ⟨own, hown, h⟩ := bind_ok.mp h
  obtain ⟨shown, hshown, h⟩ := bind_ok.mp h
  obtain ⟨clauses, hclauses, h⟩ := bind_ok.mp h
  obtain ⟨filter, hfilter, h⟩ := bind_ok.mp h
  obtain ⟨groupBy, hgroup, h⟩ := bind_ok.mp h
  obtain ⟨orderBy, horder, _⟩ := bind_ok.mp h
  obtain ⟨declared, conditions, hd, hr, hadmits⟩ := Condition.input_admits rfl hfilter
  refine ⟨declared, joins, conditions, hd, hj, hr, ?_⟩
  exact {
    joined := joins_shown_declared hshown
    filtered := join_clauses_filtered hclauses
    fields := own_shown_admits rfl hown
    filter := hadmits
    groupBy := checked_columns_admit rfl hgroup
    orderBy := ordered_columns_admit rfl horder }

/-- Titles beside their authors, with a test that is left out and a search in two tables. -/
def authoredTitles : SelectQuery :=
  { table := "posts"
    alias? := some "p"
    fields := ["title"]
    joins := .array [.object [
      ("table", .string "users"), ("on", .string "author"), ("fields", .array [.string "name"]),
      ("where", .object [("born", .null)])]]
    filter := .object [
      ("OR", .object [("name", .string "Ada"), ("id", .array [.string "NOT IN", .array []])]),
      ("0", .array [
        .array [.string "title", .string "users.nick"], .string "MATCH", .string "war"])]
    groupBy := ["name"]
    orderBy := [{ column := "id" }] }

theorem selected_columns_known_authored :
    (Condition.read (some Sample.posts) authoredTitles.filter).map Condition.columnsAll =
      .ok ["name", "id", "title", "users.nick"] ∧
    ∃ statement, (Statement.ofQuery Sample.schema false authoredTitles).result = .ok statement ∧
      ∃ declared joins conditions, Sample.schema.table? "posts" = some declared ∧
        (Join.read "posts" (some "p") authoredTitles.joins).result = .ok joins ∧
        Condition.read (some declared) authoredTitles.filter = .ok conditions ∧
        Known Sample.schema false authoredTitles joins conditions := by
  have h : ∃ statement,
      (Statement.ofQuery Sample.schema false authoredTitles).result = .ok statement := ⟨_, rfl⟩
  obtain ⟨statement, h⟩ := h
  exact ⟨rfl, statement, h, selected_columns_known _ _ _ _ h⟩

end Selection

end SqlBuilder

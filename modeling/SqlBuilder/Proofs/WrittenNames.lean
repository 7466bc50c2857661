import SqlBuilder.Proofs.DeclaredColumns
import SqlBuilder.Proofs.ValueContents

/-!
The names of columns in a text, and what they were looked up as. Every text writes the columns that
were asked for, in their order. A column of the table of a statement is cleaned before it is looked
up, so it is written as it is declared. A column that a join names is looked up as it is and cleaned
when it is written.
-/

namespace SqlBuilder

/-- What stands between the backticks of the column. -/
def ColumnName.identifier (name : ColumnName) : String := Identifier.sanitize name.column

/-- What stands before the backticks of the column. -/
def ColumnName.lead (name : ColumnName) : String :=
  match name.qualifier with
  | some qualifier => Identifier.quote qualifier ++ "."
  | none => ""

/-! ### The names in a text -/

/-- The text is made of the names, in their order, and of other text. -/
inductive Writes : String → List ColumnName → Prop where
  | other (text : String) : Writes text []
  | name (n : ColumnName) : Writes (n.lead ++ ("`" ++ n.identifier ++ "`")) [n]
  | append {s t : String} {xs ys : List ColumnName} (left : Writes s xs) (right : Writes t ys) :
      Writes (s ++ t) (xs ++ ys)

namespace Writes

variable {text : String} {names : List ColumnName}

theorem column (n : ColumnName) : Writes n.text [n] := by
  have hn := Writes.name n
  unfold ColumnName.lead at hn
  unfold ColumnName.text
  split
  · rename_i hq
    rw [hq] at hn
    exact hn
  · rename_i hq
    rw [hq, String.empty_append] at hn
    exact hn

theorem after (lead : String) (h : Writes text names) : Writes (lead ++ text) names :=
  (Writes.other lead).append h

theorem before (h : Writes text names) (tail : String) : Writes (text ++ tail) names := by
  have hn := h.append (.other tail)
  rwa [List.append_nil] at hn

theorem joined {α : Type} (separator : String) {items : List α} {write : α → String}
    {names : α → List ColumnName} (each : ∀ item ∈ items, Writes (write item) (names item)) :
    Writes (Text.joinWith separator (items.map write)) (items.flatMap names) := by
  induction items with
  | nil => exact .other ""
  | cons first rest ih =>
    obtain ⟨hfirst, hrest⟩ := List.forall_mem_cons.mp each
    rw [List.flatMap_cons]
    cases rest with
    | nil =>
      rw [List.flatMap_nil, List.append_nil]
      exact hfirst
    | cons next rest => exact (hfirst.before separator).append (ih hrest)

end Writes

namespace Clause

mutual

/-- The columns of a clause in the order in which they are written. -/
def columnNames : Clause → List ColumnName
  | compare column _ _ => [column]
  | between column _ _ => [column]
  | member column _ _ => [column]
  | never => []
  | search columns _ => columns
  | verbatim _ => []
  | group _ clauses => columnNamesAll clauses

def columnNamesAll : List Clause → List ColumnName
  | [] => []
  | clause :: rest => columnNames clause ++ columnNamesAll rest

end

theorem column_names_all_eq (clauses : List Clause) :
    columnNamesAll clauses = clauses.flatMap columnNames := by
  induction clauses with
  | nil => rfl
  | cons clause rest ih => rw [columnNamesAll, ih, List.flatMap_cons]

theorem writes (style : Quoting) (c : Clause) : Writes (c.sql style) c.columnNames := by
  induction c using Clause.induct with
  | compare column operator value =>
    exact ((((Writes.column column).before _).before _).before _).before _
  | between column low high =>
    exact ((((Writes.column column).before _).before _).before _).before _
  | member column operator items =>
    exact (((((Writes.column column).before _).before _).before _).before _).before _
  | never => exact .other _
  | search columns value =>
    have hc := Writes.joined "," fun (c : ColumnName) (_ : c ∈ columns) => Writes.column c
    rw [List.flatMap_singleton'] at hc
    exact (((hc.after "MATCH(").before _).before _).before _
  | verbatim sql => exact .other _
  | group glue clauses ih =>
    have hc := Writes.joined glue.separator ih
    rw [sql, columnNames, sql_all_eq_map, column_names_all_eq]
    exact (hc.after "(").before ")"

theorem joined_writes (style : Quoting) (glue : Glue) (clauses : List Clause) :
    Writes (joined style glue clauses) (columnNamesAll clauses) := by
  rw [joined, sql_all_eq_map, column_names_all_eq]
  exact Writes.joined _ fun c _ => writes style c

end Clause

/-! ### The names in join clauses and selections -/

def Link.columnNames : Link → List ColumnName
  | equal left right => [left, right]
  | verbatim _ => []
  | filter clauses => Clause.columnNamesAll clauses

theorem Link.writes (style : Quoting) (link : Link) :
    Writes (link.sql style) link.columnNames := by
  cases link with
  | equal left right => exact ((Writes.column left).before " = ").append (.column right)
  | verbatim sql => exact .other _
  | filter clauses => exact ((Clause.joined_writes style .and clauses).after "(").before ")"

def JoinClause.columnNames (clause : JoinClause) : List ColumnName :=
  clause.links.flatMap Link.columnNames

theorem JoinClause.writes (style : Quoting) (clause : JoinClause) :
    Writes (clause.sql style) clause.columnNames := by
  have hl := Writes.joined " AND " fun link (_ : link ∈ clause.links) => link.writes style
  unfold JoinClause.sql JoinClause.columnNames
  dsimp only
  split
  · rename_i he
    rw [List.isEmpty_iff.mp he]
    exact .other _
  · exact hl.after _

def Shown.columnNames : Shown → List ColumnName
  | every _ => []
  | column name => [name]
  | renamed name _ => [name]

theorem Shown.writes (shown : Shown) : Writes shown.sql shown.columnNames := by
  cases shown with
  | every table => exact .other _
  | column name => exact .column name
  | renamed name label => exact ((Writes.column name).before _).before _

namespace Selection

/-- The columns of a selection in the order in which they are written. -/
def columnNames (s : Selection) : List ColumnName :=
  s.shown.flatMap Shown.columnNames ++ s.joins.flatMap JoinClause.columnNames ++
    Clause.columnNamesAll s.filter ++ s.groupBy ++ s.orderBy.map (·.1)

theorem joins_write (style : Quoting) (joins : List JoinClause) :
    Writes (String.join (joins.map fun join => " " ++ join.sql style))
      (joins.flatMap JoinClause.columnNames) := by
  induction joins with
  | nil => exact .other _
  | cons join rest ih =>
    rw [List.map_cons, String.join_cons, List.flatMap_cons]
    exact ((join.writes style).after " ").append ih

theorem where_writes (style : Quoting) (filter : List Clause) :
    Writes (whereSql style filter) (Clause.columnNamesAll filter) := by
  unfold whereSql
  split
  · rename_i he
    rw [List.isEmpty_iff.mp he]
    exact .other _
  · exact (Clause.joined_writes style .and filter).after _

theorem list_writes {α : Type} (lead : String) {items : List α} {write : α → String}
    {name : α → ColumnName} (each : ∀ item ∈ items, Writes (write item) [name item]) :
    Writes (listSql lead (items.map write)) (items.map name) := by
  unfold listSql
  split
  · rename_i he
    rw [List.map_eq_nil_iff.mp (List.isEmpty_iff.mp he)]
    exact .other _
  · have hw := Writes.joined ", " each
    rw [← List.map_eq_flatMap] at hw
    exact hw.after lead

theorem writes (style : Quoting) (s : Selection) : Writes (s.sql style) s.columnNames := by
  have hshown := Writes.joined ", " fun shown (_ : shown ∈ s.shown) => shown.writes
  have hgroup := list_writes " GROUP BY " fun name (_ : name ∈ s.groupBy) => Writes.column name
  have horder := list_writes " ORDER BY " fun (entry : ColumnName × SortOrder)
    (_ : entry ∈ s.orderBy) => ((Writes.column entry.1).before " ").before entry.2.word
  rw [List.map_id'] at hgroup
  refine Writes.before ?_ (limitSql s.limit s.offset)
  refine Writes.append ?_ horder
  refine Writes.append ?_ hgroup
  refine Writes.append ?_ (where_writes style s.filter)
  refine Writes.append ?_ (joins_write style s.joins)
  exact ((hshown.after "SELECT ").before " FROM ").before _

end Selection

/-! ### References that were found -/

/-- If the reference has a table, the table is in the schema and has the column. What is written for
the column is its declared name exactly if no character of that is left out, and always if no join
names the column. -/
def Reference.Found (schema : Schema) (r : Reference) : Prop :=
  ∀ table, r.table = some table → ∃ declared column, schema.table? table = some declared ∧
    declared.column? r.column = some column ∧
    (r.name.identifier = column.name ↔ Identifier.sanitize column.name = column.name) ∧
    (r.viaJoin = false → r.name.identifier = column.name)

theorem Reference.found_of_checked {schema : Schema} {r : Reference}
    (same : r.name.column = r.column)
    (clean : r.viaJoin = false → r.table ≠ none → Identifier.sanitize r.column = r.column)
    (h : r.Checked schema) : r.Found schema := by
  intro table ht
  rcases h with hn | ⟨name, declared, column, hname, hd, hc⟩
  · cases hn.symm.trans ht
  · cases hname.symm.trans ht
    have hcolumn : column.name = r.column := by simpa using List.find?_some hc
    refine ⟨declared, column, hd, hc, ?_, ?_⟩
    · rw [ColumnName.identifier, same, hcolumn]
    · intro hv
      rw [ColumnName.identifier, same, hcolumn]
      exact clean hv (by simp [ht])

namespace Scope

variable {scope : Scope} {name : String}

theorem resolve_same : (scope.resolve name).name.column = (scope.resolve name).column := by
  unfold Scope.resolve Reference.resolve
  dsimp only
  split
  · rfl
  · split <;> rfl

theorem resolve_clean (hv : (scope.resolve name).viaJoin = false)
    (ht : (scope.resolve name).table ≠ none) :
    Identifier.sanitize (scope.resolve name).column = (scope.resolve name).column := by
  unfold Scope.resolve Reference.resolve at hv ht ⊢
  dsimp only at hv ht ⊢
  split
  · rename_i hs
    simp [hs] at ht
  · rename_i hs
    split
    · rename_i hp
      simp [hs, hp] at hv
    · simp [Identifier.sanitize]

theorem resolve_found {schema : Schema} (h : (scope.resolve name).Checked schema) :
    (scope.resolve name).Found schema :=
  Reference.found_of_checked resolve_same resolve_clean h

end Scope

/-- The names are those of the references, which were all found. -/
structure Named (schema : Schema) (references : List Reference) (names : List ColumnName) :
    Prop where
  same : names = references.map (·.name)
  found : ∀ r ∈ references, r.Found schema

namespace Named

variable {schema : Schema} {xs ys : List Reference} {as bs : List ColumnName}

theorem nil : Named schema [] [] := ⟨rfl, by simp⟩

theorem append (hx : Named schema xs as) (hy : Named schema ys bs) :
    Named schema (xs ++ ys) (as ++ bs) := by
  refine ⟨?_, ?_⟩
  · rw [hx.same, hy.same, List.map_append]
  · intro r hr
    rcases List.mem_append.mp hr with hr | hr
    · exact hx.found r hr
    · exact hy.found r hr

theorem resolved {α : Type} {scope : Scope} {items : List α} {name : α → String}
    (h : ∀ item ∈ items, (scope.resolve (name item)).Checked schema) :
    Named schema (items.map fun item => scope.resolve (name item))
      (items.map fun item => (scope.resolve (name item)).name) := by
  refine ⟨by simp [Function.comp_def], ?_⟩
  intro r hr
  obtain ⟨item, hm, rfl⟩ := List.mem_map.mp hr
  exact Scope.resolve_found (h item hm)

/-- References that have no table are found whatever they are. -/
theorem unchecked (names : List ColumnName) :
    Named schema (names.map fun name => ⟨none, name.column, name, true⟩) names := by
  refine ⟨by simp [Function.comp_def], ?_⟩
  intro r hr table ht
  obtain ⟨name, _, rfl⟩ := List.mem_map.mp hr
  cases ht

end Named

/-! ### Conditions -/

namespace Predicate

/-- The references of a predicate that are written: none for membership in an empty list. -/
def references (scope : Scope) (p : Predicate) : List Reference :=
  match p.value with
  | .list [] =>
    if p.writtenOperator = "IN" ∨ p.writtenOperator = "NOT IN" then []
    else p.column.names.map scope.resolve
  | _ => p.column.names.map scope.resolve

variable {scope : Scope} {p : Predicate} {out : List Clause}

theorem references_of_some (h : p.value ≠ .list []) :
    p.references scope = p.column.names.map scope.resolve := by
  unfold references
  split
  · rename_i hv
    exact absurd hv h
  · rfl

theorem references_of_none (h : p.value = .list [])
    (ho : p.writtenOperator = "IN" ∨ p.writtenOperator = "NOT IN") : p.references scope = [] := by
  unfold references
  rw [h]
  exact if_pos ho

theorem ne_nil_of_literal {value : Value} {literal : Literal} (h : value.literal? = some literal) :
    value ≠ .list [] := by
  rintro rfl
  cases h

theorem outlined_names (h : Outlined scope p out) :
    Clause.columnNamesAll out = (p.references scope).map (·.name) := by
  cases h with
  | search operator named literal =>
    rw [references_of_some (ne_nil_of_literal literal)]
    simp [Clause.columnNamesAll, Clause.columnNames, Function.comp_def]
  | between on operator bounds lowest highest =>
    rw [references_of_some (by simp [bounds]), on]
    rfl
  | never operator nothing =>
    rw [effective_of_list nothing] at operator
    rw [references_of_none nothing (Or.inl operator)]
    rfl
  | vacuous operator nothing =>
    rw [effective_of_list nothing] at operator
    rw [references_of_none nothing (Or.inr operator)]
    rfl
  | member on effective listing members some_item each =>
    rw [references_of_some (by simpa [members] using some_item), on]
    rfl
  | compare on effective ordinary literal =>
    rw [references_of_some (ne_nil_of_literal literal), on]
    rfl

theorem mem_references {r : Reference} (h : r ∈ p.references scope) :
    ∃ name ∈ p.column.names, scope.resolve name = r := by
  unfold references at h
  split at h
  · split at h
    · cases h
    · exact List.mem_map.mp h
  · exact List.mem_map.mp h

end Predicate

namespace Condition

mutual

/-- The references of a condition in the order in which they are written. -/
def references (scope : Scope) : Condition → List Reference
  | predicate p => p.references scope
  | raw _ => []
  | group _ children => referencesAll scope children

def referencesAll (scope : Scope) : List Condition → List Reference
  | [] => []
  | condition :: rest => references scope condition ++ referencesAll scope rest

end

variable {schema : Schema} {scope : Scope}

theorem column_names_grouped (glue : Glue) (clauses : List Clause) :
    Clause.columnNamesAll (Clause.grouped glue clauses) = Clause.columnNamesAll clauses := by
  unfold Clause.grouped
  split
  · rename_i he
    rw [List.isEmpty_iff.mp he]
  · simp [Clause.columnNamesAll, Clause.columnNames]

theorem outline_all_names {conditions : List Condition} {out : List Clause}
    (each : ∀ c ∈ conditions, ∀ first, c.outline scope = some first →
      Clause.columnNamesAll first = (c.references scope).map (·.name))
    (h : outlineAll scope conditions = some out) :
    Clause.columnNamesAll out = (referencesAll scope conditions).map (·.name) := by
  induction conditions generalizing out with
  | nil =>
    cases h
    rfl
  | cons condition rest ih =>
    obtain ⟨first, others, hf, ho, rfl⟩ := outline_all_cons.mp h
    have hfirst := each condition (List.mem_cons_self ..) first hf
    have hrest := ih (fun c hc => each c (List.mem_cons_of_mem _ hc)) ho
    rw [referencesAll, List.map_append, ← hfirst, ← hrest]
    simp only [Clause.column_names_all_eq, List.flatMap_append]

theorem outline_names (c : Condition) (out : List Clause) (h : c.outline scope = some out) :
    Clause.columnNamesAll out = (c.references scope).map (·.name) := by
  induction c using Condition.induct generalizing out with
  | predicate p => exact Predicate.outlined_names (Predicate.outlined h)
  | raw sql =>
    cases h
    rfl
  | group glue children ih =>
    obtain ⟨inner, hi, rfl⟩ := outline_group.mp h
    rw [column_names_grouped, outline_all_names ih hi]
    rfl

theorem mem_references_all {conditions : List Condition} {r : Reference}
    (each : ∀ c ∈ conditions, r ∈ c.references scope → ∃ name ∈ c.columns, scope.resolve name = r)
    (h : r ∈ referencesAll scope conditions) :
    ∃ name ∈ columnsAll conditions, scope.resolve name = r := by
  induction conditions with
  | nil => cases h
  | cons condition rest ih =>
    rcases List.mem_append.mp h with h | h
    · obtain ⟨name, hm, hr⟩ := each condition (List.mem_cons_self ..) h
      exact ⟨name, List.mem_append_left _ hm, hr⟩
    · obtain ⟨name, hm, hr⟩ := ih (fun c hc => each c (List.mem_cons_of_mem _ hc)) h
      exact ⟨name, List.mem_append_right _ hm, hr⟩

theorem mem_references {r : Reference} (c : Condition) (h : r ∈ c.references scope) :
    ∃ name ∈ c.columns, scope.resolve name = r := by
  induction c using Condition.induct with
  | predicate p => exact Predicate.mem_references h
  | raw sql => cases h
  | group glue children ih => exact mem_references_all ih h

theorem compile_named {conditions : List Condition} {out : List Clause}
    (h : (compile schema scope conditions).result = .ok out) :
    Named schema (referencesAll scope conditions) (Clause.columnNamesAll out) := by
  refine ⟨outline_all_names (fun c _ => outline_names c) (compile_outline h), ?_⟩
  intro r hr
  obtain ⟨name, hm, rfl⟩ := mem_references_all (fun c _ => mem_references c) hr
  exact Scope.resolve_found (compile_checked h name hm)

/-- The references of an input in a scope. -/
def inputReferences (schema : Schema) (scope : Scope) (input : Json) : List Reference :=
  match readIn schema scope input with
  | .ok conditions => referencesAll scope conditions
  | .error _ => []

theorem input_named {input : Json} {out : List Clause}
    (h : (compileInput schema scope input).result = .ok out) :
    Named schema (inputReferences schema scope input) (Clause.columnNamesAll out) := by
  obtain ⟨table, conditions, ht, hr, hc⟩ := compile_input_ok h
  have hread : readIn schema scope input = .ok conditions := bind_ok.mpr ⟨table, ht, hr⟩
  rw [inputReferences, hread]
  exact compile_named hc

end Condition

/-! ### Joins -/

namespace Join

/-- A column of the table that the join hangs on. -/
def originReference (j : Join) (column : String) : Reference :=
  ⟨some j.origin, column, j.originColumn column, true⟩

/-- A column of the joined table. -/
def joinedReference (j : Join) (column : String) : Reference :=
  ⟨some j.table, column, j.joinedColumn column, true⟩

/-- The foreign keys give the columns of an inferred link, so none of them is looked up. -/
def inferredReferences (schema : Schema) (j : Join) (column : Option String) : List Reference :=
  match (inferLink schema j column).result with
  | .ok link => link.columnNames.map fun name => ⟨none, name.column, name, true⟩
  | .error _ => []

def entryReferences (schema : Schema) (j : Join) : OnEntry → List Reference
  | .column name => j.inferredReferences schema (some name)
  | .pair left right => [j.originReference left, j.joinedReference right]
  | .raw _ => []

def onReferences (schema : Schema) (j : Join) : List Reference :=
  if j.on.isEmpty then
    if j.kind = .cross then [] else j.inferredReferences schema none
  else j.on.flatMap (j.entryReferences schema)

def filterReferences (schema : Schema) (validate : Bool) (j : Join) : List Reference :=
  match j.filter with
  | none => []
  | some input => Condition.inputReferences schema (j.filterScope validate) input

/-- The references of a join clause in the order in which they are written. -/
def references (schema : Schema) (validate : Bool) (j : Join) : List Reference :=
  j.onReferences schema ++ j.filterReferences schema validate

variable {schema : Schema} {validate : Bool} {j : Join}

/-- A column that a join names is looked up as it is given. -/
theorem named_found {table name : String} {qualifier : Option String} {declared : Table}
    {column : Column} (ht : schema.getTable table = .ok declared)
    (hc : declared.getColumn name = .ok column) :
    Reference.Found schema ⟨some table, name, ⟨qualifier, name⟩, true⟩ :=
  Reference.found_of_checked rfl Bool.noConfusion
    (Or.inr ⟨table, declared, column, rfl, Subject.get_table_ok ht, Subject.get_column_ok hc⟩)

theorem inferred_named {column : Option String} {link : Link}
    (h : (inferLink schema j column).result = .ok link) :
    Named schema (j.inferredReferences schema column) link.columnNames := by
  rw [inferredReferences, h]
  exact Named.unchecked _

theorem pair_named {left right : String} {link : Link}
    (h : pairLink schema j left right = .ok link) :
    Named schema [j.originReference left, j.joinedReference right] link.columnNames := by
  obtain ⟨origin, ho, h⟩ := bind_ok.mp h
  obtain ⟨joined, hj, h⟩ := bind_ok.mp h
  obtain ⟨first, hfirst, h⟩ := bind_ok.mp h
  obtain ⟨second, hsecond, h⟩ := bind_ok.mp h
  cases h
  refine ⟨rfl, ?_⟩
  intro r hr
  rcases List.mem_pair.mp hr with rfl | rfl
  · exact named_found ho hfirst
  · exact named_found hj hsecond

theorem entry_named {entry : OnEntry} {link : Link}
    (h : (entryLink schema j entry).result = .ok link) :
    Named schema (j.entryReferences schema entry) link.columnNames := by
  cases entry with
  | column name => exact inferred_named h
  | pair left right => exact pair_named h
  | raw sql =>
    cases h
    exact Named.nil

theorem entries_named {entries : List OnEntry} {links : List Link}
    (h : (entryLinks schema j entries).result = .ok links) :
    Named schema (entries.flatMap (j.entryReferences schema))
      (links.flatMap Link.columnNames) := by
  induction entries generalizing links with
  | nil =>
    cases h
    exact Named.nil
  | cons entry rest ih =>
    simp only [entryLinks, Traced.result_bind] at h
    obtain ⟨link, hl, h⟩ := bind_ok.mp h
    obtain ⟨others, ho, h⟩ := bind_ok.mp h
    cases h
    rw [List.flatMap_cons, List.flatMap_cons]
    exact (entry_named hl).append (ih ho)

theorem on_named {links : List Link} (h : (onLinks schema j).result = .ok links) :
    Named schema (j.onReferences schema) (links.flatMap Link.columnNames) := by
  unfold onLinks at h
  unfold onReferences
  split at h
  · rename_i hempty
    rw [if_pos hempty]
    split at h
    · rename_i hcross
      cases h
      rw [if_pos hcross]
      exact Named.nil
    · rename_i hcross
      rw [Traced.result_bind] at h
      obtain ⟨link, hl, h⟩ := bind_ok.mp h
      cases h
      rw [if_neg hcross, List.flatMap_singleton]
      exact inferred_named hl
  · rename_i hsome
    rw [if_neg hsome]
    exact entries_named h

theorem filter_named {links : List Link} (h : (filterLinks schema validate j).result = .ok links) :
    Named schema (j.filterReferences schema validate) (links.flatMap Link.columnNames) := by
  unfold filterReferences
  cases hf : j.filter with
  | none =>
    rw [filterLinks, hf] at h
    cases h
    exact Named.nil
  | some input =>
    simp only [filterLinks, hf, Traced.result_bind] at h
    obtain ⟨clauses, hc, h⟩ := bind_ok.mp h
    have hn := Condition.input_named hc
    rw [← pure_ok.mp h]
    dsimp only
    split
    · rename_i he
      rwa [List.isEmpty_iff.mp he] at hn
    · rwa [List.flatMap_singleton]

theorem clause_named {clause : JoinClause} (h : (j.clause schema validate).result = .ok clause) :
    Named schema (j.references schema validate) clause.columnNames := by
  simp only [Join.clause, Traced.result_bind] at h
  obtain ⟨links, hl, h⟩ := bind_ok.mp h
  obtain ⟨filters, hf, h⟩ := bind_ok.mp h
  cases h
  rw [JoinClause.columnNames, List.flatMap_append]
  exact (on_named hl).append (filter_named hf)

end Join

/-! ### Selections -/

namespace Selection

/-- The references of a query with these joins in the order in which they are written. -/
def references (schema : Schema) (validate : Bool) (query : SelectQuery) (joins : List Join) :
    List Reference :=
  query.fields.map (queryScope query validate []).resolve ++
    joins.flatMap (fun join => join.fields.map fun field => join.joinedReference field.source) ++
    joins.flatMap (Join.references schema validate) ++
    Condition.inputReferences schema (queryScope query validate joins) query.filter ++
    query.groupBy.map (queryScope query validate joins).resolve ++
    query.orderBy.map fun entry => (queryScope query validate joins).resolve entry.column

variable {schema : Schema} {validate : Bool} {scope : Scope}

theorem checked_columns_named {names : List String} {columns : List ColumnName}
    (h : checkedColumns schema scope names = .ok columns) :
    Named schema (names.map scope.resolve) columns := by
  obtain ⟨rfl, hc⟩ := checked_columns_ok h
  exact Named.resolved hc

theorem ordered_columns_named {entries : List OrderEntry} {columns : List (ColumnName × SortOrder)}
    (h : orderedColumns schema scope entries = .ok columns) :
    Named schema (entries.map fun entry => scope.resolve entry.column) (columns.map (·.1)) := by
  obtain ⟨rfl, hc⟩ := ordered_columns_ok h
  rw [List.map_map]
  exact Named.resolved hc

theorem own_shown_named {name : String} {fields : List String} {shown : List Shown}
    (h : ownShown schema scope name fields = .ok shown) :
    Named schema (fields.map scope.resolve) (shown.flatMap Shown.columnNames) := by
  unfold ownShown at h
  split at h
  · rename_i he
    cases h
    rw [List.isEmpty_iff.mp he]
    exact Named.nil
  · obtain ⟨columns, hc, rfl⟩ := map_ok.mp h
    have hn := checked_columns_named hc
    rwa [List.flatMap_map, show columns.flatMap (fun c => (Shown.column c).columnNames) = columns
      from List.flatMap_singleton' columns]

theorem fields_shown_named {declared : Table} {join : Join} {fields : List ProjectedField}
    {shown : List Shown} (ht : schema.getTable join.table = .ok declared)
    (h : fieldsShown declared join fields = .ok shown) :
    Named schema (fields.map fun field => join.joinedReference field.source)
      (shown.flatMap Shown.columnNames) := by
  induction fields generalizing shown with
  | nil =>
    cases h
    exact Named.nil
  | cons field rest ih =>
    obtain ⟨column, hc, h⟩ := bind_ok.mp h
    obtain ⟨others, ho, h⟩ := bind_ok.mp h
    have hfirst : Named schema [join.joinedReference field.source]
        [join.joinedColumn field.source] := by
      refine ⟨rfl, ?_⟩
      intro r hr
      rw [List.mem_singleton.mp hr]
      exact Join.named_found ht hc
    cases h
    rw [List.flatMap_cons]
    -- the name is the same whether or not a label follows it
    split <;> exact hfirst.append (ih ho)

theorem joins_shown_named {joins : List Join} {shown : List Shown}
    (h : joinsShown schema joins = .ok shown) :
    Named schema
      (joins.flatMap fun join => join.fields.map fun field => join.joinedReference field.source)
      (shown.flatMap Shown.columnNames) := by
  induction joins generalizing shown with
  | nil =>
    cases h
    exact Named.nil
  | cons join rest ih =>
    obtain ⟨declared, hd, h⟩ := bind_ok.mp h
    obtain ⟨own, hf, h⟩ := bind_ok.mp h
    obtain ⟨others, ho, h⟩ := bind_ok.mp h
    cases h
    rw [List.flatMap_cons, List.flatMap_append]
    exact (fields_shown_named hd hf).append (ih ho)

theorem join_clauses_named {joins : List Join} {clauses : List JoinClause}
    (h : (joinClauses schema validate joins).result = .ok clauses) :
    Named schema (joins.flatMap (Join.references schema validate))
      (clauses.flatMap JoinClause.columnNames) := by
  induction joins generalizing clauses with
  | nil =>
    cases h
    exact Named.nil
  | cons join rest ih =>
    simp only [joinClauses, Traced.result_bind] at h
    obtain ⟨clause, hc, h⟩ := bind_ok.mp h
    obtain ⟨others, ho, h⟩ := bind_ok.mp h
    cases h
    rw [List.flatMap_cons, List.flatMap_cons]
    exact (Join.clause_named hc).append (ih ho)

/-- A selection with the joins that the query is read with and with what each of its parts was made
from. Only the columns of the query itself are made without the joins. -/
structure Parts (schema : Schema) (validate : Bool) (query : SelectQuery) (joins : List Join)
    (selection : Selection) : Prop where
  read : (Join.read query.table query.alias? query.joins).result = .ok joins
  shown : ∃ own others, selection.shown = own ++ others ∧ joinsShown schema joins = .ok others ∧
    ownShown schema (queryScope query validate []) query.table query.fields = .ok own
  joined : (joinClauses schema validate joins).result = .ok selection.joins
  filter : (Condition.compileInput schema (queryScope query validate joins) query.filter).result =
    .ok selection.filter
  groupBy : checkedColumns schema (queryScope query validate joins) query.groupBy =
    .ok selection.groupBy
  orderBy : orderedColumns schema (queryScope query validate joins) query.orderBy =
    .ok selection.orderBy

theorem query_parts {query : SelectQuery} {selection : Selection}
    (h : (ofQuery schema validate query).result = .ok selection) :
    ∃ joins, Parts schema validate query joins selection := by
  simp only [ofQuery, Traced.result_bind] at h
  obtain ⟨_, _, h⟩ := bind_ok.mp h
  obtain ⟨joins, hj, h⟩ := bind_ok.mp h
  obtain ⟨own, hown, h⟩ := bind_ok.mp h
  obtain ⟨others, hothers, h⟩ := bind_ok.mp h
  obtain ⟨clauses, hclauses, h⟩ := bind_ok.mp h
  obtain ⟨filter, hfilter, h⟩ := bind_ok.mp h
  obtain ⟨groupBy, hgroup, h⟩ := bind_ok.mp h
  obtain ⟨orderBy, horder, h⟩ := bind_ok.mp h
  cases h
  exact ⟨joins, hj, ⟨own, others, rfl, hothers, hown⟩, hclauses, hfilter, hgroup, horder⟩

theorem parts_named {query : SelectQuery} {joins : List Join} {selection : Selection}
    (h : Parts schema validate query joins selection) :
    Named schema (references schema validate query joins) selection.columnNames := by
  obtain ⟨own, others, hs, hothers, hown⟩ := h.shown
  have hshown := (own_shown_named hown).append (joins_shown_named hothers)
  rw [← List.flatMap_append, ← hs] at hshown
  have hjoined := hshown.append (join_clauses_named h.joined)
  have hfiltered := hjoined.append (Condition.input_named h.filter)
  exact (hfiltered.append (checked_columns_named h.groupBy)).append
    (ordered_columns_named h.orderBy)

end Selection

/-! ### The names that were found -/

/-- The names are those of the references, which were all found, and the text writes them. -/
structure Renders (schema : Schema) (references : List Reference) (names : List ColumnName)
    (text : String) : Prop extends Named schema references names where
  writes : Writes text names

namespace Selection

/-- Conditions, joins and selections write the columns that they refer to, in their order. A column
with a table was found there, and it is written by its declared name exactly if that is kept as it
is. -/
theorem written_as_declared (style : Quoting) (schema : Schema) (validate : Bool) :
    (∀ scope conditions clauses,
      (Condition.compile schema scope conditions).result = .ok clauses →
        Renders schema (Condition.referencesAll scope conditions) (Clause.columnNamesAll clauses)
          (Clause.joined style scope.glue clauses)) ∧
    (∀ (join : Join) clause, (join.clause schema validate).result = .ok clause →
      Renders schema (join.references schema validate) clause.columnNames (clause.sql style)) ∧
    ∀ query selection, (ofQuery schema validate query).result = .ok selection →
      ∃ joins, (Join.read query.table query.alias? query.joins).result = .ok joins ∧
        Renders schema (references schema validate query joins) selection.columnNames
          (selection.sql style) := by
  refine ⟨?_, ?_, ?_⟩
  · intro scope conditions clauses h
    exact ⟨Condition.compile_named h, Clause.joined_writes style _ _⟩
  · intro join clause h
    exact ⟨Join.clause_named h, JoinClause.writes style _⟩
  · intro query selection h
    obtain ⟨joins, hp⟩ := query_parts h
    exact ⟨joins, hp.read, parts_named hp, writes style _⟩

/-- A join by a pair of columns with a filter of its own. -/
def namedAuthors : Join :=
  { table := "users"
    origin := "posts"
    aliasOfOrigin := some "p"
    on := [.pair "author" "id", .raw "1 = 1"]
    filter := some (.object [("name", .string "Ada")]) }

/-- A search in two tables and a test of which nothing is left. -/
def titleTest : List Condition :=
  [.predicate ⟨.many ["title", "users.nick"], "MATCH", .text "war"⟩,
    .predicate ⟨.one "id", "NOT IN", .list []⟩]

theorem written_as_declared_authored :
    (∃ clauses,
      (Condition.compile Sample.schema (Scope.filter "posts") titleTest).result = .ok clauses ∧
      Renders Sample.schema (Condition.referencesAll (Scope.filter "posts") titleTest)
        (Clause.columnNamesAll clauses) (Clause.joined .mysql .and clauses)) ∧
    (∃ clause, (namedAuthors.clause Sample.schema true).result = .ok clause ∧
      Renders Sample.schema (namedAuthors.references Sample.schema true) clause.columnNames
        (clause.sql .mysql)) ∧
    ∃ selection, (ofQuery Sample.schema true authoredTitles).result = .ok selection ∧
      ∃ joins, (Join.read "posts" (some "p") authoredTitles.joins).result = .ok joins ∧
        Renders Sample.schema (references Sample.schema true authoredTitles joins)
          selection.columnNames (selection.sql .mysql) := by
  obtain ⟨hcompile, hclause, hquery⟩ := written_as_declared .mysql Sample.schema true
  have htest : ∃ clauses, (Condition.compile Sample.schema (Scope.filter "posts")
    titleTest).result = .ok clauses := ⟨_, rfl⟩
  have hjoin : ∃ clause, (namedAuthors.clause Sample.schema true).result = .ok clause := ⟨_, rfl⟩
  have htitles : ∃ selection, (ofQuery Sample.schema true authoredTitles).result = .ok selection :=
    ⟨_, rfl⟩
  obtain ⟨clauses, htest⟩ := htest
  obtain ⟨clause, hjoin⟩ := hjoin
  obtain ⟨selection, htitles⟩ := htitles
  exact ⟨⟨clauses, htest, hcompile _ _ _ htest⟩, ⟨clause, hjoin, hclause _ _ hjoin⟩,
    ⟨selection, htitles, hquery _ _ htitles⟩⟩

/-- Posts and their authors, who have a column whose name is not kept as it is. -/
def mailing : Schema :=
  ⟨[
    { name := "users"
      columns := [{ name := "id", type := .int }, { name := "e$mail", type := .varchar }] },
    Sample.posts]⟩

def addresses : SelectQuery :=
  { table := "posts"
    joins := .object [("users", .object [("fields", .array [.string "e$mail"])])] }

theorem dollar_left_out :
    (∃ column, (mailing.table? "users").bind (·.column? "e$mail") = some column) ∧
    (mailing.table? "users").bind (·.column? "email") = none ∧
    ∃ selection, (ofQuery mailing true addresses).result = .ok selection ∧
      selection.sql .mysql = "SELECT `posts`.*, `users`.`email` FROM `posts` " ++
        "INNER JOIN `users` ON `posts`.`author` = `users`.`id`" :=
  ⟨⟨_, rfl⟩, rfl, _, rfl, rfl⟩

end Selection

end SqlBuilder

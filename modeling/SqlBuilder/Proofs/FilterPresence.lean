import SqlBuilder.Proofs.Outline
import SqlBuilder.Proofs.Sample
import SqlBuilder.Statement.Build

/-!
When a statement on a whole table is written: a deletion or an update has no filter exactly if
nothing in the filter that was asked for excludes a row.
-/

namespace SqlBuilder

/-! ### No clause is an empty text -/

theorem join_with_empty {separator : String} {texts : List String} (each : ∀ t ∈ texts, t ≠ "") :
    Text.joinWith separator texts = "" ↔ texts = [] := by
  cases texts with
  | nil => simp [Text.joinWith]
  | cons text rest =>
    have ht := each text (by simp)
    cases rest with
    | nil => simpa [Text.joinWith] using ht
    | cons next rest => simp [Text.joinWith, ht]

namespace Clause

theorem sql_ne_empty (style : Quoting) (clause : Clause) : clause.sql style ≠ "" := by
  cases clause <;> simp [sql]

theorem mem_sql_all {style : Quoting} {clauses : List Clause} {text : String}
    (h : text ∈ sqlAll style clauses) : text ≠ "" := by
  induction clauses with
  | nil => simp [sqlAll] at h
  | cons clause rest ih =>
    rcases List.mem_cons.mp h with rfl | h
    · exact sql_ne_empty style clause
    · exact ih h

theorem joined_eq_empty {style : Quoting} {glue : Glue} {clauses : List Clause} :
    joined style glue clauses = "" ↔ clauses = [] := by
  rw [joined, join_with_empty (fun _ => mem_sql_all)]
  cases clauses <;> simp [sqlAll]

end Clause

/-! ### Conditions that exclude nothing -/

namespace Condition

/-- A test for not being in an empty list, or a group of nothing else. -/
inductive Vacuous : Condition → Prop where
  | predicate (p : Predicate) (operator : p.writtenOperator = "NOT IN")
      (nothing : p.value = .list []) : Vacuous (.predicate p)
  | group (glue : Glue) (children : List Condition) (each : ∀ c ∈ children, Vacuous c) :
      Vacuous (.group glue children)

variable {scope : Scope}

theorem predicate_empty_iff {p : Predicate} {out : List Clause}
    (h : Predicate.Outlined scope p out) : out = [] ↔ Vacuous (.predicate p) := by
  constructor
  · intro he
    cases h with
    | vacuous operator nothing =>
      have hw := (Predicate.effective_of_list nothing scope.filtering).symm.trans operator
      exact .predicate p hw nothing
    | _ => cases he
  · intro hv
    cases hv with
    | predicate _ written nothing =>
      have ho := (Predicate.effective_of_list nothing scope.filtering).trans written
      cases h with
      | vacuous operator nothing => rfl
      | search operator named literal => simp [ho] at operator
      | between on operator bounds lowest highest => simp [ho] at operator
      | never operator nothing => simp [ho] at operator
      | member on effective listing members some_item each =>
        rw [nothing] at members
        cases members
        exact absurd rfl some_item
      | compare on effective ordinary literal => simp [← effective, ho] at ordinary

theorem grouped_eq_nil {glue : Glue} {clauses : List Clause} :
    Clause.grouped glue clauses = [] ↔ clauses = [] := by
  unfold Clause.grouped
  split <;> simp_all

theorem outline_all_empty_iff {conditions : List Condition} {out : List Clause}
    (each : ∀ c ∈ conditions, ∀ first, c.outline scope = some first → (first = [] ↔ c.Vacuous))
    (h : outlineAll scope conditions = some out) : out = [] ↔ ∀ c ∈ conditions, c.Vacuous := by
  induction conditions generalizing out with
  | nil =>
    cases h
    simp
  | cons condition rest ih =>
    obtain ⟨first, others, hf, ho, rfl⟩ := outline_all_cons.mp h
    have hfirst := each condition (List.mem_cons_self ..) first hf
    have hrest := ih (fun c hc => each c (List.mem_cons_of_mem _ hc)) ho
    rw [List.append_eq_nil_iff, hfirst, hrest, List.forall_mem_cons]

/-- Nothing is written for a condition exactly if it is vacuous. -/
theorem outline_empty_iff (c : Condition) (out : List Clause)
    (h : c.outline scope = some out) : out = [] ↔ c.Vacuous := by
  induction c using Condition.induct generalizing out with
  | predicate p => exact predicate_empty_iff (Predicate.outlined h)
  | raw sql =>
    cases h
    constructor
    · intro he
      cases he
    · intro hv
      cases hv
  | group glue children ih =>
    obtain ⟨inner, hi, rfl⟩ := outline_group.mp h
    rw [grouped_eq_nil, outline_all_empty_iff ih hi]
    constructor
    · exact .group glue children
    · intro hv
      cases hv with
      | group _ _ each => exact each

theorem compile_empty_iff {schema : Schema} {conditions : List Condition} {out : List Clause}
    (h : (compile schema scope conditions).result = .ok out) :
    out = [] ↔ ∀ c ∈ conditions, c.Vacuous :=
  outline_all_empty_iff (fun c _ => outline_empty_iff c) (compile_outline h)

/-- An input compiles by being read and then compiled. -/
theorem compile_input_ok {schema : Schema} {input : Json} {out : List Clause}
    (h : (compileInput schema scope input).result = .ok out) :
    ∃ table conditions, scope.getTable schema = .ok table ∧ read table input = .ok conditions ∧
      (compile schema scope conditions).result = .ok out := by
  simp only [compileInput, Traced.result_bind] at h
  obtain ⟨table, ht, h⟩ := bind_ok.mp h
  obtain ⟨conditions, hc, h⟩ := bind_ok.mp h
  refine ⟨table, conditions, ht, hc, ?_⟩
  simp only [compile, Traced.result_bind]
  exact bind_ok.mpr ⟨table, ht, h⟩

end Condition

/-! ### Statements -/

namespace Statement

/-- The conditions that the filter of a statement on the table is read as. -/
def filterConditions (schema : Schema) (table : String) (filter : Json) :
    Except Error (List Condition) := do
  let table ← schema.getTable table
  Condition.read (some table) filter

/-- The text is the head alone exactly if the filter excludes nothing, and otherwise the head with
the text of the filter, in which there is something. -/
def ShowsFilter (style : Quoting) (schema : Schema) (validate : Bool) (table : String)
    (filter : Json) (head sql : String) : Prop :=
  ∃ conditions text, filterConditions schema table filter = .ok conditions ∧
    Condition.compiledSql style schema (filterScope table validate) conditions = .ok text ∧
    (sql = head ↔ ∀ c ∈ conditions, c.Vacuous) ∧
    (¬(∀ c ∈ conditions, c.Vacuous) → text ≠ "" ∧ sql = head ++ " WHERE " ++ text)

theorem shows_filter {style : Quoting} {schema : Schema} {validate : Bool} {table : String}
    {filter : Json} {clauses : List Clause} (head : String)
    (h : (Condition.compileInput schema (filterScope table validate) filter).result =
      .ok clauses) :
    ShowsFilter style schema validate table filter head (head ++ whereSql style clauses) := by
  obtain ⟨found, conditions, hf, hr, hc⟩ := Condition.compile_input_ok h
  obtain ⟨t, ht, rfl⟩ := map_ok.mp hf
  have hv := Condition.compile_empty_iff hc
  have hn : Clause.joined style .and clauses = "" ↔ clauses = [] := Clause.joined_eq_empty
  refine ⟨conditions, Clause.joined style .and clauses, bind_ok.mpr ⟨t, ht, hr⟩,
    map_ok.mpr ⟨clauses, hc, rfl⟩, ?_, ?_⟩
  · rw [← hv, String.append_eq_left_iff]
    unfold whereSql
    split <;> simp_all
  · rw [← hv]
    intro he
    refine ⟨fun ht => he (hn.mp ht), ?_⟩
    rw [whereSql, if_neg (by simpa using he), String.append_assoc]

/-- A deletion or an update that succeeds names the whole table only if it was asked to. -/
theorem where_unless_vacuous (style : Quoting) (schema : Schema) (validate : Bool)
    (table : String) (filter : Json) :
    (∀ statement, (ofDelete schema validate table filter).result = .ok statement →
      ShowsFilter style schema validate table filter ("DELETE FROM " ++ Identifier.quote table)
        (statement.sql style)) ∧
    (∀ data statement, data.isEmptyInput = false →
      (ofUpdate schema validate table filter data).result = .ok (some statement) →
      ∃ assignments, (Condition.compileInput schema (assignmentScope table validate) data).result =
          .ok assignments ∧
        ShowsFilter style schema validate table filter
          ("UPDATE " ++ Identifier.quote table ++ " SET " ++
            Clause.joined style .comma assignments)
          (statement.sql style)) := by
  constructor
  · intro statement h
    simp only [ofDelete, Traced.result_bind, Traced.result_pure] at h
    obtain ⟨clauses, hc, h⟩ := bind_ok.mp h
    rw [← pure_ok.mp h]
    exact shows_filter _ hc
  · intro data statement hd h
    simp only [ofUpdate, hd, Bool.false_eq_true, if_false, Traced.result_bind,
      Traced.result_pure] at h
    obtain ⟨clauses, hc, h⟩ := bind_ok.mp h
    obtain ⟨assignments, ha, h⟩ := bind_ok.mp h
    have hs := Option.some.inj (pure_ok.mp h)
    rw [← hs]
    exact ⟨assignments, ha, shows_filter _ hc⟩

/-- Of a filter with two tests the vacuous one goes; alone it leaves nothing. -/
theorem where_unless_vacuous_users :
    ((ofDelete Sample.schema true "users"
        (.object [("id", .array [.string "not in", .array []])])).result =
          .ok (.delete "users" []) ∧
      ShowsFilter .mysql Sample.schema true "users"
        (.object [("id", .array [.string "not in", .array []])])
        ("DELETE FROM " ++ Identifier.quote "users")
        ((Statement.delete "users" []).sql .mysql)) ∧
    ∃ clause assignments,
      (ofUpdate Sample.schema true "users"
        (.object [("id", .integer 5), ("name", .array [.string "NOT IN", .array []])])
        (.object [("nick", .string "x")])).result =
          .ok (some (.update "users" assignments [clause])) ∧
      ShowsFilter .mysql Sample.schema true "users"
        (.object [("id", .integer 5), ("name", .array [.string "NOT IN", .array []])])
        ("UPDATE " ++ Identifier.quote "users" ++ " SET " ++
          Clause.joined .mysql .comma assignments)
        ((Statement.update "users" assignments [clause]).sql .mysql) := by
  have hd : (ofDelete Sample.schema true "users"
      (.object [("id", .array [.string "not in", .array []])])).result =
        .ok (.delete "users" []) := by rfl
  have hu : (ofUpdate Sample.schema true "users"
      (.object [("id", .integer 5), ("name", .array [.string "NOT IN", .array []])])
      (.object [("nick", .string "x")])).result =
        .ok (some (.update "users"
          [.compare ⟨some "users", "nick"⟩ "=" (.text "x")]
          [.compare ⟨some "users", "id"⟩ "=" (.text "5")])) := by rfl
  refine ⟨⟨hd, (where_unless_vacuous _ _ _ _ _).1 _ hd⟩, _, _, hu, ?_⟩
  obtain ⟨assignments, ha, hs⟩ := (where_unless_vacuous .mysql _ _ _ _).2 _ _ rfl hu
  have he : (Condition.compileInput Sample.schema (assignmentScope "users" true)
      (.object [("nick", .string "x")])).result =
        .ok [.compare ⟨some "users", "nick"⟩ "=" (.text "x")] := by rfl
  rw [Except.ok.inj (ha.symm.trans he)] at hs
  exact hs

end Statement

end SqlBuilder

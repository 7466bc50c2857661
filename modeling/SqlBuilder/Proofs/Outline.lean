import SqlBuilder.Clause.Build

/-!
The outline of conditions: the clauses that they become whenever they compile at all. It needs no
schema, which decides only whether there is a result.
-/

namespace SqlBuilder

/-! ### Results of steps -/

theorem bind_ok {ε α β : Type} {x : Except ε α} {f : α → Except ε β} {b : β} :
    (x >>= f) = .ok b ↔ ∃ a, x = .ok a ∧ f a = .ok b := by
  cases x with
  | error e =>
    constructor
    · intro h
      cases h
    · rintro ⟨a, ha, _⟩
      cases ha
  | ok a =>
    constructor
    · intro h
      exact ⟨a, rfl, h⟩
    · rintro ⟨a', ha, h⟩
      cases ha
      exact h

theorem map_ok {α β : Type} {x : Except Error α} {f : α → β} {b : β} :
    x.map f = .ok b ↔ ∃ a, x = .ok a ∧ f a = b := by
  cases x with
  | error e => simp [Except.map]
  | ok a => simp [Except.map]

theorem pure_ok {α : Type} {a b : α} : (pure a : Except Error α) = .ok b ↔ a = b := by
  simp [pure, Except.pure]

theorem ok_bind {α β : Type} (a : α) (f : α → Except Error β) : (Except.ok a >>= f) = f a := rfl

/-- A step that makes no notes has the result that it has by itself. -/
theorem Traced.result_lifted {α : Type} (x : Except Error α) : (liftM x : Traced α).result = x :=
  rfl

/-- What each step of a walk over a list asks of its item holds of all items, if the walk ends. -/
theorem forall_of_walk {α β : Type} {P : α → Prop} {f : List α → Except Error β}
    (step : ∀ first rest out, f (first :: rest) = .ok out →
      P first ∧ ∃ others, f rest = .ok others)
    {items : List α} {out : β} (h : f items = .ok out) : ∀ a ∈ items, P a := by
  induction items generalizing out with
  | nil => simp
  | cons first rest ih =>
    obtain ⟨hf, others, ho⟩ := step first rest out h
    exact List.forall_mem_cons.mpr ⟨hf, ih ho⟩

/-- Induction over a tree of conditions: a group may use the statement for all its members. -/
theorem Condition.induct {motive : Condition → Prop}
    (predicate : ∀ p, motive (.predicate p)) (raw : ∀ sql, motive (.raw sql))
    (group : ∀ glue children, (∀ c ∈ children, motive c) → motive (.group glue children)) :
    ∀ c, motive c
  | .predicate p => predicate p
  | .raw sql => raw sql
  | .group glue children =>
    group glue children fun c _ => Condition.induct predicate raw group c

/-- Every predicate in the tree is like that. -/
inductive Condition.Each (holds : Predicate → Prop) : Condition → Prop where
  | predicate {p : Predicate} (h : holds p) : Each holds (.predicate p)
  | raw (sql : String) : Each holds (.raw sql)
  | group {glue : Glue} {children : List Condition} (each : ∀ c ∈ children, Each holds c) :
      Each holds (.group glue children)

theorem Condition.each_predicate {holds : Predicate → Prop} {p : Predicate} :
    (Condition.predicate p).Each holds ↔ holds p :=
  ⟨fun | .predicate h => h, .predicate⟩

theorem Condition.each_group {holds : Predicate → Prop} {glue : Glue} {children : List Condition} :
    (Condition.group glue children).Each holds ↔ ∀ c ∈ children, c.Each holds :=
  ⟨fun | .group each => each, .group⟩

/-! ### The outline -/

/-- The literal for a value, whatever column it is compared with. -/
def Value.literal? : Value → Option Literal
  | null => some .null
  | date d => some (.text d.text)
  | time t => some (.text t.text)
  | dateTime d t => some (.text (d.text ++ " " ++ t.text))
  | list [x, y] => do return .point (← x.number?) (← y.number?)
  | value => value.scalarText?.map .text

namespace Predicate

/-- The operator without the characters that are not kept, in upper case. -/
def writtenOperator (p : Predicate) : String :=
  Text.upper (Identifier.sanitize (Text.trim p.operator))

/-- The operator that the text shows: in a filter, null is compared by `IS` and `IS NOT`. -/
def effectiveOperator (p : Predicate) (filtering : Bool) : String :=
  if p.value.isNull && filtering then
    if p.writtenOperator = "=" then "IS"
    else if p.writtenOperator = "!=" then "IS NOT"
    else p.writtenOperator
  else p.writtenOperator

/-- The clause of a test of one column, and nothing for a test that every row passes. -/
def outlineOn (column : ColumnName) (operator : String) (value : Value) : Option (List Clause) :=
  if operator = "BETWEEN" then
    match value with
    | .list [low, high] => do return [.between column (← low.literal?) (← high.literal?)]
    | _ => none
  else if operator = "IN" ∨ operator = "NOT IN" then
    match value with
    | .list [] => some (if operator = "IN" then [.never] else [])
    | .list items => do return [.member column operator (← items.mapM Value.literal?)]
    | _ => none
  else do return [.compare column operator (← value.literal?)]

def outline (scope : Scope) (p : Predicate) : Option (List Clause) :=
  let operator := p.effectiveOperator scope.filtering
  if operator = "MATCH" then
    if p.column.names.isEmpty then none
    else do
      let columns := p.column.names.map fun name => (scope.resolve name).name
      return [.search columns (← p.value.literal?)]
  else match p.column with
    | .one column => outlineOn (scope.resolve column).name operator p.value
    | .many _ => none

end Predicate

/-- A group of clauses, or nothing if there are none. -/
def Clause.grouped (glue : Glue) (clauses : List Clause) : List Clause :=
  if clauses.isEmpty then [] else [.group glue clauses]

namespace Condition

mutual

def outline (scope : Scope) : Condition → Option (List Clause)
  | predicate p => p.outline scope
  | raw sql => some [.verbatim sql]
  | group glue children => do return Clause.grouped glue (← outlineAll scope children)

def outlineAll (scope : Scope) : List Condition → Option (List Clause)
  | [] => some []
  | condition :: rest => do return (← outline scope condition) ++ (← outlineAll scope rest)

end

/-- The text of conditions on the table of the scope. -/
def compiledSql (style : Quoting) (schema : Schema) (scope : Scope) (conditions : List Condition) :
    Except Error String :=
  (compile schema scope conditions).result.map (Clause.joined style scope.glue)

end Condition

/-! ### The shapes of an outline -/

namespace Predicate

/-- Everything that a predicate can become, with what it has to be for that. -/
inductive Outlined (scope : Scope) (p : Predicate) : List Clause → Prop where
  | search {value : Literal} (operator : p.effectiveOperator scope.filtering = "MATCH")
      (named : p.column.names ≠ []) (literal : p.value.literal? = some value) :
      Outlined scope p [.search (p.column.names.map fun name => (scope.resolve name).name) value]
  | between {column : String} {low high : Value} {first second : Literal}
      (on : p.column = .one column) (operator : p.effectiveOperator scope.filtering = "BETWEEN")
      (bounds : p.value = .list [low, high]) (lowest : low.literal? = some first)
      (highest : high.literal? = some second) :
      Outlined scope p [.between (scope.resolve column).name first second]
  | never (operator : p.effectiveOperator scope.filtering = "IN") (nothing : p.value = .list []) :
      Outlined scope p [.never]
  | vacuous (operator : p.effectiveOperator scope.filtering = "NOT IN")
      (nothing : p.value = .list []) : Outlined scope p []
  | member {column operator : String} {items : List Value} {literals : List Literal}
      (on : p.column = .one column) (effective : p.effectiveOperator scope.filtering = operator)
      (listing : operator = "IN" ∨ operator = "NOT IN") (members : p.value = .list items)
      (some_item : items ≠ []) (each : items.mapM Value.literal? = some literals) :
      Outlined scope p [.member (scope.resolve column).name operator literals]
  | compare {column operator : String} {value : Literal}
      (on : p.column = .one column) (effective : p.effectiveOperator scope.filtering = operator)
      (ordinary : operator ∉ ["MATCH", "BETWEEN", "IN", "NOT IN"])
      (literal : p.value.literal? = some value) :
      Outlined scope p [.compare (scope.resolve column).name operator value]

theorem outlined_on {scope : Scope} {p : Predicate} {column operator : String}
    {out : List Clause} (on : p.column = .one column)
    (effective : p.effectiveOperator scope.filtering = operator) (hm : operator ≠ "MATCH")
    (h : outlineOn (scope.resolve column).name operator p.value = some out) :
    Outlined scope p out := by
  unfold outlineOn at h
  split at h
  · rename_i hb
    split at h
    · rename_i low high hv
      obtain ⟨first, hf, h⟩ := Option.bind_eq_some_iff.mp h
      obtain ⟨second, hs, h⟩ := Option.bind_eq_some_iff.mp h
      cases h
      exact .between on (effective.trans hb) hv hf hs
    · cases h
  · rename_i hb
    split at h
    · rename_i ho
      split at h
      · rename_i hv
        rcases ho with ho | ho
        · rw [if_pos ho] at h
          cases h
          exact .never (effective.trans ho) hv
        · rw [if_neg (by simp [ho])] at h
          cases h
          exact .vacuous (effective.trans ho) hv
      · rename_i items hi hv
        obtain ⟨literals, hl, h⟩ := Option.bind_eq_some_iff.mp h
        cases h
        exact .member on effective ho hv (fun he => hi (he ▸ rfl)) hl
      · cases h
    · rename_i ho
      obtain ⟨value, hv, h⟩ := Option.bind_eq_some_iff.mp h
      cases h
      refine .compare on effective ?_ hv
      simp only [not_or] at ho
      simp [hm, hb, ho.1, ho.2]

theorem outlined {scope : Scope} {p : Predicate} {out : List Clause}
    (h : p.outline scope = some out) : Outlined scope p out := by
  unfold outline at h
  dsimp only at h
  split at h
  · rename_i hm
    split at h
    · cases h
    · rename_i hn
      obtain ⟨value, hv, h⟩ := Option.bind_eq_some_iff.mp h
      cases h
      exact .search hm (by simpa using hn) hv
  · rename_i hm
    split at h
    · rename_i column on
      exact outlined_on on rfl hm h
    · cases h

/-- Only null changes the operator. -/
theorem effective_of_not_null {p : Predicate} (h : p.value.isNull = false) (filtering : Bool) :
    p.effectiveOperator filtering = p.writtenOperator := by
  simp [effectiveOperator, h]

theorem effective_of_list {p : Predicate} {items : List Value} (h : p.value = .list items)
    (filtering : Bool) : p.effectiveOperator filtering = p.writtenOperator :=
  effective_of_not_null (by rw [h]; rfl) filtering

end Predicate

namespace Condition

variable {scope : Scope}

theorem outline_group {glue : Glue} {children : List Condition} {out : List Clause} :
    outline scope (.group glue children) = some out ↔
      ∃ inner, outlineAll scope children = some inner ∧ Clause.grouped glue inner = out := by
  simp [outline, Option.bind_eq_some_iff]

theorem outline_all_cons {condition : Condition} {rest : List Condition} {out : List Clause} :
    outlineAll scope (condition :: rest) = some out ↔
      ∃ first others, outline scope condition = some first ∧
        outlineAll scope rest = some others ∧ first ++ others = out := by
  simp [outlineAll, Option.bind_eq_some_iff]

/-- What holds of the clauses of each condition holds of all the clauses. -/
theorem outline_all_forall {motive : Clause → Prop} {conditions : List Condition}
    {out : List Clause}
    (each : ∀ c ∈ conditions, ∀ first, c.outline scope = some first → ∀ k ∈ first, motive k)
    (h : outlineAll scope conditions = some out) : ∀ k ∈ out, motive k := by
  induction conditions generalizing out with
  | nil =>
    cases h
    simp
  | cons condition rest ih =>
    obtain ⟨first, others, hf, ho, rfl⟩ := outline_all_cons.mp h
    intro k hk
    rcases List.mem_append.mp hk with hk | hk
    · exact each condition (List.mem_cons_self ..) first hf k hk
    · exact ih (fun c hc => each c (List.mem_cons_of_mem _ hc)) ho k hk

/-- A group is left if one of its clauses is. -/
theorem grouped_forall {motive : Clause → Prop} {glue : Glue} {inner : List Clause}
    (group : inner ≠ [] → motive (.group glue inner)) :
    ∀ k ∈ Clause.grouped glue inner, motive k := by
  unfold Clause.grouped
  split
  · simp
  · rename_i hn
    simpa using group (by simpa using hn)

end Condition

/-! ### What compiles has its outline -/

theorem literal_of_calendar {text : String} {type : Option ColumnType} {literal : Literal}
    (h : Literal.ofCalendar text type = .ok literal) : literal = .text text := by
  cases type with
  | none =>
    cases h
    rfl
  | some type =>
    simp only [Literal.ofCalendar] at h
    split at h
    · cases h
      rfl
    · cases h

theorem literal_of_list {items : List Value} {type : Option ColumnType} {literal : Literal}
    (h : Literal.ofList items type = .ok literal) : (Value.list items).literal? = some literal := by
  unfold Literal.ofList at h
  split at h
  · rename_i x y
    split at h
    · rename_i hx hy
      cases h
      simp [Value.literal?, hx, hy]
    · cases h
  · cases h

/-- The type of the column decides whether there is a literal, never which one. -/
theorem literal_of_value {value : Value} {type : Option ColumnType} {literal : Literal}
    (h : Literal.ofValue value type = .ok literal) : value.literal? = some literal := by
  cases value with
  | null | bool _ | integer _ | float _ | text _ =>
    cases h
    rfl
  | date d =>
    rw [literal_of_calendar h]
    rfl
  | time t =>
    rw [literal_of_calendar h]
    rfl
  | dateTime d t =>
    rw [literal_of_calendar h]
    rfl
  | list items => exact literal_of_list h

theorem Subject.find_reference {schema : Schema} {scope : Scope} {column : String} {s : Subject}
    (h : Subject.find schema scope column = .ok s) : s.reference = scope.resolve column := by
  obtain ⟨owner, _, he⟩ := bind_ok.mp h
  rw [← pure_ok.mp he]

theorem Subject.checked_literals {s : Subject} {validate : Bool} {values : List Value}
    {literals : List Literal} (h : s.checkedLiterals validate values = .ok literals) :
    values.mapM Value.literal? = some literals := by
  induction values generalizing literals with
  | nil =>
    cases h
    rfl
  | cons value rest ih =>
    simp only [Subject.checkedLiterals] at h
    obtain ⟨_, _, h⟩ := bind_ok.mp h
    obtain ⟨first, hf, h⟩ := bind_ok.mp h
    obtain ⟨others, ho, h⟩ := bind_ok.mp h
    rw [← pure_ok.mp h]
    simp [List.mapM_cons, literal_of_value hf, ih ho]

/-- The clause of a predicate, if it has one. -/
def Settled.clauses : Settled → List Clause
  | clause c => [c]
  | vacuous _ => []

namespace Predicate

variable {schema : Schema} {scope : Scope}

theorem settled_operator {p : Predicate} {filtering : Bool} {operator : String}
    (h : p.settledOperator filtering = .ok operator) :
    operator = p.effectiveOperator filtering := by
  unfold settledOperator at h
  unfold effectiveOperator writtenOperator
  dsimp only at h
  generalize Text.upper (Identifier.sanitize (Text.trim p.operator)) = written at h ⊢
  split at h
  · rename_i hn
    rw [if_pos hn]
    split at h
    · rename_i he
      rw [if_pos he]
      exact (Except.ok.inj h).symm
    · rename_i he
      rw [if_neg he]
      split at h
      · rename_i hd
        rw [if_pos hd]
        exact (Except.ok.inj h).symm
      · cases h
  · rename_i hn
    rw [if_neg hn]
    exact (Except.ok.inj h).symm

theorem search_columns {names : List String} {columns : List ColumnName}
    (h : searchColumns schema scope names = .ok columns) :
    columns = names.map fun name => (scope.resolve name).name := by
  induction names generalizing columns with
  | nil =>
    cases h
    rfl
  | cons name rest ih =>
    simp only [searchColumns] at h
    obtain ⟨subject, hs, h⟩ := bind_ok.mp h
    obtain ⟨others, ho, h⟩ := bind_ok.mp h
    rw [← pure_ok.mp h, ih ho, Subject.find_reference hs]
    rfl

theorem settle_search {p : Predicate} {settled : Settled}
    (hm : p.effectiveOperator scope.filtering = "MATCH")
    (h : settleSearch schema scope p = .ok settled) :
    p.outline scope = some settled.clauses := by
  unfold settleSearch at h
  split at h
  · cases h
  · rename_i hn
    obtain ⟨columns, hc, h⟩ := bind_ok.mp h
    obtain ⟨value, hv, h⟩ := bind_ok.mp h
    rw [← pure_ok.mp h, search_columns hc]
    simp [outline, hm, hn, literal_of_value hv, Settled.clauses]

theorem settle_between {s : Subject} {validate : Bool} {value : Value} {settled : Settled}
    (h : settleBetween s validate value = .ok settled) :
    outlineOn s.reference.name "BETWEEN" value = some settled.clauses := by
  unfold settleBetween at h
  split at h
  · rename_i low high
    split at h
    · cases h
    · obtain ⟨_, _, h⟩ := bind_ok.mp h
      obtain ⟨_, _, h⟩ := bind_ok.mp h
      obtain ⟨first, hf, h⟩ := bind_ok.mp h
      obtain ⟨second, hs, h⟩ := bind_ok.mp h
      rw [← pure_ok.mp h]
      simp [outlineOn, literal_of_value hf, literal_of_value hs, Settled.clauses]
  · cases h

theorem settle_member {s : Subject} {validate : Bool} {operator : String} {value : Value}
    {settled : Settled} (ho : operator = "IN" ∨ operator = "NOT IN")
    (h : settleMember s validate operator value = .ok settled) :
    outlineOn s.reference.name operator value = some settled.clauses := by
  have hb : operator ≠ "BETWEEN" := by
    rcases ho with ho | ho <;> simp [ho]
  unfold settleMember at h
  split at h
  · rw [← Except.ok.inj h]
    simp only [outlineOn, if_neg hb, if_pos ho]
    split <;> rfl
  · rename_i items hi
    obtain ⟨literals, hl, h⟩ := bind_ok.mp h
    rw [← pure_ok.mp h]
    simp [outlineOn, hb, ho, Subject.checked_literals hl, Settled.clauses]
  · cases h

theorem settle_compare {s : Subject} {validate : Bool} {operator : String} {value : Value}
    {settled : Settled} (hb : operator ≠ "BETWEEN") (ho : ¬(operator = "IN" ∨ operator = "NOT IN"))
    (h : settleCompare s validate operator value = .ok settled) :
    outlineOn s.reference.name operator value = some settled.clauses := by
  unfold settleCompare at h
  obtain ⟨_, _, h⟩ := bind_ok.mp h
  obtain ⟨literal, hl, h⟩ := bind_ok.mp h
  rw [← pure_ok.mp h]
  simp only [outlineOn, if_neg hb, if_neg ho, literal_of_value hl]
  rfl

theorem settle_on {column operator : String} {value : Value} {settled : Settled}
    (h : settleOn schema scope column operator value = .ok settled) :
    outlineOn (scope.resolve column).name operator value = some settled.clauses := by
  unfold settleOn at h
  obtain ⟨subject, hs, h⟩ := bind_ok.mp h
  rw [← Subject.find_reference hs]
  split at h
  · rename_i hb
    rw [hb]
    exact settle_between h
  · rename_i hb
    split at h
    · rename_i ho
      exact settle_member ho h
    · rename_i ho
      exact settle_compare hb ho h

theorem settle_outline {p : Predicate} {settled : Settled}
    (h : p.settle schema scope = .ok settled) : p.outline scope = some settled.clauses := by
  unfold settle at h
  obtain ⟨operator, ho, h⟩ := bind_ok.mp h
  rw [settled_operator ho] at h
  split at h
  · rename_i hm
    exact settle_search hm h
  · rename_i hm
    unfold outline
    dsimp only
    rw [if_neg hm]
    cases hc : p.column with
    | one column =>
      rw [hc] at h
      exact settle_on h
    | many names =>
      rw [hc] at h
      cases h

theorem result_clauses (p : Predicate) :
    (p.clauses schema scope).result = (p.settle schema scope).map Settled.clauses := by
  simp only [clauses, Traced.result_bind]
  change (p.settle schema scope >>= _) = _
  cases p.settle schema scope with
  | error e => rfl
  | ok settled => cases settled <;> rfl

end Predicate

namespace Condition

variable {schema : Schema} {scope : Scope}

theorem result_group (glue : Glue) (children : List Condition) :
    (clauses schema scope (.group glue children)).result =
      (clausesAll schema scope children).result.map (Clause.grouped glue) := by
  simp only [clauses, Traced.result_bind]
  cases (clausesAll schema scope children).result with
  | error e => rfl
  | ok inner =>
    change (groupOf glue inner).result = .ok (Clause.grouped glue inner)
    unfold groupOf Clause.grouped
    split <;> rfl

theorem clauses_all_cons {condition : Condition} {rest : List Condition} {out : List Clause} :
    (clausesAll schema scope (condition :: rest)).result = .ok out ↔
      ∃ first others, (clauses schema scope condition).result = .ok first ∧
        (clausesAll schema scope rest).result = .ok others ∧ first ++ others = out := by
  simp only [clausesAll, Traced.result_bind, Traced.result_pure, bind_ok, pure_ok]
  constructor
  · rintro ⟨first, hf, others, ho, he⟩
    exact ⟨first, others, hf, ho, he⟩
  · rintro ⟨first, others, hf, ho, he⟩
    exact ⟨first, hf, others, ho, he⟩

theorem clauses_all_outline {conditions : List Condition} {out : List Clause}
    (each : ∀ c ∈ conditions, ∀ first, (clauses schema scope c).result = .ok first →
      c.outline scope = some first)
    (h : (clausesAll schema scope conditions).result = .ok out) :
    outlineAll scope conditions = some out := by
  induction conditions generalizing out with
  | nil =>
    cases h
    rfl
  | cons condition rest ih =>
    obtain ⟨first, others, hf, ho, rfl⟩ := clauses_all_cons.mp h
    have hr := ih (fun c hc => each c (List.mem_cons_of_mem _ hc)) ho
    simp [outlineAll, each condition (List.mem_cons_self ..) first hf, hr]

theorem clauses_outline (c : Condition) (out : List Clause)
    (h : (clauses schema scope c).result = .ok out) : c.outline scope = some out := by
  induction c using Condition.induct generalizing out with
  | predicate p =>
    rw [clauses, Predicate.result_clauses] at h
    obtain ⟨settled, hs, rfl⟩ := map_ok.mp h
    exact Predicate.settle_outline hs
  | raw sql =>
    cases h
    rfl
  | group glue children ih =>
    rw [result_group] at h
    obtain ⟨inner, hi, rfl⟩ := map_ok.mp h
    simp [outline, clauses_all_outline ih hi]

/-- Conditions that compile become the clauses of their outline. -/
theorem compile_outline {conditions : List Condition} {out : List Clause}
    (h : (compile schema scope conditions).result = .ok out) :
    outlineAll scope conditions = some out := by
  simp only [compile, Traced.result_bind] at h
  obtain ⟨_, _, h⟩ := bind_ok.mp h
  exact clauses_all_outline (fun c _ => clauses_outline c) h

/-- A compiled text is the text of the outline. -/
theorem compiled_sql_outline {style : Quoting} {conditions : List Condition} {sql : String}
    (h : compiledSql style schema scope conditions = .ok sql) :
    ∃ out, outlineAll scope conditions = some out ∧ sql = Clause.joined style scope.glue out := by
  obtain ⟨out, ho, rfl⟩ := map_ok.mp h
  exact ⟨out, compile_outline ho, rfl⟩

/-- What an input says in a scope whose table is in the schema. -/
def readIn (schema : Schema) (scope : Scope) (input : Json) : Except Error (List Condition) := do
  let table ← scope.getTable schema
  read table input

theorem compile_input_read_in (schema : Schema) (scope : Scope) (input : Json) :
    (compileInput schema scope input).result = readIn schema scope input >>=
      fun conditions => (clausesAll schema scope conditions).result := by
  simp only [compileInput, Traced.result_bind, Traced.result_lifted, readIn, bind_assoc]

end Condition

end SqlBuilder

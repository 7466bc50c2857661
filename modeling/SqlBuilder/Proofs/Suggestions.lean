import SqlBuilder.Proofs.AddedTable
import SqlBuilder.Proofs.EditDistance
import SqlBuilder.Proofs.PointAgreement

/-!
Suggestions for names that are not known: the first of the nearest candidates, if it is near enough.
Every error about a column that a table lacks comes from a look-up of that very name among all
columns of that table, so what it suggests is another column of the table.
-/

namespace SqlBuilder

/-! ### The nearest candidate -/

namespace Suggestion

/-- How far a candidate is from a name. -/
def away (name candidate : String) : Nat := distance name.toList candidate.toList

/-- The first of the candidates with the least distance. -/
def Foremost (name : String) (candidates : List String) (chosen : String) : Prop :=
  ∃ front rear, candidates = front ++ chosen :: rear ∧
    (∀ other ∈ front, away name chosen < away name other) ∧
    ∀ other ∈ rear, away name chosen ≤ away name other

variable {name chosen : String} {candidates : List String}

theorem Foremost.mem (h : Foremost name candidates chosen) : chosen ∈ candidates := by
  obtain ⟨front, rear, rfl, -⟩ := h
  simp

theorem Foremost.least (h : Foremost name candidates chosen) :
    ∀ other ∈ candidates, away name chosen ≤ away name other := by
  obtain ⟨front, rear, rfl, hfront, hrear⟩ := h
  intro other hm
  rcases List.mem_append.mp hm with hm | hm
  · exact Nat.le_of_lt (hfront other hm)
  · rcases List.mem_cons.mp hm with rfl | hm
    · exact Nat.le_refl _
    · exact hrear other hm

theorem nearest_none (h : nearest? name candidates = none) : candidates = [] := by
  cases candidates with
  | nil => rfl
  | cons first rest =>
    unfold nearest? at h
    dsimp only at h
    split at h
    · split at h <;> cases h
    · cases h

theorem nearest_foremost {d : Nat} (h : nearest? name candidates = some (d, chosen)) :
    d = away name chosen ∧ Foremost name candidates chosen := by
  induction candidates generalizing d chosen with
  | nil => cases h
  | cons first rest ih =>
    unfold nearest? at h
    dsimp only at h
    split at h
    · rename_i least other hrest
      obtain ⟨rfl, hother⟩ := ih hrest
      split at h
      · rename_i hnearer
        cases h
        obtain ⟨front, rear, rfl, hfront, hrear⟩ := hother
        exact ⟨rfl, first :: front, rear, rfl, List.forall_mem_cons.mpr ⟨hnearer, hfront⟩, hrear⟩
      · rename_i hnearer
        cases h
        refine ⟨rfl, [], rest, rfl, by simp, fun candidate hm => ?_⟩
        exact Nat.le_trans (Nat.le_of_not_lt hnearer) (hother.least candidate hm)
    · rename_i hrest
      cases h
      rw [nearest_none hrest]
      exact ⟨rfl, [], [], rfl, by simp, by simp⟩

theorem suggest_none_iff :
    suggest? name candidates = none ↔ ∀ other ∈ candidates, reach name < away name other := by
  unfold suggest?
  split
  · rename_i d chosen hn
    obtain ⟨rfl, hchosen⟩ := nearest_foremost hn
    split
    · rename_i hnear
      constructor
      · intro h
        cases h
      · intro hfar
        exact absurd hnear (Nat.not_le_of_lt (hfar chosen hchosen.mem))
    · rename_i hfar
      constructor
      · intro _ other hm
        exact Nat.lt_of_lt_of_le (Nat.lt_of_not_le hfar) (hchosen.least other hm)
      · intro _
        rfl
  · rename_i hn
    rw [nearest_none hn]
    simp

theorem suggest_some (h : suggest? name candidates = some chosen) :
    away name chosen ≤ reach name ∧ Foremost name candidates chosen := by
  unfold suggest? at h
  split at h
  · rename_i d other hn
    obtain ⟨rfl, hother⟩ := nearest_foremost hn
    split at h
    · rename_i hnear
      cases h
      exact ⟨hnear, hother⟩
    · cases h
  · cases h

theorem away_eq_zero_iff {candidate : String} : away name candidate = 0 ↔ name = candidate :=
  distance_eq_zero_iff.trans String.toList_inj

end Suggestion

/-! ### Columns that a table lacks -/

/-- The table lacks the column, and what is suggested is another of its columns. For a name of two
bytes or less nothing is suggested. -/
structure Table.Suggests (t : Table) (column : String) (suggestion : Option String) : Prop where
  lacks : t.column? column = none
  other : ∀ name, suggestion = some name → name ∈ t.columnNames ∧ name ≠ column
  brief : column.utf8ByteSize ≤ 2 → suggestion = none

theorem Table.column_none_iff {t : Table} {column : String} :
    t.column? column = none ↔ column ∉ t.columnNames := by
  simp [Table.column?, Table.columnNames]

theorem Table.suggests {t : Table} {column : String} (h : t.column? column = none) :
    t.Suggests column (Suggestion.suggest? column t.columnNames) := by
  have hlacks := Table.column_none_iff.mp h
  have hother : ∀ name, Suggestion.suggest? column t.columnNames = some name →
      name ∈ t.columnNames ∧ name ≠ column := by
    intro name hs
    have hm := (Suggestion.suggest_some hs).2.mem
    refine ⟨hm, ?_⟩
    rintro rfl
    exact hlacks hm
  refine ⟨h, hother, fun hbrief => ?_⟩
  cases hs : Suggestion.suggest? column t.columnNames with
  | none => rfl
  | some name =>
    -- Within no distance at all there is only the name itself.
    have hnear := (Suggestion.suggest_some hs).1
    rw [Suggestion.reach, if_pos hbrief] at hnear
    have hsame := Suggestion.away_eq_zero_iff.mp (Nat.le_zero.mp hnear)
    exact absurd hsame.symm (hother name hs).2

/-- What an error says of a column that is not known is true of a table of the schema. -/
def Error.Apt (schema : Schema) : Error → Prop
  | unknownColumn table column suggestion =>
    ∃ t, schema.table? table = some t ∧ t.Suggests column suggestion
  | missingColumn table column suggestion =>
    ∃ t, schema.table? table = some t ∧ t.Suggests column suggestion
  | _ => True

/-- A failure of the run is an apt error. -/
def Apt {α : Type} (schema : Schema) (x : Except Error α) : Prop :=
  ∀ e, x = .error e → e.Apt schema

namespace Apt

variable {α β : Type} {schema : Schema}

theorem done (a : α) : Apt schema (.ok a : Except Error α) := by
  intro e he
  cases he

theorem fail {e : Error} (h : e.Apt schema) : Apt schema (.error e : Except Error α) := by
  intro e' he
  cases he
  exact h

theorem bind {x : Except Error α} {f : α → Except Error β} (hx : Apt schema x)
    (hf : ∀ a, x = .ok a → Apt schema (f a)) : Apt schema (x >>= f) := by
  cases x with
  | error e => exact fail (hx e rfl)
  | ok a => exact hf a rfl

theorem map {x : Except Error α} (f : α → β) (hx : Apt schema x) : Apt schema (x.map f) := by
  cases x with
  | error e => exact fail (hx e rfl)
  | ok a => exact done (f a)

theorem mapM {f : α → Except Error β} {items : List α} (each : ∀ a ∈ items, Apt schema (f a)) :
    Apt schema (items.mapM f) := by
  induction items with
  | nil => exact done []
  | cons first rest ih =>
    rw [List.mapM_cons]
    refine (each first List.mem_cons_self).bind fun _ _ => ?_
    exact (ih fun a ha => each a (List.mem_cons_of_mem _ ha)).bind fun _ _ => done _

end Apt

/-! ### Look-ups -/

section

variable {schema : Schema}

theorem Schema.table_self {name : String} {t : Table} (h : schema.table? name = some t) :
    schema.table? t.name = some t := by
  have hname := List.find?_some h
  rw [eq_of_beq hname]
  exact h

theorem Schema.get_table_apt (name : String) : Apt schema (schema.getTable name) := by
  unfold Schema.getTable
  split
  · exact .done _
  · exact .fail trivial

theorem Scope.get_table_apt (scope : Scope) : Apt schema (scope.getTable schema) := by
  unfold Scope.getTable
  split
  · exact .done _
  · exact (Schema.get_table_apt _).map some

theorem Table.get_column_apt {t : Table} (h : schema.table? t.name = some t) (column : String) :
    Apt schema (t.getColumn column) := by
  unfold Table.getColumn
  split
  · exact .done _
  · rename_i hlacks
    exact .fail ⟨t, h, Table.suggests hlacks⟩

theorem Error.apt_of_refusal {e : Error} (h : e.isRefusal = true) : e.Apt schema := by
  cases e <;> trivial

theorem Table.check_apt {t : Table} (h : schema.table? t.name = some t) (column : String)
    (value : Value) : Apt schema (t.check column value) := by
  unfold Table.check
  split
  · intro e he
    exact Error.apt_of_refusal (Subject.check_refusal he)
  · rename_i hlacks
    exact .fail ⟨t, h, Table.suggests hlacks⟩

theorem Literal.of_value_apt (value : Value) (type : Option ColumnType) :
    Apt schema (Literal.ofValue value type) := by
  have hcalendar (text : String) : Apt schema (Literal.ofCalendar text type) := by
    unfold Literal.ofCalendar
    repeat' split
    · exact .done _
    · exact .done _
    · exact .fail trivial
  cases value with
  | null | bool | integer | float | text => exact .done _
  | date d => exact hcalendar _
  | time t => exact hcalendar _
  | dateTime d t => exact hcalendar _
  | list items =>
    change Apt schema (Literal.ofList items type)
    unfold Literal.ofList
    split
    · split
      · exact .done _
      · exact .fail trivial
    · exact .fail trivial

namespace Subject

/-- The table of the subject, if it has one, is in the schema under its own name. -/
def Owned (schema : Schema) (s : Subject) : Prop :=
  ∀ table column, s.owner = some (table, column) → schema.table? table.name = some table

variable {scope : Scope} {s : Subject}

theorem find_owned {column : String} (h : Subject.find schema scope column = .ok s) :
    s.Owned schema := by
  obtain ⟨-, -, hfound⟩ := Subject.find_owner h
  intro table c ho
  rw [ho, Option.map_some] at hfound
  obtain ⟨name, -, ht⟩ := Option.bind_eq_some_iff.mp hfound.symm
  exact Schema.table_self ht

theorem find_apt (column : String) : Apt schema (Subject.find schema scope column) := by
  refine Apt.bind ?_ fun _ _ => .done _
  unfold Reference.owner
  split
  · exact .done _
  · refine (Schema.get_table_apt _).bind fun table ht => ?_
    have hself := Schema.table_self (get_table_ok ht)
    exact (Table.get_column_apt hself _).bind fun _ _ => .done _

theorem check_apt (owned : s.Owned schema) (validate : Bool) (value : Value) :
    Apt schema (s.check validate value) := by
  unfold check
  split
  · exact .done _
  · split
    · rename_i table column ho
      exact Table.check_apt (owned table column ho) _ value
    · exact .done _

theorem literal_apt (value : Value) : Apt schema (s.literal value) := Literal.of_value_apt value _

theorem checked_literals_apt (owned : s.Owned schema) (validate : Bool) (values : List Value) :
    Apt schema (s.checkedLiterals validate values) := by
  induction values with
  | nil => exact .done _
  | cons value rest ih =>
    refine (check_apt owned validate value).bind fun _ _ => ?_
    refine (literal_apt value).bind fun _ _ => ?_
    exact ih.bind fun _ _ => .done _

end Subject

/-! ### Conditions -/

namespace Predicate

variable {scope : Scope} {s : Subject}

theorem settled_operator_apt (p : Predicate) (filtering : Bool) :
    Apt schema (p.settledOperator filtering) := by
  unfold settledOperator
  dsimp only
  split
  · split
    · exact .done _
    · split
      · exact .done _
      · exact .fail trivial
  · exact .done _

theorem search_columns_apt (names : List String) :
    Apt schema (searchColumns schema scope names) := by
  induction names with
  | nil => exact .done _
  | cons name rest ih => exact (Subject.find_apt name).bind fun _ _ => ih.bind fun _ _ => .done _

theorem settle_search_apt (p : Predicate) : Apt schema (settleSearch schema scope p) := by
  unfold settleSearch
  split
  · exact .fail trivial
  · refine (search_columns_apt _).bind fun _ _ => ?_
    exact (Literal.of_value_apt _ _).bind fun _ _ => .done _

theorem settle_between_apt (owned : s.Owned schema) (validate : Bool) (value : Value) :
    Apt schema (settleBetween s validate value) := by
  unfold settleBetween
  split
  · split
    · exact .fail trivial
    · refine (Subject.check_apt owned validate _).bind fun _ _ => ?_
      refine (Subject.check_apt owned validate _).bind fun _ _ => ?_
      refine (Subject.literal_apt _).bind fun _ _ => ?_
      exact (Subject.literal_apt _).bind fun _ _ => .done _
  · exact .fail trivial

theorem settle_member_apt (owned : s.Owned schema) (validate : Bool) (operator : String)
    (value : Value) : Apt schema (settleMember s validate operator value) := by
  unfold settleMember
  split
  · exact .done _
  · exact (Subject.checked_literals_apt owned validate _).bind fun _ _ => .done _
  · exact .fail trivial

theorem settle_compare_apt (owned : s.Owned schema) (validate : Bool) (operator : String)
    (value : Value) : Apt schema (settleCompare s validate operator value) := by
  refine (Subject.check_apt owned validate value).bind fun _ _ => ?_
  exact (Subject.literal_apt value).bind fun _ _ => .done _

theorem settle_apt (p : Predicate) : Apt schema (p.settle schema scope) := by
  refine (settled_operator_apt p _).bind fun operator _ => ?_
  split
  · exact settle_search_apt p
  · split
    · refine (Subject.find_apt _).bind fun subject hs => ?_
      have owned := Subject.find_owned hs
      split
      · exact settle_between_apt owned _ _
      · split
        · exact settle_member_apt owned _ _ _
        · exact settle_compare_apt owned _ _ _
    · exact .fail trivial

end Predicate

namespace Condition

/-! Reading looks up no column but to tell points, and never fails for want of one. -/

variable {scope : Scope} {table : Option Table} {key : Key} {item level : Json}

theorem read_column_apt (json : Json) : Apt schema (readColumn json) := by
  unfold readColumn
  repeat' split
  · exact .done _
  · exact .done _
  · exact .fail trivial
  · exact .fail trivial

theorem read_operator_apt (json : Json) : Apt schema (readOperator json) := by
  unfold readOperator
  split
  · exact .done _
  · exact .fail trivial

theorem read_value_apt (json : Json) : Apt schema (readValue json) := by
  unfold readValue
  split
  · exact .done _
  · exact .fail trivial

theorem equality_apt (column : String) (json : Json) : Apt schema (equality column json) :=
  (read_value_apt json).bind fun _ _ => .done _

theorem read_pair_apt (first second : Json) : Apt schema (readPair table key first second) := by
  unfold readPair
  split
  · split
    · exact equality_apt _ _
    · refine (read_operator_apt first).bind fun _ _ => ?_
      exact (read_value_apt second).bind fun _ _ => .done _
  · refine (read_column_apt first).bind fun _ _ => ?_
    exact (read_value_apt second).bind fun _ _ => .done _

theorem read_triple_apt (column operator value : Json) :
    Apt schema (readTriple column operator value) := by
  refine (read_column_apt column).bind fun _ _ => ?_
  refine (read_operator_apt operator).bind fun _ _ => ?_
  exact (read_value_apt value).bind fun _ _ => .done _

theorem read_scalar_apt : Apt schema (readScalar key item) := by
  unfold readScalar
  split
  · exact .done _
  · exact .fail trivial
  · exact equality_apt _ _

theorem read_group_apt {glue : Glue} {fault : Error} (hf : fault.Apt schema)
    (inner : Apt schema (read table level)) : Apt schema (readGroup table glue fault level) := by
  by_cases mapping : level.isLevel = true
  · rw [read_group_level fault mapping]
    exact inner.map _
  · cases level with
    | array | object => exact absurd rfl mapping
    | null | bool | integer | float | string =>
      unfold readGroup
      exact .fail hf

theorem read_object_apt (plain : key.logical? = none) {members : List (String × Json)}
    (inner : ∀ glue level, Opens key (.object members) glue level → Apt schema (read table level)) :
    Apt schema (readEntry table key (.object members)) := by
  unfold readEntry
  simp only [plain]
  split
  · split
    · rename_i tag
      exact read_group_apt trivial (inner _ _ (.wrapped tag))
    · exact .fail trivial
  · split
    · rename_i hs
      obtain ⟨-, rfl, rfl⟩ := hs
      split
      · rename_i tag
        exact read_group_apt trivial (inner _ _ (.sub tag))
      · exact .fail trivial
    · split
      · rename_i hs
        obtain ⟨-, rfl, rfl⟩ := hs
        split
        · rename_i tag
          exact read_group_apt trivial (inner _ _ (.operator tag))
        · exact .fail trivial
      · exact .fail trivial
  · exact .fail trivial

theorem read_array_apt (plain : key.logical? = none) {items : List Json}
    (inner : ∀ glue level, Opens key (.array items) glue level → Apt schema (read table level)) :
    Apt schema (readEntry table key (.array items)) := by
  unfold readEntry
  simp only [plain]
  split
  · split
    · rename_i tag
      exact read_group_apt trivial (inner _ _ (.listed tag))
    · exact .fail trivial
  · split
    · rename_i tag
      exact read_group_apt trivial (inner _ _ (.paired tag))
    · exact read_pair_apt _ _
  · exact read_triple_apt _ _ _
  · exact .fail trivial

theorem read_entry_apt
    (inner : ∀ glue level, Opens key item glue level → Apt schema (read table level)) :
    Apt schema (readEntry table key item) := by
  by_cases mapping : item.isLevel = true
  · cases hk : key.logical? with
    | some glue =>
      rw [read_entry_named hk mapping]
      exact (inner glue item (.named hk)).map _
    | none =>
      cases item with
      | object members => exact read_object_apt hk inner
      | array items => exact read_array_apt hk inner
      | null | bool | integer | float | string => cases mapping
  · cases item with
    | array | object => exact absurd rfl mapping
    | null | bool | integer | float | string =>
      unfold readEntry
      exact read_scalar_apt

theorem read_apt (input : Json) : Apt schema (read table input) := by
  by_cases mapping : input.isLevel = true
  · rw [read_level mapping]
    refine Apt.mapM fun entry he => read_entry_apt ?_
    intro glue level opens
    have hsmaller : sizeOf level < sizeOf input := Nat.lt_of_le_of_lt opens.size (entry_size he)
    exact read_apt level
  · cases input with
    | array | object => exact absurd rfl mapping
    | null => exact .done _
    | integer n => exact .done _
    | bool | float | string => exact .fail trivial
termination_by sizeOf input
decreasing_by exact hsmaller

theorem clauses_all_apt {conditions : List Condition}
    (each : ∀ c ∈ conditions, Apt schema (clauses schema scope c).result) :
    Apt schema (clausesAll schema scope conditions).result := by
  induction conditions with
  | nil => exact .done _
  | cons condition rest ih =>
    have hfirst := each condition (List.mem_cons_self ..)
    have hrest := ih fun c hc => each c (List.mem_cons_of_mem _ hc)
    simp only [clausesAll, Traced.result_bind]
    exact hfirst.bind fun _ _ => hrest.bind fun _ _ => .done _

theorem clauses_apt (c : Condition) : Apt schema (clauses schema scope c).result := by
  induction c using Condition.induct with
  | predicate p =>
    rw [clauses, Predicate.result_clauses]
    exact (Predicate.settle_apt p).map _
  | raw sql => exact .done _
  | group glue children ih =>
    rw [result_group]
    exact (clauses_all_apt ih).map _

theorem compile_apt (conditions : List Condition) :
    Apt schema (compile schema scope conditions).result := by
  simp only [compile, Traced.result_bind, Traced.result_lifted]
  refine (Scope.get_table_apt scope).bind fun _ _ => ?_
  exact clauses_all_apt fun c _ => clauses_apt c

theorem compile_input_apt (input : Json) :
    Apt schema (compileInput schema scope input).result := by
  simp only [compileInput, Traced.result_bind, Traced.result_lifted]
  refine (Scope.get_table_apt scope).bind fun table _ => ?_
  refine (read_apt input).bind fun conditions _ => ?_
  exact clauses_all_apt fun c _ => clauses_apt c

end Condition

/-! ### Joins -/

namespace Join

theorem on_text_apt (text : String) : Apt schema (onText text) := by
  unfold onText
  split
  · exact .done _
  · exact .done _
  · exact .fail trivial

theorem read_on_members_apt (members : List (String × Json)) :
    Apt schema (readOnMembers members) := by
  induction members with
  | nil => exact .done _
  | cons member rest ih =>
    obtain ⟨key, value⟩ := member
    cases value with
    | string text =>
      unfold readOnMembers
      split
      · exact (on_text_apt text).bind fun _ _ => ih.bind fun _ _ => .done _
      · exact ih.bind fun _ _ => .done _
    | null | bool | integer | float | array | object => exact .fail trivial

mutual

theorem read_on_apt : (json : Json) → Apt schema (readOn json)
  | .null => .done _
  | .string text => (on_text_apt text).map _
  | .array items => read_on_items_apt items
  | .object members => read_on_members_apt members
  | .bool _ => .fail trivial
  | .integer _ => .fail trivial
  | .float _ => .fail trivial

theorem read_on_items_apt : (items : List Json) → Apt schema (readOnItems items)
  | [] => .done _
  | item :: rest =>
    (read_on_apt item).bind fun _ _ => (read_on_items_apt rest).bind fun _ _ => .done _

end

theorem read_field_items_apt (items : List Json) : Apt schema (readFieldItems items) := by
  induction items with
  | nil => exact .done _
  | cons item rest ih =>
    cases item with
    | string name => exact ih.bind fun _ _ => .done _
    | null | bool | integer | float | array | object => exact .fail trivial

theorem read_field_members_apt (members : List (String × Json)) :
    Apt schema (readFieldMembers members) := by
  induction members with
  | nil => exact .done _
  | cons member rest ih =>
    obtain ⟨key, value⟩ := member
    cases value with
    | string name => exact ih.bind fun _ _ => .done _
    | null | bool | integer | float | array | object => exact .fail trivial

theorem read_fields_apt (json : Json) : Apt schema (readFields json) := by
  cases json with
  | null => exact .done _
  | array items => exact read_field_items_apt items
  | object members => exact read_field_members_apt members
  | bool | integer | float | string => exact .fail trivial

theorem text_option_apt (record : Record) (option : String) :
    Apt schema (textOption record option) := by
  unfold textOption
  split
  · exact .done _
  · exact .done _
  · exact .fail trivial

theorem check_options_apt (record : Record) : Apt schema (checkOptions record).result := by
  induction record with
  | nil => exact .done _
  | cons member rest ih =>
    obtain ⟨option, value⟩ := member
    simp only [checkOptions]
    split
    · exact .fail trivial
    · split
      · rw [Traced.result_bind]
        exact ih
      · exact ih

theorem read_table_apt (record : Record) (key : Option String) :
    Apt schema (readTable record key) := by
  refine (text_option_apt record "table").bind fun _ _ => ?_
  split
  · exact .done _
  · exact .done _
  · exact .fail trivial

theorem read_kind_apt (record : Record) : Apt schema (readKind record) := by
  refine (text_option_apt record "type").bind fun _ _ => ?_
  split
  · exact .done _
  · split
    · exact .done _
    · exact .fail trivial

variable {origin : String} {aliasOfOrigin : Option String} {earlier : List Join}

theorem read_record_apt (key : Option String) (record : Record) :
    Apt schema (readRecord origin aliasOfOrigin earlier key record).result := by
  simp only [readRecord, Traced.result_bind, Traced.result_lifted]
  refine (check_options_apt record).bind fun _ _ => ?_
  refine (read_table_apt record key).bind fun _ _ => ?_
  refine (text_option_apt record "alias").bind fun _ _ => ?_
  refine (read_kind_apt record).bind fun _ _ => ?_
  refine (text_option_apt record "origin").bind fun _ _ => ?_
  refine (read_on_apt _).bind fun _ _ => ?_
  exact (read_fields_apt _).bind fun _ _ => .done _

theorem read_entry_apt (key : Option String) (item : Json) :
    Apt schema (readEntry origin aliasOfOrigin earlier key item).result := by
  unfold readEntry
  split
  · exact .done _
  · simp only [Traced.result_bind, Traced.result_lifted]
    exact (read_fields_apt _).bind fun _ _ => .done _
  · exact read_record_apt _ _
  · exact .fail trivial

theorem read_entries_apt (entries : List (Option String × Json)) :
    Apt schema (readEntries origin aliasOfOrigin earlier entries).result := by
  induction entries generalizing earlier with
  | nil => exact .done _
  | cons entry rest ih =>
    obtain ⟨key, item⟩ := entry
    simp only [readEntries, Traced.result_bind]
    refine (read_entry_apt key item).bind fun join _ => ?_
    split
    · exact .fail trivial
    · exact ih

theorem read_apt (json : Json) : Apt schema (read origin aliasOfOrigin json).result := by
  cases json with
  | null => exact .done _
  | string table => exact read_entries_apt _
  | array items => exact read_entries_apt _
  | object members => exact read_entries_apt _
  | bool | integer | float => exact .fail trivial

theorem infer_link_apt (j : Join) (column : Option String) :
    Apt schema (inferLink schema j column).result := by
  simp only [inferLink, Traced.result_bind, Traced.result_lifted]
  refine (Schema.get_table_apt _).bind fun _ _ => ?_
  refine (Schema.get_table_apt _).bind fun _ _ => ?_
  split
  · exact .done _
  · exact .fail trivial
  · split
    · exact .done _
    · exact .fail trivial
    · exact .fail trivial

theorem pair_link_apt (j : Join) (left right : String) :
    Apt schema (pairLink schema j left right) := by
  refine (Schema.get_table_apt _).bind fun _ ho => ?_
  refine (Schema.get_table_apt _).bind fun _ hj => ?_
  have horigin := Schema.table_self (Subject.get_table_ok ho)
  have hjoined := Schema.table_self (Subject.get_table_ok hj)
  refine (Table.get_column_apt horigin _).bind fun _ _ => ?_
  exact (Table.get_column_apt hjoined _).bind fun _ _ => .done _

theorem entry_links_apt (j : Join) (entries : List OnEntry) :
    Apt schema (entryLinks schema j entries).result := by
  induction entries with
  | nil => exact .done _
  | cons entry rest ih =>
    simp only [entryLinks, Traced.result_bind]
    refine Apt.bind ?_ fun _ _ => ih.bind fun _ _ => .done _
    cases entry with
    | column name => exact infer_link_apt j (some name)
    | pair left right => exact pair_link_apt j left right
    | raw sql => exact .done _

theorem on_links_apt (j : Join) : Apt schema (onLinks schema j).result := by
  unfold onLinks
  split
  · split
    · exact .done _
    · simp only [Traced.result_bind]
      exact (infer_link_apt j none).bind fun _ _ => .done _
  · exact entry_links_apt j j.on

theorem filter_links_apt (validate : Bool) (j : Join) :
    Apt schema (filterLinks schema validate j).result := by
  unfold filterLinks
  split
  · exact .done _
  · simp only [Traced.result_bind]
    exact (Condition.compile_input_apt _).bind fun _ _ => .done _

theorem clause_apt (validate : Bool) (j : Join) : Apt schema (j.clause schema validate).result := by
  simp only [clause, Traced.result_bind]
  refine (on_links_apt j).bind fun _ _ => ?_
  exact (filter_links_apt validate j).bind fun _ _ => .done _

end Join

/-! ### Statements -/

namespace Statement

theorem check_members_apt {t : Table} (h : schema.table? t.name = some t)
    (members : List (String × Json)) : Apt schema (checkMembers t members) := by
  induction members with
  | nil => exact .done _
  | cons member rest ih =>
    obtain ⟨column, json⟩ := member
    unfold checkMembers
    split
    · exact .fail trivial
    · exact (Table.check_apt h _ _).bind fun _ _ => ih

theorem check_data_apt (table : String) (data : Json) :
    Apt schema (checkData schema table data) := by
  refine (Schema.get_table_apt table).bind fun t ht => ?_
  split
  · exact check_members_apt (Schema.table_self (Subject.get_table_ok ht)) _
  · exact .done _

theorem of_insert_apt (validate : Bool) (verb : InsertVerb) (table : String) (data : Json) :
    Apt schema (ofInsert schema validate verb table data).result := by
  unfold ofInsert
  split
  · exact .done _
  · split
    · simp only [Traced.result_bind, Traced.result_lifted]
      refine (check_data_apt table data).bind fun _ _ => ?_
      exact (Condition.compile_input_apt data).bind fun _ _ => .done _
    · simp only [Traced.result_bind]
      exact (Condition.compile_input_apt data).bind fun _ _ => .done _

theorem of_update_apt (validate : Bool) (table : String) (filter data : Json) :
    Apt schema (ofUpdate schema validate table filter data).result := by
  unfold ofUpdate
  split
  · exact .done _
  · simp only [Traced.result_bind]
    refine (Condition.compile_input_apt filter).bind fun _ _ => ?_
    exact (Condition.compile_input_apt data).bind fun _ _ => .done _

theorem of_delete_apt (validate : Bool) (table : String) (filter : Json) :
    Apt schema (ofDelete schema validate table filter).result := by
  simp only [ofDelete, Traced.result_bind]
  exact (Condition.compile_input_apt filter).bind fun _ _ => .done _

end Statement

namespace Selection

variable {scope : Scope}

theorem checked_column_apt (column : String) : Apt schema (checkedColumn schema scope column) :=
  (Subject.find_apt column).bind fun _ _ => .done _

theorem checked_columns_apt (names : List String) :
    Apt schema (checkedColumns schema scope names) := by
  induction names with
  | nil => exact .done _
  | cons name rest ih => exact (checked_column_apt name).bind fun _ _ => ih.bind fun _ _ => .done _

theorem ordered_columns_apt (entries : List OrderEntry) :
    Apt schema (orderedColumns schema scope entries) := by
  induction entries with
  | nil => exact .done _
  | cons entry rest ih =>
    exact (checked_column_apt entry.column).bind fun _ _ => ih.bind fun _ _ => .done _

theorem own_shown_apt (table : String) (fields : List String) :
    Apt schema (ownShown schema scope table fields) := by
  unfold ownShown
  split
  · exact .done _
  · exact (checked_columns_apt fields).map _

theorem fields_shown_apt {t : Table} (h : schema.table? t.name = some t) (join : Join)
    (fields : List ProjectedField) : Apt schema (fieldsShown t join fields) := by
  induction fields with
  | nil => exact .done _
  | cons field rest ih =>
    exact (Table.get_column_apt h _).bind fun _ _ => ih.bind fun _ _ => .done _

theorem joins_shown_apt (joins : List Join) : Apt schema (joinsShown schema joins) := by
  induction joins with
  | nil => exact .done _
  | cons join rest ih =>
    refine (Schema.get_table_apt _).bind fun _ ht => ?_
    have hself := Schema.table_self (Subject.get_table_ok ht)
    exact (fields_shown_apt hself join _).bind fun _ _ => ih.bind fun _ _ => .done _

theorem join_clauses_apt (validate : Bool) (joins : List Join) :
    Apt schema (joinClauses schema validate joins).result := by
  induction joins with
  | nil => exact .done _
  | cons join rest ih =>
    simp only [joinClauses, Traced.result_bind]
    exact (join.clause_apt validate).bind fun _ _ => ih.bind fun _ _ => .done _

theorem of_query_apt (validate : Bool) (query : SelectQuery) :
    Apt schema (ofQuery schema validate query).result := by
  simp only [ofQuery, Traced.result_bind, Traced.result_lifted]
  refine (Schema.get_table_apt _).bind fun _ _ => ?_
  refine (Join.read_apt _).bind fun joins _ => ?_
  refine (own_shown_apt _ _).bind fun _ _ => ?_
  refine (joins_shown_apt joins).bind fun _ _ => ?_
  refine (join_clauses_apt validate joins).bind fun _ _ => ?_
  refine (Condition.compile_input_apt _).bind fun _ _ => ?_
  refine (checked_columns_apt _).bind fun _ _ => ?_
  exact (ordered_columns_apt _).bind fun _ _ => .done _

end Selection

theorem Request.statement_apt (validate : Bool) (request : Request) :
    Apt schema (request.statement schema validate) := by
  cases request with
  | insert verb table data => exact (Statement.of_insert_apt validate verb table data).map some
  | update table filter data => exact Statement.of_update_apt validate table filter data
  | delete table filter => exact (Statement.of_delete_apt validate table filter).map some
  | select query =>
    simp only [Request.statement, Statement.ofQuery, Traced.result_bind]
    exact ((Selection.of_query_apt validate query).bind fun _ _ => .done _).map some

theorem Call.sql_apt (style : Quoting) (call : Call) : Apt schema (call.sql style schema) := by
  cases call with
  | conditions scope read => exact ((Condition.compile_apt read).map _).map some
  | input scope json => exact (Condition.compile_input_apt json).map _
  | join validate j => exact (j.clause_apt validate).map _
  | statement validate request => exact (request.statement_apt validate).map _

end

/-! ### What is suggested -/

theorem Table.check_lacking {t : Table} {column table missing : String} {value : Value}
    {suggestion : Option String}
    (h : t.check column value = .error (.unknownColumn table missing suggestion) ∨
      t.check column value = .error (.missingColumn table missing suggestion)) :
    table = t.name ∧ missing = column ∧ t.Suggests column suggestion := by
  unfold Table.check at h
  split at h
  · rcases h with h | h
    · cases Subject.check_refusal h
    · cases Subject.check_refusal h
  · rename_i hlacks
    rcases h with h | h
    · cases h
      exact ⟨rfl, rfl, Table.suggests hlacks⟩
    · cases h

namespace Suggestion

/-- The distance is the least number of edits. Nothing is suggested just if every candidate is out
of reach, which depends on the size of the name in UTF-8, and otherwise the first of those with the
least distance. So an error about a column that is not known suggests nothing, or another column of
the table that was asked. -/
theorem suggestions_nearest_declared :
    (∀ source target, Edits (distance source target) source target ∧
      ∀ n, Edits n source target → distance source target ≤ n) ∧
    (∀ name, reach name =
      if name.utf8ByteSize ≤ 2 then 0 else if name.utf8ByteSize ≤ 5 then 2 else 3) ∧
    (∀ name candidates,
      (suggest? name candidates = none ↔ ∀ other ∈ candidates, reach name < away name other) ∧
      ∀ chosen, suggest? name candidates = some chosen →
        away name chosen ≤ reach name ∧ Foremost name candidates chosen) ∧
    (∀ (t : Table) column value table missing suggestion,
      t.check column value = .error (.unknownColumn table missing suggestion) ∨
        t.check column value = .error (.missingColumn table missing suggestion) →
      table = t.name ∧ missing = column ∧ t.Suggests column suggestion) ∧
    ∀ style schema (call : Call) e, call.sql style schema = .error e → e.Apt schema := by
  refine ⟨?_, fun _ => rfl, ?_, ?_, ?_⟩
  · intro source target
    exact ⟨edits_distance source target, fun n h => h.distance_le⟩
  · intro name candidates
    exact ⟨suggest_none_iff, fun chosen h => suggest_some h⟩
  · intro t column value table missing suggestion h
    exact Table.check_lacking h
  · intro style schema call e h
    exact call.sql_apt style e h

/-- The titles of posts, misspelt. -/
def misspeltTitles : Call := .statement true (.select { table := "posts", fields := ["titel"] })

theorem suggestions_nearest_declared_misspelt :
    misspeltTitles.sql .mysql Sample.schema =
        .error (.missingColumn "posts" "titel" (some "title")) ∧
      (∃ t, Sample.schema.table? "posts" = some t ∧ t.Suggests "titel" (some "title")) ∧
      Sample.users.Suggests "nam" (some "name") ∧ Sample.users.Suggests "ib" none ∧
      Foremost "né" ["nose", "ne", "nè"] "ne" := by
  obtain ⟨-, -, hsuggest, hcheck, hcall⟩ := suggestions_nearest_declared
  have hcolumn : misspeltTitles.sql .mysql Sample.schema =
      .error (.missingColumn "posts" "titel" (some "title")) := by rfl
  refine ⟨hcolumn, hcall .mysql Sample.schema misspeltTitles _ hcolumn, ?_, ?_, ?_⟩
  · exact (hcheck Sample.users "nam" .null "users" "nam" _ (.inl rfl)).2.2
  · exact (hcheck Sample.users "ib" .null "users" "ib" _ (.inl rfl)).2.2
  · exact ((hsuggest "né" ["nose", "ne", "nè"]).2 "ne" (by rfl)).2

end Suggestion

end SqlBuilder

import SqlBuilder.Proofs.Outline
import SqlBuilder.Proofs.Sample

/-!
The switch for validation: with it, the same text comes out or none at all, and none exactly if a
value does not suit the column that it is compared with.
-/

namespace SqlBuilder

/-! ### A run with checks beside the same run without -/

/-- The errors of a value that does not suit its column. -/
def Error.isRefusal : Error → Bool
  | nullNotAllowed .. => true
  | notNumeric .. => true
  | lengthExceeded .. => true
  | badTemporal .. => true
  | badPoint .. => true
  | _ => false

/-- The strict run gives what the lax run gives if the checks pass, and refuses it if not. -/
structure Restricts {α : Type} (passed : Prop) (strict lax : Except Error α) : Prop where
  keep : ∀ a, lax = .ok a → passed → strict = .ok a
  refuse : ∀ a, lax = .ok a → ¬passed → ∃ e, strict = .error e ∧ e.isRefusal = true
  fail : ∀ e, lax = .error e → ∃ e', strict = .error e'

namespace Restricts

variable {α β : Type} {P Q : Prop} {strict lax : Except Error α}

theorem refl (x : Except Error α) : Restricts True x x :=
  ⟨fun _ h _ => h, fun _ _ hn => absurd trivial hn, fun e h => ⟨e, h⟩⟩

theorem of_error {e e' : Error} (hs : strict = .error e) (hl : lax = .error e') :
    Restricts P strict lax := by
  subst hs hl
  exact ⟨fun _ h => (nomatch h), fun _ h => (nomatch h), fun _ _ => ⟨e, rfl⟩⟩

theorem congr (h : Restricts P strict lax) (he : P ↔ Q) : Restricts Q strict lax :=
  ⟨fun a ha hq => h.keep a ha (he.mpr hq), fun a ha hq => h.refuse a ha (fun hp => hq (he.mp hp)),
    h.fail⟩

/-- Checks of two steps are the checks of their sequence. -/
theorem bind {f g : α → Except Error β} (h : Restricts P strict lax)
    (hf : ∀ a, lax = .ok a → Restricts Q (f a) (g a)) :
    Restricts (P ∧ Q) (strict >>= f) (lax >>= g) := by
  cases hl : lax with
  | error e =>
    obtain ⟨e', he⟩ := h.fail e hl
    rw [he]
    exact of_error rfl rfl
  | ok a =>
    have hstep := hf a hl
    by_cases hp : P
    · rw [h.keep a hl hp]
      exact hstep.congr ⟨fun hq => ⟨hp, hq⟩, fun hpq => hpq.2⟩
    · obtain ⟨e, he, hr⟩ := h.refuse a hl hp
      rw [he]
      exact ⟨fun _ _ hpq => absurd hpq.1 hp, fun _ _ _ => ⟨e, rfl, hr⟩, fun _ _ => ⟨e, rfl⟩⟩

theorem bind_same (h : Restricts P strict lax) (k : α → Except Error β) :
    Restricts P (strict >>= k) (lax >>= k) :=
  (h.bind fun a _ => refl (k a)).congr (by simp)

theorem bind_after {f g : α → Except Error β} (x : Except Error α)
    (hf : ∀ a, x = .ok a → Restricts Q (f a) (g a)) : Restricts Q (x >>= f) (x >>= g) :=
  ((refl x).bind hf).congr (by simp)

theorem map (f : α → β) (h : Restricts P strict lax) :
    Restricts P (strict.map f) (lax.map f) := by
  have he (x : Except Error α) : x.map f = x >>= fun a => pure (f a) := by
    cases x <;> rfl
  rw [he, he]
  exact h.bind_same _

theorem ok_iff (h : Restricts P strict lax) (a : α) : strict = .ok a ↔ lax = .ok a ∧ P := by
  constructor
  · intro hs
    cases hl : lax with
    | error e =>
      obtain ⟨e', he⟩ := h.fail e hl
      cases hs.symm.trans he
    | ok b =>
      by_cases hp : P
      · exact ⟨(h.keep b hl hp).symm.trans hs, hp⟩
      · obtain ⟨e, he, _⟩ := h.refuse b hl hp
        cases hs.symm.trans he
  · rintro ⟨hl, hp⟩
    exact h.keep a hl hp

theorem error_refusal (h : Restricts P strict lax) {a : α} {e : Error} (hl : lax = .ok a)
    (hs : strict = .error e) : e.isRefusal = true := by
  by_cases hp : P
  · cases (h.keep a hl hp).symm.trans hs
  · obtain ⟨e', he, hr⟩ := h.refuse a hl hp
    cases hs.symm.trans he
    exact hr

end Restricts

/-! ### The occurrences of values that are checked -/

/-- A value with the column of a table that it is compared with or set to. -/
structure Occurrence where
  table : Table
  column : String
  value : Value

namespace Occurrence

def Passes (o : Occurrence) : Prop := o.table.check o.column o.value = .ok ()

/-- Values beside a column of the table, if it is known. Null does not count where a join provides
the column. -/
def beside (table : Option Table) (reference : Reference) (values : List Value) :
    List Occurrence :=
  match table with
  | none => []
  | some table =>
    (values.filter fun v => !(reference.viaJoin && v.isNull)).map
      fun v => ⟨table, reference.column, v⟩

theorem beside_cons (table : Option Table) (reference : Reference) (value : Value)
    (rest : List Value) :
    beside table reference (value :: rest) =
      beside table reference [value] ++ beside table reference rest := by
  cases table with
  | none => rfl
  | some table =>
    simp only [beside]
    rw [← List.map_append, ← List.filter_append]
    rfl

end Occurrence

/-- The values that an operator compares its column with. -/
def Predicate.comparedValues (operator : String) (value : Value) : List Value :=
  if operator = "BETWEEN" then
    match value with
    | .list [low, high] => [low, high]
    | _ => []
  else if operator = "IN" ∨ operator = "NOT IN" then
    match value with
    | .list items => items
    | _ => []
  else [value]

/-- The values of a search are not checked. -/
def Predicate.occurrences (schema : Schema) (scope : Scope) (p : Predicate) : List Occurrence :=
  let operator := p.effectiveOperator scope.filtering
  match p.column with
  | .many _ => []
  | .one column =>
    if operator = "MATCH" then []
    else
      let reference := scope.resolve column
      Occurrence.beside (reference.table.bind schema.table?) reference
        (comparedValues operator p.value)

namespace Condition

mutual

def occurrences (schema : Schema) (scope : Scope) : Condition → List Occurrence
  | predicate p => p.occurrences schema scope
  | raw _ => []
  | group _ children => occurrencesAll schema scope children

def occurrencesAll (schema : Schema) (scope : Scope) : List Condition → List Occurrence
  | [] => []
  | condition :: rest => occurrences schema scope condition ++ occurrencesAll schema scope rest

end

end Condition

/-! ### Subjects -/

namespace Subject

/-- The occurrences of values beside the column of the subject. -/
def occurrences (s : Subject) : List Value → List Occurrence :=
  Occurrence.beside (s.owner.map (·.1)) s.reference

/-- The declaration of a subject is the one that its table has for its column. -/
def Declared (s : Subject) : Prop :=
  ∀ table column, s.owner = some (table, column) →
    table.column? s.reference.column = some column

theorem get_column_ok {t : Table} {name : String} {c : Column} (h : t.getColumn name = .ok c) :
    t.column? name = some c := by
  unfold Table.getColumn at h
  split at h
  · rename_i found hf
    cases h
    exact hf
  · cases h

theorem get_table_ok {schema : Schema} {name : String} {t : Table}
    (h : schema.getTable name = .ok t) : schema.table? name = some t := by
  unfold Schema.getTable at h
  split at h
  · rename_i found hf
    cases h
    exact hf
  · cases h

/-- What finding a subject gives: the declaration of its column in its table, if it has one. -/
theorem find_owner {schema : Schema} {scope : Scope} {column : String} {s : Subject}
    (h : Subject.find schema scope column = .ok s) :
    s.reference = scope.resolve column ∧ s.Declared ∧
      s.owner.map (·.1) = s.reference.table.bind schema.table? := by
  obtain ⟨owner, ho, he⟩ := bind_ok.mp h
  rw [← pure_ok.mp he]
  refine ⟨rfl, ?_⟩
  unfold Reference.owner at ho
  split at ho
  · rename_i hn
    cases ho
    refine ⟨fun table column hc => (nomatch hc), ?_⟩
    simp [hn]
  · rename_i name hn
    obtain ⟨table, ht, ho⟩ := bind_ok.mp ho
    obtain ⟨declared, hd, ho⟩ := bind_ok.mp ho
    rw [← pure_ok.mp ho]
    constructor
    · intro t c hc
      cases hc
      exact get_column_ok hd
    · simp [hn, get_table_ok ht]

theorem check_refusal {c : Column} {table : String} {value : Value} {e : Error}
    (h : c.check table value = .error e) : e.isRefusal = true := by
  unfold Column.check at h
  repeat' split at h
  all_goals cases h
  all_goals rfl

variable {s : Subject}

/-- Checking refuses what does not pass, and never for want of the column. -/
theorem check_restricts (hd : s.Declared) (value : Value) :
    Restricts (∀ o ∈ s.occurrences [value], o.Passes) (s.check true value)
      (s.check false value) := by
  have hlax : s.check false value = .ok () := by simp [check]
  rw [hlax]
  unfold check occurrences Occurrence.beside
  cases hj : s.reference.viaJoin && value.isNull with
  | true =>
    refine (Restricts.refl _).congr ?_
    cases s.owner <;> simp_all
  | false =>
    cases ho : s.owner with
    | none => exact (Restricts.refl _).congr (by simp)
    | some owner =>
      obtain ⟨table, column⟩ := owner
      have hc := hd table column ho
      simp only [Bool.not_true, Bool.false_or, Bool.false_eq_true, if_false, Option.map_some,
        List.filter_cons, hj, Bool.not_false, if_true, List.filter_nil, List.map_cons,
        List.map_nil, List.mem_singleton, forall_eq, Occurrence.Passes]
      cases hr : table.check s.reference.column value with
      | ok u => exact (Restricts.refl _).congr (by simp)
      | error e =>
        have he : e.isRefusal = true := by
          rw [Table.check, hc] at hr
          exact check_refusal hr
        exact ⟨fun _ _ hp => (nomatch hp), fun _ _ _ => ⟨e, rfl, he⟩, fun _ h => (nomatch h)⟩

theorem passes_cons (s : Subject) (value : Value) (rest : List Value) :
    (∀ o ∈ s.occurrences (value :: rest), o.Passes) ↔
      (∀ o ∈ s.occurrences [value], o.Passes) ∧ ∀ o ∈ s.occurrences rest, o.Passes := by
  rw [occurrences, Occurrence.beside_cons, List.forall_mem_append]

theorem literals_restricts (hd : s.Declared) (values : List Value) :
    Restricts (∀ o ∈ s.occurrences values, o.Passes) (s.checkedLiterals true values)
      (s.checkedLiterals false values) := by
  induction values with
  | nil =>
    refine (Restricts.refl _).congr ?_
    unfold occurrences Occurrence.beside
    cases s.owner <;> simp
  | cons value rest ih =>
    have hc := check_restricts hd value
    refine (hc.bind fun _ _ => ?_).congr (passes_cons s value rest).symm
    exact Restricts.bind_after _ fun literal _ => ih.bind_same _

end Subject

namespace Predicate

variable {s : Subject}

theorem between_restricts (hd : s.Declared) (value : Value) :
    Restricts (∀ o ∈ s.occurrences (comparedValues "BETWEEN" value), o.Passes)
      (settleBetween s true value) (settleBetween s false value) := by
  by_cases hv : ∃ low high, value = .list [low, high]
  · obtain ⟨low, high, rfl⟩ := hv
    have hl := Subject.check_restricts hd low
    have hh := Subject.check_restricts hd high
    simp only [settleBetween, comparedValues, if_pos]
    split
    · exact .of_error rfl rfl
    · exact (hl.bind fun _ _ => hh.bind_same _).congr (Subject.passes_cons s low [high]).symm
  · have herror (validate : Bool) :
        settleBetween s validate value = .error (.badBetween s.reference.column) := by
      unfold settleBetween
      split
      · exact absurd ⟨_, _, rfl⟩ hv
      · rfl
    exact .of_error (herror true) (herror false)

theorem member_restricts (hd : s.Declared) {operator : String}
    (ho : operator = "IN" ∨ operator = "NOT IN") (value : Value) :
    Restricts (∀ o ∈ s.occurrences (comparedValues operator value), o.Passes)
      (settleMember s true operator value) (settleMember s false operator value) := by
  have hb : operator ≠ "BETWEEN" := by
    rcases ho with ho | ho <;> simp [ho]
  unfold comparedValues
  rw [if_neg hb, if_pos ho]
  cases value with
  | list items =>
    have hi := Subject.literals_restricts hd items
    cases items with
    | nil => exact hi.bind_same fun _ => settleMember s true operator (.list [])
    | cons item rest => exact hi.bind_same _
  | _ => exact .of_error rfl rfl

theorem compare_restricts (hd : s.Declared) {operator : String} (hb : operator ≠ "BETWEEN")
    (ho : ¬(operator = "IN" ∨ operator = "NOT IN")) (value : Value) :
    Restricts (∀ o ∈ s.occurrences (comparedValues operator value), o.Passes)
      (settleCompare s true operator value) (settleCompare s false operator value) := by
  unfold settleCompare comparedValues
  rw [if_neg hb, if_neg ho]
  exact (Subject.check_restricts hd value).bind_same _

theorem on_restricts (schema : Schema) (scope : Scope) (column operator : String)
    (value : Value) :
    Restricts (∀ o ∈ Occurrence.beside ((scope.resolve column).table.bind schema.table?)
        (scope.resolve column) (comparedValues operator value), o.Passes)
      (settleOn schema { scope with validate := true } column operator value)
      (settleOn schema { scope with validate := false } column operator value) := by
  unfold settleOn
  refine Restricts.bind_after (Subject.find schema scope column) fun s hs => ?_
  obtain ⟨hr, hd, ho⟩ := Subject.find_owner hs
  rw [← hr, ← ho]
  split
  · rename_i hb
    rw [hb]
    exact between_restricts hd value
  · rename_i hb
    split
    · rename_i hm
      exact member_restricts hd hm value
    · rename_i hm
      exact compare_restricts hd hb hm value

theorem search_columns_validate (schema : Schema) (scope : Scope) (validate : Bool)
    (names : List String) :
    searchColumns schema { scope with validate } names = searchColumns schema scope names := by
  induction names with
  | nil => rfl
  | cons name rest ih =>
    simp only [searchColumns, ih]
    rfl

theorem search_restricts (schema : Schema) (scope : Scope) (p : Predicate) :
    Restricts True (settleSearch schema { scope with validate := true } p)
      (settleSearch schema { scope with validate := false } p) := by
  simp only [settleSearch, search_columns_validate]
  exact .refl _

theorem settle_restricts (schema : Schema) (scope : Scope) (p : Predicate) :
    Restricts (∀ o ∈ p.occurrences schema scope, o.Passes)
      (p.settle schema { scope with validate := true })
      (p.settle schema { scope with validate := false }) := by
  unfold settle occurrences
  refine Restricts.bind_after (p.settledOperator scope.filtering) fun operator ho => ?_
  rw [settled_operator ho]
  by_cases hm : p.effectiveOperator scope.filtering = "MATCH"
  · simp only [if_pos hm]
    refine (search_restricts schema scope p).congr ?_
    cases p.column <;> simp
  · simp only [if_neg hm]
    cases p.column with
    | one column => exact on_restricts schema scope column _ p.value
    | many names => exact .of_error rfl rfl

end Predicate

namespace Condition

variable {schema : Schema} {scope : Scope}

theorem clauses_all_restricts {conditions : List Condition}
    (each : ∀ c ∈ conditions, Restricts (∀ o ∈ c.occurrences schema scope, o.Passes)
      (clauses schema { scope with validate := true } c).result
      (clauses schema { scope with validate := false } c).result) :
    Restricts (∀ o ∈ occurrencesAll schema scope conditions, o.Passes)
      (clausesAll schema { scope with validate := true } conditions).result
      (clausesAll schema { scope with validate := false } conditions).result := by
  induction conditions with
  | nil => exact (Restricts.refl _).congr (by simp [occurrencesAll])
  | cons condition rest ih =>
    have hc := each condition (List.mem_cons_self ..)
    have hr := ih (fun c hm => each c (List.mem_cons_of_mem _ hm))
    simp only [clausesAll, Traced.result_bind]
    refine (hc.bind fun _ _ => hr.bind_same _).congr ?_
    rw [occurrencesAll, List.forall_mem_append]

/-- One tree with and without checks. -/
theorem clauses_restricts (c : Condition) :
    Restricts (∀ o ∈ c.occurrences schema scope, o.Passes)
      (clauses schema { scope with validate := true } c).result
      (clauses schema { scope with validate := false } c).result := by
  induction c using Condition.induct with
  | predicate p =>
    simp only [clauses, Predicate.result_clauses]
    exact (Predicate.settle_restricts schema scope p).map _
  | raw sql => exact (Restricts.refl _).congr (by simp [occurrences])
  | group glue children ih =>
    simp only [result_group, occurrences]
    exact (clauses_all_restricts ih).map _

theorem compile_restricts (schema : Schema) (scope : Scope) (conditions : List Condition) :
    Restricts (∀ o ∈ occurrencesAll schema scope conditions, o.Passes)
      (compile schema { scope with validate := true } conditions).result
      (compile schema { scope with validate := false } conditions).result := by
  simp only [compile, Traced.result_bind]
  exact Restricts.bind_after (scope.getTable schema) fun _ _ =>
    clauses_all_restricts fun c _ => clauses_restricts c

/-- Validation leaves every text as it is and refuses exactly the conditions in which a value that
is checked does not pass. -/
theorem validation_only_refuses (style : Quoting) (schema : Schema) (scope : Scope)
    (conditions : List Condition) :
    (∀ sql, compiledSql style schema { scope with validate := true } conditions = .ok sql ↔
      compiledSql style schema { scope with validate := false } conditions = .ok sql ∧
        ∀ o ∈ occurrencesAll schema scope conditions, o.Passes) ∧
    (∀ sql e, compiledSql style schema { scope with validate := false } conditions = .ok sql →
      compiledSql style schema { scope with validate := true } conditions = .error e →
        e.isRefusal = true) := by
  have h := (compile_restricts schema scope conditions).map (Clause.joined style scope.glue)
  constructor
  · intro sql
    exact h.ok_iff sql
  · intro sql e hl hs
    exact h.error_refusal hl hs

/-- A text for a number is written without validation and refused with it. -/
theorem validation_only_refuses_number :
    compiledSql .mysql Sample.schema { Scope.filter "users" with validate := false }
        [.group .or [.predicate ⟨.one "id", ">", .text "ten"⟩]] = .ok "(`users`.`id` > 'ten')" ∧
      compiledSql .mysql Sample.schema { Scope.filter "users" with validate := true }
        [.group .or [.predicate ⟨.one "id", ">", .text "ten"⟩]] =
          .error (.notNumeric "users" "id") ∧
      (Error.notNumeric "users" "id").isRefusal = true ∧
      ¬∀ o ∈ occurrencesAll Sample.schema (.filter "users")
        [.group .or [.predicate ⟨.one "id", ">", .text "ten"⟩]], o.Passes := by
  have hl : compiledSql .mysql Sample.schema { Scope.filter "users" with validate := false }
      [.group .or [.predicate ⟨.one "id", ">", .text "ten"⟩]] =
        .ok "(`users`.`id` > 'ten')" := by rfl
  have hs : compiledSql .mysql Sample.schema { Scope.filter "users" with validate := true }
      [.group .or [.predicate ⟨.one "id", ">", .text "ten"⟩]] =
        .error (.notNumeric "users" "id") := by rfl
  obtain ⟨hok, hrefusal⟩ := validation_only_refuses .mysql Sample.schema (.filter "users")
    [.group .or [.predicate ⟨.one "id", ">", .text "ten"⟩]]
  refine ⟨hl, hs, hrefusal _ _ hl hs, fun hp => ?_⟩
  cases hs.symm.trans ((hok _).mpr ⟨hl, hp⟩)

end Condition

end SqlBuilder

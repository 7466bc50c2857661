import SqlBuilder.Proofs.Spellings

/-!
Integers in inputs. A document that has an integer at one place, at any depth, is followed through
the reader for all integers at once. If it is read for one of them it is read for every other, and
then the integer stands at one place of the conditions, in the value of a predicate.
-/

namespace SqlBuilder

/-! ### Places -/

/-- Documents that differ only in the integer at one place. -/
inductive Json.Slot : (Int → Json) → Prop where
  | here : Slot .integer
  | item (before after : List Json) {inner : Int → Json} (deeper : Slot inner) :
      Slot fun n => .array (before ++ inner n :: after)
  | member (before after : List (String × Json)) (name : String) {inner : Int → Json}
      (deeper : Slot inner) : Slot fun n => .object (before ++ (name, inner n) :: after)

/-- Values that differ only in the integer at one place. -/
inductive Value.Slot : (Int → Value) → Prop where
  | here : Slot .integer
  | item (before after : List Value) {inner : Int → Value} (deeper : Slot inner) :
      Slot fun n => .list (before ++ inner n :: after)

namespace Condition

/-- Conditions that differ only in an integer in the value of one predicate, which tests the
column. -/
inductive Slot (column : ColumnRef) : (Int → Condition) → Prop where
  | predicate (operator : String) {value : Int → Value} (place : Value.Slot value) :
      Slot column fun n => .predicate ⟨column, operator, value n⟩
  | member (glue : Glue) (before after : List Condition) {inner : Int → Condition}
      (deeper : Slot column inner) : Slot column fun n => .group glue (before ++ inner n :: after)

/-- Lists of conditions that differ only there. -/
def Among (column : ColumnRef) (conditions : Int → List Condition) : Prop :=
  ∃ before after inner, Slot column inner ∧ conditions = fun n => before ++ inner n :: after

end Condition

/-! ### Steps for all integers at once -/

/-- If the step succeeds for one integer it does so for all, and its results are of this kind. -/
def Carries {α : Type} (P : (Int → α) → Prop) (step : Int → Except Error α) : Prop :=
  ∀ m a, step m = .ok a → ∃ f, P f ∧ ∀ n, step n = .ok (f n)

namespace Carries

variable {α β : Type} {P : (Int → α) → Prop} {Q : (Int → β) → Prop} {step : Int → Except Error α}

theorem congr {other : Int → Except Error α} (h : Carries P other) (same : ∀ n, step n = other n) :
    Carries P step := by
  rw [funext same]
  exact h

theorem fails {e : Int → Error} (h : ∀ n, step n = .error (e n)) : Carries P step := by
  intro m a hm
  rw [h m] at hm
  cases hm

theorem done {f : Int → α} (h : P f) : Carries P fun n => pure (f n) := by
  intro m a hm
  exact ⟨f, h, fun n => rfl⟩

/-- A step that the integer does not take part in comes first. -/
theorem after (first : Except Error β) {next : β → Int → Except Error α}
    (h : ∀ b, Carries P (next b)) : Carries P fun n => first >>= fun b => next b n := by
  cases first with
  | error e => exact fails (fun n => rfl)
  | ok b => exact h b

theorem bind {next : α → Except Error β} (h : Carries P step)
    (each : ∀ f, P f → Carries Q fun n => next (f n)) : Carries Q fun n => step n >>= next := by
  intro m b hm
  obtain ⟨a, ha, hb⟩ := bind_ok.mp hm
  obtain ⟨f, hf, hall⟩ := h m a ha
  have hnext : next (f m) = .ok b := by
    rw [← Except.ok.inj (ha.symm.trans (hall m))]
    exact hb
  obtain ⟨g, hg, hgall⟩ := each f hf m b hnext
  exact ⟨g, hg, fun n => bind_ok.mpr ⟨f n, hall n, hgall n⟩⟩

theorem map {g : α → β} (h : Carries P step) (each : ∀ f, P f → Q fun n => g (f n)) :
    Carries Q fun n => (step n).map g := by
  intro m b hm
  obtain ⟨a, ha, -⟩ := map_ok.mp hm
  obtain ⟨f, hf, hall⟩ := h m a ha
  exact ⟨_, each f hf, fun n => map_ok.mpr ⟨f n, hall n, rfl⟩⟩

end Carries

/-! ### Values -/

theorem Value.of_items_append (before after : List Json) (item : Json) :
    Value.ofItems? (before ++ item :: after) = do
      let xs ← Value.ofItems? before
      let x ← Value.ofJson? item
      let ys ← Value.ofItems? after
      return xs ++ x :: ys := by
  induction before with
  | nil => simp [Value.ofItems?]
  | cons first rest ih => simp [Value.ofItems?, ih, Option.bind_assoc]

theorem Value.of_slot {x : Int → Json} (h : Json.Slot x) {m : Int} {value : Value}
    (hm : Value.ofJson? (x m) = some value) :
    ∃ f, Value.Slot f ∧ ∀ n, Value.ofJson? (x n) = some (f n) := by
  induction h generalizing value with
  | here => exact ⟨.integer, .here, fun n => rfl⟩
  | @item before after inner deeper ih =>
    simp only [Value.ofJson?, Value.of_items_append] at hm
    obtain ⟨items, hm, -⟩ := Option.map_eq_some_iff.mp hm
    obtain ⟨xs, hx, hm⟩ := Option.bind_eq_some_iff.mp hm
    obtain ⟨v, hv, hm⟩ := Option.bind_eq_some_iff.mp hm
    obtain ⟨ys, hy, -⟩ := Option.bind_eq_some_iff.mp hm
    obtain ⟨f, hf, hall⟩ := ih hv
    refine ⟨_, .item xs ys hf, fun n => ?_⟩
    simp only [Value.ofJson?, Value.of_items_append, hx, hall n, hy]
    rfl
  | member before after name deeper => cases hm

namespace Condition

variable {table : Option Table} {key : Key} {x : Int → Json}

theorem value_carried (h : Json.Slot x) : Carries Value.Slot fun n => readValue (x n) := by
  intro m value hm
  dsimp only [readValue] at hm
  split at hm
  · rename_i hv
    obtain ⟨f, hf, hall⟩ := Value.of_slot h hv
    exact ⟨f, hf, fun n => by simp only [readValue, hall n]⟩
  · cases hm

/-! ### Where an integer cannot stand -/

theorem tag_of_slot (h : Json.Slot x) (n : Int) : logicalTag? (x n) = none := by
  cases h <;> rfl

theorem operator_of_slot (h : Json.Slot x) (n : Int) :
    readOperator (x n) = .error (.malformedCondition (.operatorNotText (x n))) := by
  cases h <;> rfl

theorem names_of_slot (h : Json.Slot x) (before after : List Json) (n : Int) :
    readColumnNames (before ++ x n :: after) = none := by
  induction before with
  | nil => cases h <;> rfl
  | cons first rest ih =>
    cases first with
    | string name =>
      rw [List.cons_append, readColumnNames, ih]
      rfl
    | null | bool | integer | float | array | object => rfl

theorem column_of_names {items : List Json} (h : readColumnNames items = none) :
    readColumn (.array items) = .error .columnNotText := by
  cases items with
  | nil => rfl
  | cons first rest => rw [readColumn, h]

theorem column_of_slot (h : Json.Slot x) (n : Int) : readColumn (x n) = .error .columnNotText := by
  cases h with
  | here => rfl
  | member => rfl
  | item before after deeper => exact column_of_names (names_of_slot deeper before after n)

/-! ### Predicates -/

/-- Conditions that differ only in an integer in the value of one predicate. -/
def Placed (f : Int → Condition) : Prop := ∃ column, Slot column f

theorem test_carried (h : Json.Slot x) (column : ColumnRef) (operator : String) :
    Carries Placed fun n => do
      let value ← readValue (x n)
      return .predicate ⟨column, operator, value⟩ :=
  (value_carried h).bind fun _ place => .done ⟨column, .predicate operator place⟩

theorem first_carried (table : Option Table) (key : Key) (h : Json.Slot x) (second : Json) :
    Carries Placed fun n => readPair table key (x n) second := by
  cases key with
  | positional =>
    refine .fails (e := fun _ => .columnNotText) fun n => ?_
    rw [readPair, column_of_slot h]
    rfl
  | named column =>
    by_cases point : isPointColumn table column = true
    · refine Carries.congr (test_carried (.item [] [second] h) (.one column) "=") fun n => ?_
      simp only [readPair, point]
      rfl
    · refine .fails (e := fun n => .malformedCondition (.operatorNotText (x n))) fun n => ?_
      simp only [readPair, point, operator_of_slot h]
      rfl

theorem second_carried (table : Option Table) (key : Key) (h : Json.Slot x) (first : Json) :
    Carries Placed fun n => readPair table key first (x n) := by
  cases key with
  | positional => exact .after (readColumn first) fun column => test_carried h column "="
  | named column =>
    by_cases point : isPointColumn table column = true
    · refine Carries.congr (test_carried (.item [first] [] h) (.one column) "=") fun n => ?_
      simp only [readPair, point]
      rfl
    · refine Carries.congr (.after (readOperator first) fun operator =>
        test_carried h (.one column) operator) fun n => ?_
      simp only [readPair, point]
      rfl

/-- Only the last of three can hold an integer. -/
theorem triple_carried (h : Json.Slot x) (column operator : Json) :
    Carries Placed fun n => readTriple column operator (x n) :=
  .after (readColumn column) fun column => .after (readOperator operator) fun operator =>
    test_carried h column operator

theorem operator_carried (h : Json.Slot x) (column value : Json) :
    Carries Placed fun n => readTriple column (x n) value := by
  refine .after (readColumn column) fun column =>
    .fails (e := fun n => .malformedCondition (.operatorNotText (x n))) fun n => ?_
  simp only [operator_of_slot h]
  rfl

theorem column_carried (h : Json.Slot x) (operator value : Json) :
    Carries Placed fun n => readTriple (x n) operator value := by
  refine .fails (e := fun _ => .columnNotText) fun n => ?_
  rw [readTriple, column_of_slot h]
  rfl

/-! ### Levels -/

/-- Lists of conditions that differ only in an integer in the value of one predicate. -/
def PlacedAmong (f : Int → List Condition) : Prop := ∃ column, Among column f

theorem entries_carried (before after : List (Key × Json))
    (h : Carries Placed fun n => readEntry table key (x n)) :
    Carries PlacedAmong fun n =>
      (before ++ (key, x n) :: after).mapM fun entry => readEntry table entry.1 entry.2 := by
  intro m out hm
  simp only [List.mapM_append, List.mapM_cons, bind_ok, pure_ok] at hm
  obtain ⟨xs, hx, _, ⟨c, hc, zs, hz, rfl⟩, rfl⟩ := hm
  obtain ⟨f, ⟨column, hs⟩, hall⟩ := h m c hc
  refine ⟨fun n => xs ++ f n :: zs, ⟨column, xs, zs, f, hs, rfl⟩, fun n => ?_⟩
  simp only [List.mapM_append, List.mapM_cons, hx, hz, hall n]
  rfl

theorem items_carried (before after : List Json)
    (h : Carries Placed fun n => readEntry table .positional (x n)) :
    Carries PlacedAmong fun n => read table (.array (before ++ x n :: after)) := by
  refine Carries.congr (entries_carried (before.map fun item => (.positional, item))
    (after.map fun item => (.positional, item)) h) fun n => ?_
  rw [read_level rfl]
  simp [Json.entries]

theorem members_carried (before after : List (String × Json)) (name : String)
    (h : Carries Placed fun n => readEntry table (Key.ofName name) (x n)) :
    Carries PlacedAmong fun n => read table (.object (before ++ (name, x n) :: after)) := by
  refine Carries.congr (entries_carried (before.map fun member => (Key.ofName member.1, member.2))
    (after.map fun member => (Key.ofName member.1, member.2)) h) fun n => ?_
  rw [read_level rfl]
  simp [Json.entries]

theorem grouped_carried (glue : Glue) (h : Carries PlacedAmong fun n => read table (x n)) :
    Carries Placed fun n => (read table (x n)).map (.group glue) := by
  refine h.map fun f among => ?_
  obtain ⟨column, before, after, inner, place, rfl⟩ := among
  exact ⟨column, .member glue before after place⟩

theorem group_carried (glue : Glue) (fault : Int → Error) (place : Json.Slot x)
    (h : Carries PlacedAmong fun n => read table (x n)) :
    Carries Placed fun n => readGroup table glue (fault n) (x n) := by
  have hlevel := grouped_carried glue h
  cases place with
  | here =>
    refine .fails (e := fault) fun n => ?_
    unfold readGroup
    rfl
  | item before after deeper => exact hlevel.congr fun n => read_group_level _ rfl
  | member before after name deeper => exact hlevel.congr fun n => read_group_level _ rfl

/-! ### Entries -/

/-- An array of one item is no entry unless it is an object of one member. -/
theorem read_alone (plain : key.logical? = none) {item : Json}
    (h : ∀ name level, item ≠ .object [(name, level)]) :
    readEntry table key (.array [item]) = .error (.malformedCondition (.itemCount 1)) := by
  unfold readEntry
  simp only [plain]
  split
  · rename_i name level he
    exact absurd (List.cons.inj he).1 (h name level)
  · rename_i he
    cases he
  · rename_i he
    cases he
  · rfl

/-- The object alone in an array is read as it is by itself, if its name is a tag. -/
theorem read_listed (plain : key.logical? = none) {name : String} {glue : Glue}
    (tag : Glue.logical? name = some glue) (level : Json) :
    readEntry table key (.array [.object [(name, level)]]) =
      readEntry table .positional (.object [(name, level)]) := by
  have hpositional : Key.positional.logical? = none := rfl
  unfold readEntry
  simp only [plain, hpositional, tag]

theorem alone_carried (plain : key.logical? = none) (place : Json.Slot x)
    (entry : Carries Placed fun n => readEntry table .positional (x n)) :
    Carries Placed fun n => readEntry table key (.array [x n]) := by
  cases place with
  | here => exact .fails fun n => read_alone plain (by simp)
  | item before after deeper => exact .fails fun n => read_alone plain (by simp)
  | @member before after name inner deeper =>
    cases before with
    | cons first rest => exact .fails fun n => read_alone plain (by simp)
    | nil =>
      cases after with
      | cons next rest => exact .fails fun n => read_alone plain (by simp)
      | nil =>
        cases tag : Glue.logical? name with
        | some glue =>
          -- the level inside is two steps down, and the entry for the object reaches it
          exact entry.congr fun n => read_listed plain tag (inner n)
        | none =>
          refine .fails (e := fun _ => .malformedCondition (.itemCount 1)) fun n => ?_
          unfold readEntry
          simp only [plain, tag, List.nil_append]

theorem pair_carried (plain : key.logical? = none) (place : Json.Slot x) (second : Json) :
    Carries Placed fun n => readEntry table key (.array [x n, second]) := by
  refine Carries.congr (first_carried table key place second) fun n => ?_
  unfold readEntry
  simp only [plain, tag_of_slot place]

theorem paired_carried (plain : key.logical? = none) (place : Json.Slot x)
    (level : Carries PlacedAmong fun n => read table (x n)) (first : Json) :
    Carries Placed fun n => readEntry table key (.array [first, x n]) := by
  cases tag : logicalTag? first with
  | some glue =>
    refine Carries.congr (group_carried glue (fun _ => .operatorNeedsList (shownTag first)) place
      level) fun n => ?_
    unfold readEntry
    simp only [plain, tag]
  | none =>
    refine Carries.congr (second_carried table key place first) fun n => ?_
    unfold readEntry
    simp only [plain, tag]

theorem read_three (plain : key.logical? = none) (column operator value : Json) :
    readEntry table key (.array [column, operator, value]) = readTriple column operator value := by
  unfold readEntry
  simp only [plain]

theorem read_many_items (plain : key.logical? = none) (a b c d : Json) (rest : List Json) :
    readEntry table key (.array (a :: b :: c :: d :: rest)) =
      .error (.malformedCondition (.itemCount (rest.length + 4))) := by
  unfold readEntry
  simp only [plain]
  rfl

theorem array_carried (place : Json.Slot x)
    (entry : Carries Placed fun n => readEntry table .positional (x n))
    (level : Carries PlacedAmong fun n => read table (x n)) (before after : List Json) (key : Key) :
    Carries Placed fun n => readEntry table key (.array (before ++ x n :: after)) := by
  cases hk : key.logical? with
  | some glue =>
    refine Carries.congr (grouped_carried glue (items_carried before after entry)) fun n => ?_
    exact read_entry_named hk rfl
  | none =>
    -- how many items there are decides the rule, and where the integer is what it reads there
    match before, after with
    | [], [] => exact alone_carried hk place entry
    | [], [second] => exact pair_carried hk place second
    | [first], [] => exact paired_carried hk place level first
    | [], [operator, value] =>
      exact (column_carried place operator value).congr fun n => read_three hk _ _ _
    | [column], [value] =>
      exact (operator_carried place column value).congr fun n => read_three hk _ _ _
    | [column, operator], [] =>
      exact (triple_carried place column operator).congr fun n => read_three hk _ _ _
    | [], b :: c :: d :: rest => exact .fails fun n => read_many_items hk _ _ _ _ _
    | [a], c :: d :: rest => exact .fails fun n => read_many_items hk _ _ _ _ _
    | [a, b], d :: rest => exact .fails fun n => read_many_items hk _ _ _ _ _
    | [a, b, c], after => exact .fails fun n => read_many_items hk _ _ _ _ _
    | a :: b :: c :: d :: rest, after => exact .fails fun n => read_many_items hk _ _ _ _ _

theorem wrapped_carried (plain : key.logical? = none) (place : Json.Slot x)
    (level : Carries PlacedAmong fun n => read table (x n)) (name : String) :
    Carries Placed fun n => readEntry table key (.object [(name, x n)]) := by
  cases tag : Glue.logical? name with
  | some glue =>
    refine Carries.congr (group_carried glue (fun _ => .operatorNeedsList glue.word) place level)
      fun n => ?_
    unfold readEntry
    simp only [plain, tag]
  | none =>
    refine .fails (e := fun _ => .malformedCondition (.entryCount 1)) fun n => ?_
    unfold readEntry
    simp only [plain, tag]

/-- The group that `sub` and `operator` make. -/
def readSub (table : Option Table) (level operator : Json) : Except Error Condition :=
  (logicalTag? operator).elim (.error (.subGroupOperator (shownTag operator)))
    fun glue => readGroup table glue (.malformedCondition .subNotMapping) level

theorem read_two_members (plain : key.logical? = none) (name name' : String)
    (inner inner' : Json) :
    readEntry table key (.object [(name, inner), (name', inner')]) =
      if key = .positional ∧ name = "sub" ∧ name' = "operator" then readSub table inner inner'
      else if key = .positional ∧ name = "operator" ∧ name' = "sub" then readSub table inner' inner
      else .error (.malformedCondition (.entryCount 2)) := by
  unfold readEntry readSub
  simp only [plain]
  cases logicalTag? inner <;> cases logicalTag? inner' <;> rfl

theorem sub_carried (place : Json.Slot x) (level : Carries PlacedAmong fun n => read table (x n))
    (operator : Json) : Carries Placed fun n => readSub table (x n) operator := by
  unfold readSub
  cases logicalTag? operator with
  | some glue => exact group_carried glue (fun _ => .malformedCondition .subNotMapping) place level
  | none => exact .fails fun n => rfl

theorem sub_operator_carried (place : Json.Slot x) (level : Json) :
    Carries Placed fun n => readSub table level (x n) := by
  refine .fails (e := fun n => .subGroupOperator (shownTag (x n))) fun n => ?_
  rw [readSub, tag_of_slot place]
  rfl

theorem read_many_members (plain : key.logical? = none) (a b c : String × Json)
    (rest : List (String × Json)) :
    readEntry table key (.object (a :: b :: c :: rest)) =
      .error (.malformedCondition (.entryCount (rest.length + 3))) := by
  unfold readEntry
  simp only [plain]
  rfl

theorem object_carried (place : Json.Slot x) (name : String)
    (entry : Carries Placed fun n => readEntry table (Key.ofName name) (x n))
    (level : Carries PlacedAmong fun n => read table (x n)) (before after : List (String × Json))
    (key : Key) :
    Carries Placed fun n => readEntry table key (.object (before ++ (name, x n) :: after)) := by
  cases hk : key.logical? with
  | some glue =>
    refine Carries.congr (grouped_carried glue (members_carried before after name entry))
      fun n => ?_
    exact read_entry_named hk rfl
  | none =>
    match before, after with
    | [], [] => exact wrapped_carried hk place level name
    | [], [(other, json)] =>
      refine Carries.congr ?_ fun n => read_two_members hk name other (x n) json
      split
      · exact sub_carried place level json
      · split
        · exact sub_operator_carried place json
        · exact .fails fun n => rfl
    | [(other, json)], [] =>
      refine Carries.congr ?_ fun n => read_two_members hk other name json (x n)
      split
      · exact sub_operator_carried place json
      · split
        · exact sub_carried place level json
        · exact .fails fun n => rfl
    | [], b :: c :: rest => exact .fails fun n => read_many_members hk _ _ _ _
    | [a], c :: rest => exact .fails fun n => read_many_members hk _ _ _ _
    | [a, b], after => exact .fails fun n => read_many_members hk _ _ _ _
    | a :: b :: c :: rest, after => exact .fails fun n => read_many_members hk _ _ _ _

theorem integer_carried (table : Option Table) (key : Key) :
    Carries Placed fun n => readEntry table key (.integer n) := by
  cases key with
  | positional =>
    refine .fails (e := fun n => .malformedCondition (.positionalItem (.integer n))) fun n => ?_
    unfold readEntry
    rfl
  | named name =>
    refine Carries.congr (test_carried .here (.one name) "=") fun n => ?_
    unfold readEntry
    rfl

theorem id_carried (table : Option Table) :
    Carries PlacedAmong fun n => read table (.integer n) :=
  .done ⟨.one "id", [], [], _, .predicate "=" .here, rfl⟩

/-- Both of an entry and of a whole input: if it is read for one integer at a place of it, it is
read for all, and the integer is in the value of a predicate. -/
theorem slot_carried (table : Option Table) (h : Json.Slot x) :
    (∀ key, Carries Placed fun n => readEntry table key (x n)) ∧
      Carries PlacedAmong fun n => read table (x n) := by
  induction h with
  | here => exact ⟨integer_carried table, id_carried table⟩
  | item before after deeper ih =>
    have hentry := ih.1 .positional
    exact ⟨array_carried deeper hentry ih.2 before after, items_carried before after hentry⟩
  | member before after name deeper ih =>
    have hentry := ih.1 (Key.ofName name)
    exact ⟨object_carried deeper name hentry ih.2 before after,
      members_carried before after name hentry⟩

theorem read_in_carried (schema : Schema) (scope : Scope) (h : Json.Slot x) :
    Carries PlacedAmong fun n => readIn schema scope (x n) :=
  .after (scope.getTable schema) fun table => (slot_carried table h).2

end Condition

end SqlBuilder

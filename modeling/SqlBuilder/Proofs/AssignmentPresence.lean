import SqlBuilder.Proofs.FilterPresence
import SqlBuilder.Proofs.ValidationSwitch

/-!
When a statement has assignments. Data that is empty by its shape makes no update, and an insertion
of defaults. Any other data is written after `SET`, where nothing stands exactly if nothing is left
of what the data says.
-/

namespace SqlBuilder.Statement

/-- The text is the head, the text of the data after `SET`, and the tail. There is nothing after
`SET` exactly if all that the data says is vacuous. -/
def ShowsData (style : Quoting) (schema : Schema) (validate : Bool) (table : String)
    (data : Json) (head tail sql : String) : Prop :=
  ∃ declared conditions text, schema.table? table = some declared ∧
    Condition.read (some declared) data = .ok conditions ∧
    Condition.compiledSql style schema (assignmentScope table validate) conditions = .ok text ∧
    sql = head ++ " SET " ++ text ++ tail ∧ (text = "" ↔ ∀ c ∈ conditions, c.Vacuous)

section

variable {schema : Schema} {validate : Bool} {table : String} {filter data : Json}

theorem shows_data {assignments : List Clause} (style : Quoting) (head tail : String)
    (h : (Condition.compileInput schema (assignmentScope table validate) data).result =
      .ok assignments) :
    ShowsData style schema validate table data head tail
      (head ++ " SET " ++ Clause.joined style .comma assignments ++ tail) := by
  obtain ⟨found, conditions, hf, hr, hc⟩ := Condition.compile_input_ok h
  obtain ⟨declared, hd, rfl⟩ := map_ok.mp hf
  have ht : Condition.compiledSql style schema (assignmentScope table validate) conditions =
      .ok (Clause.joined style .comma assignments) := map_ok.mpr ⟨assignments, hc, rfl⟩
  refine ⟨declared, conditions, _, Subject.get_table_ok hd, hr, ht, rfl, ?_⟩
  rw [Clause.joined_eq_empty, Condition.compile_empty_iff hc]

/-- Data that is not empty is compiled, after the filter. -/
theorem of_update_ok {statement : Option Statement} (hd : data.isEmptyInput = false)
    (h : (ofUpdate schema validate table filter data).result = .ok statement) :
    ∃ clauses assignments,
      (Condition.compileInput schema (filterScope table validate) filter).result = .ok clauses ∧
      (Condition.compileInput schema (assignmentScope table validate) data).result =
        .ok assignments ∧
      statement = some (.update table assignments clauses) := by
  simp only [ofUpdate, hd, Bool.false_eq_true, if_false, Traced.result_bind,
    Traced.result_pure] at h
  obtain ⟨clauses, hc, h⟩ := bind_ok.mp h
  obtain ⟨assignments, ha, h⟩ := bind_ok.mp h
  exact ⟨clauses, assignments, hc, ha, (pure_ok.mp h).symm⟩

/-- There is no update exactly if the data is empty by its shape. -/
theorem of_update_none :
    (ofUpdate schema validate table filter data).result = .ok none ↔ data.isEmptyInput = true := by
  cases hd : data.isEmptyInput with
  | true =>
    rw [ofUpdate, if_pos hd]
    exact iff_of_true rfl rfl
  | false =>
    refine iff_of_false (fun h => ?_) Bool.false_ne_true
    obtain ⟨_, _, _, _, hs⟩ := of_update_ok hd h
    cases hs

/-- Data that is not empty is checked, if it has to be, and compiled. -/
theorem of_insert_ok {verb : InsertVerb} {statement : Statement} (hd : data.isEmptyInput = false)
    (h : (ofInsert schema validate verb table data).result = .ok statement) :
    (validate = true → checkData schema table data = .ok ()) ∧
      ∃ assignments, (Condition.compileInput schema (assignmentScope table validate) data).result =
          .ok assignments ∧
        statement = .insert verb table assignments := by
  rw [ofInsert, if_neg (by simp [hd])] at h
  cases validate with
  | false =>
    simp only [Bool.false_eq_true, if_false, Traced.result_bind] at h
    obtain ⟨assignments, ha, h⟩ := bind_ok.mp h
    exact ⟨fun hv => absurd hv (by decide), assignments, ha, (pure_ok.mp h).symm⟩
  | true =>
    simp only [if_true, Traced.result_bind] at h
    obtain ⟨_, hc, h⟩ := bind_ok.mp h
    obtain ⟨assignments, ha, h⟩ := bind_ok.mp h
    exact ⟨fun _ => hc, assignments, ha, (pure_ok.mp h).symm⟩

end

/-- Statements with `SET` have assignments exactly if something that the data says is left, and
there is no statement, or one without `SET`, exactly if the data is empty by its shape. -/
theorem set_unless_vacuous (style : Quoting) (schema : Schema) (validate : Bool) (table : String)
    (filter data : Json) :
    ((ofUpdate schema validate table filter data).result = .ok none ↔
      data.isEmptyInput = true) ∧
    (∀ statement, (ofUpdate schema validate table filter data).result = .ok (some statement) →
      ∃ clauses,
        (Condition.compileInput schema (filterScope table validate) filter).result = .ok clauses ∧
        ShowsData style schema validate table data ("UPDATE " ++ Identifier.quote table)
          (whereSql style clauses) (statement.sql style)) ∧
    (∀ verb statement, (ofInsert schema validate verb table data).result = .ok statement →
      if data.isEmptyInput then
        statement.sql style = verb.word ++ " INTO " ++ Identifier.quote table ++ "() VALUES()"
      else
        ShowsData style schema validate table data
          (verb.word ++ " INTO " ++ Identifier.quote table) "" (statement.sql style)) := by
  refine ⟨of_update_none, ?_, ?_⟩
  · intro statement h
    have hd : data.isEmptyInput = false := by
      refine Bool.eq_false_iff.mpr fun hd => ?_
      cases h.symm.trans (of_update_none.mpr hd)
    obtain ⟨clauses, assignments, hc, ha, hs⟩ := of_update_ok hd h
    cases hs
    exact ⟨clauses, hc, shows_data style _ _ ha⟩
  · intro verb statement h
    split
    · rename_i hd
      rw [ofInsert, if_pos hd] at h
      rw [← pure_ok.mp h]
      rfl
    · rename_i hd
      obtain ⟨-, assignments, ha, rfl⟩ := of_insert_ok (Bool.eq_false_iff.mpr hd) h
      have hs := shows_data style (verb.word ++ " INTO " ++ Identifier.quote table) "" ha
      rwa [String.append_empty] at hs

/-- A nickname, and a test that is left out. -/
def nickname : Json :=
  .object [("nick", .string "x"), ("name", .array [.string "not in", .array []])]

theorem set_unless_vacuous_nickname :
    (ofUpdate Sample.schema true "users" .null .null).result = .ok none ∧
    ∃ assignments,
      (ofUpdate Sample.schema true "users" (.integer 5) nickname).result =
        .ok (some (.update "users" assignments
          [.compare ⟨some "users", "id"⟩ "=" (.text "5")])) ∧
      (ofInsert Sample.schema true .replace "users" nickname).result =
        .ok (.insert .replace "users" assignments) ∧
      ShowsData .mysql Sample.schema true "users" nickname "UPDATE `users`"
        " WHERE `users`.`id` = '5'"
        "UPDATE `users` SET `users`.`nick` = 'x' WHERE `users`.`id` = '5'" ∧
      ShowsData .mysql Sample.schema true "users" nickname "REPLACE INTO `users`" ""
        "REPLACE INTO `users` SET `users`.`nick` = 'x'" := by
  have hu : (ofUpdate Sample.schema true "users" (.integer 5) nickname).result =
      .ok (some (.update "users" [.compare ⟨some "users", "nick"⟩ "=" (.text "x")]
        [.compare ⟨some "users", "id"⟩ "=" (.text "5")])) := by rfl
  have hi : (ofInsert Sample.schema true .replace "users" nickname).result =
      .ok (.insert .replace "users" [.compare ⟨some "users", "nick"⟩ "=" (.text "x")]) := by rfl
  have h := set_unless_vacuous .mysql Sample.schema true "users" (.integer 5) nickname
  obtain ⟨clauses, hc, hs⟩ := h.2.1 _ hu
  cases hc
  exact ⟨(set_unless_vacuous .mysql Sample.schema true "users" .null .null).1.mpr rfl,
    _, hu, hi, hs, h.2.2 _ _ hi⟩

/-- Data that is not empty, although nothing is left of it. -/
def noName : Json := .object [("name", .array [.string "NOT IN", .array []])]

theorem nothing_set :
    noName.isEmptyInput = false ∧
    (∃ statement,
      (ofUpdate Sample.schema true "users" (.integer 5) noName).result = .ok (some statement) ∧
      statement.sql .mysql = "UPDATE `users` SET  WHERE `users`.`id` = '5'") ∧
    (∃ statement, (ofInsert Sample.schema true .insert "users" noName).result = .ok statement ∧
      statement.sql .mysql = "INSERT INTO `users` SET ") :=
  ⟨rfl, ⟨_, rfl, rfl⟩, ⟨_, rfl, rfl⟩⟩

end SqlBuilder.Statement

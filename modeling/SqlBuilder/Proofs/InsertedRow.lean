import Mathlib.Data.List.Forall2
import SqlBuilder.Proofs.AssignmentPresence
import SqlBuilder.Proofs.Containment
import SqlBuilder.Proofs.WellFormed

/-!
What an insertion writes for a row of scalars. Every name of the row is a column of the table. Each
is then read once more as the key of a condition, so not every name is written as it was checked.
-/

namespace SqlBuilder

/-! ### Rows -/

/-- What a column of a row is set to. -/
inductive Scalar where
  | null
  | bool (value : Bool)
  | integer (value : Int)
  | float (value : Binary64)
  | text (value : String)

namespace Scalar

def json : Scalar → Json
  | null => .null
  | bool value => .bool value
  | integer value => .integer value
  | float value => .float value
  | text value => .string value

def value : Scalar → Value
  | null => .null
  | bool value => .bool value
  | integer value => .integer value
  | float value => .float value
  | text value => .text value

def sql (style : Quoting) : Scalar → String
  | null => "NULL"
  | bool value => style.quote (if value then "1" else "0")
  | integer value => style.quote (toString value)
  | float value => style.quote (value.text .plain)
  | text value => style.quote value

theorem of_json (s : Scalar) : Value.ofJson? s.json = some s.value := by
  cases s <;> rfl

theorem literal_sql {s : Scalar} {literal : Literal} (h : s.value.literal? = some literal)
    (style : Quoting) : literal.sql style = s.sql style := by
  cases s <;> cases h <;> rfl

end Scalar

abbrev Row := List (String × Scalar)

def Row.json (row : Row) : Json := .object (row.map fun entry => (entry.1, entry.2.json))

/-- The assignment that sets a column of the table as it is named. -/
def Row.assignment (style : Quoting) (table : String) (entry : String × Scalar) : String :=
  "`" ++ table ++ "`.`" ++ entry.1 ++ "` = " ++ entry.2.sql style

/-- The name is no index, has no characters that are left out, and is in one part. -/
structure Identifier.Verbatim (name : String) : Prop where
  word : Text.isIndex name = false
  kept : Identifier.sanitize name = name
  unqualified : Identifier.split? name = none

namespace Row

variable {style : Quoting} {table : String} {entry : String × Scalar} {text : String}

/-- All that can be written for an entry: SQL as it is, a column of whatever table the name says, or
a column of the table. -/
inductive Written (style : Quoting) (table : String) : String × Scalar → String → Prop where
  | raw {name sql : String} (index : Text.isIndex name = true) :
      Written style table (name, .text sql) ("(" ++ sql ++ ")")
  | qualified {name owner column : String} {value : Scalar} (word : Text.isIndex name = false)
      (parts : Identifier.split? (Identifier.sanitize name) = some (owner, column)) :
      Written style table (name, value)
        (Identifier.quote owner ++ "." ++ Identifier.quote column ++ " = " ++ value.sql style)
  | own {name : String} {value : Scalar} (word : Text.isIndex name = false)
      (whole : Identifier.split? (Identifier.sanitize name) = none) :
      Written style table (name, value)
        (Identifier.quote table ++ "." ++ Identifier.quote name ++ " = " ++ value.sql style)

/-! ### From entries to clauses -/

section Entry

variable {declared : Option Table} {name : String} {value : Scalar} {validate : Bool}

theorem read_entry_index (index : Text.isIndex name = true) {condition : Condition}
    (h : Condition.readEntry declared (Key.ofName name) value.json = .ok condition) :
    ∃ sql, value = .text sql ∧ condition = .raw sql := by
  have hk : Key.ofName name = .positional := if_pos index
  rw [hk] at h
  cases value with
  | text sql =>
    cases h
    exact ⟨sql, rfl, rfl⟩
  | null | bool _ | integer _ | float _ => cases h

theorem read_entry_word (word : Text.isIndex name = false) :
    Condition.readEntry declared (Key.ofName name) value.json =
      .ok (.predicate ⟨.one name, "=", value.value⟩) := by
  have hk : Key.ofName name = .named name := if_neg (by simp [word])
  rw [hk]
  cases value <;> rfl

theorem equality_outline {clauses : List Clause}
    (h : (Condition.predicate ⟨.one name, "=", value.value⟩).outline
      (Statement.assignmentScope table validate) = some clauses) :
    ∃ literal, value.value.literal? = some literal ∧
      clauses = [.compare (Reference.resolve name (some table) [] none).name "=" literal] := by
  have hw : Text.upper (Identifier.sanitize (Text.trim "=")) = "=" := by decide
  have he : Predicate.effectiveOperator ⟨.one name, "=", value.value⟩
      (Statement.assignmentScope table validate).filtering = "=" := by
    simp [Predicate.effectiveOperator, Predicate.writtenOperator, Statement.assignmentScope,
      Scope.assignments, hw]
  simp only [Condition.outline, Predicate.outline, he] at h
  unfold Predicate.outlineOn at h
  rw [if_neg (by decide), if_neg (by decide), if_neg (by decide)] at h
  obtain ⟨literal, hl, h⟩ := Option.bind_eq_some_iff.mp h
  cases h
  exact ⟨literal, hl, rfl⟩

theorem resolve_qualified {owner column : String} (table : String)
    (parts : Identifier.split? (Identifier.sanitize name) = some (owner, column)) :
    (Reference.resolve name (some table) [] none).name.text =
      Identifier.quote owner ++ "." ++ Identifier.quote column := by
  simp only [Reference.resolve, parts, ColumnName.text]

theorem resolve_own (table : String)
    (whole : Identifier.split? (Identifier.sanitize name) = none) :
    (Reference.resolve name (some table) [] none).name.text =
      Identifier.quote table ++ "." ++ Identifier.quote name := by
  simp only [Reference.resolve, whole, Join.findProjected?, List.findSome?_nil,
    Option.orElse_none, ColumnName.text, Identifier.quote, Identifier.sanitize_again]

/-- An entry makes one clause. -/
theorem entry_written {condition : Condition} {clauses : List Clause}
    (hr : Condition.readEntry declared (Key.ofName name) value.json = .ok condition)
    (ho : condition.outline (Statement.assignmentScope table validate) = some clauses) :
    ∃ clause, clauses = [clause] ∧ Written style table (name, value) (clause.sql style) := by
  cases hi : Text.isIndex name with
  | true =>
    obtain ⟨sql, rfl, rfl⟩ := read_entry_index hi hr
    cases ho
    exact ⟨_, rfl, .raw hi⟩
  | false =>
    cases (read_entry_word hi).symm.trans hr
    obtain ⟨literal, hl, rfl⟩ := equality_outline ho
    refine ⟨_, rfl, ?_⟩
    have hs (x y : String) : x ++ " " ++ "=" ++ " " ++ y = x ++ " = " ++ y := by
      simp only [String.append_assoc]
      rfl
    rw [Clause.sql, Scalar.literal_sql hl, hs]
    cases hp : Identifier.split? (Identifier.sanitize name) with
    | some parts =>
      obtain ⟨owner, column⟩ := parts
      rw [resolve_qualified table hp]
      exact .qualified hi hp
    | none =>
      rw [resolve_own table hp]
      exact .own hi hp

end Entry

/-- The clauses of a row, entry by entry. -/
theorem row_written {declared : Option Table} {validate : Bool} {row : Row}
    {conditions : List Condition} {clauses : List Clause}
    (hr : Condition.read declared row.json = .ok conditions)
    (ho : Condition.outlineAll (Statement.assignmentScope table validate) conditions =
      some clauses) :
    List.Forall₂ (Written style table) row (clauses.map (Clause.sql style)) := by
  unfold Row.json at hr
  rw [Condition.read] at hr
  induction row generalizing conditions clauses with
  | nil =>
    cases hr
    cases ho
    exact .nil
  | cons entry rest ih =>
    obtain ⟨condition, others, hc, hs, rfl⟩ := Condition.read_members_cons.mp hr
    obtain ⟨first, later, hf, hl, rfl⟩ := Condition.outline_all_cons.mp ho
    obtain ⟨clause, rfl, hw⟩ := entry_written hc hf
    exact .cons hw (ih hs hl)

theorem check_declared {declared : Table} {row : Row}
    (h : Statement.checkMembers declared (row.map fun entry => (entry.1, entry.2.json)) = .ok ()) :
    ∀ entry ∈ row, ∃ column, declared.column? entry.1 = some column := by
  refine forall_of_walk (f := fun row : Row => Statement.checkMembers declared
    (row.map fun entry => (entry.1, entry.2.json))) ?_ h
  intro first rest out h
  simp only [List.map_cons, Statement.checkMembers, Scalar.of_json] at h
  obtain ⟨_, hc, h⟩ := bind_ok.mp h
  refine ⟨?_, out, h⟩
  unfold Table.check at hc
  split at hc
  · rename_i column hcolumn
    exact ⟨column, hcolumn⟩
  · cases hc

/-- An insertion of a row: the row was checked, and its clauses are those of the statement. -/
theorem of_insert_ok {schema : Schema} {verb : InsertVerb} {row : Row} {statement : Statement}
    (present : row ≠ [])
    (h : (Statement.ofInsert schema true verb table row.json).result = .ok statement) :
    ∃ declared clauses, schema.table? table = some declared ∧
      Statement.checkMembers declared (row.map fun entry => (entry.1, entry.2.json)) = .ok () ∧
      (Condition.compileInput schema (Statement.assignmentScope table true) row.json).result =
        .ok clauses ∧
      statement = .insert verb table clauses := by
  obtain ⟨entry, rest, rfl⟩ := List.exists_cons_of_ne_nil present
  obtain ⟨hd, clauses, hc, hs⟩ := Statement.of_insert_ok rfl h
  obtain ⟨declared, ht, hm⟩ := bind_ok.mp (hd rfl)
  exact ⟨declared, clauses, Subject.get_table_ok ht, hm, hc, hs⟩

/-! ### Lengths -/

theorem sanitize_length_le (name : String) : (Identifier.sanitize name).length ≤ name.length := by
  rw [Identifier.sanitize, String.length_ofList, ← String.length_toList]
  exact List.length_filter_le Identifier.isKept name.toList

theorem sanitize_eq_self {name : String} (h : (Identifier.sanitize name).length = name.length) :
    Identifier.sanitize name = name := by
  rw [Identifier.sanitize, String.length_ofList, ← String.length_toList,
    List.length_filter_eq_length_iff, ← List.filter_eq_self] at h
  rw [Identifier.sanitize, h, String.ofList_toList]

/-- The parts of a name leave out a point at least. -/
theorem split_length {name owner column : String}
    (h : Identifier.split? name = some (owner, column)) :
    owner.length + column.length < name.length := by
  unfold Identifier.split? at h
  dsimp only at h
  split at h
  · cases h
  · rename_i hne
    cases h
    have hl : name.length = (name.toList.takeWhile (· != '.')).length +
        (name.toList.dropWhile (· != '.')).length := by
      rw [← List.length_append, List.takeWhile_append_dropWhile, String.length_toList]
    rw [hl, String.length_ofList, String.length_ofList]
    cases hd : name.toList.dropWhile (· != '.') with
    | nil => simp [hd] at hne
    | cons point rest =>
      have hc := (List.takeWhile_sublist (· != '.') (l := rest)).length_le
      simp only [List.drop_succ_cons, List.drop_zero, List.length_cons]
      omega

theorem escape_ne_nil (style : Quoting) (c : Char) : style.escape c ≠ [] := by
  cases style with
  | mysql =>
    simp only [Quoting.escape]
    split_ifs <;> simp
  | ansi =>
    simp only [Quoting.escape]
    split_ifs <;> simp

theorem quote_length (style : Quoting) (text : String) :
    text.length + 2 ≤ (style.quote text).length := by
  have he (chars : List Char) : chars.length ≤ (chars.flatMap style.escape).length := by
    induction chars with
    | nil => simp
    | cons c rest ih =>
      have hc := List.length_pos_iff.mpr (escape_ne_nil style c)
      rw [List.flatMap_cons, List.length_append, List.length_cons]
      omega
  have ht := he text.toList
  simp only [Quoting.quote, String.length_ofList, List.length_cons, List.length_append,
    List.length_nil]
  rw [String.length_toList] at ht
  omega

/-- Texts that are each at most as long as wanted, joined: as long as wanted only if each is. -/
theorem join_length {α : Type} {R : α → String → Prop} {wanted : α → String} {separator : String}
    {items : List α} {texts : List String} (h : List.Forall₂ R items texts)
    (le : ∀ a text, R a text → text.length ≤ (wanted a).length) :
    (Text.joinWith separator texts).length ≤
        (Text.joinWith separator (items.map wanted)).length ∧
      ((Text.joinWith separator texts).length =
          (Text.joinWith separator (items.map wanted)).length →
        ∀ a ∈ items, ∃ text, R a text ∧ text.length = (wanted a).length) := by
  induction h with
  | nil => simp
  | cons hr hrest ih =>
    have ht := le _ _ hr
    cases hrest with
    | nil =>
      refine ⟨ht, fun he => ?_⟩
      simpa using ⟨_, hr, he⟩
    | cons hn hmore =>
      simp only [List.map_cons, Text.joinWith, String.length_append] at ih ⊢
      refine ⟨by omega, fun he => List.forall_mem_cons.mpr ⟨⟨_, hr, by omega⟩, ih.2 (by omega)⟩⟩

/-! ### What is written and what is wanted -/

theorem assignment_length (style : Quoting) (table : String) (entry : String × Scalar) :
    (assignment style table entry).length =
      table.length + entry.1.length + (entry.2.sql style).length + 8 := by
  simp only [assignment, String.length_append]
  change 1 + table.length + 3 + entry.1.length + 4 + _ = _
  omega

theorem identifier_length (name : String) :
    (Identifier.quote name).length = (Identifier.sanitize name).length + 2 := by
  simp only [Identifier.quote, String.length_append]
  change 1 + _ + 1 = _
  omega

theorem pair_length (owner column sql : String) :
    (Identifier.quote owner ++ "." ++ Identifier.quote column ++ " = " ++ sql).length =
      (Identifier.sanitize owner).length + (Identifier.sanitize column).length + sql.length +
        8 := by
  simp only [String.length_append, identifier_length]
  change _ + 2 + 1 + (_ + 2) + 3 + _ = _
  omega

/-- What is written is never longer than the assignment, and as long only if no character was left
out. -/
theorem Written.length (h : Written style table entry text) :
    text.length ≤ (assignment style table entry).length ∧
      (text.length = (assignment style table entry).length →
        Identifier.sanitize table = table ∧ Identifier.Verbatim entry.1) := by
  rw [assignment_length]
  cases h with
  | @raw name sql index =>
    have hq := quote_length style sql
    have hl : ("(" ++ sql ++ ")").length = 1 + sql.length + 1 := by
      simp only [String.length_append]
      rfl
    simp only [hl, Scalar.sql]
    exact ⟨by omega, fun he => by omega⟩
  | @qualified name owner column value word parts =>
    have hp := split_length parts
    have hn := sanitize_length_le name
    have ho := sanitize_length_le owner
    have hc := sanitize_length_le column
    rw [pair_length]
    dsimp only
    exact ⟨by omega, fun he => by omega⟩
  | @own name value word whole =>
    have ht := sanitize_length_le table
    have hn := sanitize_length_le name
    rw [pair_length]
    dsimp only
    refine ⟨by omega, fun he => ?_⟩
    have hk : Identifier.sanitize name = name := sanitize_eq_self (by omega)
    rw [hk] at whole
    exact ⟨sanitize_eq_self (by omega), word, hk, whole⟩

theorem Written.eq_assignment (h : Written style table entry text)
    (clean : Identifier.sanitize table = table) (plain : Identifier.Verbatim entry.1) :
    text = assignment style table entry := by
  cases h with
  | raw index => cases index.symm.trans plain.word
  | qualified word parts =>
    rw [plain.kept, plain.unqualified] at parts
    cases parts
  | own word whole =>
    simp only [assignment, Identifier.quote, clean, plain.kept, String.append_assoc]
    rfl

/-- The texts of a row are its assignments exactly if every name is written as it is. -/
theorem joined_assignments {row : Row} {texts : List String} (present : row ≠ [])
    (h : List.Forall₂ (Written style table) row texts) :
    Text.joinWith " , " texts = Text.joinWith " , " (row.map (assignment style table)) ↔
      Identifier.sanitize table = table ∧ ∀ entry ∈ row, Identifier.Verbatim entry.1 := by
  constructor
  · intro he
    have each := (join_length h fun _ _ hw => hw.length.1).2 (congrArg String.length he)
    have exact_names : ∀ entry ∈ row,
        Identifier.sanitize table = table ∧ Identifier.Verbatim entry.1 := by
      intro entry hm
      obtain ⟨text, hw, hl⟩ := each entry hm
      exact hw.length.2 hl
    obtain ⟨entry, hm⟩ := List.exists_mem_of_ne_nil row present
    exact ⟨(exact_names entry hm).1, fun entry hm => (exact_names entry hm).2⟩
  · rintro ⟨clean, plain⟩
    have ht : texts = row.map (assignment style table) := by
      clear present
      induction h with
      | nil => rfl
      | cons hw _ ih =>
        obtain ⟨hp, hrest⟩ := List.forall_mem_cons.mp plain
        rw [List.map_cons, hw.eq_assignment clean hp, ih hrest]
    rw [ht]

end Row

/-- For a row with validation on, every name is a column of the table, and the text after `SET` has
one part for each entry. These are the assignments of the entries exactly if every name, and that of
the table, is written as it is. -/
theorem Statement.inserted_row (style : Quoting) (schema : Schema) (verb : InsertVerb)
    (table : String) (row : Row) (statement : Statement) (present : row ≠ [])
    (h : (ofInsert schema true verb table row.json).result = .ok statement) :
    ∃ declared texts, schema.table? table = some declared ∧
      (∀ entry ∈ row, ∃ column, declared.column? entry.1 = some column) ∧
      statement.sql style =
        verb.word ++ " INTO " ++ Identifier.quote table ++ " SET " ++ Text.joinWith " , " texts ∧
      List.Forall₂ (Row.Written style table) row texts ∧
      (Text.joinWith " , " texts = Text.joinWith " , " (row.map (Row.assignment style table)) ↔
        Identifier.sanitize table = table ∧ ∀ entry ∈ row, Identifier.Verbatim entry.1) := by
  obtain ⟨declared, clauses, ht, hm, hc, rfl⟩ := Row.of_insert_ok present h
  obtain ⟨_, conditions, _, hr, hc⟩ := Condition.compile_input_ok hc
  have hw : List.Forall₂ (Row.Written style table) row (clauses.map (Clause.sql style)) :=
    Row.row_written hr (Condition.compile_outline hc)
  refine ⟨declared, _, ht, Row.check_declared hm, ?_, hw, Row.joined_assignments present hw⟩
  rw [Statement.sql, Clause.joined, Clause.sql_all_eq_map]
  rfl

def Row.newUser : Row := [("id", .integer 7), ("name", .text "O'Hara"), ("nick", .null)]

theorem Statement.inserted_row_users :
    Row.newUser ≠ [] ∧
    ∃ statement,
      (ofInsert Sample.schema true .replace "users" Row.newUser.json).result = .ok statement ∧
      statement.sql .ansi =
        "REPLACE INTO `users` SET `users`.`id` = '7' , `users`.`name` = 'O''Hara' , " ++
          "`users`.`nick` = NULL" := by
  have present : Row.newUser ≠ [] := List.cons_ne_nil _ _
  have h : ∃ statement,
      (ofInsert Sample.schema true .replace "users" Row.newUser.json).result = .ok statement :=
    ⟨_, rfl⟩
  obtain ⟨statement, h⟩ := h
  obtain ⟨declared, texts, _, _, hsql, _, htexts⟩ := inserted_row .ansi _ _ _ _ _ present h
  have plain : ∀ entry ∈ Row.newUser, Identifier.Verbatim entry.1 := by
    simp only [Row.newUser, List.forall_mem_cons]
    exact ⟨⟨by decide, by decide, by decide⟩, ⟨by decide, by decide, by decide⟩,
      ⟨by decide, by decide, by decide⟩, List.forall_mem_nil _⟩
  refine ⟨present, statement, h, ?_⟩
  rw [hsql, htexts.mpr ⟨by decide, plain⟩]
  decide

/-- A column whose name is an index. -/
def Row.sales : Schema := ⟨[{ name := "sales", columns := [{ name := "2024", type := .varchar }] }]⟩

def Row.yearTotal : Row := [("2024", .text "total = 0")]

/-- The value of such a column is passed on as SQL. -/
theorem Statement.inserted_raw :
    ∃ statement,
      (ofInsert Row.sales true .insert "sales" Row.yearTotal.json).result = .ok statement ∧
      statement.sql .mysql = "INSERT INTO `sales` SET (total = 0)" ∧
      Row.yearTotal.map (Row.assignment .mysql "sales") = ["`sales`.`2024` = 'total = 0'"] :=
  ⟨_, rfl, rfl, rfl⟩

end SqlBuilder

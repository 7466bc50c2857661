import SqlBuilder.Proofs.Spellings

/-!
Which pairs are points. A pair at a name is a point if the table of the scope has a point of that
very name, and otherwise an operator and a value. The column that the name refers to may be another
one: the name is cleaned first, and a join may provide it.
-/

namespace SqlBuilder

/-- The first column of that name that the table declares is a point. Without a table there is
none. -/
def Condition.HasPoint (table : Option Table) (column : String) : Prop :=
  ∃ declared c, table = some declared ∧ declared.column? column = some c ∧ c.type = .point

theorem Condition.has_point_iff (table : Option Table) (column : String) :
    HasPoint table column ↔ isPointColumn table column = true := by
  unfold HasPoint isPointColumn
  cases table with
  | none => simp
  | some declared =>
    cases hc : declared.column? column with
    | none => simp [hc]
    | some c => simp [hc]

/-- The table has the column and declares it a point. -/
def Schema.HasPoint (schema : Schema) (table column : String) : Prop :=
  Condition.HasPoint (schema.table? table) column

/-- The reference is to a column that its table declares a point. -/
def Reference.IsPoint (schema : Schema) (r : Reference) : Prop :=
  ∃ table, r.table = some table ∧ schema.HasPoint table r.column

/-! ### Names in one part -/

namespace Identifier

theorem point_kept (c : Char) : (!isKept c || c != '.') = (c != '.') := by
  by_cases hc : c = '.'
  · rw [hc]
    decide
  · simp [hc]

theorem take_kept (chars : List Char) :
    (chars.filter isKept).takeWhile (· != '.') = (chars.takeWhile (· != '.')).filter isKept := by
  simp only [List.takeWhile_filter, point_kept]

theorem drop_kept (chars : List Char) :
    ((chars.filter isKept).dropWhile (· != '.')).drop 1 =
      ((chars.dropWhile (· != '.')).drop 1).filter isKept := by
  simp only [List.dropWhile_filter, point_kept]
  cases hd : chars.dropWhile (· != '.') with
  | nil => rfl
  | cons c rest =>
    have hc : c = '.' := by
      have hhead := List.head?_dropWhile_not (· != '.') chars
      simpa [hd] using hhead
    rw [hc, List.filter_cons_of_pos (by decide)]
    rfl

/-- Points are kept, so a name in one part stays in one part when it is cleaned. -/
theorem split_sanitize {text : String} (h : split? text = none) :
    split? (sanitize text) = none := by
  unfold split? at h ⊢
  dsimp only at h ⊢
  split at h
  · rename_i he
    rw [sanitize, String.toList_ofList, take_kept, drop_kept, take_kept]
    refine if_pos ?_
    simp only [Bool.or_eq_true, List.isEmpty_iff] at he ⊢
    rcases he with he | he
    · exact Or.inl (by rw [he]; rfl)
    · exact Or.inr (by rw [he]; rfl)
  · cases h

end Identifier

namespace Condition

/-! ### Inputs that differ in one entry -/

/-- The second input is the first with another entry at one place, at any depth. The groups on the
way there may be spelled differently. -/
inductive Exchanged (old new : Key × Json) : Json → Json → Prop where
  | here {x y : Json} {before after : List (Key × Json)}
      (left : x.entries = before ++ old :: after) (right : y.entries = before ++ new :: after) :
      Exchanged old new x y
  | within {x y inner inner' : Json} {glue : Glue} {entry entry' : Key × Json}
      {before after : List (Key × Json)}
      (left : x.entries = before ++ entry :: after)
      (right : y.entries = before ++ entry' :: after) (written : Groups glue inner entry)
      (written' : Groups glue inner' entry') (deeper : Exchanged old new inner inner') :
      Exchanged old new x y

/-- Wherever the entry stands, an input says what it says with the other in its place. -/
def Means (schema : Schema) (scope : Scope) (entry other : Key × Json) : Prop :=
  ∀ x y, Exchanged entry other x y → readIn schema scope x = readIn schema scope y

theorem level_of_entries {x : Json} {entry : Key × Json} {before after : List (Key × Json)}
    (h : x.entries = before ++ entry :: after) : x.isLevel = true := by
  cases x with
  | array | object => rfl
  | null | bool | integer | float | string => simp [Json.entries] at h

variable {table : Option Table} {old new : Key × Json} {x y : Json}

theorem Exchanged.level (h : Exchanged old new x y) : x.isLevel = true ∧ y.isLevel = true := by
  cases h with
  | here left right => exact ⟨level_of_entries left, level_of_entries right⟩
  | within left right => exact ⟨level_of_entries left, level_of_entries right⟩

theorem read_at {before after : List (Key × Json)} (left : x.entries = before ++ old :: after)
    (right : y.entries = before ++ new :: after)
    (same : readEntry table old.1 old.2 = readEntry table new.1 new.2) :
    read table x = read table y := by
  rw [read_level (level_of_entries left), read_level (level_of_entries right), left, right]
  simp only [List.mapM_append, List.mapM_cons, same]

/-- Entries that say the same may stand for each other. -/
theorem Exchanged.read_eq (h : Exchanged old new x y)
    (same : readEntry table old.1 old.2 = readEntry table new.1 new.2) :
    read table x = read table y := by
  induction h with
  | here left right => exact read_at left right same
  | within left right written written' deeper ih =>
    refine read_at left right ?_
    rw [written.read_entry deeper.level.1, written'.read_entry deeper.level.2, ih]

/-! ### A pair and its two readings -/

/-- The entry of a column, an operator and a value at a position. -/
def spelledOut (column : String) (operator value : Json) : Key × Json :=
  (.positional, .array [.string column, operator, value])

variable {column : String} {first second : Json}

theorem read_spelled_out (operator value : Json) :
    readEntry table .positional (spelledOut column operator value).2 =
      readTriple (.string column) operator value := by
  unfold spelledOut readEntry
  rfl

theorem triple_equality (value : Json) :
    readTriple (.string column) (.string "=") value = equality column value :=
  Entry.meaning_equality none column value

theorem read_entry_pair (word : Text.isIndex column = false)
    (plain : Glue.logical? column = none) (comparison : logicalTag? first = none) :
    readEntry table (Key.ofName column) (.array [first, second]) =
      if isPointColumn table column then equality column (.array [first, second])
      else readTriple (.string column) first second := by
  have hkey : Key.ofName column = .named column := if_neg (by simp [word])
  rw [hkey]
  unfold readEntry
  simp only [Key.logical?, plain, comparison]
  rfl

theorem json_ne_pair (first second : Json) : second ≠ .array [first, second] := by
  intro h
  have hs := congrArg sizeOf h
  simp at hs
  omega

theorem value_ne_pair (first second : Value) : second ≠ .list [first, second] := by
  intro h
  have hs := congrArg sizeOf h
  simp at hs
  omega

theorem read_value_pair (operator : String) {json : Json} {value : Value}
    (h : Value.ofJson? json = some value) :
    readValue (.array [.string operator, json]) = .ok (.list [.text operator, value]) := by
  simp [readValue, Value.ofJson?, Value.ofItems?, h]

theorem read_value_no_pair (operator : String) {json : Json} (h : Value.ofJson? json = none) :
    readValue (.array [.string operator, json]) =
      .error (.unsupportedValue (.object (.array [.string operator, json]))) := by
  simp [readValue, Value.ofJson?, Value.ofItems?, h]

theorem equality_not_malformed {json : Json} {fault : ConditionFault} :
    equality column json ≠ .error (.malformedCondition fault) := by
  unfold equality readValue
  split
  · intro h
    cases h
  · intro h
    cases h

/-- The two readings of a pair never agree, not even in the error: the value of the one is the whole
pair, and that of the other a part of it. -/
theorem triple_ne_equality :
    readTriple (.string column) first second ≠ equality column (.array [first, second]) := by
  intro h
  cases first with
  | string operator =>
    unfold readTriple equality at h
    cases hv : Value.ofJson? second with
    | some value =>
      rw [read_value_pair operator hv, readValue, hv] at h
      injection h with h
      injection h with h
      injection h with _ _ h
      exact value_ne_pair _ _ h
    | none =>
      rw [read_value_no_pair operator hv, readValue, hv] at h
      injection h with h
      injection h with h
      injection h with h
      exact json_ne_pair _ _ h
  | null | bool | integer | float | array | object => exact equality_not_malformed h.symm

/-! ### The scope of a table -/

section

variable {schema : Schema} {scope : Scope} {name : String} {declared : Table}

theorem read_in_declared (inTable : scope.table = some name)
    (known : schema.table? name = some declared) (input : Json) :
    readIn schema scope input = read (some declared) input := by
  have hg : scope.getTable schema = .ok (some declared) := by
    simp [Scope.getTable, inTable, Schema.getTable, known, Except.map]
  rw [readIn, hg]
  rfl

theorem single_injective {α : Type} {a b : Except Error α}
    (h : (do return [← a]) = (do return [← b] : Except Error (List α))) : a = b := by
  cases a with
  | error e =>
    cases b with
    | error e' => exact congrArg _ (Except.error.inj h)
    | ok v => cases h
  | ok v =>
    cases b with
    | error e' => cases h
    | ok v' => exact congrArg _ (List.cons.inj (Except.ok.inj h)).1

/-- An entry means another exactly if it is read the same: an input may have no other entry. -/
theorem means_iff (inTable : scope.table = some name)
    (known : schema.table? name = some declared) {item other : Json} :
    Means schema scope (Key.ofName column, item) (.positional, other) ↔
      readEntry (some declared) (Key.ofName column) item =
        readEntry (some declared) .positional other := by
  constructor
  · intro h
    have alone : Exchanged (Key.ofName column, item) (.positional, other)
        (.object [(column, item)]) (.array [other]) :=
      .here (List.nil_append [(Key.ofName column, item)]).symm
        (List.nil_append [(Key.positional, other)]).symm
    have hone := h _ _ alone
    rw [read_in_declared inTable known, read_in_declared inTable known, read_level rfl,
      read_level rfl] at hone
    simp only [Json.entries, List.map_cons, List.map_nil, List.mapM_cons, List.mapM_nil,
      pure_bind] at hone
    exact single_injective hone
  · intro same x y h
    rw [read_in_declared inTable known, read_in_declared inTable known]
    exact h.read_eq same

theorem is_point_column_iff (known : schema.table? name = some declared) :
    isPointColumn (some declared) column = true ↔ schema.HasPoint name column := by
  rw [Schema.HasPoint, known, has_point_iff]

theorem means_point_iff (second : Json) (inTable : scope.table = some name)
    (known : schema.table? name = some declared) (word : Text.isIndex column = false)
    (plain : Glue.logical? column = none) (comparison : logicalTag? first = none) :
    Means schema scope (Key.ofName column, .array [first, second])
        (spelledOut column (.string "=") (.array [first, second])) ↔
      schema.HasPoint name column := by
  rw [← is_point_column_iff known, spelledOut, means_iff inTable known,
    read_entry_pair word plain comparison]
  change _ = readEntry _ _ (spelledOut column (.string "=") (.array [first, second])).2 ↔ _
  rw [read_spelled_out, triple_equality]
  cases isPointColumn (some declared) column with
  | true => exact iff_of_true rfl rfl
  | false => exact iff_of_false triple_ne_equality Bool.false_ne_true

theorem means_test_iff (second : Json) (inTable : scope.table = some name)
    (known : schema.table? name = some declared) (word : Text.isIndex column = false)
    (plain : Glue.logical? column = none) (comparison : logicalTag? first = none) :
    Means schema scope (Key.ofName column, .array [first, second])
        (spelledOut column first second) ↔
      ¬schema.HasPoint name column := by
  rw [← is_point_column_iff known, spelledOut, means_iff inTable known,
    read_entry_pair word plain comparison]
  change _ = readEntry _ _ (spelledOut column first second).2 ↔ _
  rw [read_spelled_out]
  cases isPointColumn (some declared) column with
  | true => exact iff_of_false triple_ne_equality.symm (by simp)
  | false => exact iff_of_true rfl (by simp)

/-- The column that an unqualified name refers to is that of the first join that exposes it, or one
of the table of the scope. -/
theorem resolve_point_iff (inTable : scope.table = some name)
    (unqualified : Identifier.split? (Identifier.sanitize column) = none) :
    (scope.resolve column).IsPoint schema ↔
      (Join.findProjected? scope.joins (Identifier.sanitize column)).elim
        (schema.HasPoint name (Identifier.sanitize column))
        fun provided => schema.HasPoint provided.1.table provided.2.source := by
  unfold Scope.resolve Reference.resolve Reference.IsPoint
  simp only [unqualified]
  cases Join.findProjected? scope.joins (Identifier.sanitize column) with
  | none => simp [inTable]
  | some provided => simp

end

/-- A pair at an unqualified name is a point exactly if the table of the scope has a point of that
name. So it follows the column that the name refers to exactly if that is a point whenever the
column of that name in the table of the scope is one, and only then. -/
theorem point_by_key (schema : Schema) (scope : Scope) (name column : String) (declared : Table)
    (first second : Json) (inTable : scope.table = some name)
    (known : schema.table? name = some declared) (word : Text.isIndex column = false)
    (plain : Glue.logical? column = none) (unqualified : Identifier.split? column = none)
    (comparison : logicalTag? first = none) :
    (∀ input, (compileInput schema scope input).result = readIn schema scope input >>=
      fun conditions => (clausesAll schema scope conditions).result) ∧
    (Means schema scope (Key.ofName column, .array [first, second])
        (spelledOut column (.string "=") (.array [first, second])) ↔
      schema.HasPoint name column) ∧
    (Means schema scope (Key.ofName column, .array [first, second])
        (spelledOut column first second) ↔
      ¬schema.HasPoint name column) ∧
    ((Means schema scope (Key.ofName column, .array [first, second])
          (spelledOut column (.string "=") (.array [first, second])) ↔
        (scope.resolve column).IsPoint schema) ↔
      (Join.findProjected? scope.joins (Identifier.sanitize column)).elim
        (schema.HasPoint name (Identifier.sanitize column) ↔ schema.HasPoint name column)
        fun provided =>
          (schema.HasPoint provided.1.table provided.2.source ↔ schema.HasPoint name column)) := by
  have hpoint := means_point_iff second inTable known word plain comparison
  have htest := means_test_iff second inTable known word plain comparison
  refine ⟨compile_input_read_in schema scope, hpoint, htest, ?_⟩
  rw [hpoint, resolve_point_iff inTable (Identifier.split_sanitize unqualified)]
  cases Join.findProjected? scope.joins (Identifier.sanitize column) with
  | none => exact Iff.comm
  | some provided => exact Iff.comm

/-- Users beside the titles of their posts. -/
def titled : Scope :=
  { table := some "users"
    alias? := some "u"
    joins := [{ table := "posts", origin := "users", fields := [⟨"title", "title"⟩] }] }

theorem point_by_key_titled :
    Identifier.split? "home" = none ∧
    (titled.resolve "home").IsPoint Sample.schema ∧
    Means Sample.schema titled (Key.ofName "home", .array [.integer 1, .integer 2])
      (spelledOut "home" (.string "=") (.array [.integer 1, .integer 2])) ∧
    Means Sample.schema titled (Key.ofName "title", .array [.string ">", .string "m"])
      (spelledOut "title" (.string ">") (.string "m")) := by
  have home : Sample.schema.HasPoint "users" "home" := ⟨_, _, rfl, rfl, rfl⟩
  have title : ¬Sample.schema.HasPoint "users" "title" := by
    rw [← is_point_column_iff (show Sample.schema.table? "users" = some Sample.users from rfl)]
    decide
  have unqualified : Identifier.split? "home" = none := by decide
  have hhome := point_by_key Sample.schema titled "users" "home" Sample.users (.integer 1)
    (.integer 2) rfl rfl (by decide) (by decide) unqualified (by decide)
  have htitle := point_by_key Sample.schema titled "users" "title" Sample.users (.string ">")
    (.string "m") rfl rfl (by decide) (by decide) (by decide) (by decide)
  refine ⟨unqualified, ?_, hhome.2.1.mpr home, htitle.2.2.1.mpr title⟩
  exact (hhome.2.2.2.mpr Iff.rfl).mp (hhome.2.1.mpr home)

/-- Posts beside the homes of their authors. -/
def homes : Scope :=
  { table := some "posts"
    joins := [{ table := "users", origin := "posts", fields := [⟨"home", "home"⟩] }] }

/-- Users beside the titles of their posts, which are called homes. -/
def titlesAsHomes : Scope :=
  { table := some "users"
    joins := [{ table := "posts", origin := "users", fields := [⟨"title", "home"⟩] }] }

/-- The coordinates of a point that a join provides are taken for an operator and a value, and an
operator and a value for a text that a join provides are taken for coordinates. -/
theorem provided_pair_misread :
    ((homes.resolve "home").IsPoint Sample.schema ∧
      readIn Sample.schema homes (.object [("home", .array [.integer 1, .integer 2])]) =
        .error (.malformedCondition (.operatorNotText (.integer 1)))) ∧
    (¬(titlesAsHomes.resolve "home").IsPoint Sample.schema ∧
      readIn Sample.schema titlesAsHomes (.object [("home", .array [.string "=", .string "x"])]) =
        .ok [.predicate ⟨.one "home", "=", .list [.text "=", .text "x"]⟩]) := by
  refine ⟨⟨⟨_, rfl, _, _, rfl, rfl, rfl⟩, rfl⟩, ?_, rfl⟩
  rintro ⟨table, ht, declared, c, hd, hc, hp⟩
  cases ht
  cases hd
  cases hc
  cases hp

end Condition

end SqlBuilder

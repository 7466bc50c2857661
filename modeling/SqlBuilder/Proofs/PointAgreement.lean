import SqlBuilder.Proofs.PointShorthand

/-!
What the reader takes from the table. A level, at any depth, is read by looking only at which names
are points of the table, and not at the table's other columns, their types or whether there is a
table at all. So two tables read every input alike, errors included, exactly if they have the same
points among the names that can be columns.
-/

namespace SqlBuilder

/-- A key that an entry of a level can have: an index is no name. -/
def Key.Met (key : Key) : Prop := ∀ name, key = .named name → Text.isIndex name = false

namespace Condition

/-- The two tables have the same points among the names at which a pair can stand for one. An index
is a position, and a tag makes a group. -/
def SamePoints (one other : Option Table) : Prop :=
  ∀ column, Text.isIndex column = false → Glue.logical? column = none →
    (HasPoint one column ↔ HasPoint other column)

/-! ### Sizes -/

theorem Opens.size {key : Key} {item level : Json} {glue : Glue}
    (h : Opens key item glue level) : sizeOf level ≤ sizeOf item := by
  cases h with
  | named => exact Nat.le_refl _
  | wrapped | listed | paired | sub | operator =>
    simp
    omega

theorem entry_size {level : Json} {entry : Key × Json} (h : entry ∈ level.entries) :
    sizeOf entry.2 < sizeOf level := by
  cases level with
  | array items =>
    obtain ⟨item, hm, rfl⟩ := List.mem_map.mp h
    have := List.sizeOf_lt_of_mem hm
    simp
    omega
  | object members =>
    obtain ⟨⟨name, item⟩, hm, rfl⟩ := List.mem_map.mp h
    have := List.sizeOf_lt_of_mem hm
    simp at this ⊢
    omega
  | null | bool | integer | float | string => cases h

/-! ### Two readings of an entry -/

variable {one other : Option Table} {key : Key} {item level : Json}

theorem entry_met {entry : Key × Json} (h : entry ∈ level.entries) : entry.1.Met := by
  intro name hn
  cases level with
  | array items =>
    obtain ⟨item, hm, rfl⟩ := List.mem_map.mp h
    cases hn
  | object members =>
    obtain ⟨member, hm, rfl⟩ := List.mem_map.mp h
    dsimp only [Key.ofName] at hn
    split at hn
    · cases hn
    · rename_i hi
      rw [← Key.named.inj hn]
      exact Bool.eq_false_iff.mpr hi
  | null | bool | integer | float | string => cases h

/-- A pair is the only entry for which the table is looked at. -/
theorem read_pair_agree (same : SamePoints one other) (met : key.Met)
    (plain : key.logical? = none) (first second : Json) :
    readPair one key first second = readPair other key first second := by
  cases key with
  | positional => rfl
  | named column =>
    have hpoint : isPointColumn one column = isPointColumn other column := by
      rw [Bool.eq_iff_iff, ← has_point_iff, ← has_point_iff]
      exact same column (met column rfl) plain
    simp only [readPair, hpoint]

theorem read_group_agree {glue : Glue} (fault : Error) (inner : read one level = read other level) :
    readGroup one glue fault level = readGroup other glue fault level := by
  by_cases mapping : level.isLevel = true
  · rw [read_group_level fault mapping, read_group_level fault mapping, inner]
  · cases level with
    | array | object => exact absurd rfl mapping
    | null | bool | integer | float | string =>
      unfold readGroup
      rfl

theorem read_object_agree (plain : key.logical? = none) {members : List (String × Json)}
    (inner : ∀ glue level, Opens key (.object members) glue level →
      read one level = read other level) :
    readEntry one key (.object members) = readEntry other key (.object members) := by
  unfold readEntry
  simp only [plain]
  split
  · split
    · rename_i tag
      exact read_group_agree _ (inner _ _ (.wrapped tag))
    · rfl
  · split
    · rename_i hs
      obtain ⟨-, rfl, rfl⟩ := hs
      split
      · rename_i tag
        exact read_group_agree _ (inner _ _ (.sub tag))
      · rfl
    · split
      · rename_i hs
        obtain ⟨-, rfl, rfl⟩ := hs
        split
        · rename_i tag
          exact read_group_agree _ (inner _ _ (.operator tag))
        · rfl
      · rfl
  · rfl

theorem read_array_agree (same : SamePoints one other) (met : key.Met)
    (plain : key.logical? = none) {items : List Json}
    (inner : ∀ glue level, Opens key (.array items) glue level →
      read one level = read other level) :
    readEntry one key (.array items) = readEntry other key (.array items) := by
  unfold readEntry
  simp only [plain]
  split
  · split
    · rename_i tag
      exact read_group_agree _ (inner _ _ (.listed tag))
    · rfl
  · split
    · rename_i tag
      exact read_group_agree _ (inner _ _ (.paired tag))
    · exact read_pair_agree same met plain _ _
  · rfl
  · rfl

/-- An entry is read alike if every level that it opens is. -/
theorem read_entry_agree (same : SamePoints one other) (met : key.Met)
    (inner : ∀ glue level, Opens key item glue level → read one level = read other level) :
    readEntry one key item = readEntry other key item := by
  by_cases mapping : item.isLevel = true
  · cases hk : key.logical? with
    | some glue =>
      rw [read_entry_named hk mapping, read_entry_named hk mapping, inner glue item (.named hk)]
    | none =>
      cases item with
      | object members => exact read_object_agree hk inner
      | array items => exact read_array_agree same met hk inner
      | null | bool | integer | float | string => cases mapping
  · cases item with
    | array | object => exact absurd rfl mapping
    | null | bool | integer | float | string =>
      unfold readEntry
      rfl

/-! ### Two readings of an input -/

theorem entries_agree {entries : List (Key × Json)}
    (each : ∀ entry ∈ entries, readEntry one entry.1 entry.2 = readEntry other entry.1 entry.2) :
    (entries.mapM fun entry => readEntry one entry.1 entry.2) =
      entries.mapM fun entry => readEntry other entry.1 entry.2 := by
  induction entries with
  | nil => rfl
  | cons entry rest ih =>
    have hrest := ih fun e he => each e (List.mem_cons_of_mem _ he)
    simp only [List.mapM_cons, each entry List.mem_cons_self, hrest]

/-- A level that an entry opens is no larger than the entry, so the reading goes down. -/
theorem read_agree (same : SamePoints one other) (input : Json) :
    read one input = read other input := by
  by_cases mapping : input.isLevel = true
  · rw [read_level mapping, read_level mapping]
    refine entries_agree fun entry he => read_entry_agree same (entry_met he) ?_
    intro glue level opens
    have hsmaller : sizeOf level < sizeOf input := Nat.lt_of_le_of_lt opens.size (entry_size he)
    exact read_agree same level
  · cases input with
    | array | object => exact absurd rfl mapping
    | null | bool | integer | float | string => rfl
termination_by sizeOf input
decreasing_by exact hsmaller

/-- The pair of an operator and a value at a name tells whether the name is a point. -/
theorem same_points_of_read (same : ∀ input, read one input = read other input) :
    SamePoints one other := by
  intro column word plain
  have hread := same (.object [(column, .array [.string "=", .null])])
  rw [read_level rfl, read_level rfl] at hread
  simp only [Json.entries, List.map_cons, List.map_nil, List.mapM_cons, List.mapM_nil,
    pure_bind] at hread
  have hentry := single_injective hread
  rw [read_entry_pair word plain (by decide), read_entry_pair word plain (by decide)] at hentry
  rw [has_point_iff, has_point_iff]
  cases hone : isPointColumn one column with
  | true =>
    cases hother : isPointColumn other column with
    | true => rfl
    | false =>
      rw [hone, hother] at hentry
      exact absurd hentry.symm triple_ne_equality
  | false =>
    cases hother : isPointColumn other column with
    | true =>
      rw [hone, hother] at hentry
      exact absurd hentry triple_ne_equality
    | false => rfl

theorem HasPoint.declared {table : Table} {column : String} (h : HasPoint (some table) column) :
    column ∈ table.columnNames := by
  obtain ⟨declared, c, ht, hc, -⟩ := h
  cases ht
  have hname := List.find?_some hc
  rw [← eq_of_beq hname]
  exact List.mem_map_of_mem (List.mem_of_find?_eq_some hc)

/-- Points are columns, so only the columns' names need be tried. -/
theorem points_of_columns {one other : Table}
    (each : ∀ column ∈ one.columnNames ++ other.columnNames,
      isPointColumn (some one) column = isPointColumn (some other) column) (column : String) :
    HasPoint (some one) column ↔ HasPoint (some other) column := by
  constructor
  · intro h
    rw [has_point_iff, ← each column (List.mem_append_left _ h.declared), ← has_point_iff]
    exact h
  · intro h
    rw [has_point_iff, each column (List.mem_append_right _ h.declared), ← has_point_iff]
    exact h

/-- Two tables with the same points read every input alike, its conditions or its error. Nothing
less will do, but for the names that are never those of columns. -/
theorem read_through_points (one other : Option Table) :
    ((∀ column, HasPoint one column ↔ HasPoint other column) →
      ∀ input, read one input = read other input) ∧
    ((∀ input, read one input = read other input) ↔ SamePoints one other) := by
  constructor
  · intro same
    exact read_agree fun column _ _ => same column
  · exact ⟨same_points_of_read, read_agree⟩

/-- A table that has nothing in common with the sample's users but a point. A later column of the
same name does not count. -/
def places : Table :=
  { name := "places"
    columns := [
      { name := "name", type := .int },
      { name := "home", type := .point },
      { name := "name", type := .point }] }

/-- Two pairs, two groups down. -/
def pairsInGroups : Json :=
  .object [("or", .array [.object [("AND", .object [
    ("home", .array [.string ">", .integer 1]), ("name", .array [.string ">", .integer 1])])]])]

theorem read_through_points_places :
    (∀ input, read (some Sample.users) input = read (some places) input) ∧
    read (some places) pairsInGroups =
      .ok [.group .or [.group .and [
        .predicate ⟨.one "home", "=", .list [.text ">", .integer 1]⟩,
        .predicate ⟨.one "name", ">", .integer 1⟩]]] := by
  refine ⟨(read_through_points _ _).1 ?_, ?_⟩
  · exact points_of_columns (by decide)
  · rfl

end Condition

end SqlBuilder

import Mathlib.Data.List.Forall2
import SqlBuilder.Proofs.Operators
import SqlBuilder.Proofs.Sample
import SqlBuilder.Proofs.WellFormed

/-!
The spellings of an entry. A group and a test of a column can each be written in several ways, and
an input says the same whichever of them its entries have, at every level.
-/

namespace SqlBuilder

/-! ### Tags are names -/

theorem Text.index_head {name : String} (h : Text.isIndex name = true) :
    ∃ c rest, name.toList = c :: rest ∧ (c = '+' ∨ c.isDigit = true) := by
  unfold Text.isIndex Text.index? at h
  cases hn : name.toList with
  | nil => simp [hn, Text.natural?] at h
  | cons c rest =>
    refine ⟨c, rest, rfl, ?_⟩
    rw [hn] at h
    by_cases hc : c = '+'
    · exact Or.inl hc
    · right
      have hdigits : (Text.natural? (c :: rest)).isSome = true := by
        split at h
        · rename_i he
          exact absurd (List.cons.inj he).1 hc
        · exact Option.isSome_of_isSome_filter _ _ h
      simp [Text.natural?] at hdigits
      exact hdigits.1

theorem upper_head_ascii : ∀ n < 128, Char.ofNat n = '+' ∨ (Char.ofNat n).isDigit = true →
    (Char.ofNat n).toUpper = Char.ofNat n ∧ Char.ofNat n ≠ 'A' ∧ Char.ofNat n ≠ 'O' := by decide

/-- What an index begins with is no letter, so it is the same in upper case. -/
theorem Text.upper_index_head {c : Char} (h : c = '+' ∨ c.isDigit = true) :
    Text.upperChar c = [c] ∧ c ≠ 'A' ∧ c ≠ 'O' := by
  have hn : c.toNat < 128 := by
    rcases h with rfl | hd
    · decide
    · exact alphanum_ascii (by simp [Char.isAlphanum, hd])
  have hc := upper_head_ascii c.toNat hn
  rw [Char.ofNat_toNat] at hc
  obtain ⟨hu, ha, ho⟩ := hc h
  rw [Text.upperChar, if_pos hn, hu]
  exact ⟨rfl, ha, ho⟩

theorem Key.of_tag {name : String} {glue : Glue} (h : Glue.logical? name = some glue) :
    Key.ofName name = .named name := by
  refine if_neg fun hi => ?_
  obtain ⟨c, rest, hn, hc⟩ := Text.index_head hi
  obtain ⟨hu, ha, ho⟩ := Text.upper_index_head hc
  have hhead : (Text.upper name).toList.head? = some c := by
    rw [Text.upper, hn, List.flatMap_cons, hu, String.toList_ofList]
    rfl
  unfold Glue.logical? at h
  split at h
  · rename_i he
    rw [he] at hhead
    exact ha (Option.some.inj hhead).symm
  · rename_i he
    rw [he] at hhead
    exact ho (Option.some.inj hhead).symm
  · cases h

namespace Condition

/-! ### Spellings -/

/-- The spellings of a group of a level. The tag, in any case of letters, is the name of the entry;
or, where the name is no tag, the only name of an object, the same alone in an array, or the first
of a pair; or, at a position, the operator beside `sub`. -/
inductive Groups (glue : Glue) (level : Json) : Key × Json → Prop where
  | named {tag : String} (logical : Glue.logical? tag = some glue) :
      Groups glue level (Key.ofName tag, level)
  | wrapped {key : Key} {tag : String} (plain : key.logical? = none)
      (logical : Glue.logical? tag = some glue) : Groups glue level (key, .object [(tag, level)])
  | listed {key : Key} {tag : String} (plain : key.logical? = none)
      (logical : Glue.logical? tag = some glue) :
      Groups glue level (key, .array [.object [(tag, level)]])
  | paired {key : Key} {tag : String} (plain : key.logical? = none)
      (logical : Glue.logical? tag = some glue) :
      Groups glue level (key, .array [.string tag, level])
  | sub {tag : String} (logical : Glue.logical? tag = some glue) :
      Groups glue level (.positional, .object [("sub", level), ("operator", .string tag)])
  | operator {tag : String} (logical : Glue.logical? tag = some glue) :
      Groups glue level (.positional, .object [("operator", .string tag), ("sub", level)])

/-- The spellings of a test of a column: at its name, or with its name first. Without an operator
the test is for equality. -/
inductive Tests (column : String) (operator value : Json) : Key × Json → Prop where
  | keyed : Tests column operator value (Key.ofName column, .array [operator, value])
  | triple {key : Key} (plain : key.logical? = none) :
      Tests column operator value (key, .array [.string column, operator, value])
  | pair (equality : operator = .string "=") :
      Tests column operator value (.positional, .array [.string column, value])
  | scalar (equality : operator = .string "=") (single : value.isLevel = false) :
      Tests column operator value (Key.ofName column, value)

/-- A column and an operator that nothing else is read for: the column is no index, no tag and no
point, and the operator is no tag. -/
structure Testable (table : Option Table) (column : String) (operator : Json) : Prop where
  word : Text.isIndex column = false
  plain : Glue.logical? column = none
  flat : isPointColumn table column = false
  comparison : logicalTag? operator = none

/-- An entry apart from its spelling. One that is neither a group nor a test has no other. -/
inductive Entry where
  | group (glue : Glue) (members : List Entry)
  | test (column : String) (operator value : Json)
  | other (key : Key) (item : Json)

/-- The spellings of an entry. The members of a group may have any spelling again. -/
inductive Spells (table : Option Table) : Entry → Key × Json → Prop where
  | group {glue : Glue} {members : List Entry} {level : Json} {entry : Key × Json}
      (written : Groups glue level entry) (mapping : level.isLevel = true)
      (each : List.Forall₂ (Spells table) members level.entries) :
      Spells table (.group glue members) entry
  | test {column : String} {operator value : Json} {entry : Key × Json}
      (testable : Testable table column operator) (written : Tests column operator value entry) :
      Spells table (.test column operator value) entry
  | other (key : Key) (item : Json) : Spells table (.other key item) (key, item)

/-- The input is a level whose entries are spellings of these. -/
def Spelled (table : Option Table) (entries : List Entry) (input : Json) : Prop :=
  input.isLevel = true ∧ List.Forall₂ (Spells table) entries input.entries

namespace Entry

theorem induct {motive : Entry → Prop}
    (group : ∀ glue members, (∀ e ∈ members, motive e) → motive (.group glue members))
    (test : ∀ column operator value, motive (.test column operator value))
    (other : ∀ key item, motive (.other key item)) : ∀ e, motive e
  | .group glue members => group glue members fun e _ => induct group test other e
  | .test column operator value => test column operator value
  | .other key item => other key item

mutual

/-- What the entry says, however it is spelled. -/
def meaning (table : Option Table) : Entry → Except Error Condition
  | group glue members => (meaningAll table members).map (.group glue)
  | test column operator value => do
    let operator ← readOperator operator
    let value ← readValue value
    return .predicate ⟨.one column, operator, value⟩
  | other key item => readEntry table key item

def meaningAll (table : Option Table) : List Entry → Except Error (List Condition)
  | [] => .ok []
  | entry :: rest => do
    let condition ← meaning table entry
    let conditions ← meaningAll table rest
    return condition :: conditions

end

end Entry

theorem Entry.meaning_equality (table : Option Table) (column : String) (value : Json) :
    (Entry.test column (.string "=") value).meaning table = equality column value := by
  unfold Entry.meaning
  rw [readOperator, ← canonical_equality]
  rfl

/-! ### Levels -/

variable {table : Option Table} {glue : Glue} {level : Json} {entry : Key × Json}

theorem read_items_eq (items : List Json) :
    readItems table items = items.mapM (readEntry table .positional) := by
  induction items with
  | nil => rfl
  | cons item rest ih => simp only [readItems, List.mapM_cons, ih]

theorem read_members_eq (members : List (String × Json)) :
    readMembers table members =
      members.mapM fun member => readEntry table (Key.ofName member.1) member.2 := by
  induction members with
  | nil => rfl
  | cons member rest ih => simp only [readMembers, List.mapM_cons, ih]

/-- A level is read entry by entry, whether it is an object or an array. -/
theorem read_level (h : level.isLevel = true) :
    read table level = level.entries.mapM fun entry => readEntry table entry.1 entry.2 := by
  cases level with
  | array items => simp only [read, read_items_eq, Json.entries, List.mapM_map]; rfl
  | object members => simp only [read, read_members_eq, Json.entries, List.mapM_map]; rfl
  | null | bool | integer | float | string => cases h

theorem read_group_level (fault : Error) (h : level.isLevel = true) :
    readGroup table glue fault level = (read table level).map (.group glue) := by
  cases level with
  | array items =>
    unfold readGroup
    rfl
  | object members =>
    unfold readGroup
    rfl
  | null | bool | integer | float | string => cases h

/-! ### One entry -/

theorem read_entry_named {key : Key} (tag : key.logical? = some glue)
    (mapping : level.isLevel = true) :
    readEntry table key level = (read table level).map (.group glue) := by
  cases level with
  | array items =>
    unfold readEntry
    rw [tag]
    rfl
  | object members =>
    unfold readEntry
    rw [tag]
    rfl
  | null | bool | integer | float | string => cases mapping

/-- No rule that comes before the one of a spelling takes it. -/
theorem Groups.read_entry (h : Groups glue level entry) (mapping : level.isLevel = true) :
    readEntry table entry.1 entry.2 = (read table level).map (.group glue) := by
  cases h with
  | @named tag logical =>
    have hk : (Key.ofName tag).logical? = some glue := by
      rw [Key.of_tag logical]
      exact logical
    exact read_entry_named hk mapping
  | wrapped plain logical =>
    unfold readEntry
    simp only [plain, logical]
    exact read_group_level _ mapping
  | listed plain logical =>
    unfold readEntry
    simp only [plain, logical]
    exact read_group_level _ mapping
  | paired plain logical =>
    unfold readEntry
    simp only [plain, logicalTag?, logical]
    exact read_group_level _ mapping
  | sub logical =>
    unfold readEntry
    simp only [Key.logical?, logicalTag?, logical]
    exact read_group_level _ mapping
  | operator logical =>
    unfold readEntry
    simp only [Key.logical?, logicalTag?, logical]
    exact read_group_level _ mapping

theorem Tests.read_entry {column : String} {operator value : Json}
    (h : Tests column operator value entry) (testable : Testable table column operator) :
    readEntry table entry.1 entry.2 = (Entry.test column operator value).meaning table := by
  have hkey : Key.ofName column = .named column := if_neg (by simp [testable.word])
  cases h with
  | keyed =>
    rw [hkey]
    unfold readEntry
    simp only [Key.logical?, testable.plain, testable.comparison, readPair, testable.flat]
    rfl
  | triple plain =>
    unfold readEntry
    simp only [plain]
    rfl
  | pair equality =>
    subst equality
    unfold readEntry
    simp only [Key.logical?, logicalTag?, testable.plain]
    exact (Entry.meaning_equality table column value).symm
  | scalar equality single =>
    subst equality
    rw [hkey, Entry.meaning_equality]
    cases value with
    | array | object => cases single
    | null | bool | integer | float | string => rfl

/-! ### All entries -/

/-- The entries of a level say what the entries that they spell say. -/
theorem map_meaning {entries : List Entry} {items : List (Key × Json)}
    (each : ∀ e ∈ entries, ∀ item, Spells table e item →
      readEntry table item.1 item.2 = e.meaning table)
    (h : List.Forall₂ (Spells table) entries items) :
    (items.mapM fun item => readEntry table item.1 item.2) = Entry.meaningAll table entries := by
  induction h with
  | nil => rfl
  | @cons e item entries items first rest ih =>
    have hfirst := each e (List.mem_cons_self ..) item first
    have hrest := ih fun e he => each e (List.mem_cons_of_mem _ he)
    rw [List.mapM_cons, hfirst, hrest]
    rfl

/-- The induction is on the entry: each of its spellings holds the spellings of its members. -/
theorem Spells.read_entry (e : Entry) (item : Key × Json) (h : Spells table e item) :
    readEntry table item.1 item.2 = e.meaning table := by
  induction e using Entry.induct generalizing item with
  | group glue members ih =>
    cases h with
    | group written mapping each =>
      rw [written.read_entry mapping, read_level mapping, map_meaning ih each]
      rfl
  | test column operator value =>
    cases h with
    | test testable written => exact written.read_entry testable
  | other key item =>
    cases h
    rfl

theorem Spelled.read {entries : List Entry} {input : Json} (h : Spelled table entries input) :
    read table input = Entry.meaningAll table entries := by
  obtain ⟨mapping, each⟩ := h
  rw [read_level mapping]
  exact map_meaning (fun e _ => Spells.read_entry e) each

/-- Inputs whose entries are spelled differently, at any depth, say the same or fail alike: each is
read as what its entries mean. An integer says what it says as the id. -/
theorem spellings_agree (table : Option Table) :
    (∀ entries x, Spelled table entries x → read table x = Entry.meaningAll table entries) ∧
    (∀ entries x y, Spelled table entries x → Spelled table entries y →
      read table x = read table y) ∧
    (∀ n, read table (.integer n) = read table (.object [("id", .integer n)])) := by
  refine ⟨fun entries x hx => hx.read, ?_, ?_⟩
  · intro entries x y hx hy
    rw [hx.read, hy.read]
  · intro n
    rfl

/-- A user by name or by number, with a test that cannot be read. -/
def adaOrLater : List Entry :=
  [.group .or [
      .test "name" (.string "=") (.string "Ada"),
      .group .and [.test "id" (.string ">") (.integer 9)]],
    .test "nick" (.bool true) .null]

def adaOrLaterNamed : Json :=
  .object [
    ("or", .object [
      ("name", .string "Ada"),
      ("And", .object [("id", .array [.string ">", .integer 9])])]),
    ("nick", .array [.bool true, .null])]

def adaOrLaterListed : Json :=
  .array [
    .object [("sub", .object [
        ("0", .array [.string "name", .string "Ada"]),
        ("home", .array [.object [("AND", .array [
          .array [.string "id", .string ">", .integer 9]])]])]),
      ("operator", .string "Or")],
    .array [.string "nick", .bool true, .null]]

theorem spellings_agree_ada :
    Spelled (some Sample.users) adaOrLater adaOrLaterNamed ∧
    Spelled (some Sample.users) adaOrLater adaOrLaterListed ∧
    read (some Sample.users) adaOrLaterNamed = read (some Sample.users) adaOrLaterListed ∧
    read (some Sample.users) adaOrLaterNamed =
      .error (.malformedCondition (.operatorNotText (.bool true))) := by
  have hname : Testable (some Sample.users) "name" (.string "=") := by
    constructor <;> decide
  have hid : Testable (some Sample.users) "id" (.string ">") := by
    constructor <;> decide
  have hnick : Testable (some Sample.users) "nick" (.bool true) := by
    constructor <;> decide
  have hnamed : Spelled (some Sample.users) adaOrLater adaOrLaterNamed := by
    refine ⟨rfl, .cons (.group (.named rfl) rfl (.cons (.test hname (.scalar rfl rfl))
      (.cons ?_ .nil))) (.cons (.test hnick .keyed) .nil)⟩
    exact .group (.named rfl) rfl (.cons (.test hid .keyed) .nil)
  have hlisted : Spelled (some Sample.users) adaOrLater adaOrLaterListed := by
    refine ⟨rfl, .cons (.group (.sub rfl) rfl (.cons (.test hname (.pair rfl)) (.cons ?_ .nil)))
      (.cons (.test hnick (.triple rfl)) .nil)⟩
    exact .group (.listed rfl rfl) rfl (.cons (.test hid (.triple rfl)) .nil)
  have hsame := (spellings_agree (some Sample.users)).2.1 _ _ _ hnamed hlisted
  exact ⟨hnamed, hlisted, hsame, rfl⟩

end Condition

end SqlBuilder

import SqlBuilder.Proofs.Outline

/-!
The conditions that an input can be read as. They are well-formed, and every list of well-formed
conditions is what some input says.
-/

namespace SqlBuilder

/-! ### Documents and well-formed conditions -/

/-- The whole numbers of 64 bits, with a sign or without. -/
def Word.Fits (n : Int) : Prop := -(Word.signedBound : Int) ≤ n ∧ n < (Word.bound : Int)

/-- A finite number of 64 bits in its one form: only at the least exponent is the mantissa short. -/
def Binary64.IsNumber : Binary64 → Prop
  | finite _ mantissa exponent =>
    mantissa < mantissaBound ∧ leastExponent ≤ exponent ∧ exponent ≤ greatestExponent ∧
      (leastNormal ≤ mantissa ∨ exponent = leastExponent)
  | _ => False

/-- What a JSON document can be: its numbers are numbers of 64 bits, and no object has two members
of one name. -/
inductive Json.Genuine : Json → Prop where
  | null : Genuine .null
  | bool (value : Bool) : Genuine (.bool value)
  | integer {n : Int} (fits : Word.Fits n) : Genuine (.integer n)
  | float {x : Binary64} (number : x.IsNumber) : Genuine (.float x)
  | string (text : String) : Genuine (.string text)
  | array {items : List Json} (each : ∀ item ∈ items, Genuine item) : Genuine (.array items)
  | object {members : List (String × Json)} (each : ∀ m ∈ members, Genuine m.2)
      (distinct : (members.map (·.1)).Nodup) : Genuine (.object members)

/-- No value of the calendar is in it. -/
inductive Value.WellFormed : Value → Prop where
  | null : WellFormed .null
  | bool (value : Bool) : WellFormed (.bool value)
  | integer {n : Int} (fits : Word.Fits n) : WellFormed (.integer n)
  | float {x : Binary64} (number : x.IsNumber) : WellFormed (.float x)
  | text (value : String) : WellFormed (.text value)
  | list {items : List Value} (each : ∀ item ∈ items, WellFormed item) : WellFormed (.list items)

structure Predicate.WellFormed (p : Predicate) : Prop where
  column : p.column ≠ .many []
  operator : ∃ text, p.operator = canonicalOperator text
  value : p.value.WellFormed

/-- Predicates that are well-formed, raw SQL, and groups by `AND` and `OR` of such. -/
inductive Condition.WellFormed : Condition → Prop where
  | predicate {p : Predicate} (h : p.WellFormed) : WellFormed (.predicate p)
  | raw (sql : String) : WellFormed (.raw sql)
  | group {glue : Glue} {children : List Condition} (connective : glue ≠ .comma)
      (each : ∀ c ∈ children, WellFormed c) : WellFormed (.group glue children)

/-! ### The entries of a level -/

namespace Json

/-- Whether the document has entries, named or by position. -/
def isLevel : Json → Bool
  | array _ => true
  | object _ => true
  | _ => false

def entries : Json → List (Key × Json)
  | array items => items.map fun item => (.positional, item)
  | object members => members.map fun (name, item) => (Key.ofName name, item)
  | _ => []

theorem Genuine.entry {level : Json} (h : level.Genuine) {entry : Key × Json}
    (he : entry ∈ level.entries) : entry.2.Genuine := by
  cases h with
  | array each =>
    obtain ⟨item, hm, rfl⟩ := List.mem_map.mp he
    exact each item hm
  | object each distinct =>
    obtain ⟨m, hm, rfl⟩ := List.mem_map.mp he
    exact each m hm
  | null | bool value | integer fits | float number | string text => cases he

end Json

namespace Condition

variable {table : Option Table} {key : Key} {item level : Json} {glue : Glue}

theorem read_items_cons {first : Json} {rest : List Json} {out : List Condition} :
    readItems table (first :: rest) = .ok out ↔
      ∃ c others, readEntry table .positional first = .ok c ∧ readItems table rest = .ok others ∧
        c :: others = out := by
  simp only [readItems, bind_ok, pure_ok]
  constructor
  · rintro ⟨c, hc, others, ho, he⟩
    exact ⟨c, others, hc, ho, he⟩
  · rintro ⟨c, others, hc, ho, he⟩
    exact ⟨c, hc, others, ho, he⟩

theorem read_members_cons {first : String × Json} {rest : List (String × Json)}
    {out : List Condition} :
    readMembers table (first :: rest) = .ok out ↔
      ∃ c others, readEntry table (Key.ofName first.1) first.2 = .ok c ∧
        readMembers table rest = .ok others ∧ c :: others = out := by
  simp only [readMembers, bind_ok, pure_ok]
  constructor
  · rintro ⟨c, hc, others, ho, he⟩
    exact ⟨c, others, hc, ho, he⟩
  · rintro ⟨c, others, hc, ho, he⟩
    exact ⟨c, hc, others, ho, he⟩

theorem mem_read_items {items : List Json} {out : List Condition}
    (h : readItems table items = .ok out) :
    ∀ c ∈ out, ∃ item ∈ items, readEntry table .positional item = .ok c := by
  induction items generalizing out with
  | nil =>
    cases h
    simp
  | cons first rest ih =>
    obtain ⟨d, others, hd, ho, rfl⟩ := read_items_cons.mp h
    intro c hc
    rcases List.mem_cons.mp hc with rfl | hc
    · exact ⟨first, List.mem_cons_self .., hd⟩
    · obtain ⟨item, hm, hi⟩ := ih ho c hc
      exact ⟨item, List.mem_cons_of_mem _ hm, hi⟩

theorem mem_read_members {members : List (String × Json)} {out : List Condition}
    (h : readMembers table members = .ok out) :
    ∀ c ∈ out, ∃ m ∈ members, readEntry table (Key.ofName m.1) m.2 = .ok c := by
  induction members generalizing out with
  | nil =>
    cases h
    simp
  | cons first rest ih =>
    obtain ⟨d, others, hd, ho, rfl⟩ := read_members_cons.mp h
    intro c hc
    rcases List.mem_cons.mp hc with rfl | hc
    · exact ⟨first, List.mem_cons_self .., hd⟩
    · obtain ⟨m, hm, hi⟩ := ih ho c hc
      exact ⟨m, List.mem_cons_of_mem _ hm, hi⟩

/-- Each condition of a level is what one of its entries says. -/
theorem mem_read_level (hl : level.isLevel = true) {out : List Condition}
    (h : read table level = .ok out) :
    ∀ c ∈ out, ∃ entry ∈ level.entries, readEntry table entry.1 entry.2 = .ok c := by
  intro c hc
  cases level with
  | array items =>
    obtain ⟨item, hm, hi⟩ := mem_read_items h c hc
    exact ⟨_, List.mem_map_of_mem hm, hi⟩
  | object members =>
    obtain ⟨m, hm, hi⟩ := mem_read_members h c hc
    exact ⟨_, List.mem_map_of_mem hm, hi⟩
  | null | bool | integer | float | string => cases hl

/-! ### What an entry says -/

/-- The ways to write a group of a level: by the name of the entry, by the only name of an object
or of an object alone in an array, by the first of a pair, or by an object of `sub` and
`operator`. -/
inductive Opens (key : Key) : Json → Glue → Json → Prop where
  | named {glue : Glue} {level : Json} (tag : key.logical? = some glue) : Opens key level glue level
  | wrapped {name : String} {glue : Glue} {level : Json} (tag : Glue.logical? name = some glue) :
      Opens key (.object [(name, level)]) glue level
  | listed {name : String} {glue : Glue} {level : Json} (tag : Glue.logical? name = some glue) :
      Opens key (.array [.object [(name, level)]]) glue level
  | paired {first : Json} {glue : Glue} {level : Json} (tag : logicalTag? first = some glue) :
      Opens key (.array [first, level]) glue level
  | sub {operator : Json} {glue : Glue} {level : Json} (tag : logicalTag? operator = some glue) :
      Opens key (.object [("sub", level), ("operator", operator)]) glue level
  | operator {operator : Json} {glue : Glue} {level : Json}
      (tag : logicalTag? operator = some glue) :
      Opens key (.object [("operator", operator), ("sub", level)]) glue level

/-- Everything that an entry can say. -/
inductive Entered (table : Option Table) (key : Key) : Json → Condition → Prop where
  | group {item level : Json} {glue : Glue} {children : List Condition}
      (opens : Opens key item glue level) (mapping : level.isLevel = true)
      (inner : read table level = .ok children) : Entered table key item (.group glue children)
  | pair {first second : Json} {c : Condition} (h : readPair table key first second = .ok c) :
      Entered table key (.array [first, second]) c
  | triple {column operator value : Json} {c : Condition}
      (h : readTriple column operator value = .ok c) :
      Entered table key (.array [column, operator, value]) c
  | scalar {item : Json} {c : Condition} (h : readScalar key item = .ok c) : Entered table key item c

theorem entered_inner {c : Condition} (opens : Opens key item glue level)
    (mapping : level.isLevel = true)
    (h : (do return .group glue (← read table level) : Except Error Condition) = .ok c) :
    Entered table key item c := by
  obtain ⟨children, hc, h⟩ := bind_ok.mp h
  rw [← pure_ok.mp h]
  exact .group opens mapping hc

theorem entered_group {fault : Error} {c : Condition} (opens : Opens key item glue level)
    (h : readGroup table glue fault level = .ok c) : Entered table key item c := by
  unfold readGroup at h
  split at h
  · exact entered_inner opens rfl h
  · exact entered_inner opens rfl h
  · cases h

theorem entered_object {members : List (String × Json)} {c : Condition}
    (h : readEntry table key (.object members) = .ok c) : Entered table key (.object members) c := by
  unfold readEntry at h
  split at h
  · rename_i glue hk
    exact entered_inner (.named hk) rfl h
  · split at h
    · split at h
      · rename_i tag
        exact entered_group (.wrapped tag) h
      · cases h
    · split at h
      · rename_i hs
        obtain ⟨_, rfl, rfl⟩ := hs
        split at h
        · rename_i tag
          exact entered_group (.sub tag) h
        · cases h
      · split at h
        · rename_i hs
          obtain ⟨_, rfl, rfl⟩ := hs
          split at h
          · rename_i tag
            exact entered_group (.operator tag) h
          · cases h
        · cases h
    · cases h

theorem entered_array {items : List Json} {c : Condition}
    (h : readEntry table key (.array items) = .ok c) : Entered table key (.array items) c := by
  unfold readEntry at h
  split at h
  · rename_i glue hk
    exact entered_inner (.named hk) rfl h
  · split at h
    · split at h
      · rename_i tag
        exact entered_group (.listed tag) h
      · cases h
    · split at h
      · rename_i tag
        exact entered_group (.paired tag) h
      · exact .pair h
    · exact .triple h
    · cases h

theorem entered {c : Condition} (h : readEntry table key item = .ok c) :
    Entered table key item c := by
  cases item with
  | array items => exact entered_array h
  | object members => exact entered_object h
  | null | bool | integer | float | string => exact .scalar h

/-! ### What is read is well-formed -/

theorem logical_connective {tag : String} (h : Glue.logical? tag = some glue) : glue ≠ .comma := by
  unfold Glue.logical? at h
  split at h
  all_goals cases h
  all_goals decide

theorem tag_connective {tag : Json} (h : logicalTag? tag = some glue) : glue ≠ .comma := by
  cases tag with
  | string text => exact logical_connective h
  | null | bool | integer | float | array | object => cases h

theorem Opens.connective (h : Opens key item glue level) : glue ≠ .comma := by
  cases h with
  | named tag =>
    cases key with
    | positional => cases tag
    | named name => exact logical_connective tag
  | wrapped tag => exact logical_connective tag
  | listed tag => exact logical_connective tag
  | paired tag => exact tag_connective tag
  | sub tag => exact tag_connective tag
  | operator tag => exact tag_connective tag

theorem Opens.genuine (h : Opens key item glue level) (hg : item.Genuine) : level.Genuine := by
  cases h with
  | named tag => exact hg
  | wrapped tag =>
    cases hg with
    | object each distinct => exact each _ (List.mem_cons_self ..)
  | listed tag =>
    cases hg with
    | array each =>
      cases each _ (List.mem_cons_self ..) with
      | object each distinct => exact each _ (List.mem_cons_self ..)
  | paired tag =>
    cases hg with
    | array each => exact each _ (by simp)
  | sub tag =>
    cases hg with
    | object each distinct => exact each _ (List.mem_cons_self ..)
  | operator tag =>
    cases hg with
    | object each distinct => exact each ("sub", level) (by simp)

end Condition

theorem Value.of_items_mem {items : List Json} {values : List Value}
    (h : Value.ofItems? items = some values) :
    ∀ value ∈ values, ∃ item ∈ items, Value.ofJson? item = some value := by
  induction items generalizing values with
  | nil =>
    cases h
    simp
  | cons item rest ih =>
    rw [Value.ofItems?] at h
    obtain ⟨first, hf, h⟩ := Option.bind_eq_some_iff.mp h
    obtain ⟨others, ho, h⟩ := Option.bind_eq_some_iff.mp h
    cases h
    intro value hv
    rcases List.mem_cons.mp hv with rfl | hv
    · exact ⟨item, List.mem_cons_self .., hf⟩
    · obtain ⟨other, hm, hi⟩ := ih ho value hv
      exact ⟨other, List.mem_cons_of_mem _ hm, hi⟩

theorem Json.Genuine.value {json : Json} (h : json.Genuine) (value : Value)
    (hv : Value.ofJson? json = some value) : value.WellFormed := by
  induction h generalizing value with
  | null =>
    cases hv
    exact .null
  | bool b =>
    cases hv
    exact .bool b
  | integer fits =>
    cases hv
    exact .integer fits
  | float number =>
    cases hv
    exact .float number
  | string text =>
    cases hv
    exact .text text
  | array each ih =>
    obtain ⟨values, hs, rfl⟩ := Option.map_eq_some_iff.mp hv
    refine .list fun value hm => ?_
    obtain ⟨item, hi, ho⟩ := Value.of_items_mem hs value hm
    exact ih item hi value ho
  | object each distinct ih => cases hv

namespace Condition

variable {table : Option Table} {key : Key} {item : Json} {c : Condition}

theorem read_value_well_formed {json : Json} {value : Value} (hg : json.Genuine)
    (h : readValue json = .ok value) : value.WellFormed := by
  unfold readValue at h
  split at h
  · rename_i found hf
    cases h
    exact hg.value _ hf
  · cases h

theorem read_names_ne_nil {first : Json} {rest : List Json} {names : List String}
    (h : readColumnNames (first :: rest) = some names) : names ≠ [] := by
  cases first with
  | string name =>
    obtain ⟨others, _, rfl⟩ := Option.map_eq_some_iff.mp h
    simp
  | null | bool | integer | float | array | object => cases h

theorem read_column_some {json : Json} {column : ColumnRef} (h : readColumn json = .ok column) :
    column ≠ .many [] := by
  unfold readColumn at h
  split at h
  · cases h
    simp
  · split at h
    · rename_i names hn
      cases h
      simpa using read_names_ne_nil hn
    · cases h
  · cases h

theorem read_operator_canonical {json : Json} {operator : String}
    (h : readOperator json = .ok operator) :
    ∃ text, operator = Predicate.canonicalOperator text := by
  unfold readOperator at h
  split at h
  · rename_i text
    exact ⟨text, (Except.ok.inj h).symm⟩
  · cases h

theorem canonical_equality : "=" = Predicate.canonicalOperator "=" := by decide

theorem equality_well_formed {column : String} {json : Json} (hg : json.Genuine)
    (h : equality column json = .ok c) : c.WellFormed := by
  obtain ⟨value, hv, h⟩ := bind_ok.mp h
  rw [← pure_ok.mp h]
  exact .predicate ⟨by simp, ⟨_, canonical_equality⟩, read_value_well_formed hg hv⟩

theorem pair_well_formed {first second : Json} (hf : first.Genuine) (hs : second.Genuine)
    (h : readPair table key first second = .ok c) : c.WellFormed := by
  unfold readPair at h
  split at h
  · split at h
    · refine equality_well_formed (.array ?_) h
      simp [hf, hs]
    · obtain ⟨operator, ho, h⟩ := bind_ok.mp h
      obtain ⟨value, hv, h⟩ := bind_ok.mp h
      rw [← pure_ok.mp h]
      exact .predicate ⟨by simp, read_operator_canonical ho, read_value_well_formed hs hv⟩
  · obtain ⟨column, hc, h⟩ := bind_ok.mp h
    obtain ⟨value, hv, h⟩ := bind_ok.mp h
    rw [← pure_ok.mp h]
    exact .predicate ⟨read_column_some hc, ⟨_, canonical_equality⟩, read_value_well_formed hs hv⟩

theorem triple_well_formed {column operator value : Json} (hg : value.Genuine)
    (h : readTriple column operator value = .ok c) : c.WellFormed := by
  obtain ⟨column, hc, h⟩ := bind_ok.mp h
  obtain ⟨operator, ho, h⟩ := bind_ok.mp h
  obtain ⟨value, hv, h⟩ := bind_ok.mp h
  rw [← pure_ok.mp h]
  exact .predicate ⟨read_column_some hc, read_operator_canonical ho, read_value_well_formed hg hv⟩

theorem scalar_well_formed (hg : item.Genuine) (h : readScalar key item = .ok c) :
    c.WellFormed := by
  unfold readScalar at h
  split at h
  · cases h
    exact .raw _
  · cases h
  · exact equality_well_formed hg h

/-- What an entry says is well-formed if the members of the group that it may open are. -/
theorem Entered.well_formed (h : Entered table key item c) (hg : item.Genuine)
    (members : ∀ glue children, c = .group glue children → ∀ child ∈ children, ∀ key item,
      Json.Genuine item → readEntry table key item = .ok child → child.WellFormed) :
    c.WellFormed := by
  cases h with
  | group opens mapping inner =>
    refine .group opens.connective fun child hc => ?_
    obtain ⟨entry, he, hr⟩ := mem_read_level mapping inner child hc
    exact members _ _ rfl child hc _ _ ((opens.genuine hg).entry he) hr
  | pair h =>
    cases hg with
    | array each => exact pair_well_formed (each _ (by simp)) (each _ (by simp)) h
  | triple h =>
    cases hg with
    | array each => exact triple_well_formed (each _ (by simp)) h
  | scalar h => exact scalar_well_formed hg h

/-- The induction is on the condition, not on the document: a group may stand several levels
deep in the item that opens it. -/
theorem entry_well_formed (c : Condition) (key : Key) (item : Json) (hg : item.Genuine)
    (h : readEntry table key item = .ok c) : c.WellFormed := by
  induction c using Condition.induct generalizing key item with
  | group glue children ih =>
    refine (entered h).well_formed hg ?_
    intro _ _ he
    cases he
    exact ih
  | predicate p =>
    refine (entered h).well_formed hg ?_
    intro _ _ he
    cases he
  | raw sql => exact .raw sql

theorem read_well_formed {input : Json} {conditions : List Condition} (hg : input.Genuine)
    (h : read table input = .ok conditions) : ∀ c ∈ conditions, c.WellFormed := by
  by_cases hl : input.isLevel = true
  · intro c hc
    obtain ⟨entry, he, hr⟩ := mem_read_level hl h c hc
    exact entry_well_formed c _ _ (hg.entry he) hr
  · cases hg with
    | null =>
      cases h
      simp
    | integer fits =>
      cases h
      simpa using WellFormed.predicate ⟨by simp, ⟨_, canonical_equality⟩, .integer fits⟩
    | array | object => exact absurd rfl hl
    | bool | float | string => cases h

end Condition

/-! ### What is well-formed can be read -/

theorem Value.of_items_exists {values : List Value}
    (each : ∀ v ∈ values, ∃ json : Json, json.Genuine ∧ Value.ofJson? json = some v) :
    ∃ items : List Json, (∀ item ∈ items, item.Genuine) ∧ Value.ofItems? items = some values := by
  induction values with
  | nil => exact ⟨[], by simp, rfl⟩
  | cons value rest ih =>
    obtain ⟨json, hg, hv⟩ := each value (List.mem_cons_self ..)
    obtain ⟨items, hi, hr⟩ := ih fun v hm => each v (List.mem_cons_of_mem _ hm)
    refine ⟨json :: items, List.forall_mem_cons.mpr ⟨hg, hi⟩, ?_⟩
    simp [Value.ofItems?, hv, hr]

theorem Value.WellFormed.written {value : Value} (h : value.WellFormed) :
    ∃ json : Json, json.Genuine ∧ Value.ofJson? json = some value := by
  induction h with
  | null => exact ⟨.null, .null, rfl⟩
  | bool b => exact ⟨.bool b, .bool b, rfl⟩
  | @integer n fits => exact ⟨.integer n, .integer fits, rfl⟩
  | @float x number => exact ⟨.float x, .float number, rfl⟩
  | text s => exact ⟨.string s, .string s, rfl⟩
  | list each ih =>
    obtain ⟨items, hi, hv⟩ := Value.of_items_exists ih
    exact ⟨.array items, .array hi, by simp [Value.ofJson?, hv]⟩

namespace Condition

theorem read_names_strings (names : List String) :
    readColumnNames (names.map .string) = some names := by
  induction names with
  | nil => rfl
  | cons name rest ih => simp [readColumnNames, ih]

theorem column_written {column : ColumnRef} (h : column ≠ .many []) :
    ∃ json : Json, json.Genuine ∧ readColumn json = .ok column := by
  cases column with
  | one name => exact ⟨.string name, .string name, rfl⟩
  | many names =>
    cases names with
    | nil => exact absurd rfl h
    | cons name rest =>
      refine ⟨.array ((name :: rest).map .string), .array ?_, ?_⟩
      · intro item hi
        obtain ⟨text, _, rfl⟩ := List.mem_map.mp hi
        exact .string text
      · rw [List.map_cons, readColumn, ← List.map_cons, read_names_strings]

theorem read_entry_triple (table : Option Table) (column operator value : Json) :
    readEntry table .positional (.array [column, operator, value]) =
      readTriple column operator value := by
  rw [readEntry.eq_def]
  simp only [Key.logical?]

theorem read_entry_tagged (table : Option Table) {glue : Glue} (hg : glue ≠ .comma)
    (items : List Json) :
    readEntry table .positional (.object [(glue.word, .array items)]) =
      (readItems table items).map (.group glue) := by
  unfold readEntry
  cases glue with
  | and => rfl
  | or => rfl
  | comma => exact absurd rfl hg

/-- As an array of three a predicate is taken for nothing else. -/
theorem predicate_written {p : Predicate} (h : p.WellFormed) :
    ∃ item : Json, item.Genuine ∧
      ∀ table, readEntry table .positional item = .ok (.predicate p) := by
  obtain ⟨column, hcg, hc⟩ := column_written h.column
  obtain ⟨operator, ho⟩ := h.operator
  obtain ⟨value, hvg, hv⟩ := h.value.written
  refine ⟨.array [column, .string operator, value], .array ?_, fun table => ?_⟩
  · simp [hcg, hvg, Json.Genuine.string]
  · rw [read_entry_triple, readTriple, hc, readOperator, readValue, hv, ← ho]
    rfl

theorem items_written {conditions : List Condition}
    (each : ∀ c ∈ conditions, ∃ item : Json, item.Genuine ∧
      ∀ table, readEntry table .positional item = .ok c) :
    ∃ items : List Json, (∀ item ∈ items, item.Genuine) ∧
      ∀ table, readItems table items = .ok conditions := by
  induction conditions with
  | nil => exact ⟨[], by simp, fun _ => rfl⟩
  | cons c rest ih =>
    obtain ⟨item, hg, hc⟩ := each c (List.mem_cons_self ..)
    obtain ⟨items, hi, hr⟩ := ih fun d hd => each d (List.mem_cons_of_mem _ hd)
    refine ⟨item :: items, List.forall_mem_cons.mpr ⟨hg, hi⟩, fun table => ?_⟩
    exact read_items_cons.mpr ⟨c, rest, hc table, hr table, rfl⟩

theorem WellFormed.written {c : Condition} (h : c.WellFormed) :
    ∃ item : Json, item.Genuine ∧ ∀ table, readEntry table .positional item = .ok c := by
  induction h with
  | predicate h => exact predicate_written h
  | raw sql => exact ⟨.string sql, .string sql, fun _ => rfl⟩
  | @group glue children connective each ih =>
    obtain ⟨items, hi, hr⟩ := items_written ih
    refine ⟨.object [(glue.word, .array items)], .object ?_ (by simp), fun table => ?_⟩
    · simpa using Json.Genuine.array hi
    · rw [read_entry_tagged table connective, hr table]
      rfl

/-- The conditions that an input says, whatever the table, are exactly the well-formed ones. -/
theorem read_iff_well_formed (table : Option Table) (conditions : List Condition) :
    (∃ input : Json, input.Genuine ∧ read table input = .ok conditions) ↔
      ∀ c ∈ conditions, c.WellFormed := by
  constructor
  · rintro ⟨input, hg, h⟩
    exact read_well_formed hg h
  · intro h
    obtain ⟨items, hi, hr⟩ := items_written fun c hc => (h c hc).written
    exact ⟨.array items, .array hi, hr table⟩

end Condition

end SqlBuilder

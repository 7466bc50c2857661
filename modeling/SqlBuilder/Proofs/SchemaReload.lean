import Mathlib.Data.List.Forall2
import SqlBuilder.Proofs.DocumentText
import SqlBuilder.Proofs.LowerCase
import SqlBuilder.Proofs.Outline
import SqlBuilder.Schema.Decode

/-!
Schemas that are loaded, put together table by table, and loaded again from what is written of
them. All three give the same tables: linking settles the owners of foreign keys and nothing else,
and a type that was read from a tag is read again from the tag it is written with.
-/

namespace SqlBuilder

open Json

/-! ### Linked tables -/

/-- The key with its owner settled, where `owner` is the name of the column that declares it. -/
structure ForeignKey.Linked (owner : String) (key linked : ForeignKey) : Prop where
  table : linked.table = key.table
  column : linked.column = key.column
  explicit_owner : key.owner ≠ "" → linked.owner = key.owner
  implicit_owner : key.owner = "" → linked.owner = owner

structure Column.Linked (c linked : Column) : Prop where
  name : linked.name = c.name
  type : linked.type = c.type
  nullable : linked.nullable = c.nullable
  length : linked.length = c.length
  keys : List.Forall₂ (ForeignKey.Linked c.name) c.foreignKeys linked.foreignKeys

structure Table.Linked (t linked : Table) : Prop where
  name : linked.name = t.name
  columns : List.Forall₂ Column.Linked t.columns linked.columns

/-- The same tables in the same order, each with the owners of its keys settled. -/
def Schema.Linked (s linked : Schema) : Prop := List.Forall₂ Table.Linked s.tables linked.tables

theorem Column.link_linked (c : Column) : c.Linked c.link := by
  refine ⟨rfl, rfl, rfl, rfl, List.forall₂_map_right_iff.mpr (List.forall₂_same.mpr ?_)⟩
  intro key _
  by_cases hk : key.owner = ""
  · rw [if_pos hk]
    exact ⟨rfl, rfl, fun hne => absurd hk hne, fun _ => rfl⟩
  · rw [if_neg hk]
    exact ⟨rfl, rfl, fun _ => rfl, fun he => absurd he hk⟩

theorem Table.link_linked (t : Table) : t.Linked t.link := by
  refine ⟨rfl, List.forall₂_map_right_iff.mpr (List.forall₂_same.mpr ?_)⟩
  exact fun c _ => c.link_linked

theorem Schema.link_linked (s : Schema) : s.Linked s.link := by
  apply List.forall₂_map_right_iff.mpr
  exact List.forall₂_same.mpr fun t _ => t.link_linked

/-- A key without an owner in a column without a name stays without one. -/
theorem Column.link_link (c : Column) : c.link.link = c.link := by
  unfold Column.link
  simp only [List.map_map]
  congr 1
  apply List.map_congr_left
  intro key _
  by_cases hk : key.owner = ""
  · simp [hk]
  · simp [hk]

theorem Table.link_link (t : Table) : t.link.link = t.link := by
  simp [Table.link, Function.comp_def, Column.link_link]

theorem Schema.link_link (s : Schema) : s.link.link = s.link := by
  simp [Schema.link, Function.comp_def, Table.link_link]

theorem Schema.add_tables (s : Schema) (tables : List Table) :
    tables.foldl Schema.addTable s = ⟨s.tables ++ tables.map Table.link⟩ := by
  induction tables generalizing s with
  | nil => simp
  | cons t rest ih => simp [ih, Schema.addTable]

theorem Schema.link_eq_added (s : Schema) : s.link = s.tables.foldl Schema.addTable {} := by
  rw [Schema.add_tables]
  rfl

/-! ### Types from tags -/

/-- The type is read from the tag that it is written with. -/
def Column.Tagged (c : Column) : Prop := ColumnType.ofTag c.type.tag = c.type

def Schema.Tagged (s : Schema) : Prop := ∀ t ∈ s.tables, ∀ c ∈ t.columns, c.Tagged

theorem Schema.Tagged.link {s : Schema} (h : s.Tagged) : s.link.Tagged := by
  intro t ht c hc
  obtain ⟨t', ht', rfl⟩ := List.mem_map.mp ht
  obtain ⟨c', hc', rfl⟩ := List.mem_map.mp hc
  exact h t' ht' c' hc'

section Decoding

variable {α : Type} {decode : Json → Except DecodeFault α} {values : List α}

theorem decode_items_mem {items : List Json} (h : decodeItems decode items = .ok values) :
    ∀ value ∈ values, ∃ item ∈ items, decode item = .ok value := by
  induction items generalizing values with
  | nil =>
    cases h
    exact fun _ hv => absurd hv List.not_mem_nil
  | cons item rest ih =>
    obtain ⟨first, hfirst, h⟩ := bind_ok.mp h
    obtain ⟨others, hothers, h⟩ := bind_ok.mp h
    cases h
    intro value hv
    rcases List.mem_cons.mp hv with rfl | hv
    · exact ⟨item, List.mem_cons_self .., hfirst⟩
    · obtain ⟨item, hitem, hd⟩ := ih hothers value hv
      exact ⟨item, List.mem_cons_of_mem _ hitem, hd⟩

theorem decode_list_mem {json : Json} (h : decodeList decode json = .ok values) :
    ∀ value ∈ values, ∃ item, decode item = .ok value := by
  intro value hv
  cases json with
  | array items =>
    obtain ⟨item, -, hd⟩ := decode_items_mem h value hv
    exact ⟨item, hd⟩
  | _ => cases h

end Decoding

variable {strictness : Strictness} {json : Json}

theorem Column.decode_tagged {c : Column} (h : Column.decode strictness json = .ok c) :
    c.Tagged := by
  obtain ⟨members, -, h⟩ := bind_ok.mp h
  obtain ⟨nameJson, -, h⟩ := bind_ok.mp h
  obtain ⟨name, -, h⟩ := bind_ok.mp h
  obtain ⟨tagJson, -, h⟩ := bind_ok.mp h
  obtain ⟨tag, -, h⟩ := bind_ok.mp h
  obtain ⟨nullable, -, h⟩ := bind_ok.mp h
  obtain ⟨length, -, h⟩ := bind_ok.mp h
  obtain ⟨keys, -, h⟩ := bind_ok.mp h
  have htype : c.type = ColumnType.ofTag tag := by rw [← Except.ok.inj h]
  rw [Column.Tagged, htype]
  exact ColumnType.of_tag_tag tag

theorem Table.decode_tagged {t : Table} (h : Table.decode strictness json = .ok t) :
    ∀ c ∈ t.columns, c.Tagged := by
  obtain ⟨members, -, h⟩ := bind_ok.mp h
  obtain ⟨nameJson, -, h⟩ := bind_ok.mp h
  obtain ⟨name, -, h⟩ := bind_ok.mp h
  obtain ⟨columnsJson, -, h⟩ := bind_ok.mp h
  obtain ⟨columns, hcolumns, h⟩ := bind_ok.mp h
  cases h
  intro c hc
  obtain ⟨item, hd⟩ := decode_list_mem hcolumns c hc
  exact Column.decode_tagged hd

theorem Schema.decode_tagged {s : Schema} (h : Schema.decode strictness json = .ok s) :
    s.Tagged := by
  obtain ⟨members, -, h⟩ := bind_ok.mp h
  obtain ⟨tablesJson, -, h⟩ := bind_ok.mp h
  obtain ⟨tables, htables, h⟩ := bind_ok.mp h
  cases h
  intro t ht
  obtain ⟨item, hd⟩ := decode_list_mem htables t ht
  exact Table.decode_tagged hd

/-! ### What is written, decoded -/

theorem decode_items_map {α : Type} {decode : Json → Except DecodeFault α} {write : α → Json}
    {values : List α} (h : ∀ value ∈ values, decode (write value) = .ok value) :
    decodeItems decode (values.map write) = .ok values := by
  induction values with
  | nil => rfl
  | cons value rest ih =>
    have hrest := ih fun other ho => h other (List.mem_cons_of_mem value ho)
    rw [List.map_cons, decodeItems, h value (List.mem_cons_self ..), hrest]
    rfl

theorem ForeignKey.decode_json (strictness : Strictness) (key : ForeignKey) :
    ForeignKey.decode strictness key.json = .ok key := by
  rfl

theorem Column.decode_length (length : Option UInt32) :
    decodeOption Column.decodeLength (match length with
      | some n => .integer n.toNat
      | none => .null) = .ok length := by
  cases length with
  | none => rfl
  | some n =>
    have hbound : (0 : Int) ≤ n.toNat ∧ (n.toNat : Int) ≤ (UInt32.size - 1 : Nat) := by
      have hlt := n.toNat_lt
      rw [UInt32.size]
      omega
    change ((decodeNat (UInt32.size - 1) (.integer n.toNat)).map UInt32.ofNat).map some = _
    rw [decodeNat, if_pos hbound, Int.toNat_natCast, Except.map, UInt32.ofNat_toNat]
    rfl

theorem Column.decode_json {c : Column} (h : c.Tagged) (strictness : Strictness) :
    Column.decode strictness c.json = .ok c := by
  have hkeys : decodeItems (ForeignKey.decode strictness) (c.foreignKeys.map ForeignKey.json) =
      .ok c.foreignKeys := decode_items_map fun key _ => ForeignKey.decode_json strictness key
  change (do
    let length ← decodeOption Column.decodeLength (match c.length with
      | some n => .integer n.toNat
      | none => .null)
    let keys ← decodeItems (ForeignKey.decode strictness) (c.foreignKeys.map ForeignKey.json)
    return (⟨c.name, .ofTag c.type.tag, c.nullable, length, keys⟩ : Column)) = _
  rw [Column.decode_length, hkeys, h]
  rfl

theorem Table.decode_json {t : Table} (h : ∀ c ∈ t.columns, c.Tagged) (strictness : Strictness) :
    Table.decode strictness t.json = .ok t := by
  have hcolumns : decodeItems (Column.decode strictness) (t.columns.map Column.json) =
      .ok t.columns := decode_items_map fun c hc => Column.decode_json (h c hc) strictness
  change (do
    let columns ← decodeItems (Column.decode strictness) (t.columns.map Column.json)
    return (⟨t.name, columns⟩ : Table)) = _
  rw [hcolumns]
  rfl

theorem Schema.decode_json {s : Schema} (h : s.Tagged) (strictness : Strictness) :
    Schema.decode strictness s.json = .ok s := by
  have htables : decodeItems (Table.decode strictness) (s.tables.map Table.json) =
      .ok s.tables := decode_items_map fun t ht => Table.decode_json (h t ht) strictness
  change (do
    let tables ← decodeItems (Table.decode strictness) (s.tables.map Table.json)
    return (⟨tables⟩ : Schema)) = _
  rw [htables]
  rfl

/-! ### What is written, read -/

theorem ForeignKey.reads_json (key : ForeignKey) :
    Reads ForeignKey.read key.json.text key.json := by
  apply reads_record
  simp only [List.forall_mem_cons, List.not_mem_nil, false_implies, implies_true, and_true]
  exact ⟨⟨whole, rfl, reads_string _⟩, ⟨whole, rfl, reads_string _⟩, ⟨whole, rfl, reads_string _⟩⟩

theorem Column.reads_length (length : Option UInt32) :
    Reads whole (match length with
      | some n => Json.integer n.toNat
      | none => .null).text (match length with
      | some n => .integer n.toNat
      | none => .null) := by
  cases length with
  | none => exact reads_null
  | some n => exact reads_natural (Nat.lt_trans n.toNat_lt (by decide))

theorem Column.reads_json (c : Column) : Reads Column.read c.json.text c.json := by
  apply reads_record
  simp only [List.forall_mem_cons, List.not_mem_nil, false_implies, implies_true, and_true]
  exact ⟨⟨whole, rfl, reads_string _⟩, ⟨whole, rfl, reads_string _⟩, ⟨whole, rfl, reads_bool _⟩,
    ⟨whole, rfl, Column.reads_length _⟩,
    ⟨listOf ForeignKey.read, rfl, reads_list fun key _ => key.reads_json⟩⟩

theorem Table.reads_json (t : Table) : Reads Table.read t.json.text t.json := by
  apply reads_record
  simp only [List.forall_mem_cons, List.not_mem_nil, false_implies, implies_true, and_true]
  exact ⟨⟨whole, rfl, reads_string _⟩,
    ⟨listOf Column.read, rfl, reads_list fun c _ => c.reads_json⟩⟩

namespace Schema

theorem reads_json (s : Schema) : Reads Schema.read s.json.text s.json := by
  apply reads_record
  simp only [List.forall_mem_cons, List.not_mem_nil, false_implies, implies_true, and_true]
  exact ⟨listOf Table.read, rfl, reads_list fun t _ => t.reads_json⟩

/-! ### Loading -/

/-- What comes of loading a document, and the tables that it has before they are linked. -/
inductive Decoded : Except Error Schema → Schema → Prop where
  | value {document : Json} {raw : Schema} (tables : decode .strict document = .ok raw) :
      Decoded (ofJson document) raw
  | json {text : String} {document : Json} {raw : Schema}
      (form : readDocument read text = some document)
      (tables : decode .strict document = .ok raw) : Decoded (ofJsonText text) raw
  | toml {text : String} {document : Json} {raw : Schema}
      (form : Toml.parse? text = some document)
      (tables : decode .lenient document = .ok raw) : Decoded (ofTomlText text) raw

variable {loaded : Except Error Schema} {raw : Schema}

theorem Decoded.loaded_linked (h : Decoded loaded raw) : loaded = .ok raw.link := by
  cases h with
  | value tables => rw [ofJson, tables, load]
  | json form tables => simp only [ofJsonText, form, ofJson, tables, load]
  | toml form tables => simp only [ofTomlText, form, tables, load]

theorem Decoded.tagged (h : Decoded loaded raw) : raw.Tagged := by
  cases h with
  | value tables => exact decode_tagged tables
  | json form tables => exact decode_tagged tables
  | toml form tables => exact decode_tagged tables

theorem load_json {s : Schema} (h : s.Tagged) (linked : s.link = s) (strictness : Strictness) :
    load (decode strictness s.json) = .ok s := by
  rw [decode_json h, load, linked]

theorem load_json_text {s : Schema} (h : s.Tagged) (linked : s.link = s) :
    ofJsonText s.json.text = .ok s := by
  rw [ofJsonText, s.reads_json.read_document]
  exact load_json h linked .strict

/-- A schema is the same whether its tables are loaded, added one by one, or loaded again from
what is written of them, and linking settles the owners of its keys and nothing else. -/
theorem reloaded_alike (h : Decoded loaded raw) :
    ∃ s, loaded = .ok s ∧ s = raw.tables.foldl addTable {} ∧ raw.Linked s ∧
      (∀ strictness, load (decode strictness s.json) = .ok s) ∧ ofJsonText s.json.text = .ok s ∧
      ∀ tag, ColumnType.ofTag (ColumnType.ofTag tag).tag = ColumnType.ofTag tag := by
  have htagged : raw.link.Tagged := h.tagged.link
  exact ⟨raw.link, h.loaded_linked, raw.link_eq_added, raw.link_linked,
    load_json htagged raw.link_link, load_json_text htagged raw.link_link, ColumnType.of_tag_tag⟩

/-- A table with a key that names its owner and one that does not. -/
def itemsDocument : Json :=
  .object [("tables", .array [.object [("name", .string "items"), ("columns", .array [
    .object [("name", .string "shop"), ("typ", .string " Integer "), ("foreign_keys", .array [
      .object [("table", .string "shops"), ("column", .string "id")],
      .object [("table", .string "people"), ("column", .string "id"),
        ("owner", .string "keeper")]])],
    .object [("name", .string "place"), ("type", .string "ΟΔΟΣ"), ("nullable", .bool true),
      ("length", .integer 20)]])]])]

/-- The tables of the document, where `owner` is the owner of the key that names none. -/
def itemsTables (owner : String) : Schema :=
  ⟨[⟨"items",
    [⟨"shop", .int, false, none, [⟨"shops", "id", owner⟩, ⟨"people", "id", "keeper"⟩]⟩,
     ⟨"place", .other "οδος", true, some 20, []⟩]⟩]⟩

theorem reloaded_alike_items : decode .strict itemsDocument = .ok (itemsTables "") ∧
    (itemsTables "").tables.foldl addTable {} = itemsTables "shop" ∧
    ∃ s, ofJson itemsDocument = .ok s ∧ s = (itemsTables "").tables.foldl addTable {} ∧
      (itemsTables "").Linked s ∧
      (∀ strictness, load (decode strictness s.json) = .ok s) ∧ ofJsonText s.json.text = .ok s ∧
      ∀ tag, ColumnType.ofTag (ColumnType.ofTag tag).tag = ColumnType.ofTag tag := by
  have hdecode : decode .strict itemsDocument = .ok (itemsTables "") := by decide +kernel
  exact ⟨hdecode, by decide +kernel, reloaded_alike (.value hdecode)⟩

end Schema

end SqlBuilder

import SqlBuilder.Proofs.NormalJoin

/-!
Joins written out as records and read again. The record that states all of a normal join is read as
that join. The exception is a column whose name breaks off the search for a comparison: without the
blank that stood behind it the name cannot be read again.
-/

namespace SqlBuilder

open Comparison (Cut)

/-! ### Joins written as records -/

/-- A text for a column or a raw entry, and an object with one member for a pair. -/
def OnEntry.item : OnEntry → Json
  | column name => .string name
  | pair origin joined => .object [(origin, .string joined)]
  | raw sql => .string sql

/-- A field as a member of an object: under any index if it keeps its name, and otherwise under the
name of its column. -/
inductive ProjectedField.Member : ProjectedField → String × Json → Prop where
  | kept {key name : String} (index : Text.isIndex key = true) :
      Member ⟨name, name⟩ (key, .string name)
  | renamed {source exposed : String} (differ : source ≠ exposed) :
      Member ⟨source, exposed⟩ (source, .string exposed)

namespace Join

/-- Everything about a join but where it hangs, with its fields as members of an object. -/
def record (j : Join) (fields : List (String × Json)) : Record :=
  ("table", .string j.table) :: ((j.alias?.map fun name => ("alias", Json.string name)).toList ++
    ("type", .string j.kind.word) :: ("on", .array (j.on.map OnEntry.item)) ::
      ("fields", .object fields) :: (j.filter.map fun filter => ("where", filter)).toList)

/-- The record of a join, with no key used twice for its fields. -/
inductive Canonical (j : Join) : Json → Prop where
  | record {fields : List (String × Json)}
      (members : List.Forall₂ ProjectedField.Member j.fields fields)
      (distinct : (fields.map Prod.fst).Nodup) : Canonical j (.object (j.record fields))

theorem record_lookups (j : Join) (fields : List (String × Json)) :
    (j.record fields).lookup "table" = some (.string j.table) ∧
      (j.record fields).lookup "alias" = j.alias?.map Json.string ∧
      (j.record fields).lookup "type" = some (.string j.kind.word) ∧
      (j.record fields).lookup "origin" = none ∧
      (j.record fields).lookup "on" = some (.array (j.on.map OnEntry.item)) ∧
      (j.record fields).lookup "fields" = some (.object fields) ∧
      (j.record fields).lookup "where" = j.filter := by
  unfold record
  cases j.alias? <;> cases j.filter <;> exact ⟨rfl, rfl, rfl, rfl, rfl, rfl, rfl⟩

theorem record_options (j : Join) (fields : List (String × Json)) :
    (checkOptions (j.record fields)).result = .ok () := by
  unfold record
  cases j.alias? <;> cases j.filter <;> rfl

theorem kind_of_word (kind : JoinKind) : JoinKind.ofTag? kind.word = some kind := by
  cases kind <;> rfl

/-! ### Records read again -/

theorem read_on_item {entry : OnEntry} (hn : entry.Normal)
    (hc : ∀ name, entry = .column name → ¬Cut name.toList) : readOn entry.item = .ok [entry] := by
  cases hn with
  | @column name trimmed clear =>
    rcases clear with ha | ⟨-, hcut⟩
    · simp only [OnEntry.item, readOn, onText, ha, trimmed]
      rfl
    · exact absurd hcut (hc name rfl)
  | pair named =>
    rw [OnEntry.item, readOn, read_on_members_cons, named]
    rfl
  | raw compares =>
    simp only [OnEntry.item, readOn, onText, compares]
    rfl

theorem read_on_cut {name : String} {entries : List OnEntry} (hn : (OnEntry.column name).Normal)
    (hc : Cut name.toList) : readOn (OnEntry.column name).item ≠ .ok entries := by
  cases hn with
  | column trimmed clear =>
    rcases clear with ha | ⟨hs, -⟩
    · exact absurd ha hc.find_ne
    · simp [OnEntry.item, readOn, onText, hs, Except.map]

/-- Entries are read again exactly if no name among them breaks off the search. -/
theorem read_on_written {entries : List OnEntry} (each : ∀ entry ∈ entries, entry.Normal) :
    readOnItems (entries.map OnEntry.item) = .ok entries ↔
      ∀ name, .column name ∈ entries → ¬Cut name.toList := by
  induction entries with
  | nil => simp [readOnItems]
  | cons entry rest ih =>
    obtain ⟨hentry, hrest⟩ := List.forall_mem_cons.mp each
    rw [List.map_cons, readOnItems, bind_ok]
    constructor
    · rintro ⟨first, hf, h⟩
      have hfirst : ∀ name, entry = .column name → ¬Cut name.toList := by
        rintro name rfl hcut
        exact read_on_cut hentry hcut hf
      cases hf.symm.trans (read_on_item hentry hfirst)
      obtain ⟨others, ho, h⟩ := bind_ok.mp h
      cases pure_ok.mp h
      intro name hm
      rcases List.mem_cons.mp hm with hm | hm
      · exact hfirst name hm.symm
      · exact (ih hrest).mp ho name hm
    · intro hc
      have hfirst : readOn entry.item = .ok [entry] := by
        apply read_on_item hentry
        intro name hname
        exact hc name (by simp [hname])
      have hothers := (ih hrest).mpr fun name hm => hc name (List.mem_cons_of_mem _ hm)
      exact ⟨[entry], hfirst, bind_ok.mpr ⟨rest, hothers, rfl⟩⟩

theorem read_fields_written {fields : List ProjectedField} {members : List (String × Json)}
    (h : List.Forall₂ ProjectedField.Member fields members)
    (named : ∀ name ∈ renames fields, Text.isIndex name = false) :
    readFieldMembers members = .ok fields := by
  induction h with
  | nil => rfl
  | @cons field member fields members hfirst _ ih =>
    rw [renames_cons] at named
    cases hfirst with
    | kept index =>
      rw [if_pos rfl] at named
      rw [readFieldMembers, ih named]
      simp only [index]
      rfl
    | renamed differ =>
      rw [if_neg differ] at named
      obtain ⟨hsource, hrest⟩ := List.forall_mem_cons.mp named
      rw [readFieldMembers, ih hrest]
      simp only [hsource]
      rfl

section Written

variable {origin : String} {aliasOfOrigin : Option String} {earlier : List Join} {j : Join}
  {fields : List (String × Json)}

theorem gives_record (hn : j.Normal) (hp : j.place = (origin, aliasOfOrigin))
    (hf : List.Forall₂ ProjectedField.Member j.fields fields)
    (ho : readOnItems (j.on.map OnEntry.item) = .ok j.on) :
    Gives origin aliasOfOrigin earlier none (j.record fields) j := by
  obtain ⟨htable, halias, htype, horigin, hon, hfields, hwhere⟩ := j.record_lookups fields
  have htag : textOption (j.record fields) "type" = .ok (some j.kind.word) :=
    text_option_some.mpr htype
  refine ⟨j.record_options fields, ⟨none, j.alias?, ?_, ?_, ?_⟩, ?_, ⟨none, ?_, hp⟩, ?_, ?_, ?_⟩
  · rw [readTable, text_option_some.mpr htable]
    rfl
  · cases ha : j.alias? with
    | none => exact text_option_none.mpr (by rw [halias, ha]; rfl)
    | some name => exact text_option_some.mpr (by rw [halias, ha]; rfl)
  · cases j.alias? <;> rfl
  · rw [readKind, htag, ok_bind]
    simp only [kind_of_word]
    rfl
  · exact text_option_none.mpr horigin
  · rw [hon]
    exact ho
  · rw [hfields]
    exact read_fields_written hf hn.fields
  · unfold readFilter
    rw [hwhere]
    split
    · rename_i hnull
      exact absurd hnull hn.filter
    · rfl

/-- A normal join is read from its record, unless a name breaks off the search. -/
theorem join_of_canonical {json : Json} (hn : j.Normal) (hp : j.place = (origin, aliasOfOrigin))
    (hc : j.Canonical json) :
    joinOf origin aliasOfOrigin earlier (none, json) = .ok j ↔
      ∀ name, .column name ∈ j.on → ¬Cut name.toList := by
  cases hc with
  | @record fields members distinct =>
    rw [← read_on_written hn.on]
    constructor
    · intro h
      have hon := (read_record_iff.mp (join_of_record h)).on
      rw [(j.record_lookups fields).2.2.2.2.1] at hon
      exact hon
    · intro h
      exact join_of_ok.mpr ⟨read_record_iff.mpr (gives_record hn hp members h), hn.table⟩

end Written

/-! ### Keys that are used once -/

theorem zeros_index (n : Nat) : Text.isIndex (Layout.zeros (n + 1)) = true := by
  have hvalue : ∀ m, Text.digitsValue (List.replicate m '0') = 0 := by
    intro m
    unfold Text.digitsValue
    induction m with
    | zero => rfl
    | succ m ih => exact ih
  have hdigits : Text.natural? (List.replicate (n + 1) '0') = some 0 := by
    rw [Text.natural?, if_pos (by simp [Char.isDigit]), hvalue]
  unfold Text.isIndex Text.index? Layout.zeros
  rw [String.toList_ofList]
  change ((Text.natural? (List.replicate (n + 1) '0')).filter (· < Word.bound)).isSome = true
  rw [hdigits]
  rfl

theorem zeros_inj {n m : Nat} (h : Layout.zeros n = Layout.zeros m) : n = m := by
  have hlength := congrArg (fun text => text.toList.length) h
  simpa [Layout.zeros] using hlength

/-- Fields that keep their names under longer and longer indexes, and the others under their
columns. -/
def numbered : Nat → List ProjectedField → List (String × Json)
  | _, [] => []
  | n, field :: rest =>
    (if field.source = field.exposed then Layout.zeros (n + 1) else field.source,
      .string field.exposed) :: numbered (n + 1) rest

theorem numbered_members (n : Nat) (fields : List ProjectedField) :
    List.Forall₂ ProjectedField.Member fields (numbered n fields) := by
  induction fields generalizing n with
  | nil => exact .nil
  | cons field rest ih =>
    refine .cons ?_ (ih (n + 1))
    obtain ⟨source, exposed⟩ := field
    split
    · rename_i h
      cases h
      exact .kept (zeros_index n)
    · rename_i h
      exact .renamed h

theorem mem_numbered {n : Nat} {fields : List ProjectedField} {key : String}
    (h : key ∈ (numbered n fields).map Prod.fst) :
    (∃ m, n ≤ m ∧ key = Layout.zeros (m + 1)) ∨ key ∈ renames fields := by
  induction fields generalizing n with
  | nil => simp [numbered] at h
  | cons field rest ih =>
    rw [renames_cons]
    rw [numbered, List.map_cons] at h
    rcases List.mem_cons.mp h with h | h
    · split at h
      · exact .inl ⟨n, Nat.le_refl n, h⟩
      · right
        simp_all
    · rcases ih h with ⟨m, hm, hk⟩ | hr
      · exact .inl ⟨m, by omega, hk⟩
      · right
        split
        · exact hr
        · exact List.mem_cons_of_mem _ hr

theorem numbered_distinct (n : Nat) {fields : List ProjectedField}
    (named : ∀ name ∈ renames fields, Text.isIndex name = false)
    (distinct : (renames fields).Nodup) : ((numbered n fields).map Prod.fst).Nodup := by
  induction fields generalizing n with
  | nil => exact .nil
  | cons field rest ih =>
    rw [renames_cons] at named distinct
    rw [numbered, List.map_cons, List.nodup_cons]
    by_cases hs : field.source = field.exposed
    · simp only [if_pos hs] at named distinct ⊢
      refine ⟨?_, ih (n + 1) named distinct⟩
      intro hm
      rcases mem_numbered hm with ⟨m, hm, hk⟩ | hr
      · have := zeros_inj hk
        omega
      · exact Bool.false_ne_true ((named _ hr).symm.trans (zeros_index n))
    · simp only [if_neg hs] at named distinct ⊢
      obtain ⟨hsource, hrest⟩ := List.forall_mem_cons.mp named
      obtain ⟨hnew, hdistinct⟩ := List.nodup_cons.mp distinct
      refine ⟨?_, ih (n + 1) hrest hdistinct⟩
      intro hm
      rcases mem_numbered hm with ⟨m, -, hk⟩ | hr
      · rw [hk, zeros_index m] at hsource
        cases hsource
      · exact hnew hr

/-! ### Records of documents -/

theorem related_mem {α β : Type} {R : α → β → Prop} {xs : List α} {ys : List β}
    (h : List.Forall₂ R xs ys) : ∀ y ∈ ys, ∃ x ∈ xs, R x y := by
  induction h with
  | nil => simp
  | @cons x y xs ys hfirst _ ih =>
    intro z hz
    rcases List.mem_cons.mp hz with rfl | hz
    · exact ⟨x, List.mem_cons_self .., hfirst⟩
    · obtain ⟨x', hx, hr⟩ := ih z hz
      exact ⟨x', List.mem_cons_of_mem _ hx, hr⟩

theorem item_genuine (entry : OnEntry) : entry.item.Genuine := by
  cases entry with
  | column name => exact .string name
  | pair origin joined =>
    refine .object ?_ (by simp)
    simpa using .string joined
  | raw sql => exact .string sql

theorem Canonical.genuine {j : Join} {json : Json} (hc : j.Canonical json)
    (hg : ∀ filter ∈ j.filter, filter.Genuine) : json.Genuine := by
  cases hc with
  | @record fields members distinct =>
    have hon : (Json.array (j.on.map OnEntry.item)).Genuine := by
      refine .array ?_
      intro item hi
      obtain ⟨entry, -, rfl⟩ := List.mem_map.mp hi
      exact item_genuine entry
    have hfields : (Json.object fields).Genuine := by
      refine .object ?_ distinct
      intro member hm
      obtain ⟨field, -, hf⟩ := related_mem members member hm
      cases hf <;> exact .string _
    refine .object ?_ ?_
    · intro member hm
      simp only [Join.record, List.mem_cons, List.mem_append, Option.mem_toList,
        Option.map_eq_some_iff] at hm
      rcases hm with rfl | ⟨name, -, rfl⟩ | rfl | rfl | rfl | ⟨filter, hf, rfl⟩
      · exact .string j.table
      · exact .string name
      · exact .string j.kind.word
      · exact hon
      · exact hfields
      · exact hg filter hf
    · unfold Join.record
      cases j.alias? <;> cases j.filter <;> simp

theorem canonical_numbered {j : Join} (hn : j.Normal) (hg : j.Genuine) :
    j.Canonical (.object (j.record (numbered 0 j.fields))) :=
  .record (numbered_members 0 j.fields) (numbered_distinct 0 hn.fields hg.distinct)

theorem Canonical.unplaced {j : Join} {json : Json} (hc : j.Canonical json) :
    json.get? "origin" = none := by
  cases hc with
  | @record fields members distinct => exact (j.record_lookups fields).2.2.2.1

/-! ### Every input -/

/-- The entries of an input, each under its name if it has one. -/
def entriesOf : Json → List (Option String × Json)
  | .string table => [(none, .string table)]
  | .array items => items.map fun item => (none, item)
  | .object members =>
    members.map fun (key, item) => (if Text.isIndex key then none else some key, item)
  | _ => []

theorem entries_genuine {raw : Json} (hg : raw.Genuine) :
    ∀ entry ∈ entriesOf raw, entry.2.Genuine := by
  intro entry hm
  cases hg with
  | string text =>
    cases List.mem_singleton.mp hm
    exact .string text
  | array each =>
    obtain ⟨item, hi, rfl⟩ := List.mem_map.mp hm
    exact each item hi
  | object each distinct =>
    obtain ⟨member, hi, rfl⟩ := List.mem_map.mp hm
    exact each member hi
  | _ => cases hm

section Every

variable {origin : String} {aliasOfOrigin : Option String} {raw : Json} {joins : List Join}

theorem read_entries_of (h : (read origin aliasOfOrigin raw).result = .ok joins) :
    joinsAfter origin aliasOfOrigin [] (entriesOf raw) = .ok joins := by
  have heq : ∀ entries, (readEntries origin aliasOfOrigin [] entries).result =
      joinsAfter origin aliasOfOrigin [] entries :=
    fun entries => (read_entries_eq [] entries).trans (id_map _)
  unfold read at h
  split at h
  · exact h
  · exact (heq _).symm.trans h
  · exact (heq _).symm.trans h
  · exact (heq _).symm.trans h
  · cases h

theorem read_mem (unplaced : ∀ entry ∈ entriesOf raw, entry.2.get? "origin" = none)
    (h : (read origin aliasOfOrigin raw).result = .ok joins) :
    ∀ join ∈ joins, ∃ entry ∈ entriesOf raw, joinOf origin aliasOfOrigin [] entry = .ok join :=
  related_mem ((joins_after_unplaced unplaced).mp (read_entries_of h))

theorem read_canonical {records : List Json}
    (each : ∀ join ∈ joins, join.Normal ∧ join.place = (origin, aliasOfOrigin))
    (hc : List.Forall₂ Canonical joins records) :
    (read origin aliasOfOrigin (.array records)).result = .ok joins ↔
      ∀ join ∈ joins, ∀ name, .column name ∈ join.on → ¬Cut name.toList := by
  have unplaced : ∀ json ∈ records, json.get? "origin" = none := by
    intro json hm
    obtain ⟨join, -, hj⟩ := related_mem hc json hm
    exact hj.unplaced
  rw [read_array_unplaced unplaced]
  clear unplaced
  induction hc with
  | nil => simp
  | cons hfirst _ ih =>
    obtain ⟨⟨hn, hp⟩, hrest⟩ := List.forall_mem_cons.mp each
    rw [List.forall₂_cons, List.forall_mem_cons]
    exact and_congr (join_of_canonical hn hp hfirst) (ih hrest)

end Every

/-- Joins written out as records are read as the same joins, if and only if no column's name breaks
off the search for a comparison. There are such records for every document. -/
theorem canonical_records (origin : String) (aliasOfOrigin : Option String) (raw : Json)
    (joins : List Join) (unplaced : ∀ entry ∈ entriesOf raw, entry.2.get? "origin" = none)
    (h : (read origin aliasOfOrigin raw).result = .ok joins) :
    (raw.Genuine →
      ∃ records, List.Forall₂ Canonical joins records ∧ (Json.array records).Genuine) ∧
    ∀ records, List.Forall₂ Canonical joins records →
      ((read origin aliasOfOrigin (.array records)).result = .ok joins ↔
        ∀ join ∈ joins, ∀ name, .column name ∈ join.on → ¬Cut name.toList) := by
  have each := read_mem unplaced h
  constructor
  · intro hg
    have hcanonical : ∀ join ∈ joins, join.Genuine ∧
        join.Canonical (.object (join.record (numbered 0 join.fields))) := by
      intro join hm
      obtain ⟨entry, he, hj⟩ := each join hm
      have hgenuine := join_of_genuine (entries_genuine hg entry he) hj
      exact ⟨hgenuine, canonical_numbered (join_of_normal hj) hgenuine⟩
    refine ⟨joins.map fun join => .object (join.record (numbered 0 join.fields)), ?_, .array ?_⟩
    · rw [List.forall₂_map_right_iff, List.forall₂_same]
      exact fun join hm => (hcanonical join hm).2
    · intro json hm
      obtain ⟨join, hj, rfl⟩ := List.mem_map.mp hm
      obtain ⟨hgenuine, hrecord⟩ := hcanonical join hj
      exact hrecord.genuine hgenuine.filter
  · intro records
    apply read_canonical
    intro join hm
    obtain ⟨entry, he, hj⟩ := each join hm
    exact ⟨join_of_normal hj, join_of_statement (unplaced entry he) hj⟩

/-- A table alone, a table with its fields, and a record under an alias. -/
def shorthands : Json :=
  .object [("0", .string "tags"), ("users", .array [.string "id"]),
    ("p", .object [("table", .string "posts"), ("type", .string "left outer"),
      ("on", .array [.string " a ",
        .array [.object [("id", .string "post"), ("1", .string "x < y")]]]),
      ("fields", .object [("7", .string "id"), ("title", .string "name")]), ("where", .null)])]

def longhands : List Json :=
  [.object [("table", .string "tags"), ("type", .string "INNER"), ("on", .array []),
      ("fields", .object [])],
    .object [("table", .string "users"), ("type", .string "INNER"), ("on", .array []),
      ("fields", .object [("0", .string "id")])],
    .object [("table", .string "posts"), ("alias", .string "p"), ("type", .string "LEFT"),
      ("on", .array [.string "a", .object [("id", .string "post")], .string "x < y"]),
      ("fields", .object [("0", .string "id"), ("title", .string "name")])]]

theorem canonical_records_shorthands :
    ∃ joins, (read "comments" (some "c") shorthands).result = .ok joins ∧
      List.Forall₂ Canonical joins longhands ∧
      (read "comments" (some "c") (.array longhands)).result = .ok joins := by
  have hread : ∃ tags users posts,
      (read "comments" (some "c") shorthands).result = .ok [tags, users, posts] ∧
        tags.Canonical longhands[0] ∧ users.Canonical longhands[1] ∧
        posts.Canonical longhands[2] ∧ tags.on = [] ∧ users.on = [] ∧
        posts.on = [.column "a", .pair "id" "post", .raw "x < y"] := by
    refine ⟨_, _, _, rfl, .record .nil .nil, .record (.cons (.kept rfl) .nil) (by decide),
      .record (.cons (.kept rfl) (.cons (.renamed (by decide)) .nil)) (by decide), rfl, rfl, rfl⟩
  obtain ⟨tags, users, posts, hread, htags, husers, hposts, hon⟩ := hread
  have hcanonical : List.Forall₂ Canonical [tags, users, posts] longhands :=
    .cons htags (.cons husers (.cons hposts .nil))
  have unplaced : ∀ entry ∈ entriesOf shorthands, entry.2.get? "origin" = none := by
    intro entry hm
    simp only [entriesOf, shorthands, List.map_cons, List.map_nil, List.mem_cons,
      List.not_mem_nil, or_false] at hm
    rcases hm with rfl | rfl | rfl <;> rfl
  refine ⟨_, hread, hcanonical, ((canonical_records _ _ _ _ unplaced hread).2 _ hcanonical).mpr ?_⟩
  obtain ⟨htags, husers, hposts⟩ := hon
  intro join hm name hname hcut
  have ha : name = "a" := by
    simp only [List.mem_cons, List.not_mem_nil, or_false] at hm
    rcases hm with rfl | rfl | rfl
    · simp [htags] at hname
    · simp [husers] at hname
    · simpa [hposts] using hname
  rw [ha] at hcut
  exact hcut.find_ne rfl

/-- The blank behind the name keeps it from breaking off the search, and is not in the record. -/
theorem canonical_record_severed :
    ∃ join json,
      (read "posts" none (.array
        [.object [("table", .string "users"), ("on", .string "a LI\u212a ")]])).result =
          .ok [join] ∧
      join.Canonical json ∧
      (read "posts" none (.array [json])).result = .error (.severedWord "a LI\u212a") :=
  ⟨_, _, rfl, .record .nil .nil, rfl⟩

end Join

end SqlBuilder

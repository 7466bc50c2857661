import Mathlib.Data.List.Forall2
import SqlBuilder.Proofs.JoinOrigin

/-!
Joins in the order of their entries. Each entry gives the join in its place and sees no entry
behind it, so the joins of a first part do not depend on what follows. An entry that names no origin
sees no other entry at all, so such entries may change places and take their joins with them.
-/

namespace SqlBuilder.Join

variable {origin : String} {aliasOfOrigin : Option String} {earlier : List Join}

/-! ### What a record gives -/

/-- Everything that reading a record asks of it, by the parts of the join that comes of it. -/
structure Gives (origin : String) (aliasOfOrigin : Option String) (earlier : List Join)
    (key : Option String) (record : Record) (join : Join) : Prop where
  options : (checkOptions record).result = .ok ()
  names : ∃ keyAlias named, readTable record key = .ok (join.table, keyAlias) ∧
    textOption record "alias" = .ok named ∧ join.alias? = named.orElse fun _ => keyAlias
  kind : readKind record = .ok join.kind
  place : ∃ parent, textOption record "origin" = .ok parent ∧
    join.place = parent.elim (origin, aliasOfOrigin)
      fun name => hangOn name origin aliasOfOrigin earlier
  on : readOn ((record.lookup "on").getD .null) = .ok join.on
  fields : readFields ((record.lookup "fields").getD .null) = .ok join.fields
  filter : join.filter = readFilter record

theorem read_record_iff {key : Option String} {record : Record} {join : Join} :
    (readRecord origin aliasOfOrigin earlier key record).result = .ok join ↔
      Gives origin aliasOfOrigin earlier key record join := by
  simp only [readRecord, Traced.result_bind, Traced.result_lifted, Traced.result_pure]
  constructor
  · intro h
    obtain ⟨_, hc, h⟩ := bind_ok.mp h
    obtain ⟨⟨table, keyAlias⟩, ht, h⟩ := bind_ok.mp h
    obtain ⟨named, ha, h⟩ := bind_ok.mp h
    obtain ⟨kind, hk, h⟩ := bind_ok.mp h
    obtain ⟨parent, hp, h⟩ := bind_ok.mp h
    obtain ⟨on, ho, h⟩ := bind_ok.mp h
    obtain ⟨fields, hf, h⟩ := bind_ok.mp h
    cases pure_ok.mp h
    refine ⟨hc, ⟨keyAlias, named, ht, ha, rfl⟩, hk, ⟨parent, hp, ?_⟩, ho, hf, rfl⟩
    cases parent <;> rfl
  · rintro ⟨hc, ⟨keyAlias, named, ht, ha, halias⟩, hk, ⟨parent, hp, hplace⟩, ho, hf, hw⟩
    rw [hc, ht, ha, hk, hp, ho, hf]
    obtain ⟨table, _, _, kind, _, on, fields, _⟩ := join
    cases halias
    cases hw
    cases parent with
    | none =>
      cases hplace
      rfl
    | some name =>
      obtain ⟨ho', ha'⟩ := Prod.mk.inj hplace
      cases ho'
      cases ha'
      rfl

/-! ### One entry -/

theorem join_of_ok {entry : Option String × Json} {join : Join} :
    joinOf origin aliasOfOrigin earlier entry = .ok join ↔
      (readEntry origin aliasOfOrigin earlier entry.1 entry.2).result = .ok join ∧
        Text.isBlankText join.table = false := by
  unfold joinOf
  rw [bind_ok]
  constructor
  · rintro ⟨found, hf, h⟩
    split at h
    · cases h
    · rename_i hb
      cases h
      exact ⟨hf, Bool.eq_false_iff.mpr hb⟩
  · rintro ⟨hf, hb⟩
    refine ⟨join, hf, ?_⟩
    simp [hb]

theorem text_option_some {record : Record} {option text : String} :
    textOption record option = .ok (some text) ↔ record.lookup option = some (.string text) := by
  unfold textOption
  split
  · rename_i hn
    simp [hn]
  · rename_i found hf
    simp [hf]
  · rename_i other ho hl
    simpa [hl] using ho text

theorem text_option_none {record : Record} {option : String} :
    textOption record option = .ok none ↔ record.lookup option = none := by
  unfold textOption
  split
  · rename_i hn
    simp [hn]
  · rename_i found hf
    simp [hf]
  · rename_i other ho hl
    simp [hl]

theorem hang_on_cases (name origin : String) (aliasOfOrigin : Option String)
    (earlier : List Join) :
    hangOn name origin aliasOfOrigin earlier = (origin, aliasOfOrigin) ∨
      (∃ parent ∈ earlier,
        hangOn name origin aliasOfOrigin earlier = (parent.table, parent.alias?)) ∨
      hangOn name origin aliasOfOrigin earlier = (name, none) := by
  unfold hangOn
  split
  · rename_i parent hp
    exact .inr (.inl ⟨parent, List.mem_of_find?_eq_some hp, rfl⟩)
  · split
    · exact .inl rfl
    · exact .inr (.inr rfl)

/-- A join hangs on the statement, on an earlier join, or on a table that its entry names. -/
theorem read_entry_place {key : Option String} {item : Json} {join : Join}
    (h : (readEntry origin aliasOfOrigin earlier key item).result = .ok join) :
    join.place = (origin, aliasOfOrigin) ∨
      (∃ parent ∈ earlier, join.place = (parent.table, parent.alias?)) ∨
      ∃ name, item.get? "origin" = some (.string name) ∧ join.place = (name, none) := by
  unfold readEntry at h
  split at h
  · cases h
    exact .inl rfl
  · rename_i items
    simp only [Traced.result_bind] at h
    obtain ⟨fields, -, h⟩ := bind_ok.mp h
    cases pure_ok.mp h
    exact .inl rfl
  · rename_i record
    obtain ⟨parent, hp, hplace⟩ := (read_record_iff.mp h).place
    cases parent with
    | none => exact .inl hplace
    | some name =>
      rw [hplace]
      rcases hang_on_cases name origin aliasOfOrigin earlier with hs | hj | hn
      · exact .inl hs
      · exact .inr (.inl hj)
      · exact .inr (.inr ⟨name, text_option_some.mp hp, hn⟩)
  · cases h

/-- Without an origin of its own an entry does not look at the earlier joins. -/
theorem read_entry_unplaced {item : Json} (h : item.get? "origin" = none) (key : Option String)
    (earlier others : List Join) :
    (readEntry origin aliasOfOrigin earlier key item).result =
      (readEntry origin aliasOfOrigin others key item).result := by
  unfold readEntry
  split
  · rfl
  · rfl
  · rename_i record
    have hn : textOption record "origin" = .ok none := text_option_none.mpr h
    simp only [readRecord, Traced.result_bind, Traced.result_lifted, hn, ok_bind]
  · rfl

theorem join_of_unplaced {entry : Option String × Json} (h : entry.2.get? "origin" = none)
    (earlier others : List Join) :
    joinOf origin aliasOfOrigin earlier entry = joinOf origin aliasOfOrigin others entry := by
  unfold joinOf
  rw [read_entry_unplaced h]

/-! ### Entries one after another -/

/-- The join in the place of an entry, which sees the joins before it. -/
theorem joins_after_at {entries : List (Option String × Json)} {joins : List Join}
    (h : joinsAfter origin aliasOfOrigin earlier entries = .ok joins) {i : Nat}
    {entry : Option String × Json} {join : Join} (he : entries[i]? = some entry)
    (hj : joins[i]? = some join) :
    joinOf origin aliasOfOrigin (earlier ++ joins.take i) entry = .ok join := by
  induction entries generalizing earlier joins i with
  | nil => simp at he
  | cons first rest ih =>
    simp only [joinsAfter] at h
    obtain ⟨found, hf, h⟩ := bind_ok.mp h
    obtain ⟨later, hl, h⟩ := bind_ok.mp h
    cases pure_ok.mp h
    cases i with
    | zero =>
      cases he
      cases hj
      simpa using hf
    | succ i =>
      have hi := ih hl he hj
      simpa using hi

/-- Entries that name no origin give each the join that it gives by itself. -/
theorem joins_after_unplaced {entries : List (Option String × Json)}
    (hn : ∀ entry ∈ entries, entry.2.get? "origin" = none) {joins : List Join} :
    joinsAfter origin aliasOfOrigin earlier entries = .ok joins ↔
      List.Forall₂ (fun entry join => joinOf origin aliasOfOrigin [] entry = .ok join) entries
        joins := by
  induction entries generalizing earlier joins with
  | nil =>
    rw [List.forall₂_nil_left_iff]
    constructor
    · intro h
      cases h
      rfl
    · rintro rfl
      rfl
  | cons entry rest ih =>
    obtain ⟨hentry, hrest⟩ := List.forall_mem_cons.mp hn
    rw [joinsAfter, join_of_unplaced hentry earlier [], List.forall₂_cons_left_iff, bind_ok]
    constructor
    · rintro ⟨join, hj, h⟩
      obtain ⟨later, hl, h⟩ := bind_ok.mp h
      exact ⟨join, later, hj, (ih hrest).mp hl, (pure_ok.mp h).symm⟩
    · rintro ⟨join, later, hj, hl, rfl⟩
      exact ⟨join, hj, bind_ok.mpr ⟨later, (ih hrest).mpr hl, rfl⟩⟩

/-! ### Items of an array -/

section Items

variable {items : List Json} {joins : List Join}

theorem read_array_join (h : (read origin aliasOfOrigin (.array items)).result = .ok joins)
    {i : Nat} {entry : Json} {join : Join} (he : items[i]? = some entry)
    (hj : joins[i]? = some join) :
    joinOf origin aliasOfOrigin (joins.take i) (none, entry) = .ok join := by
  rw [read_array_eq] at h
  have hm : (items.map fun item => ((none : Option String), item))[i]? = some (none, entry) := by
    rw [List.getElem?_map, he]
    rfl
  simpa using joins_after_at h hm hj

theorem read_array_tables (h : (read origin aliasOfOrigin (.array items)).result = .ok joins) :
    ∀ join ∈ joins, Text.isBlankText join.table = false := by
  intro join hm
  obtain ⟨i, hi⟩ := List.mem_iff_getElem?.mp hm
  have hlt : i < items.length := read_array_length h ▸ (List.getElem?_eq_some_iff.mp hi).1
  exact (join_of_ok.mp (read_array_join h (List.getElem?_eq_getElem hlt) hi)).2

theorem read_array_take {xs ys : List Json}
    (h : (read origin aliasOfOrigin (.array (xs ++ ys))).result = .ok joins) :
    (read origin aliasOfOrigin (.array xs)).result = .ok (joins.take xs.length) := by
  rw [read_array_eq, List.map_append, joins_after_append] at h
  obtain ⟨first, hf, h⟩ := bind_ok.mp h
  obtain ⟨second, -, h⟩ := bind_ok.mp h
  have hl : first.length = xs.length := by rw [joins_after_length hf, List.length_map]
  rw [read_array_eq, hf, ← pure_ok.mp h, List.take_left' hl]

theorem read_array_unplaced (hn : ∀ entry ∈ items, entry.get? "origin" = none) :
    (read origin aliasOfOrigin (.array items)).result = .ok joins ↔
      List.Forall₂ (fun item join => joinOf origin aliasOfOrigin [] (none, item) = .ok join) items
        joins := by
  rw [read_array_eq, joins_after_unplaced, List.forall₂_map_left_iff]
  intro entry hm
  obtain ⟨item, hi, rfl⟩ := List.mem_map.mp hm
  exact hn item hi

theorem read_array_perm (h : (read origin aliasOfOrigin (.array items)).result = .ok joins)
    (hn : ∀ entry ∈ items, entry.get? "origin" = none) {pairs : List (Json × Join)}
    (hp : pairs.Perm (items.zip joins)) :
    (read origin aliasOfOrigin (.array (pairs.map Prod.fst))).result =
      .ok (pairs.map Prod.snd) := by
  obtain ⟨-, each⟩ := List.forall₂_iff_zip.mp ((read_array_unplaced hn).mp h)
  apply (read_array_unplaced ?_).mpr
  · rw [List.forall₂_map_left_iff, List.forall₂_map_right_iff, List.forall₂_same]
    intro p hm
    exact each (hp.mem_iff.mp hm)
  · intro entry hm
    obtain ⟨p, hp', rfl⟩ := List.mem_map.mp hm
    exact hn p.1 (List.of_mem_zip (hp.mem_iff.mp hp')).1

end Items

/-- Joins stand in the order of their entries. The joins of a first part are those of the whole,
each has a table, and none hangs on anything but the statement, a join before it or a table that its
entry names. If no entry names an origin, joins change places as their entries do. -/
theorem joins_in_order (origin : String) (aliasOfOrigin : Option String) (xs ys : List Json)
    (joins : List Join)
    (h : (read origin aliasOfOrigin (.array (xs ++ ys))).result = .ok joins) :
    joins.length = (xs ++ ys).length ∧
    (read origin aliasOfOrigin (.array xs)).result = .ok (joins.take xs.length) ∧
    (∀ join ∈ joins, Text.isBlankText join.table = false) ∧
    (∀ (i : Nat) (entry : Json) (join : Join), (xs ++ ys)[i]? = some entry →
      joins[i]? = some join →
      (readEntry origin aliasOfOrigin (joins.take i) none entry).result = .ok join ∧
        (join.place = (origin, aliasOfOrigin) ∨
          (∃ parent ∈ joins.take i, join.place = (parent.table, parent.alias?)) ∨
          ∃ name, entry.get? "origin" = some (.string name) ∧ join.place = (name, none))) ∧
    ((∀ entry ∈ xs ++ ys, entry.get? "origin" = none) →
      ∀ pairs : List (Json × Join), pairs.Perm ((xs ++ ys).zip joins) →
        (read origin aliasOfOrigin (.array (pairs.map Prod.fst))).result =
          .ok (pairs.map Prod.snd)) := by
  refine ⟨read_array_length h, read_array_take h, read_array_tables h, ?_, ?_⟩
  · intro i entry join he hj
    have hr := (join_of_ok.mp (read_array_join h he hj)).1
    exact ⟨hr, read_entry_place hr⟩
  · intro hn pairs hp
    exact read_array_perm h hn hp

/-- A join on the comments of the statement. -/
def onComments (table : String) (alias? : Option String) : Join :=
  { table, origin := "comments", alias?, aliasOfOrigin := some "c" }

/-- A join that hangs on the second of two. -/
def usersOnSecond : Join := { table := "users", origin := "posts", aliasOfOrigin := some "q" }

/-- One that hangs on the second of two, and entries that are read from the last to the first. -/
theorem joins_in_order_posts :
    (read "comments" (some "c") (.array (postsTwice ++ [.object onSecond]))).result =
        .ok [onComments "posts" (some "p"), onComments "posts" (some "q"), usersOnSecond] ∧
      (read "comments" (some "c") (.array postsTwice)).result =
        .ok [onComments "posts" (some "p"), onComments "posts" (some "q")] ∧
      (readEntry "comments" (some "c")
          [onComments "posts" (some "p"), onComments "posts" (some "q")] none
          (.object onSecond)).result = .ok usersOnSecond ∧
      usersOnSecond.place = ("posts", some "q") ∧
      (read "comments" (some "c") (.array (.string "tags" :: postsTwice.reverse))).result =
        .ok [onComments "tags" none, onComments "posts" (some "q"),
          onComments "posts" (some "p")] := by
  have h : (read "comments" (some "c") (.array (postsTwice ++ [.object onSecond]))).result =
      .ok [onComments "posts" (some "p"), onComments "posts" (some "q"), usersOnSecond] := by rfl
  obtain ⟨-, htake, -, hat, -⟩ := joins_in_order _ _ _ _ _ h
  obtain ⟨hthird, -⟩ := hat 2 _ usersOnSecond rfl rfl
  have ht : (read "comments" (some "c") (.array (postsTwice ++ [.string "tags"]))).result =
      .ok [onComments "posts" (some "p"), onComments "posts" (some "q"),
        onComments "tags" none] := by rfl
  have hnone : ∀ entry ∈ postsTwice ++ [.string "tags"], entry.get? "origin" = none := by
    intro entry hm
    simp only [postsTwice, List.cons_append, List.nil_append, List.mem_cons, List.not_mem_nil,
      or_false] at hm
    rcases hm with rfl | rfl | rfl
    · rfl
    · rfl
    · rfl
  have hreversed := (joins_in_order _ _ _ _ _ ht).2.2.2.2 hnone _ (List.reverse_perm _)
  exact ⟨h, htake, hthird, rfl, hreversed⟩

end SqlBuilder.Join

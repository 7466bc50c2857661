import SqlBuilder.Proofs.JoinEntries

/-!
What a join hangs on. A record may name its origin: the first join before it with that name or that
table, else the statement if that is its alias, else a table of that name without an alias.
-/

namespace SqlBuilder.Join

variable {origin : String} {aliasOfOrigin : Option String} {earlier : List Join}

/-- The table that a join hangs on, and the alias of that table. -/
def place (j : Join) : String × Option String := (j.origin, j.aliasOfOrigin)

/-- The join on another place. -/
def hung (place : String × Option String) (j : Join) : Join :=
  { j with origin := place.1, aliasOfOrigin := place.2 }

theorem hung_eq_self {j : Join} {place : String × Option String} :
    j.hung place = j ↔ place = j.place := by
  obtain ⟨table, alias?⟩ := place
  cases j
  simp [hung, Join.place]

/-! ### Entries that are records -/

theorem join_of_record {key : Option String} {record : Record} {join : Join}
    (h : joinOf origin aliasOfOrigin earlier (key, .object record) = .ok join) :
    (readRecord origin aliasOfOrigin earlier key record).result = .ok join := by
  obtain ⟨found, hf, h⟩ := bind_ok.mp h
  split at h
  · cases h
  · cases h
    cases key <;> exact hf

theorem record_place {key : Option String} {record : Record} {join : Join}
    {parent : Option String} (hp : textOption record "origin" = .ok parent)
    (h : (readRecord origin aliasOfOrigin earlier key record).result = .ok join) :
    join.place = parent.elim (origin, aliasOfOrigin)
      fun name => hangOn name origin aliasOfOrigin earlier := by
  simp only [readRecord, Traced.result_bind] at h
  obtain ⟨_, _, h⟩ := bind_ok.mp h
  obtain ⟨_, _, h⟩ := bind_ok.mp h
  obtain ⟨_, _, h⟩ := bind_ok.mp h
  obtain ⟨_, _, h⟩ := bind_ok.mp h
  obtain ⟨found, hf, h⟩ := bind_ok.mp h
  obtain ⟨_, _, h⟩ := bind_ok.mp h
  obtain ⟨_, _, h⟩ := bind_ok.mp h
  cases hp.symm.trans hf
  rw [← pure_ok.mp h]
  cases parent <;> rfl

/-- A record among the items of an array, and the place of its join. -/
theorem read_array_record {before after : List Json} {record : Record} {parent : Option String}
    {joins : List Join} (hp : textOption record "origin" = .ok parent)
    (h : (read origin aliasOfOrigin (.array (before ++ .object record :: after))).result =
      .ok joins) :
    ∃ earlier join later, joins = earlier ++ join :: later ∧ earlier.length = before.length ∧
      join.place = parent.elim (origin, aliasOfOrigin)
        fun name => hangOn name origin aliasOfOrigin earlier := by
  rw [read_array_at] at h
  obtain ⟨earlier, he, h⟩ := bind_ok.mp h
  obtain ⟨join, hj, h⟩ := bind_ok.mp h
  obtain ⟨later, _, h⟩ := bind_ok.mp h
  exact ⟨earlier, join, later, (pure_ok.mp h).symm, read_array_length he,
    record_place hp (join_of_record hj)⟩

/-! ### The relation that a name denotes -/

/-- A table under its name in the statement. -/
structure Relation where
  name : String
  table : String

/-- What is in the statement when an entry is read: the joins before it, and the origin. -/
def visible (origin : String) (aliasOfOrigin : Option String) (earlier : List Join) :
    List Relation :=
  earlier.map (fun join => ⟨join.name, join.table⟩) ++ [⟨aliasOfOrigin.getD origin, origin⟩]

theorem hang_on_nil (name : String) :
    hangOn name origin aliasOfOrigin [] =
      if aliasOfOrigin = some name then (origin, aliasOfOrigin) else (name, none) := rfl

/-- A name is taken for the first relation of that name exactly if no join before it is of a table
of that name. -/
theorem hang_on_visible {name : String} {place : String × Option String} {relation : Relation}
    {front back : List Relation} (hp : hangOn name origin aliasOfOrigin earlier = place)
    (hv : visible origin aliasOfOrigin earlier = front ++ relation :: back)
    (hr : relation.name = name) (hf : ∀ r ∈ front, r.name ≠ name) :
    place.2.getD place.1 = name ∧ place.1 = relation.table ↔ ∀ r ∈ front, r.table ≠ name := by
  -- the joins are tried in their order and the statement after them
  induction earlier generalizing front with
  | nil =>
    cases front with
    | cons r rest => simp [visible] at hv
    | nil =>
      obtain ⟨rfl, -⟩ := List.cons.inj hv
      rw [hang_on_nil] at hp
      cases aliasOfOrigin with
      | none => simp_all [← hp]
      | some a => simp_all [← hp]
  | cons join rest ih =>
    rw [hang_on_cons] at hp
    cases front with
    | nil =>
      have hj : join.name = relation.name ∧ join.table = relation.table := by
        simp [← (List.cons.inj hv).1]
      rw [if_pos (Or.inl (hj.1.trans hr))] at hp
      have hn : place.2.getD place.1 = join.name := by rw [← hp, Join.name]
      have ht : place.1 = join.table := by rw [← hp]
      rw [hn, ht]
      simp [hj.1, hr, hj.2]
    | cons r front =>
      obtain ⟨hj, hrest⟩ := List.cons.inj hv
      have hn : join.name ≠ name := by simpa [← hj] using hf r (List.mem_cons_self ..)
      by_cases ht : join.table = name
      · rw [if_pos (Or.inr ht)] at hp
        constructor
        · rintro ⟨hname, -⟩
          rw [← hp] at hname
          exact absurd hname hn
        · intro hnone
          exact absurd ht (by simpa [← hj] using hnone r (List.mem_cons_self ..))
      · rw [if_neg (by simp [hn, ht])] at hp
        rw [ih hp hrest (fun q hq => hf q (List.mem_cons_of_mem _ hq))]
        simp [← hj, ht]

/-- If exactly one relation has the name of an origin, then the join hangs on it unless a join that
is tried before it is of a table of that name. -/
theorem chained_origin (origin : String) (aliasOfOrigin : Option String)
    (before after : List Json) (record : Record) (name : String) (joins : List Join)
    (named : record.lookup "origin" = some (.string name))
    (h : (read origin aliasOfOrigin (.array (before ++ .object record :: after))).result =
      .ok joins) :
    ∃ earlier join later, joins = earlier ++ join :: later ∧ earlier.length = before.length ∧
      ∀ front relation back,
        visible origin aliasOfOrigin earlier = front ++ relation :: back →
        relation.name = name → (∀ r ∈ front ++ back, r.name ≠ name) →
        (join.originName = name ∧ join.origin = relation.table ↔
          ∀ r ∈ front, r.table ≠ name) := by
  have ho : textOption record "origin" = .ok (some name) := by simp [textOption, named]
  obtain ⟨earlier, join, later, hj, hl, hp⟩ := read_array_record ho h
  refine ⟨earlier, join, later, hj, hl, ?_⟩
  intro front relation back hv hr hn
  exact hang_on_visible hp.symm hv hr (fun r hm => hn r (List.mem_append_left _ hm))

/-- Posts under two aliases. -/
def postsTwice : List Json :=
  [.object [("table", .string "posts"), ("alias", .string "p")],
    .object [("table", .string "posts"), ("alias", .string "q")]]

def onSecond : Record := [("origin", .string "q"), ("table", .string "users")]

theorem chained_origin_twice :
    onSecond.lookup "origin" = some (.string "q") ∧
    ∃ joins join, (read "comments" (some "c")
        (.array (postsTwice ++ .object onSecond :: [.string "tags"]))).result = .ok joins ∧
      visible "comments" (some "c") (joins.take 2) =
        [⟨"p", "posts"⟩] ++ ⟨"q", "posts"⟩ :: [⟨"c", "comments"⟩] ∧
      joins[2]? = some join ∧ join.originName = "q" ∧ join.origin = "posts" := by
  have named : onSecond.lookup "origin" = some (.string "q") := rfl
  have h : ∃ joins, (read "comments" (some "c")
      (.array (postsTwice ++ .object onSecond :: [.string "tags"]))).result = .ok joins ∧
      visible "comments" (some "c") (joins.take 2) =
        [⟨"p", "posts"⟩] ++ ⟨"q", "posts"⟩ :: [⟨"c", "comments"⟩] := ⟨_, rfl, rfl⟩
  obtain ⟨joins, h, hv⟩ := h
  obtain ⟨earlier, join, later, rfl, hl, hj⟩ := chained_origin _ _ _ _ _ _ _ named h
  have ht : (earlier ++ join :: later).take 2 = earlier := List.take_left' hl
  have hg : (earlier ++ join :: later)[2]? = some join := by
    rw [List.getElem?_append_right (by rw [hl]; decide), hl]
    rfl
  rw [ht] at hv
  refine ⟨named, _, join, h, by rw [ht, hv], hg, ?_⟩
  exact (hj _ _ _ hv rfl (by decide)).mpr (by decide)

/-- An alias that is the name of an earlier table. -/
def usersAsPosts : List Json :=
  [.object [("table", .string "posts"), ("alias", .string "p")],
    .object [("table", .string "users"), ("alias", .string "posts")],
    .object [("table", .string "tags"), ("origin", .string "posts")]]

theorem origin_taken_by_table :
    ∃ earlier join,
      (read "comments" none (.array usersAsPosts)).result = .ok (earlier ++ [join]) ∧
      visible "comments" none earlier =
        [⟨"p", "posts"⟩, ⟨"posts", "users"⟩, ⟨"comments", "comments"⟩] ∧
      join.originName = "p" ∧ join.origin = "posts" := by
  have h : ∃ first second join,
      (read "comments" none (.array usersAsPosts)).result = .ok [first, second, join] ∧
      visible "comments" none [first, second] =
        [⟨"p", "posts"⟩, ⟨"posts", "users"⟩, ⟨"comments", "comments"⟩] ∧
      join.originName = "p" ∧ join.origin = "posts" := ⟨_, _, _, rfl, rfl, rfl, rfl⟩
  obtain ⟨first, second, join, h⟩ := h
  exact ⟨[first, second], join, h⟩

/-! ### A record with and without its origin -/

section Named

variable {front back : Record} {name : String}

theorem lookup_named {option : String} (h : option ≠ "origin") :
    (front ++ ("origin", .string name) :: back).lookup option = (front ++ back).lookup option := by
  have hb : (option == "origin") = false := by simpa using h
  simp [List.lookup_append, List.lookup_cons, hb]

theorem text_option_named {option : String} (h : option ≠ "origin") :
    textOption (front ++ ("origin", .string name) :: back) option =
      textOption (front ++ back) option := by
  have ht : "table" ≠ "origin" := by decide
  simp only [textOption, lookup_named h, lookup_named ht]

theorem check_options_named :
    checkOptions (front ++ ("origin", .string name) :: back) = checkOptions (front ++ back) := by
  induction front with
  | nil => rfl
  | cons first rest ih => simp only [List.cons_append, checkOptions, ih]

/-- An origin that is added to a record only moves its join. -/
theorem read_record_named (absent : (front ++ back).lookup "origin" = none)
    (key : Option String) :
    (readRecord origin aliasOfOrigin earlier key
        (front ++ ("origin", .string name) :: back)).result =
      hung (hangOn name origin aliasOfOrigin earlier) <$>
        (readRecord origin aliasOfOrigin earlier key (front ++ back)).result := by
  have hnone : textOption (front ++ back) "origin" = .ok none := by simp [textOption, absent]
  have hsome : textOption (front ++ ("origin", .string name) :: back) "origin" =
      .ok (some name) := by
    have hf : front.lookup "origin" = none := by
      rw [List.lookup_append, Option.or_eq_none_iff] at absent
      exact absent.1
    simp [textOption, List.lookup_append, hf]
  simp (disch := decide) only [readRecord, readTable, readKind, readFilter, check_options_named,
    text_option_named, lookup_named, hnone, hsome, Traced.result_bind, ← bind_pure_comp, bind_assoc]
  rfl

theorem join_of_named (absent : (front ++ back).lookup "origin" = none) (key : Option String) :
    joinOf origin aliasOfOrigin earlier
        (key, .object (front ++ ("origin", .string name) :: back)) =
      hung (hangOn name origin aliasOfOrigin earlier) <$>
        joinOf origin aliasOfOrigin earlier (key, .object (front ++ back)) := by
  have hr (record : Record) : readEntry origin aliasOfOrigin earlier key (.object record) =
      readRecord origin aliasOfOrigin earlier key record := by
    cases key <;> rfl
  simp only [joinOf, hr, read_record_named absent, map_bind, bind_map_left]
  congr 1
  funext join
  change (if Text.isBlankText join.table then _ else _) = _
  split <;> rfl

/-- Later entries see a moved join as they saw it before. -/
theorem joins_after_hung (place : String × Option String) (join : Join)
    (entries : List (Option String × Json)) :
    joinsAfter origin aliasOfOrigin (earlier ++ [join.hung place]) entries =
      joinsAfter origin aliasOfOrigin (earlier ++ [join]) entries := by
  have hs : SameNames (earlier ++ [join.hung place]) (earlier ++ [join]) := by
    refine SameNames.append ?_ ?_
    · rfl
    · rfl
  exact hs.joins_after entries

/-- Where a name that no earlier join has leads. -/
theorem hang_on_apart (apart : ∀ j ∈ earlier, j.table ≠ name ∧ j.name ≠ name) :
    hangOn name origin aliasOfOrigin earlier = hangOn name origin aliasOfOrigin [] := by
  induction earlier with
  | nil => rfl
  | cons first rest ih =>
    obtain ⟨⟨ht, hn⟩, hrest⟩ := List.forall_mem_cons.mp apart
    rw [hang_on_cons, if_neg (by simp [ht, hn]), ih hrest]

theorem modify_middle {α : Type} (f : α → α) (front back : List α) (x : α) :
    (front ++ x :: back).modify front.length f = front ++ f x :: back :=
  List.modifyTailIdx_add (·.modifyHead f) 0 front (x :: back)

theorem read_array_named {before : List Json} (after : List Json)
    (absent : (front ++ back).lookup "origin" = none)
    (apart : ∀ earlier, (read origin aliasOfOrigin (.array before)).result = .ok earlier →
      ∀ j ∈ earlier, j.table ≠ name ∧ j.name ≠ name) :
    (read origin aliasOfOrigin
        (.array (before ++ .object (front ++ ("origin", .string name) :: back) :: after))).result =
      (·.modify before.length (hung (hangOn name origin aliasOfOrigin []))) <$>
        (read origin aliasOfOrigin
          (.array (before ++ .object (front ++ back) :: after))).result := by
  simp only [read_array_at, join_of_named absent, map_bind, map_pure, bind_map_left,
    joins_after_hung]
  cases he : (read origin aliasOfOrigin (.array before)).result with
  | error e => rfl
  | ok earlier =>
    have hread : (Except.ok earlier : Except Error (List Join)) = pure earlier := rfl
    simp only [hread, pure_bind, ← read_array_length he, modify_middle,
      hang_on_apart (apart earlier he)]

end Named

theorem hang_on_origin {name : String} (names : name = origin ∨ aliasOfOrigin = some name) :
    hangOn name origin aliasOfOrigin [] = (origin, aliasOfOrigin) ↔
      aliasOfOrigin.getD origin = name := by
  rw [hang_on_nil]
  rcases names with rfl | rfl
  · cases aliasOfOrigin with
    | none => simp
    | some a => simp
  · simp

/-- To name the table of the statement, or its alias, as the origin of a record changes nothing
exactly if that is the name of the statement. -/
theorem origin_named (origin : String) (aliasOfOrigin : Option String) (before after : List Json)
    (front back : Record) (name : String) (names : name = origin ∨ aliasOfOrigin = some name)
    (absent : (front ++ back).lookup "origin" = none)
    (apart : ∀ earlier, (read origin aliasOfOrigin (.array before)).result = .ok earlier →
      ∀ j ∈ earlier, j.table ≠ name ∧ j.name ≠ name) :
    (read origin aliasOfOrigin
        (.array (before ++ .object (front ++ ("origin", .string name) :: back) :: after))).result =
      (read origin aliasOfOrigin (.array (before ++ .object (front ++ back) :: after))).result ↔
    aliasOfOrigin.getD origin = name ∨
      ∃ e, (read origin aliasOfOrigin
        (.array (before ++ .object (front ++ back) :: after))).result = .error e := by
  rw [read_array_named after absent apart]
  cases h : (read origin aliasOfOrigin
    (.array (before ++ .object (front ++ back) :: after))).result with
  | error e =>
    constructor
    · intro _
      exact Or.inr ⟨e, rfl⟩
    · intro _
      rfl
  | ok joins =>
    have hnone : textOption (front ++ back) "origin" = .ok none := by simp [textOption, absent]
    obtain ⟨earlier, join, later, rfl, hl, hp⟩ := read_array_record hnone h
    rw [← hl]
    change Except.ok (List.modify _ _ _) = _ ↔ _
    simp [modify_middle, hung_eq_self, hp, ← hang_on_origin names]

/-- The alias of the statement as an origin, between other entries. -/
theorem origin_named_alias :
    ∃ joins,
      (read "posts" (some "p") (.array ([.string "users"] ++
        .object ([("table", .string "tags")] ++ [("fields", .array [.string "label"])]) ::
          [.string "likes"]))).result = .ok joins ∧
      (read "posts" (some "p") (.array ([.string "users"] ++
        .object ([("table", .string "tags")] ++
          ("origin", .string "p") :: [("fields", .array [.string "label"])]) ::
          [.string "likes"]))).result = .ok joins := by
  refine ⟨_, rfl, ?_⟩
  refine ((origin_named "posts" (some "p") _ _ _ _ "p" (Or.inr rfl) rfl ?_).mpr (Or.inl rfl)).trans
    rfl
  intro earlier h
  cases h
  decide

theorem origin_without_alias :
    (read "posts" (some "p")
        (.array [.object [("table", .string "users"), ("origin", .string "posts")]])).result =
      .ok [{ table := "users", origin := "posts", aliasOfOrigin := none }] ∧
    (read "posts" (some "p") (.array [.object [("table", .string "users")]])).result =
      .ok [{ table := "users", origin := "posts", aliasOfOrigin := some "p" }] :=
  ⟨rfl, rfl⟩

end SqlBuilder.Join

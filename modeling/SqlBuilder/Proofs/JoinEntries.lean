import SqlBuilder.Join.Reader
import SqlBuilder.Proofs.Outline

/-!
Joins read entry by entry. An entry sees the joins before it, of these only their tables and
aliases, and adds one join.
-/

namespace SqlBuilder.Join

variable {origin : String} {aliasOfOrigin : Option String}

/-! ### One entry after another -/

/-- The join of an entry after the earlier joins. It has to name a table. -/
def joinOf (origin : String) (aliasOfOrigin : Option String) (earlier : List Join)
    (entry : Option String × Json) : Except Error Join := do
  let join ← (readEntry origin aliasOfOrigin earlier entry.1 entry.2).result
  if Text.isBlankText join.table then .error (.malformedJoin .noTable) else .ok join

/-- The joins that entries add to the earlier ones. -/
def joinsAfter (origin : String) (aliasOfOrigin : Option String) :
    (earlier : List Join) → List (Option String × Json) → Except Error (List Join)
  | _, [] => .ok []
  | earlier, entry :: rest => do
    let join ← joinOf origin aliasOfOrigin earlier entry
    let later ← joinsAfter origin aliasOfOrigin (earlier ++ [join]) rest
    return join :: later

theorem read_entries_cons (earlier : List Join) (entry : Option String × Json)
    (rest : List (Option String × Json)) :
    (readEntries origin aliasOfOrigin earlier (entry :: rest)).result =
      joinOf origin aliasOfOrigin earlier entry >>= fun join =>
        (readEntries origin aliasOfOrigin (earlier ++ [join]) rest).result := by
  obtain ⟨key, item⟩ := entry
  simp only [readEntries, joinOf, Traced.result_bind, bind_assoc]
  congr 1
  funext join
  split <;> rfl

theorem read_entries_eq (earlier : List Join) (entries : List (Option String × Json)) :
    (readEntries origin aliasOfOrigin earlier entries).result =
      (earlier ++ ·) <$> joinsAfter origin aliasOfOrigin earlier entries := by
  induction entries generalizing earlier with
  | nil =>
    change Except.ok earlier = Except.ok (earlier ++ [])
    rw [List.append_nil]
  | cons entry rest ih =>
    simp only [read_entries_cons, joinsAfter, ih, ← bind_pure_comp, bind_assoc, pure_bind,
      List.append_assoc, List.singleton_append]

/-- Items of an array have no key. -/
theorem read_array_eq (items : List Json) :
    (read origin aliasOfOrigin (.array items)).result =
      joinsAfter origin aliasOfOrigin [] (items.map fun item => (none, item)) := by
  rw [read, read_entries_eq]
  exact id_map _

/-- Entries in two parts: the second part sees the joins of the first. -/
theorem joins_after_append (earlier : List Join) (xs ys : List (Option String × Json)) :
    joinsAfter origin aliasOfOrigin earlier (xs ++ ys) = (do
      let first ← joinsAfter origin aliasOfOrigin earlier xs
      let second ← joinsAfter origin aliasOfOrigin (earlier ++ first) ys
      return first ++ second) := by
  induction xs generalizing earlier with
  | nil =>
    simp only [List.nil_append, joinsAfter]
    change _ = (joinsAfter origin aliasOfOrigin (earlier ++ []) ys >>= pure)
    simp
  | cons entry rest ih =>
    simp only [List.cons_append, joinsAfter, bind_assoc, ih, List.append_assoc, pure_bind,
      List.nil_append]

theorem joins_after_length {earlier joins : List Join} {entries : List (Option String × Json)}
    (h : joinsAfter origin aliasOfOrigin earlier entries = .ok joins) :
    joins.length = entries.length := by
  induction entries generalizing earlier joins with
  | nil =>
    cases h
    rfl
  | cons entry rest ih =>
    simp only [joinsAfter] at h
    obtain ⟨join, _, h⟩ := bind_ok.mp h
    obtain ⟨later, hl, h⟩ := bind_ok.mp h
    rw [← pure_ok.mp h, List.length_cons, List.length_cons, ih hl]

/-- An array around one of its items. -/
theorem read_array_at (before after : List Json) (item : Json) :
    (read origin aliasOfOrigin (.array (before ++ item :: after))).result = (do
      let earlier ← (read origin aliasOfOrigin (.array before)).result
      let join ← joinOf origin aliasOfOrigin earlier (none, item)
      let later ← joinsAfter origin aliasOfOrigin (earlier ++ [join])
        (after.map fun item => (none, item))
      return earlier ++ join :: later) := by
  simp only [read_array_eq, List.map_append, List.map_cons, joins_after_append, joinsAfter,
    List.nil_append, bind_assoc, pure_bind]

theorem read_array_length {items : List Json} {joins : List Join}
    (h : (read origin aliasOfOrigin (.array items)).result = .ok joins) :
    joins.length = items.length := by
  rw [read_array_eq] at h
  rw [joins_after_length h, List.length_map]

/-! ### What an entry sees of the earlier joins -/

theorem hang_on_cons (name : String) (first : Join) (rest : List Join) :
    hangOn name origin aliasOfOrigin (first :: rest) =
      if first.name = name ∨ first.table = name then (first.table, first.alias?)
      else hangOn name origin aliasOfOrigin rest := by
  unfold hangOn
  rw [List.find?_cons]
  by_cases h : first.name = name ∨ first.table = name
  · have hb : (first.name == name || first.table == name) = true := by simpa using h
    rw [if_pos h, hb]
  · have hb : (first.name == name || first.table == name) = false := by simpa using h
    rw [if_neg h, hb]

/-- The joins have the same tables under the same aliases. -/
def SameNames (xs ys : List Join) : Prop :=
  xs.map (fun j => (j.table, j.alias?)) = ys.map (fun j => (j.table, j.alias?))

theorem SameNames.append {xs ys xs' ys' : List Join} (h : SameNames xs ys)
    (h' : SameNames xs' ys') : SameNames (xs ++ xs') (ys ++ ys') := by
  unfold SameNames at *
  rw [List.map_append, List.map_append, h, h']

theorem SameNames.hang_on {xs ys : List Join} (h : SameNames xs ys) (name : String) :
    hangOn name origin aliasOfOrigin xs = hangOn name origin aliasOfOrigin ys := by
  induction xs generalizing ys with
  | nil =>
    cases ys with
    | nil => rfl
    | cons y rest => cases h
  | cons x xs ih =>
    cases ys with
    | nil => cases h
    | cons y ys =>
      obtain ⟨hxy, hrest⟩ := List.cons.inj h
      obtain ⟨ht, ha⟩ := Prod.mk.inj hxy
      have hn : x.name = y.name := by
        unfold Join.name
        rw [ht, ha]
      rw [hang_on_cons, hang_on_cons, hn, ht, ha, ih hrest]

theorem SameNames.read_entry {xs ys : List Join} (h : SameNames xs ys) (key : Option String)
    (item : Json) :
    readEntry origin aliasOfOrigin xs key item = readEntry origin aliasOfOrigin ys key item := by
  unfold readEntry
  split
  · rfl
  · rfl
  · simp only [readRecord, h.hang_on]
  · rfl

theorem SameNames.join_of {xs ys : List Join} (h : SameNames xs ys)
    (entry : Option String × Json) :
    joinOf origin aliasOfOrigin xs entry = joinOf origin aliasOfOrigin ys entry := by
  unfold joinOf
  rw [h.read_entry]

theorem SameNames.joins_after {xs ys : List Join} (h : SameNames xs ys)
    (entries : List (Option String × Json)) :
    joinsAfter origin aliasOfOrigin xs entries = joinsAfter origin aliasOfOrigin ys entries := by
  induction entries generalizing xs ys with
  | nil => rfl
  | cons entry rest ih =>
    simp only [joinsAfter, h.join_of]
    congr 1
    funext join
    have hj : SameNames [join] [join] := rfl
    rw [ih (h.append hj)]

end SqlBuilder.Join

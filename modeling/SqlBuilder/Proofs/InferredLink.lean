import SqlBuilder.Join.Clause
import SqlBuilder.Proofs.Outline
import SqlBuilder.Proofs.Sample

/-!
Links that foreign keys give. What is inferred hangs on how many keys lead from the origin table to
the joined one and how many lead back, and it is the same link from either side.
-/

namespace SqlBuilder

/-- The keys of the table to another, in the order of its columns. With an owner only its keys
count. -/
def Table.keysTo (t : Table) (target : String) (owner : Option String) : List ForeignKey :=
  (t.columns.flatMap (·.foreignKeys)).filter fun key =>
    key.table = target ∧ ∀ column ∈ owner, key.owner = column

theorem Schema.table_name {schema : Schema} {name : String} {t : Table}
    (h : schema.table? name = some t) : t.name = name := by
  have hp := List.find?_some h
  simpa using hp

theorem Schema.get_table_of_some {schema : Schema} {name : String} {t : Table}
    (h : schema.table? name = some t) : schema.getTable name = .ok t := by
  rw [Schema.getTable, h]

/-- The same equation with its sides exchanged. -/
def Link.flip : Link → Link
  | equal left right => equal right left
  | link => link

/-- Only a lack of keys is told by what the tables are to the join. -/
def Error.flip : Error → Error
  | noForeignKey origin joined => noForeignKey joined origin
  | e => e

namespace Join

/-- The join from its other side: the tables and their aliases exchanged. -/
def reversed (j : Join) : Join :=
  { j with
    table := j.origin, alias? := j.aliasOfOrigin, origin := j.table, aliasOfOrigin := j.alias? }

/-- A link that has to be inferred, and the entries around it: for a join without entries that is
not a cross join, or for a column that stands as an entry. -/
inductive Asks (j : Join) : List OnEntry → Option String → List OnEntry → Prop where
  | link (nothing : j.on = []) (kind : j.kind ≠ .cross) : Asks j [] none []
  | column {before after : List OnEntry} {name : String}
      (entry : j.on = before ++ .column name :: after) : Asks j before (some name) after

/-- The result is the right one for these keys of the origin table to the joined one, and of the
joined one back: the only key there, else the only key back, with the column of the origin first. -/
structure Decided (j : Join) (forward backward : List ForeignKey) (result : Except Error Link) :
    Prop where
  linked : ∀ link, result = .ok link ↔
    (∃ key, forward = [key] ∧
      link = .equal ⟨some j.originName, key.owner⟩ ⟨some j.name, key.column⟩) ∨
    (forward = [] ∧ ∃ key, backward = [key] ∧
      link = .equal ⟨some j.originName, key.column⟩ ⟨some j.name, key.owner⟩)
  ambiguous : ∀ source target keys, result = .error (.ambiguousForeignKey source target keys) ↔
    (2 ≤ forward.length ∧ source = j.origin ∧ target = j.table ∧ keys = forward) ∨
    (forward = [] ∧ 2 ≤ backward.length ∧ source = j.table ∧ target = j.origin ∧ keys = backward)
  missing : ∀ source target, result = .error (.noForeignKey source target) ↔
    forward = [] ∧ backward = [] ∧ source = j.origin ∧ target = j.table

/-! ### One inference -/

/-- What is inferred, from the keys alone. -/
def linkOf (j : Join) : (forward backward : List ForeignKey) → Except Error Link
  | [key], _ => .ok (.equal (j.originColumn key.owner) (j.joinedColumn key.column))
  | first :: second :: rest, _ =>
    .error (.ambiguousForeignKey j.origin j.table (first :: second :: rest))
  | [], [key] => .ok (.equal (j.originColumn key.column) (j.joinedColumn key.owner))
  | [], first :: second :: rest =>
    .error (.ambiguousForeignKey j.table j.origin (first :: second :: rest))
  | [], [] => .error (.noForeignKey j.origin j.table)

theorem keys_between_eq (source target : Table) (owner : Option String) :
    keysBetween source target owner = source.keysTo target.name owner := by
  unfold keysBetween Table.foreignKeysTo Table.foreignKeys Table.keysTo
  rw [List.filter_filter]
  apply List.filter_congr
  intro key _
  rw [Bool.eq_iff_iff]
  cases owner <;> simp [and_comm]

theorem infer_link_eq {schema : Schema} {j : Join} {origin joined : Table}
    (ho : schema.table? j.origin = some origin) (hj : schema.table? j.table = some joined)
    (owner : Option String) :
    (inferLink schema j owner).result =
      linkOf j (origin.keysTo j.table owner) (joined.keysTo j.origin owner) := by
  have horigin : origin.name = j.origin := Schema.table_name ho
  have hjoined : joined.name = j.table := Schema.table_name hj
  have hforward := keys_between_eq origin joined owner
  have hbackward := keys_between_eq joined origin owner
  rw [hjoined] at hforward
  rw [horigin] at hbackward
  unfold inferLink
  rw [Schema.get_table_of_some ho, Schema.get_table_of_some hj]
  simp only [Traced.result_bind, Traced.result_lifted, ok_bind, hforward, hbackward]
  rcases origin.keysTo j.table owner with _ | ⟨key, _ | ⟨second, rest⟩⟩
  · rcases joined.keysTo j.origin owner with _ | ⟨key, _ | ⟨second, rest⟩⟩
    · simp [linkOf, horigin, hjoined]
    · rfl
    · simp [linkOf, horigin, hjoined]
  · rfl
  · simp [linkOf, horigin, hjoined]

theorem link_of_decided (j : Join) (forward backward : List ForeignKey) :
    Decided j forward backward (linkOf j forward backward) := by
  rcases forward with _ | ⟨key, _ | ⟨second, rest⟩⟩
  · rcases backward with _ | ⟨key, _ | ⟨second, rest⟩⟩
    all_goals constructor <;> simp [linkOf, originColumn, joinedColumn, eq_comm]
  · constructor <;> simp [linkOf, originColumn, joinedColumn, eq_comm]
  · constructor <;> simp [linkOf, eq_comm]

/-- With keys in one direction only, both sides of a join see the same keys, one of them as the keys
there and the other as the keys back. -/
theorem link_of_reversed (j : Join) {forward backward : List ForeignKey}
    (h : forward = [] ∨ backward = []) :
    linkOf j.reversed backward forward =
      ((linkOf j forward backward).map Link.flip).mapError Error.flip := by
  rcases h with rfl | rfl
  · rcases backward with _ | ⟨key, _ | ⟨second, rest⟩⟩
    all_goals rfl
  · rcases forward with _ | ⟨key, _ | ⟨second, rest⟩⟩
    all_goals rfl

/-! ### The place of an inferred link -/

theorem entry_links_append (schema : Schema) (j : Join) (xs ys : List OnEntry) :
    (entryLinks schema j (xs ++ ys)).result = (do
      let first ← (entryLinks schema j xs).result
      let second ← (entryLinks schema j ys).result
      return first ++ second) := by
  induction xs with
  | nil =>
    change _ = ((entryLinks schema j ys).result >>= pure)
    rw [bind_pure]
    rfl
  | cons entry rest ih =>
    simp only [List.cons_append, entryLinks, Traced.result_bind, Traced.result_pure, ih, bind_assoc,
      pure_bind]

theorem Asks.on_links {j : Join} {before after : List OnEntry} {owner : Option String}
    (h : j.Asks before owner after) (schema : Schema) :
    (onLinks schema j).result = (do
      let first ← (entryLinks schema j before).result
      let link ← (inferLink schema j owner).result
      let rest ← (entryLinks schema j after).result
      return first ++ link :: rest) := by
  cases h with
  | link nothing kind =>
    simp [onLinks, nothing, kind, entryLinks]
  | column entry =>
    have hn : j.on.isEmpty = false := by simp [entry]
    rw [onLinks, hn, entry]
    simp [entry_links_append, entryLinks, entryLink]

/-- A link that has to be inferred takes its place in the clause, and its failure is the failure of
the clause. -/
theorem Asks.clause {j : Join} {before after : List OnEntry} {owner : Option String}
    (h : j.Asks before owner after) (schema : Schema) (validate : Bool) :
    (j.clause schema validate).result = (do
      let first ← (entryLinks schema j before).result
      let link ← (inferLink schema j owner).result
      let rest ← (entryLinks schema j after).result
      let filters ← (filterLinks schema validate j).result
      return ⟨j.kind, j.table, j.alias?, first ++ link :: rest ++ filters⟩) := by
  simp only [Join.clause, Traced.result_bind, Traced.result_pure, h.on_links, bind_assoc, pure_bind]

/-! ### Inferred links -/

/-- The keys between the two tables decide what is inferred, whatever stands around it. If they all
lead one way, the join from its other side gives the same equation with its sides exchanged, or
fails over the same keys. In a self join the keys there and back are the same ones. -/
theorem inferred_link (schema : Schema) (validate : Bool) (j : Join) {before after : List OnEntry}
    {owner : Option String} {origin joined : Table} (asked : j.Asks before owner after)
    (ho : schema.table? j.origin = some origin) (hj : schema.table? j.table = some joined) :
    (j.clause schema validate).result = (do
      let first ← (entryLinks schema j before).result
      let link ← (inferLink schema j owner).result
      let rest ← (entryLinks schema j after).result
      let filters ← (filterLinks schema validate j).result
      return ⟨j.kind, j.table, j.alias?, first ++ link :: rest ++ filters⟩) ∧
    Decided j (origin.keysTo j.table owner) (joined.keysTo j.origin owner)
      (inferLink schema j owner).result ∧
    (origin.keysTo j.table owner = [] ∨ joined.keysTo j.origin owner = [] →
      (inferLink schema j.reversed owner).result =
        ((inferLink schema j owner).result.map Link.flip).mapError Error.flip) := by
  have hlink := infer_link_eq ho hj owner
  have hreversed : (inferLink schema j.reversed owner).result =
      linkOf j.reversed (joined.keysTo j.origin owner) (origin.keysTo j.table owner) :=
    infer_link_eq (j := j.reversed) hj ho owner
  refine ⟨asked.clause schema validate, ?_, ?_⟩
  · rw [hlink]
    exact link_of_decided j _ _
  · intro oneWay
    rw [hlink, hreversed]
    exact link_of_reversed j oneWay

/-- The users with what they wrote: the key is one of the joined table. -/
def written : Join :=
  { table := "posts", origin := "users", alias? := some "p", kind := .left
    aliasOfOrigin := some "u", on := [.raw "u.id > 9", .column "author"] }

theorem inferred_link_written :
    written.Asks [.raw "u.id > 9"] (some "author") [] ∧
    (written.clause Sample.schema true).result.map (JoinClause.sql .mysql) =
      .ok "LEFT JOIN `posts` AS `p` ON (u.id > 9) AND `u`.`id` = `p`.`author`" ∧
    (inferLink Sample.schema written.reversed (some "author")).result =
      .ok (.equal ⟨some "p", "author"⟩ ⟨some "u", "id"⟩) := by
  have asked : written.Asks [.raw "u.id > 9"] (some "author") [] := .column rfl
  have ho : Sample.schema.table? written.origin = some Sample.users := rfl
  have hj : Sample.schema.table? written.table = some Sample.posts := rfl
  obtain ⟨hclause, hdecided, hreversed⟩ :=
    inferred_link Sample.schema true written asked ho hj
  have hlink : (inferLink Sample.schema written (some "author")).result =
      .ok (.equal ⟨some "u", "id"⟩ ⟨some "p", "author"⟩) :=
    (hdecided.linked _).mpr (Or.inr ⟨rfl, ⟨"users", "id", "author"⟩, rfl, rfl⟩)
  refine ⟨asked, ?_, ?_⟩
  · rw [hclause, hlink]
    rfl
  · rw [hreversed (Or.inl rfl), hlink]
    rfl

end Join

end SqlBuilder

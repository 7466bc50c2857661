import SqlBuilder.Proofs.Pieces
import SqlBuilder.Proofs.WrittenNames

/-!
The fields of a selection. They are columns of the table of the query, so they are looked for
without the joins, where filter, groups and order look among what the joins provide first. The two
agree on a name unless a join provides another column under it.
-/

namespace SqlBuilder

/-! ### Columns that are written alike -/

/-- Two columns are written alike exactly if they agree in what is kept of their names. -/
theorem ColumnName.text_eq_iff (a b : ColumnName) :
    a.text = b.text ↔ a.qualifier.map Identifier.sanitize = b.qualifier.map Identifier.sanitize ∧
      a.identifier = b.identifier := by
  obtain ⟨p, x⟩ := a
  obtain ⟨q, y⟩ := b
  constructor
  · intro h
    -- equal texts have equal pieces
    have ha := (adds_column .mysql ⟨p, x⟩).scan
    rw [h, (adds_column .mysql ⟨q, y⟩).scan] at ha
    have hpieces := Option.some.inj ha
    cases p <;> cases q <;> simp_all [ColumnName.pieces, ColumnName.identifier]
  · rintro ⟨hq, hi⟩
    simp only [ColumnName.identifier] at hi
    cases p <;> cases q <;> simp_all [ColumnName.text, Identifier.quote]

/-! ### Names with the joins and without -/

namespace Scope

/-- If a join provides the name, what it provides is written as the column of that name of the
table. -/
def ProvidesOwn (scope : Scope) (table name : String) : Prop :=
  ∀ join field, Join.findProjected? scope.joins (Identifier.sanitize name) = some (join, field) →
    Identifier.sanitize join.name = Identifier.sanitize (scope.alias?.getD table) ∧
      Identifier.sanitize field.source = Identifier.sanitize name

variable {scope : Scope} {table name : String}

theorem resolve_split {parts : String × String}
    (h : Identifier.split? (Identifier.sanitize name) = some parts) :
    (scope.resolve name).name = ⟨some parts.1, parts.2⟩ := by
  simp [Scope.resolve, Reference.resolve, h]

theorem resolve_provided {join : Join} {field : ProjectedField}
    (hs : Identifier.split? (Identifier.sanitize name) = none)
    (hp : Join.findProjected? scope.joins (Identifier.sanitize name) = some (join, field)) :
    (scope.resolve name).name = ⟨some join.name, field.source⟩ := by
  simp [Scope.resolve, Reference.resolve, hs, hp]

theorem resolve_unprovided (ht : scope.table = some table)
    (hs : Identifier.split? (Identifier.sanitize name) = none)
    (hp : Join.findProjected? scope.joins (Identifier.sanitize name) = none) :
    (scope.resolve name).name =
      ⟨some (scope.alias?.getD table), Identifier.sanitize name⟩ := by
  cases ha : scope.alias? <;> simp [Scope.resolve, Reference.resolve, hs, hp, ht, ha]

/-- Leaving the joins out changes how a name is written exactly if it is not qualified and a join
provides another column under it. -/
theorem resolve_without_joins_iff (scope : Scope) (name : String)
    (ht : scope.table = some table) :
    (({ scope with joins := [] } : Scope).resolve name).name.text =
        (scope.resolve name).name.text ↔
      (Identifier.split? (Identifier.sanitize name)).isSome = true ∨
        scope.ProvidesOwn table name := by
  cases hs : Identifier.split? (Identifier.sanitize name) with
  | some parts =>
    rw [resolve_split hs, resolve_split hs]
    simp
  | none =>
    have hown : (({ scope with joins := [] } : Scope).resolve name).name =
        ⟨some (scope.alias?.getD table), Identifier.sanitize name⟩ := resolve_unprovided ht hs rfl
    rw [hown]
    cases hp : Join.findProjected? scope.joins (Identifier.sanitize name) with
    | none =>
      rw [resolve_unprovided ht hs hp]
      simp [ProvidesOwn, hp]
    | some found =>
      obtain ⟨join, field⟩ := found
      rw [resolve_provided hs hp, ColumnName.text_eq_iff]
      simp only [ProvidesOwn, hp, ColumnName.identifier, Identifier.sanitize_again]
      constructor
      · rintro ⟨hq, hi⟩
        refine Or.inr ?_
        rintro _ _ ⟨⟩
        exact ⟨(Option.some.inj hq).symm, hi.symm⟩
      · rintro (hq | hown)
        · cases hq
        · obtain ⟨hq, hi⟩ := hown join field rfl
          exact ⟨congrArg some hq.symm, hi.symm⟩

end Scope

/-! ### Selections -/

namespace Selection

/-- The fields of the query are shown first, and as they are without the joins. -/
theorem own_shown_ok {schema : Schema} {scope : Scope} {name : String} {fields : List String}
    {shown : List Shown} (h : ownShown schema scope name fields = .ok shown) :
    shown = if fields.isEmpty then [.every (scope.alias?.getD name)]
      else fields.map fun field => .column (scope.resolve field).name := by
  unfold ownShown at h
  split at h
  · rename_i he
    cases h
    rw [if_pos he]
  · rename_i he
    obtain ⟨columns, hc, rfl⟩ := map_ok.mp h
    rw [if_neg he, (checked_columns_ok hc).1, List.map_map]
    rfl

/-- What a selection shows first are the fields of the query, looked for without the joins. Its
filter, groups and order are looked for with them. A name is written alike in both exactly if it is
qualified or no join provides another column under it. -/
theorem fields_apart_from_joins (schema : Schema) (validate : Bool) (query : SelectQuery)
    (selection : Selection) (h : (ofQuery schema validate query).result = .ok selection) :
    ∃ joins conditions others,
      (Join.read query.table query.alias? query.joins).result = .ok joins ∧
      Condition.readIn schema (queryScope query validate joins) query.filter = .ok conditions ∧
      (query.fields ≠ [] → selection.shown = query.fields.map (fun name =>
        .column ((queryScope query validate []).resolve name).name) ++ others) ∧
      Clause.columnNamesAll selection.filter =
        (Condition.referencesAll (queryScope query validate joins) conditions).map (·.name) ∧
      selection.groupBy = query.groupBy.map (fun name =>
        ((queryScope query validate joins).resolve name).name) ∧
      selection.orderBy = query.orderBy.map (fun entry =>
        (((queryScope query validate joins).resolve entry.column).name, entry.order)) ∧
      ∀ name, ((queryScope query validate []).resolve name).name.text =
          ((queryScope query validate joins).resolve name).name.text ↔
        (Identifier.split? (Identifier.sanitize name)).isSome = true ∨
          (queryScope query validate joins).ProvidesOwn query.table name := by
  obtain ⟨joins, hp⟩ := query_parts h
  obtain ⟨own, others, hshown, _, hown⟩ := hp.shown
  obtain ⟨table, conditions, ht, hr, hc⟩ := Condition.compile_input_ok hp.filter
  refine ⟨joins, conditions, others, hp.read, bind_ok.mpr ⟨table, ht, hr⟩, ?_,
    (Condition.compile_named hc).same, (checked_columns_ok hp.groupBy).1,
    (ordered_columns_ok hp.orderBy).1, ?_⟩
  · intro hf
    have hsome : ¬query.fields.isEmpty = true := fun he => hf (List.isEmpty_iff.mp he)
    rw [hshown, own_shown_ok hown, if_neg hsome]
  · intro name
    exact Scope.resolve_without_joins_iff (queryScope query validate joins) name rfl

theorem fields_apart_from_joins_authored :
    ∃ selection, (ofQuery Sample.schema true authoredTitles).result = .ok selection ∧
      ∃ joins, (Join.read "posts" (some "p") authoredTitles.joins).result = .ok joins ∧
        ((((queryScope authoredTitles true []).resolve "name").name.text =
            ((queryScope authoredTitles true joins).resolve "name").name.text) ↔
          (queryScope authoredTitles true joins).ProvidesOwn "posts" "name") ∧
        ∃ others, selection.shown = [.column ⟨some "p", "title"⟩] ++ others := by
  have h : ∃ selection, (ofQuery Sample.schema true authoredTitles).result = .ok selection :=
    ⟨_, rfl⟩
  obtain ⟨selection, h⟩ := h
  obtain ⟨joins, conditions, others, hj, _, hshown, _, _, _, hname⟩ :=
    fields_apart_from_joins _ _ _ _ h
  have hone := hname "name"
  refine ⟨selection, h, joins, hj, hone.trans ?_, others, hshown (by simp [authoredTitles])⟩
  exact ⟨fun h => h.resolve_left (by decide), Or.inr⟩

/-- The identifiers of posts, with those of their authors under the same name. -/
def sharedIds : SelectQuery :=
  { table := "posts"
    fields := ["id"]
    joins := .object [("users", .object [("fields", .array [.string "id"])])]
    filter := .object [("id", .integer 7)]
    groupBy := ["id"]
    orderBy := [{ column := "id" }] }

theorem shared_id_apart :
    ∃ selection, (ofQuery Sample.schema true sharedIds).result = .ok selection ∧
      selection.sql .mysql = "SELECT `posts`.`id`, `users`.`id` FROM `posts` " ++
        "INNER JOIN `users` ON `posts`.`author` = `users`.`id` WHERE `users`.`id` = '7' " ++
        "GROUP BY `users`.`id` ORDER BY `users`.`id` ASC" :=
  ⟨_, rfl, rfl⟩

end Selection

end SqlBuilder

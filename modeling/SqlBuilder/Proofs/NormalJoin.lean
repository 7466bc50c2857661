import SqlBuilder.Proofs.Characters
import SqlBuilder.Proofs.Comparisons
import SqlBuilder.Proofs.JoinOrder
import SqlBuilder.Proofs.WellFormed

/-!
What a join is like that was read, whatever shorthand it was read from: names without blanks around
them, expressions that have a comparison, and columns that are renamed under their own names.
-/

namespace SqlBuilder

/-! ### Normal forms -/

open Comparison (find Cut)

/-- A column is trimmed and has no comparison, a pair is under a name, and a raw entry has a
comparison. -/
inductive OnEntry.Normal : OnEntry → Prop where
  | column {name : String} (trimmed : Text.trim name = name)
      (clear : find name.toList = .absent ∨ find name.toList = .severed ∧ Cut name.toList) :
      Normal (.column name)
  | pair {origin joined : String} (named : Text.isIndex origin = false) :
      Normal (.pair origin joined)
  | raw {sql : String} (compares : find sql.toList = .present) : Normal (.raw sql)

namespace Join

theorem on_text_normal {text : String} {entry : OnEntry} (h : onText text = .ok entry) :
    entry.Normal := by
  unfold onText at h
  split at h
  · rename_i hp
    cases h
    exact .raw hp
  · rename_i ha
    cases h
    obtain ⟨front, rear, hparts⟩ := Text.trim_chars_part text.toList
    rw [hparts] at ha
    have hfront := Comparison.find_absent_front (Comparison.find_absent_rear ha)
    refine .column (Text.trim_trim text) ?_
    unfold Text.trim
    rw [String.toList_ofList]
    exact hfront
  · cases h

theorem read_on_members_cons (key text : String) (rest : List (String × Json)) :
    readOnMembers ((key, .string text) :: rest) = (do
      let entry ← (if Text.isIndex key then onText text else .ok (.pair key text))
      let entries ← readOnMembers rest
      return entry :: entries) := by
  rw [readOnMembers]
  split <;> rfl

theorem read_on_members_normal {members : List (String × Json)} {entries : List OnEntry}
    (h : readOnMembers members = .ok entries) : ∀ entry ∈ entries, entry.Normal := by
  induction members generalizing entries with
  | nil =>
    cases h
    simp
  | cons member rest ih =>
    obtain ⟨key, value⟩ := member
    cases value with
    | string text =>
      rw [read_on_members_cons] at h
      obtain ⟨entry, he, h⟩ := bind_ok.mp h
      obtain ⟨others, ho, h⟩ := bind_ok.mp h
      cases pure_ok.mp h
      refine List.forall_mem_cons.mpr ⟨?_, ih ho⟩
      split at he
      · exact on_text_normal he
      · rename_i hk
        cases he
        exact .pair (Bool.eq_false_iff.mpr hk)
    | _ => cases h

mutual

theorem read_on_normal (json : Json) {entries : List OnEntry} (h : readOn json = .ok entries) :
    ∀ entry ∈ entries, entry.Normal := by
  match json with
  | .null =>
    cases h
    simp
  | .string text =>
    rw [readOn] at h
    obtain ⟨entry, he, rfl⟩ := map_ok.mp h
    simpa using on_text_normal he
  | .array items =>
    rw [readOn] at h
    exact read_on_items_normal items h
  | .object members =>
    rw [readOn] at h
    exact read_on_members_normal h
  | .bool _ | .integer _ | .float _ => cases h

theorem read_on_items_normal (items : List Json) {entries : List OnEntry}
    (h : readOnItems items = .ok entries) : ∀ entry ∈ entries, entry.Normal := by
  match items with
  | [] =>
    cases h
    simp
  | item :: rest =>
    simp only [readOnItems] at h
    obtain ⟨first, hf, h⟩ := bind_ok.mp h
    obtain ⟨others, ho, h⟩ := bind_ok.mp h
    cases pure_ok.mp h
    exact List.forall_mem_append.mpr ⟨read_on_normal item hf, read_on_items_normal rest ho⟩

end

/-- The columns that are shown under other names. -/
def renames (fields : List ProjectedField) : List String :=
  (fields.filter fun field => field.source ≠ field.exposed).map ProjectedField.source

theorem renames_cons (field : ProjectedField) (rest : List ProjectedField) :
    renames (field :: rest) =
      if field.source = field.exposed then renames rest else field.source :: renames rest := by
  unfold renames
  rw [List.filter_cons]
  split
  · rename_i h
    rw [if_neg (by simpa using h)]
    rfl
  · rename_i h
    rw [if_pos (by simpa using h)]

theorem read_field_items_renames {items : List Json} {fields : List ProjectedField}
    (h : readFieldItems items = .ok fields) : renames fields = [] := by
  induction items generalizing fields with
  | nil =>
    cases h
    rfl
  | cons item rest ih =>
    cases item with
    | string name =>
      simp only [readFieldItems] at h
      obtain ⟨others, ho, h⟩ := bind_ok.mp h
      cases pure_ok.mp h
      rw [renames_cons, if_pos rfl, ih ho]
    | _ => cases h

/-- A column that is renamed was under its name, which is no index, and no name is there twice if
no key is. -/
theorem read_field_members_renames {members : List (String × Json)}
    {fields : List ProjectedField} (h : readFieldMembers members = .ok fields) :
    (∀ name ∈ renames fields, Text.isIndex name = false) ∧
      (renames fields).Sublist (members.map Prod.fst) := by
  induction members generalizing fields with
  | nil =>
    cases h
    exact ⟨by simp [renames], .slnil⟩
  | cons member rest ih =>
    obtain ⟨key, value⟩ := member
    cases value with
    | string name =>
      simp only [readFieldMembers] at h
      obtain ⟨others, ho, h⟩ := bind_ok.mp h
      cases pure_ok.mp h
      obtain ⟨hindex, hsub⟩ := ih ho
      rw [renames_cons]
      by_cases hk : Text.isIndex key = true
      · simp only [if_pos hk, if_true]
        exact ⟨hindex, hsub.cons key⟩
      · simp only [if_neg hk]
        split
        · exact ⟨hindex, hsub.cons key⟩
        · exact ⟨List.forall_mem_cons.mpr ⟨Bool.eq_false_iff.mpr hk, hindex⟩, hsub.cons_cons key⟩
    | _ => cases h

theorem read_fields_renames {json : Json} {fields : List ProjectedField}
    (h : readFields json = .ok fields) :
    (∀ name ∈ renames fields, Text.isIndex name = false) ∧
      (json.Genuine → (renames fields).Nodup) := by
  unfold readFields at h
  split at h
  · cases h
    exact ⟨by simp [renames], fun _ => .nil⟩
  · rw [read_field_items_renames h]
    exact ⟨by simp, fun _ => .nil⟩
  · obtain ⟨hindex, hsub⟩ := read_field_members_renames h
    refine ⟨hindex, ?_⟩
    intro hg
    cases hg with
    | object each distinct => exact distinct.sublist hsub
  · cases h

/-- What every join is like, whatever it was read from. -/
structure Normal (j : Join) : Prop where
  table : Text.isBlankText j.table = false
  on : ∀ entry ∈ j.on, entry.Normal
  fields : ∀ name ∈ renames j.fields, Text.isIndex name = false
  filter : j.filter ≠ some .null

/-- What the parts of a join are like if it was read from a document: no column is renamed twice. -/
structure Genuine (j : Join) : Prop where
  distinct : (renames j.fields).Nodup
  filter : ∀ filter ∈ j.filter, filter.Genuine

theorem read_filter_ne_null (record : Record) : readFilter record ≠ some .null := by
  unfold readFilter
  split
  · simp
  · rename_i hn
    exact hn

section Entry

variable {origin : String} {aliasOfOrigin : Option String} {earlier : List Join}

theorem join_of_normal {entry : Option String × Json} {join : Join}
    (h : joinOf origin aliasOfOrigin earlier entry = .ok join) : join.Normal := by
  obtain ⟨h, hb⟩ := join_of_ok.mp h
  unfold readEntry at h
  split at h
  · cases h
    exact ⟨hb, by simp, by simp [renames], by simp⟩
  · simp only [Traced.result_bind, Traced.result_lifted] at h
    obtain ⟨fields, hf, h⟩ := bind_ok.mp h
    cases pure_ok.mp h
    exact ⟨hb, by simp, (read_fields_renames hf).1, by simp⟩
  · have hg := read_record_iff.mp h
    refine ⟨hb, read_on_normal _ hg.on, (read_fields_renames hg.fields).1, ?_⟩
    rw [hg.filter]
    exact read_filter_ne_null _
  · cases h

theorem genuine_lookup {record : Record} (hg : (Json.object record).Genuine) {option : String}
    {json : Json} (h : record.lookup option = some json) : json.Genuine := by
  cases hg with
  | object each distinct =>
    obtain ⟨front, back, rfl, -⟩ := List.lookup_eq_some_iff.mp h
    exact each (option, json) (by simp)

theorem join_of_genuine {entry : Option String × Json} {join : Join} (hg : entry.2.Genuine)
    (h : joinOf origin aliasOfOrigin earlier entry = .ok join) : join.Genuine := by
  obtain ⟨h, -⟩ := join_of_ok.mp h
  unfold readEntry at h
  split at h
  · cases h
    exact ⟨.nil, by simp⟩
  · rename_i hitem
    simp only [Traced.result_bind, Traced.result_lifted] at h
    obtain ⟨fields, hf, h⟩ := bind_ok.mp h
    cases pure_ok.mp h
    refine ⟨(read_fields_renames hf).2 ?_, by simp⟩
    rw [← hitem]
    exact hg
  · rename_i record hitem
    rw [hitem] at hg
    have hgives := read_record_iff.mp h
    refine ⟨(read_fields_renames hgives.fields).2 ?_, ?_⟩
    · cases hl : record.lookup "fields" with
      | none => exact .null
      | some json => exact genuine_lookup hg hl
    · intro filter hf
      rw [hgives.filter] at hf
      unfold readFilter at hf
      split at hf
      · cases hf
      · exact genuine_lookup hg hf
  · cases h

/-- A join whose entry names no origin hangs on the statement. -/
theorem join_of_statement {entry : Option String × Json} {join : Join}
    (hn : entry.2.get? "origin" = none)
    (h : joinOf origin aliasOfOrigin [] entry = .ok join) :
    join.place = (origin, aliasOfOrigin) := by
  rcases read_entry_place (join_of_ok.mp h).1 with hs | ⟨parent, hp, -⟩ | ⟨name, hname, -⟩
  · exact hs
  · cases hp
  · rw [hn] at hname
    cases hname

end Entry

end Join

end SqlBuilder

import SqlBuilder.Proofs.Containment
import SqlBuilder.Proofs.FilterPresence

/-!
Conditions compile part by part. The text of a list is put together from the texts of its parts,
the parts of which nothing is left go, and the first part that fails decides the error. A separator
stands between two texts and never at the end of one.
-/

namespace SqlBuilder

/-! ### Texts put together -/

namespace Text

/-- Two texts with the separator between them, if there is something in each of them. -/
def glued (separator x y : String) : String :=
  if y = "" then x else if x = "" then y else x ++ separator ++ y

theorem join_with_append {separator : String} {xs ys : List String} (hx : xs ≠ []) (hy : ys ≠ []) :
    joinWith separator (xs ++ ys) =
      joinWith separator xs ++ separator ++ joinWith separator ys := by
  induction xs with
  | nil => exact absurd rfl hx
  | cons x rest ih =>
    cases rest with
    | nil =>
      cases ys with
      | nil => exact absurd rfl hy
      | cons y others => rfl
    | cons next rest =>
      have hi := ih (by simp)
      simp only [List.cons_append] at hi ⊢
      simp only [joinWith, hi, String.append_assoc]

/-- A first text before what is left of others. -/
theorem glued_join (separator text : String) (others : List String) :
    glued separator text (joinWith separator (others.filter (· ≠ ""))) =
      joinWith separator ((text :: others).filter (· ≠ "")) := by
  have each : ∀ t ∈ others.filter (· ≠ ""), t ≠ "" := by
    intro t ht
    simpa using (List.mem_filter.mp ht).2
  have hempty : joinWith separator (others.filter (· ≠ "")) = "" ↔
      others.filter (· ≠ "") = [] := join_with_empty each
  unfold glued
  by_cases ht : text = ""
  · subst ht
    split
    · rename_i hn
      exact hn.symm
    · rfl
  · rw [List.filter_cons_of_pos (by simpa using ht)]
    cases hk : others.filter (· ≠ "") with
    | nil => simp [joinWith]
    | cons next rest =>
      rw [hk] at hempty
      rw [if_neg (by simp [hempty]), if_neg ht]
      rfl

/-- The text starts with a character that is no blank. -/
def Starts (text : String) : Prop := ∃ c, text.toList.head? = some c ∧ c ≠ ' '

/-- The text ends with a character that is no blank. -/
def Ends (text : String) : Prop := ∃ c, text.toList.getLast? = some c ∧ c ≠ ' '

theorem Starts.append {x : String} (h : Starts x) (y : String) : Starts (x ++ y) := by
  obtain ⟨c, hc, hb⟩ := h
  exact ⟨c, by simp [List.head?_append, hc], hb⟩

theorem Ends.append {y : String} (h : Ends y) (x : String) : Ends (x ++ y) := by
  obtain ⟨c, hc, hb⟩ := h
  exact ⟨c, by simp [List.getLast?_append, hc], hb⟩

theorem starts_paren (text : String) : Starts ("(" ++ text) :=
  Starts.append ⟨'(', by decide, by decide⟩ text

theorem ends_paren (text : String) : Ends (text ++ ")") :=
  Ends.append ⟨')', by decide, by decide⟩ text

theorem starts_join {separator : String} {texts : List String} (hn : texts ≠ [])
    (each : ∀ t ∈ texts, Starts t) : Starts (joinWith separator texts) := by
  cases texts with
  | nil => exact absurd rfl hn
  | cons text rest =>
    have ht := each text (List.mem_cons_self ..)
    cases rest with
    | nil => exact ht
    | cons next rest => exact (ht.append _).append _

theorem ends_join {separator : String} {texts : List String} (hn : texts ≠ [])
    (each : ∀ t ∈ texts, Ends t) : Ends (joinWith separator texts) := by
  induction texts with
  | nil => exact absurd rfl hn
  | cons text rest ih =>
    cases rest with
    | nil => exact each text (List.mem_cons_self ..)
    | cons next rest =>
      apply Ends.append
      apply ih (by simp)
      intro t ht
      exact each t (List.mem_cons_of_mem _ ht)

end Text

/-- No connective stands at either end of the text. -/
def Glue.Clear (glue : Glue) (text : String) : Prop :=
  ¬glue.separator.toList <+: text.toList ∧ ¬glue.separator.toList <:+ text.toList

namespace Glue

theorem clear_empty (glue : Glue) : glue.Clear "" := by
  cases glue <;> simp [Clear, separator, word]

/-- A separator has a blank at either end. -/
theorem clear_of_ends (glue : Glue) {text : String} (hs : Text.Starts text) (he : Text.Ends text) :
    glue.Clear text := by
  obtain ⟨c, hc, hcb⟩ := hs
  obtain ⟨d, hd, hdb⟩ := he
  have hfirst : glue.separator.toList.head? = some ' ' := by cases glue <;> decide
  have hlast : glue.separator.toList.getLast? = some ' ' := by cases glue <;> decide
  constructor
  · rintro ⟨rest, hr⟩
    rw [← hr, List.head?_append, hfirst] at hc
    exact hcb (Option.some.inj hc).symm
  · rintro ⟨front, hf⟩
    rw [← hf, List.getLast?_append, hlast] at hd
    exact hdb (Option.some.inj hd).symm

end Glue

/-! ### The ends of clauses -/

theorem Identifier.starts_quote (text : String) : Text.Starts (Identifier.quote text) := by
  unfold Identifier.quote
  rw [String.append_assoc]
  exact Text.Starts.append ⟨'\x60', by decide, by decide⟩ _

theorem ColumnName.starts_text (name : ColumnName) : Text.Starts name.text := by
  unfold ColumnName.text
  split
  · exact ((Identifier.starts_quote _).append _).append _
  · exact Identifier.starts_quote _

theorem Literal.ends_sql (style : Quoting) (literal : Literal) : Text.Ends (literal.sql style) := by
  cases literal with
  | null =>
    change Text.Ends "NULL"
    exact ⟨'L', by decide, by decide⟩
  | text value =>
    refine ⟨'\'', ?_, by decide⟩
    simp [Literal.sql, Quoting.quote, List.getLast?_cons]
  | point x y => exact Text.ends_paren _

namespace Clause

theorem starts_sql (style : Quoting) (clause : Clause) : Text.Starts (clause.sql style) := by
  cases clause with
  | compare column operator value =>
    exact (((column.starts_text.append _).append _).append _).append _
  | between column low high =>
    exact (((column.starts_text.append _).append _).append _).append _
  | member column operator items =>
    exact ((((column.starts_text.append _).append _).append _).append _).append _
  | never => exact Text.starts_paren "1=2)"
  | search columns value =>
    have hmatch : Text.Starts "MATCH(" := ⟨'M', by decide, by decide⟩
    exact (((hmatch.append _).append _).append _).append _
  | verbatim sql => exact (Text.starts_paren sql).append _
  | group glue clauses => exact (Text.starts_paren _).append _

theorem ends_sql (style : Quoting) (clause : Clause) : Text.Ends (clause.sql style) := by
  cases clause with
  | compare column operator value => exact (value.ends_sql style).append _
  | between column low high => exact (high.ends_sql style).append _
  | never => exact Text.ends_paren "(1=2"
  | member column operator items => exact Text.ends_paren _
  | search columns value => exact Text.ends_paren _
  | verbatim sql => exact Text.ends_paren _
  | group glue clauses => exact Text.ends_paren _

/-- The text of clauses is empty or has something other than a blank at either end. -/
theorem clear_joined (style : Quoting) (glue : Glue) (clauses : List Clause) :
    glue.Clear (joined style glue clauses) := by
  cases clauses with
  | nil => exact glue.clear_empty
  | cons clause rest =>
    unfold joined
    rw [sql_all_eq_map]
    have hn : (clause :: rest).map (sql style) ≠ [] := by simp
    apply glue.clear_of_ends
    · apply Text.starts_join hn
      intro t ht
      obtain ⟨c, -, rfl⟩ := List.mem_map.mp ht
      exact starts_sql style c
    · apply Text.ends_join hn
      intro t ht
      obtain ⟨c, -, rfl⟩ := List.mem_map.mp ht
      exact ends_sql style c

theorem joined_append (style : Quoting) (glue : Glue) (xs ys : List Clause) :
    joined style glue (xs ++ ys) =
      Text.glued glue.separator (joined style glue xs) (joined style glue ys) := by
  unfold Text.glued
  split
  · rename_i hy
    rw [joined_eq_empty.mp hy, List.append_nil]
  · rename_i hy
    split
    · rename_i hx
      rw [joined_eq_empty.mp hx, List.nil_append]
    · rename_i hx
      rw [joined_eq_empty] at hx hy
      simp only [joined, sql_all_eq_map, List.map_append]
      apply Text.join_with_append
      · simpa using hx
      · simpa using hy

end Clause

/-! ### Conditions in parts -/

namespace Condition

variable {schema : Schema} {scope : Scope}

theorem clauses_all_append (xs ys : List Condition) :
    (clausesAll schema scope (xs ++ ys)).result = (do
      let first ← (clausesAll schema scope xs).result
      let second ← (clausesAll schema scope ys).result
      return first ++ second) := by
  induction xs with
  | nil =>
    change _ = ((clausesAll schema scope ys).result >>= pure)
    rw [bind_pure, List.nil_append]
  | cons x rest ih =>
    simp only [List.cons_append, clausesAll, Traced.result_bind, Traced.result_pure, ih, bind_assoc,
      pure_bind, List.append_assoc]

/-- The table is looked up for each part, with the same outcome. -/
theorem compile_append (xs ys : List Condition) :
    (compile schema scope (xs ++ ys)).result = (do
      let first ← (compile schema scope xs).result
      let second ← (compile schema scope ys).result
      return first ++ second) := by
  simp only [compile, Traced.result_bind, Traced.result_lifted, clauses_all_append]
  cases scope.getTable schema with
  | error e => rfl
  | ok table => rfl

theorem compiled_sql_append (style : Quoting) (xs ys : List Condition) :
    compiledSql style schema scope (xs ++ ys) = (do
      let a ← compiledSql style schema scope xs
      let b ← compiledSql style schema scope ys
      return Text.glued scope.glue.separator a b) := by
  unfold compiledSql
  rw [compile_append]
  cases (compile schema scope xs).result with
  | error e => rfl
  | ok first =>
    cases (compile schema scope ys).result with
    | error e => rfl
    | ok second => exact congrArg Except.ok (Clause.joined_append style scope.glue first second)

theorem clear_compiled {style : Quoting} {conditions : List Condition} {sql : String}
    (h : compiledSql style schema scope conditions = .ok sql) : scope.glue.Clear sql := by
  obtain ⟨clauses, -, rfl⟩ := map_ok.mp h
  exact Clause.clear_joined style scope.glue clauses

/-- Each condition by itself gives a fragment, and those in which there is something make the
text. -/
theorem compiled_fragments {style : Quoting} {conditions : List Condition} {sql : String}
    (h : compiledSql style schema scope conditions = .ok sql) :
    ∃ fragments, conditions.mapM (fun c => compiledSql style schema scope [c]) = .ok fragments ∧
      sql = Text.joinWith scope.glue.separator (fragments.filter (· ≠ "")) ∧
      ∀ text ∈ fragments, scope.glue.Clear text := by
  induction conditions generalizing sql with
  | nil =>
    obtain ⟨clauses, hc, rfl⟩ := map_ok.mp h
    cases compile_outline hc
    exact ⟨[], rfl, rfl, by simp⟩
  | cons c rest ih =>
    rw [← List.singleton_append, compiled_sql_append] at h
    obtain ⟨first, hf, h⟩ := bind_ok.mp h
    obtain ⟨others, ho, h⟩ := bind_ok.mp h
    obtain ⟨fragments, hm, rfl, hclear⟩ := ih ho
    refine ⟨first :: fragments, ?_, ?_, ?_⟩
    · rw [List.mapM_cons, hf, hm]
      rfl
    · rw [← pure_ok.mp h, Text.glued_join]
    · exact List.forall_mem_cons.mpr ⟨clear_compiled hf, hclear⟩

/-- The text of two lists of conditions one after the other, the error where one of them fails, and
the fragments of a text with one separator between neighbours and none at the ends. -/
theorem compiled_in_parts (style : Quoting) (schema : Schema) (scope : Scope)
    (xs ys : List Condition) :
    (∀ a b, compiledSql style schema scope xs = .ok a →
      compiledSql style schema scope ys = .ok b →
      compiledSql style schema scope (xs ++ ys) =
        .ok (if b = "" then a else if a = "" then b else a ++ scope.glue.separator ++ b)) ∧
    (∀ e, compiledSql style schema scope xs = .error e →
      compiledSql style schema scope (xs ++ ys) = .error e) ∧
    (∀ a e, compiledSql style schema scope xs = .ok a →
      compiledSql style schema scope ys = .error e →
      compiledSql style schema scope (xs ++ ys) = .error e) ∧
    (∀ a, compiledSql style schema scope xs = .ok a →
      ∃ fragments, xs.mapM (fun x => compiledSql style schema scope [x]) = .ok fragments ∧
        a = Text.joinWith scope.glue.separator (fragments.filter (· ≠ "")) ∧
        ∀ text ∈ a :: fragments, scope.glue.Clear text) := by
  refine ⟨?_, ?_, ?_, ?_⟩
  · intro a b ha hb
    rw [compiled_sql_append, ha, hb]
    rfl
  · intro e he
    rw [compiled_sql_append, he]
    rfl
  · intro a e ha he
    rw [compiled_sql_append, ha, he]
    rfl
  · intro a ha
    obtain ⟨fragments, hm, hj, hclear⟩ := compiled_fragments ha
    exact ⟨fragments, hm, hj, List.forall_mem_cons.mpr ⟨clear_compiled ha, hclear⟩⟩

/-- A group that loses one of its tests, and a test that goes. -/
def thinned : List Condition := [
  .group .or [
    .predicate ⟨.one "name", "=", .text "' AND "⟩,
    .predicate ⟨.one "id", "NOT IN", .list []⟩],
  .predicate ⟨.one "id", "NOT IN", .list []⟩]

def rawAndTest : List Condition := [.raw "", .predicate ⟨.one "id", "=", .integer 3⟩]

def unknownColumn : List Condition := [.predicate ⟨.one "age", "=", .integer 3⟩]

theorem compiled_in_parts_users :
    compiledSql .ansi Sample.schema (.filter "users") thinned =
        .ok "(`users`.`name` = ''' AND ')" ∧
      compiledSql .ansi Sample.schema (.filter "users") (thinned ++ rawAndTest) =
        .ok "(`users`.`name` = ''' AND ') AND () AND `users`.`id` = '3'" ∧
      compiledSql .ansi Sample.schema (.filter "users") (unknownColumn ++ thinned) =
        .error (.missingColumn "users" "age" (some "name")) ∧
      compiledSql .ansi Sample.schema (.filter "users") (thinned ++ unknownColumn) =
        .error (.missingColumn "users" "age" (some "name")) ∧
      ∃ fragments, thinned.mapM (fun x => compiledSql .ansi Sample.schema (.filter "users") [x]) =
          .ok fragments ∧
        "(`users`.`name` = ''' AND ')" = Text.joinWith " AND " (fragments.filter (· ≠ "")) ∧
        ∀ text ∈ "(`users`.`name` = ''' AND ')" :: fragments, Glue.and.Clear text := by
  have ht : compiledSql .ansi Sample.schema (.filter "users") thinned =
      .ok "(`users`.`name` = ''' AND ')" := by rfl
  have hr : compiledSql .ansi Sample.schema (.filter "users") rawAndTest =
      .ok "() AND `users`.`id` = '3'" := by rfl
  have hu : compiledSql .ansi Sample.schema (.filter "users") unknownColumn =
      .error (.missingColumn "users" "age" (some "name")) := by rfl
  refine ⟨ht, ?_, ?_, ?_, ?_⟩
  · exact (compiled_in_parts .ansi _ _ thinned rawAndTest).1 _ _ ht hr
  · exact (compiled_in_parts .ansi _ _ unknownColumn thinned).2.1 _ hu
  · exact (compiled_in_parts .ansi _ _ thinned unknownColumn).2.2.1 _ _ ht hu
  · exact (compiled_in_parts .ansi _ _ thinned []).2.2.2 _ ht

end Condition

end SqlBuilder

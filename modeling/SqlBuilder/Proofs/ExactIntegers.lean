import SqlBuilder.Proofs.Brackets
import SqlBuilder.Proofs.FilterPresence
import SqlBuilder.Proofs.IntegerSlots
import SqlBuilder.Proofs.LiteralReader
import SqlBuilder.Proofs.Numerals
import SqlBuilder.Proofs.PointShorthand
import SqlBuilder.Proofs.ValidationSwitch
import SqlBuilder.Proofs.ValueContents

/-!
Integers reach the text exactly. Wherever an integer stands in an input, what is compiled of it is
one text around one literal, and that is the numeral of the integer between quotes. Only the
coordinates of points are written otherwise.
-/

namespace SqlBuilder

/-! ### Literals that no two texts share -/

theorem Quoting.quote_injective (style : Quoting) {x y : String}
    (h : style.quote x = style.quote y) : x = y := by
  have hread : ∀ text, style.readLiteral (style.quote text) = some (text, "") := by
    intro text
    have hquote := read_literal_quote style text ""
    rw [String.append_empty] at hquote
    rw [hquote]
    cases style <;> simp [readInside, read_escaped_quote, read_doubled_quote]
  have hx := hread x
  rw [h, hread y] at hx
  exact (Prod.mk.inj (Option.some.inj hx)).1.symm

/-- The text before a literal and the text behind it do not depend on what it says. -/
theorem Quoting.weave_at (style : Quoting) (lead : String) (tails before after : List String)
    (long : before.length < tails.length) :
    ∃ front rear, ∀ text,
      style.weave lead tails (before ++ text :: after) = front ++ style.quote text ++ rear := by
  induction before generalizing lead tails with
  | nil =>
    cases tails with
    | nil => cases long
    | cons tail others =>
      refine ⟨lead, style.weave tail others after, fun text => ?_⟩
      simp [weave, String.append_assoc]
  | cons first rest ih =>
    cases tails with
    | nil => cases long
    | cons tail others =>
      obtain ⟨front, rear, hall⟩ :=
        ih (lead ++ style.quote first ++ tail) others (by simpa using long)
      refine ⟨front, rear, fun text => ?_⟩
      rw [← hall text]
      simp [weave, String.append_assoc]

/-! ### Columns that are no points -/

/-- The column that a test is on is not declared a point. In a search the types do not matter. -/
def ColumnRef.Flat (schema : Schema) (scope : Scope) (column : ColumnRef) : Prop :=
  ∀ name, column = .one name → ¬(scope.resolve name).IsPoint schema

theorem Subject.point_declared {schema : Schema} {scope : Scope} {column : String} {s : Subject}
    (h : Subject.find schema scope column = .ok s) (point : s.type? = some .point) :
    (scope.resolve column).IsPoint schema := by
  obtain ⟨hr, hd, ho⟩ := Subject.find_owner h
  obtain ⟨⟨table, c⟩, howner, hc⟩ := Option.map_eq_some_iff.mp point
  rw [howner, hr] at ho
  obtain ⟨name, hname, htable⟩ := Option.bind_eq_some_iff.mp ho.symm
  have hcolumn := hd table c howner
  rw [hr] at hcolumn
  exact ⟨name, hname, table, c, htable, hcolumn, hc⟩

/-! ### Values that differ in one integer -/

theorem Value.alike_refl : ∀ value : Value, value.Alike value
  | .null => .null
  | .bool _ => .single rfl rfl
  | .integer _ => .single rfl rfl
  | .float _ => .single rfl rfl
  | .text _ => .single rfl rfl
  | .date _ => .single rfl rfl
  | .time _ => .single rfl rfl
  | .dateTime _ _ => .single rfl rfl
  | .list items => .list (List.forall₂_same.mpr fun item _ => alike_refl item)

theorem Value.Slot.alike {value : Int → Value} (place : Value.Slot value) (m n : Int) :
    (value m).Alike (value n) := by
  induction place with
  | here => exact .single rfl rfl
  | item before after deeper ih =>
    have hbefore := List.forall₂_same.mpr fun value (_ : value ∈ before) => Value.alike_refl value
    have hafter := List.forall₂_same.mpr fun value (_ : value ∈ after) => Value.alike_refl value
    exact .list (List.rel_append hbefore (.cons ih hafter))

theorem Literal.of_list_fails {items : List Value} {type : Option ColumnType} {literal : Literal}
    (hp : type ≠ some .point) : ofValue (.list items) type ≠ .ok literal := by
  intro h
  simp only [ofValue, ofList] at h
  split at h
  · exact hp rfl
  · cases h

theorem Subject.checked_each {s : Subject} {validate : Bool} {items : List Value}
    {literals : List Literal} (h : s.checkedLiterals validate items = .ok literals) :
    ∀ item ∈ items, ∃ literal, s.literal item = .ok literal := by
  refine forall_of_walk (fun first rest out hout => ?_) h
  simp only [Subject.checkedLiterals] at hout
  obtain ⟨_, _, hout⟩ := bind_ok.mp hout
  obtain ⟨literal, hl, hout⟩ := bind_ok.mp hout
  obtain ⟨others, ho, _⟩ := bind_ok.mp hout
  exact ⟨⟨literal, hl⟩, others, ho⟩

namespace Predicate

variable {schema : Schema} {scope : Scope} {column : ColumnRef} {operator : String}

section

variable {s : Subject} {validate : Bool} {items : List Value} {settled : Settled}

theorem search_not_list {p : Predicate} (hv : p.value = .list items) :
    settleSearch schema scope p ≠ .ok settled := by
  intro h
  unfold settleSearch at h
  split at h
  · cases h
  · obtain ⟨_, _, h⟩ := bind_ok.mp h
    obtain ⟨literal, hl, _⟩ := bind_ok.mp h
    rw [hv] at hl
    exact Literal.of_list_fails (by simp) hl

theorem compare_not_list (hp : s.type? ≠ some .point) :
    settleCompare s validate operator (.list items) ≠ .ok settled := by
  intro h
  obtain ⟨_, _, h⟩ := bind_ok.mp h
  obtain ⟨literal, hl, _⟩ := bind_ok.mp h
  exact Literal.of_list_fails hp hl

theorem between_items (h : settleBetween s validate (.list items) = .ok settled) :
    ∀ item ∈ items, ∃ literal, s.literal item = .ok literal := by
  obtain ⟨low, high, first, second, hi, hf, hs, -⟩ := between_bounds h
  cases hi
  intro item hm
  simp only [List.mem_cons, List.not_mem_nil, or_false] at hm
  rcases hm with rfl | rfl
  · exact ⟨first, hf⟩
  · exact ⟨second, hs⟩

theorem member_items (h : settleMember s validate operator (.list items) = .ok settled) :
    ∀ item ∈ items, ∃ literal, s.literal item = .ok literal := by
  cases items with
  | nil => simp
  | cons first rest =>
    obtain ⟨literals, hl, _⟩ := bind_ok.mp h
    exact Subject.checked_each hl

end

/-- A list on a column that is no point has to be bounds or members, and each of them a literal of
its own. -/
theorem listed_items {p : Predicate} {items : List Value} {settled : Settled}
    (flat : p.column.Flat schema scope) (hv : p.value = .list items)
    (h : p.settle schema scope = .ok settled) :
    p.writtenOperator ∈ ["BETWEEN", "IN", "NOT IN"] ∧
      ∃ s : Subject, s.type? ≠ some .point ∧
        ∀ item ∈ items, ∃ literal, s.literal item = .ok literal := by
  unfold settle at h
  obtain ⟨operator, ho, h⟩ := bind_ok.mp h
  rw [settled_operator ho, effective_of_list hv] at h
  split at h
  · exact absurd h (search_not_list hv)
  · split at h
    · rename_i name hc
      obtain ⟨subject, hs, h⟩ := bind_ok.mp h
      have hpoint : subject.type? ≠ some .point := by
        intro hp
        exact flat name hc (Subject.point_declared hs hp)
      rw [hv] at h
      split at h
      · rename_i hb
        exact ⟨by simp [hb], subject, hpoint, between_items h⟩
      · split at h
        · rename_i hm
          exact ⟨by rcases hm with hm | hm <;> simp [hm], subject, hpoint, member_items h⟩
        · exact absurd h (compare_not_list hpoint)
    · cases h

/-- A single integer is no list, so the operator is not one that asks for a list. -/
theorem texts_integer {n : Int} {settled : Settled}
    (h : settle schema scope ⟨column, operator, .integer n⟩ = .ok settled) :
    texts ⟨column, operator, .integer n⟩ = [toString n] := by
  have ho := outlined (settle_outline h)
  generalize settled.clauses = out at ho
  cases ho with
  | search effective named literal =>
    rw [texts_of_ordinary scope.filtering (by simp [effective])]
    rfl
  | compare on effective ordinary literal =>
    rw [texts_of_ordinary scope.filtering (by simp_all)]
    rfl
  | between on effective bounds lowest highest => cases bounds
  | never effective nothing => cases nothing
  | vacuous effective nothing => cases nothing
  | member on effective listing members some_item each => cases members

/-- The integer is one text among those of the predicate, and the others are the same for all. -/
theorem texts_slot {value : Int → Value} (flat : column.Flat schema scope) (operator : String)
    (place : Value.Slot value) :
    ∃ before after, ∀ n settled, settle schema scope ⟨column, operator, value n⟩ = .ok settled →
      texts ⟨column, operator, value n⟩ = before ++ toString n :: after := by
  cases place with
  | here => exact ⟨[], [], fun n settled h => texts_integer h⟩
  | @item before after inner deeper =>
    refine ⟨before.filterMap Value.literalText?, after.filterMap Value.literalText?,
      fun n settled h => ?_⟩
    obtain ⟨listing, subject, hp, each⟩ := listed_items flat rfl h
    obtain ⟨literal, hl⟩ := each (inner n) (by simp)
    -- a list inside the list would have to be a point
    cases deeper with
    | here =>
      rw [texts_of_list rfl listing]
      simp [Value.literalText?, Value.scalarText?]
    | item => exact absurd hl (Literal.of_list_fails hp)

end Predicate

/-! ### Conditions that differ in one integer -/

namespace Condition

variable {schema : Schema} {scope : Scope} {column : ColumnRef}

theorem alike_refl (c : Condition) : Alike schema scope c c := by
  induction c using Condition.induct with
  | predicate p => exact .predicate ⟨rfl, rfl, Value.alike_refl _, fun _ => rfl⟩
  | raw sql => exact .raw sql
  | group glue children ih => exact .group (List.forall₂_same.mpr ih)

theorem alike_around (before after : List Condition) {x y : Condition}
    (h : Alike schema scope x y) :
    List.Forall₂ (Alike schema scope) (before ++ x :: after) (before ++ y :: after) :=
  List.rel_append (List.forall₂_same.mpr fun c _ => alike_refl c)
    (.cons h (List.forall₂_same.mpr fun c _ => alike_refl c))

theorem Slot.alike {c : Int → Condition} (place : Slot column c) (flat : column.Flat schema scope)
    (m n : Int) : Alike schema scope (c m) (c n) := by
  induction place with
  | predicate operator value =>
    refine .predicate ⟨rfl, rfl, value.alike m n, ?_⟩
    rintro ⟨name, subject, hc, hs, hp⟩
    exact absurd (Subject.point_declared hs hp) (flat name hc)
  | member glue before after deeper ih => exact .group (alike_around before after ih)

theorem texts_all_append (xs ys : List Condition) :
    textsAll (xs ++ ys) = textsAll xs ++ textsAll ys := by
  induction xs with
  | nil => rfl
  | cons x rest ih => rw [List.cons_append, textsAll, textsAll, ih, List.append_assoc]

theorem clauses_of_mem {conditions : List Condition} {out : List Clause}
    (h : (clausesAll schema scope conditions).result = .ok out) :
    ∀ c ∈ conditions, ∃ first, (clauses schema scope c).result = .ok first := by
  refine forall_of_walk (f := fun cs => (clausesAll schema scope cs).result) ?_ h
  intro first rest out hout
  obtain ⟨clauses, others, hc, ho, -⟩ := clauses_all_cons.mp hout
  exact ⟨⟨clauses, hc⟩, others, ho⟩

/-- What the texts of one condition are among those of a list. -/
theorem texts_among {inner : Int → Condition} {left right : List String}
    (before after : List Condition)
    (each : ∀ n out, (clauses schema scope (inner n)).result = .ok out →
      texts (inner n) = left ++ toString n :: right) (n : Int) (out : List Clause)
    (h : (clausesAll schema scope (before ++ inner n :: after)).result = .ok out) :
    textsAll (before ++ inner n :: after) =
      (textsAll before ++ left) ++ toString n :: (right ++ textsAll after) := by
  obtain ⟨first, hf⟩ := clauses_of_mem h (inner n) (by simp)
  rw [texts_all_append, textsAll, each n first hf]
  simp

theorem Slot.texts {c : Int → Condition} (place : Slot column c)
    (flat : column.Flat schema scope) :
    ∃ left right, ∀ n out, (clauses schema scope (c n)).result = .ok out →
      (c n).texts = left ++ toString n :: right := by
  induction place with
  | predicate operator value =>
    obtain ⟨left, right, hall⟩ := Predicate.texts_slot flat operator value
    refine ⟨left, right, fun n out h => ?_⟩
    rw [clauses, Predicate.result_clauses] at h
    obtain ⟨settled, hs, -⟩ := map_ok.mp h
    exact hall n settled hs
  | member glue before after deeper ih =>
    obtain ⟨left, right, hall⟩ := ih
    refine ⟨textsAll before ++ left, right ++ textsAll after, fun n out h => ?_⟩
    rw [result_group] at h
    obtain ⟨inner, hi, -⟩ := map_ok.mp h
    exact texts_among before after hall n inner hi

/-- Conditions that differ only in the contents of values have one text around their literals. -/
theorem cut_alike {xs ys : List Condition} {out out' : List Clause}
    (ha : List.Forall₂ (Alike schema scope) xs ys)
    (hx : (compile schema scope xs).result = .ok out)
    (hy : (compile schema scope ys).result = .ok out') :
    Piece.cut (Clause.joinedPieces scope.glue out) =
      Piece.cut (Clause.joinedPieces scope.glue out') := by
  rw [← Piece.cut_blank, ← Piece.cut_blank (Clause.joinedPieces scope.glue out'),
    Clause.blank_joined, Clause.blank_joined, compile_alike ha hx hy]

theorem among_written {conditions : Int → List Condition} (style : Quoting)
    (among : Among column conditions) (flat : column.Flat schema scope) :
    ∃ front rear, ∀ n out, (compile schema scope (conditions n)).result = .ok out →
      Clause.joined style scope.glue out = front ++ style.quote (toString n) ++ rear := by
  obtain ⟨before, after, inner, place, rfl⟩ := among
  obtain ⟨left, right, hall⟩ := place.texts flat
  have htexts : ∀ n out, (compile schema scope (before ++ inner n :: after)).result = .ok out →
      textsAll (before ++ inner n :: after) =
        (textsAll before ++ left) ++ toString n :: (right ++ textsAll after) := by
    intro n out h
    simp only [compile, Traced.result_bind] at h
    obtain ⟨_, _, h⟩ := bind_ok.mp h
    exact texts_among before after hall n out h
  by_cases some_run : ∃ m out, (compile schema scope (before ++ inner m :: after)).result = .ok out
  · -- one run fixes what stands around the literals, and the others have the same there
    obtain ⟨m, out, hm⟩ := some_run
    obtain ⟨-, hlength⟩ := @compiled_weave schema scope style _ out hm
    rw [htexts m out hm] at hlength
    obtain ⟨front, rear, hat⟩ := style.weave_at _ _ (textsAll before ++ left)
      (right ++ textsAll after) (by rw [hlength]; simp)
    refine ⟨front, rear, fun n out' hn => ?_⟩
    obtain ⟨hsql, -⟩ := @compiled_weave schema scope style _ out' hn
    rw [hsql, cut_alike (alike_around before after (place.alike flat n m)) hn hm,
      htexts n out' hn, hat]
  · exact ⟨"", "", fun n out h => absurd ⟨n, out, h⟩ some_run⟩

/-- The integer stands in the value of a test of the column. -/
def Compared (schema : Schema) (scope : Scope) (column : ColumnRef) (input : Int → Json) : Prop :=
  ∃ conditions, Among column conditions ∧ ∀ n, readIn schema scope (input n) = .ok (conditions n)

theorem compared_written {input : Int → Json} (style : Quoting)
    (compared : Compared schema scope column input) (flat : column.Flat schema scope) :
    ∃ front rear, ∀ n sql, inputSql style schema scope (input n) = .ok sql →
      sql = front ++ style.quote (toString n) ++ rear := by
  obtain ⟨conditions, among, hread⟩ := compared
  obtain ⟨front, rear, hall⟩ := among_written style among flat
  refine ⟨front, rear, fun n sql h => ?_⟩
  obtain ⟨out, hout, rfl⟩ := map_ok.mp h
  apply hall n out
  obtain ⟨table, found, ht, hr, hc⟩ := compile_input_ok hout
  have hn := hread n
  rw [readIn, ht] at hn
  cases hr.symm.trans hn
  exact hc

/-- An integer anywhere in an input that compiles stands in the value of a test. If that is not a
test of a point, the text is the same for all integers but for one literal, which is the canonical
numeral of the integer between quotes. The numeral is read as the integer that it is of, and no two
integers have one literal. -/
theorem integers_written_exactly (style : Quoting) (schema : Schema) (scope : Scope)
    (input : Int → Json) (place : Json.Slot input) :
    ((∃ m sql, inputSql style schema scope (input m) = .ok sql) →
      ∃ column, Compared schema scope column input) ∧
    (∀ column, Compared schema scope column input → column.Flat schema scope →
      ∃ front rear, ∀ n sql, inputSql style schema scope (input n) = .ok sql →
        sql = front ++ style.quote (toString n) ++ rear) ∧
    (∀ n, Numeral.Canonical n (toString n) ∧
      (Word.Fits n → Json.parse? (toString n) = some (.integer n))) ∧
    (∀ n m : Int, n ≠ m → style.quote (toString n) ≠ style.quote (toString m)) := by
  refine ⟨?_, fun column => compared_written style, fun n => ?_, fun n m hne hq => ?_⟩
  · rintro ⟨m, sql, h⟩
    obtain ⟨out, hout, -⟩ := map_ok.mp h
    rw [compile_input_read_in] at hout
    obtain ⟨found, hr, -⟩ := bind_ok.mp hout
    obtain ⟨conditions, ⟨column, among⟩, hall⟩ := read_in_carried schema scope place m found hr
    exact ⟨column, conditions, among, hall⟩
  · exact ⟨Numeral.canonical_text n, Json.parse_canonical (Numeral.canonical_text n)⟩
  · have hm := Numeral.canonical_text m
    rw [← style.quote_injective hq] at hm
    exact hne ((Numeral.canonical_text n).unique hm)

/-- An integer two groups down, among others that need a sign or all 64 bits, and beside a point. -/
def wideIds (n : Int) : Json :=
  .object [("or", .array [
    .object [("AND", .object [
      ("id", .array [.string "not in",
        .array [.integer (-9223372036854775808), .integer n, .integer 9223372036854775807]])])],
    .array [.string "home", .array [.integer 1, .integer 2]]])]

/-- The text of this input around one literal. -/
def wideIdsSql (literal : String) : String :=
  "((`users`.`id` NOT IN ('-9223372036854775808'," ++ literal ++
    ",'9223372036854775807')) OR `users`.`home` = POINT(1,2))"

theorem wide_ids_slot : Json.Slot wideIds :=
  .member [] [] "or" (.item [] [_] (.member [] [] "AND" (.member [] [] "id"
    (.item [_] [] (.item [_] [_] .here)))))

theorem wide_ids_compared :
    Compared Sample.schema (.filter "users") (.one "id") wideIds := by
  refine ⟨fun n => [.group .or [
    .group .and [.predicate ⟨.one "id", "NOT IN",
      .list [.integer (-9223372036854775808), .integer n, .integer 9223372036854775807]⟩],
    .predicate ⟨.one "home", "=", .list [.integer 1, .integer 2]⟩]], ?_, fun n => rfl⟩
  exact ⟨[], [], _, .member .or [] [_] (.member .and [] [] (.predicate "NOT IN"
    (.item [_] [_] .here))), rfl⟩

theorem integers_written_exactly_wide :
    inputSql .ansi Sample.schema (.filter "users") (wideIds 9223372036854775808) =
        .ok (wideIdsSql "'9223372036854775808'") ∧
      inputSql .ansi Sample.schema (.filter "users") (wideIds 18446744073709551615) =
        .ok (wideIdsSql "'18446744073709551615'") ∧
      (∃ front rear, ∀ n sql,
        inputSql .ansi Sample.schema (.filter "users") (wideIds n) = .ok sql →
          sql = front ++ Quoting.ansi.quote (toString n) ++ rear) ∧
      Json.parse? "18446744073709551615" = some (.integer 18446744073709551615) := by
  have hflat : (ColumnRef.one "id").Flat Sample.schema (.filter "users") := by
    intro name hc
    cases hc
    rintro ⟨table, ht, declared, c, hd, hc, hp⟩
    cases ht
    cases hd
    cases hc
    cases hp
  have hexact := integers_written_exactly .ansi Sample.schema (.filter "users") wideIds
    wide_ids_slot
  refine ⟨rfl, rfl, hexact.2.1 _ wide_ids_compared hflat, ?_⟩
  exact (hexact.2.2.1 18446744073709551615).2 (by constructor <;> decide)

end Condition

end SqlBuilder

import SqlBuilder.Proofs.Containment
import SqlBuilder.Proofs.FilterPresence

/-!
What operators do to the structure of a text. They are the only part of an input that is written
outside quotes, and of the characters that they keep, parentheses and dashes have a meaning there.
A text has its parentheses in order and no comment in it exactly if its operators have.
-/

namespace SqlBuilder

/-! ### Parentheses -/

/-- As many parentheses are closed as are opened, and never more at any point. -/
structure Balanced (chars : List Char) : Prop where
  opened : ∀ before, before <+: chars → before.count ')' ≤ before.count '('
  closed : chars.count '(' = chars.count ')'

/-- The depth that the characters lead to from another, if they close nothing that is not open. -/
def nest (depth : Nat) : List Char → Option Nat
  | [] => some depth
  | c :: rest =>
    if c = '(' then nest (depth + 1) rest
    else if c = ')' then
      match depth with
      | 0 => none
      | depth + 1 => nest depth rest
    else nest depth rest

@[simp] theorem nest_nil (depth : Nat) : nest depth [] = some depth := by
  cases depth <;> rfl

@[simp] theorem nest_open (depth : Nat) (rest : List Char) :
    nest depth ('(' :: rest) = nest (depth + 1) rest := by
  cases depth <;> rfl

@[simp] theorem nest_close_zero (rest : List Char) : nest 0 (')' :: rest) = none := rfl

@[simp] theorem nest_close (depth : Nat) (rest : List Char) :
    nest (depth + 1) (')' :: rest) = nest depth rest := rfl

theorem nest_other {c : Char} (ho : c ≠ '(') (hc : c ≠ ')') (depth : Nat) (rest : List Char) :
    nest depth (c :: rest) = nest depth rest := by
  cases depth <;> simp [nest, ho, hc]

theorem nest_append (depth : Nat) (xs ys : List Char) :
    nest depth (xs ++ ys) = (nest depth xs).bind (nest · ys) := by
  induction xs generalizing depth with
  | nil => simp
  | cons c rest ih =>
    rw [List.cons_append]
    by_cases ho : c = '('
    · rw [ho, nest_open, nest_open, ih]
    · by_cases hc : c = ')'
      · subst hc
        cases depth with
        | zero => rfl
        | succ depth => rw [nest_close, nest_close, ih]
      · rw [nest_other ho hc, nest_other ho hc, ih]

/-- From one depth to another, closing nothing that is not open. -/
structure Leads (depth after : Nat) (chars : List Char) : Prop where
  opened : ∀ before, before <+: chars → before.count ')' ≤ depth + before.count '('
  closed : depth + chars.count '(' = after + chars.count ')'

namespace Leads

theorem nil_iff {depth after : Nat} : Leads depth after [] ↔ depth = after := by
  constructor
  · intro h
    simpa using h.closed
  · rintro rfl
    exact ⟨by simp, by simp⟩

/-- A character moves the depth by itself, and then the rest leads on. -/
theorem cons_iff {depth next after : Nat} {c : Char} {rest : List Char}
    (h : next + [c].count ')' = depth + [c].count '(') :
    Leads depth after (c :: rest) ↔ Leads next after rest := by
  have hcount (xs : List Char) : next + xs.count '(' + (c :: xs).count ')' =
      depth + (c :: xs).count '(' + xs.count ')' := by
    simp only [List.count_cons, List.count_nil] at h ⊢
    omega
  constructor
  · rintro ⟨opened, closed⟩
    refine ⟨fun before hb => ?_, ?_⟩
    · have := opened (c :: before) (by simpa using hb)
      have := hcount before
      omega
    · have := hcount rest
      omega
  · rintro ⟨opened, closed⟩
    refine ⟨fun before hb => ?_, ?_⟩
    · rcases List.prefix_cons_iff.mp hb with rfl | ⟨t, rfl, ht⟩
      · simp
      · have := opened t ht
        have := hcount t
        omega
    · have := hcount rest
      omega

theorem not_close {after : Nat} {rest : List Char} : ¬Leads 0 after (')' :: rest) := by
  intro h
  have := h.opened [')'] (by simp)
  simp at this

end Leads

theorem nest_iff {chars : List Char} {depth after : Nat} :
    nest depth chars = some after ↔ Leads depth after chars := by
  induction chars generalizing depth with
  | nil => simp [Leads.nil_iff]
  | cons c rest ih =>
    by_cases ho : c = '('
    · subst ho
      rw [nest_open, ih]
      exact (Leads.cons_iff (by simp)).symm
    · by_cases hc : c = ')'
      · subst hc
        cases depth with
        | zero => simp [Leads.not_close]
        | succ depth =>
          rw [nest_close, ih]
          exact (Leads.cons_iff (by simp)).symm
      · rw [nest_other ho hc, ih]
        exact (Leads.cons_iff (by simp [ho, hc])).symm

theorem balanced_iff {chars : List Char} : Balanced chars ↔ nest 0 chars = some 0 := by
  rw [nest_iff]
  constructor
  · rintro ⟨opened, closed⟩
    exact ⟨by simpa using opened, by simpa using closed⟩
  · rintro ⟨opened, closed⟩
    exact ⟨by simpa using opened, by simpa using closed⟩

/-- Characters that are balanced keep every depth. -/
theorem Balanced.nest {chars : List Char} (h : Balanced chars) (depth : Nat) :
    nest depth chars = some depth := by
  rw [nest_iff]
  refine ⟨fun before hb => ?_, ?_⟩
  · have := h.opened before hb
    omega
  · have := h.closed
    omega

/-- The same depth after both, from wherever they start. -/
def SameNest (xs ys : List Char) : Prop := ∀ depth, nest depth xs = nest depth ys

theorem SameNest.append {xs ys xs' ys' : List Char} (hx : SameNest xs xs')
    (hy : SameNest ys ys') : SameNest (xs ++ ys) (xs' ++ ys') := by
  intro depth
  rw [nest_append, nest_append, hx depth]
  exact congrArg _ (funext hy)

/-! ### Comments -/

/-- Two dashes start a comment. -/
def HasComment (chars : List Char) : Prop := ['-', '-'] <:+: chars

namespace HasComment

@[simp] theorem not_nil : ¬HasComment [] := by simp [HasComment]

theorem cons_iff {c : Char} {rest : List Char} :
    HasComment (c :: rest) ↔ (c = '-' ∧ rest.head? = some '-') ∨ HasComment rest := by
  unfold HasComment
  rw [List.infix_cons_iff]
  refine or_congr ?_ Iff.rfl
  cases rest with
  | nil => simp
  | cons d others => simp [eq_comm]

instance decidable : (chars : List Char) → Decidable (HasComment chars)
  | [] => isFalse not_nil
  | _ :: rest =>
    have := decidable rest
    decidable_of_iff' _ cons_iff

/-- No comment starts where two texts meet if the second starts with something else. -/
theorem append_iff {xs ys : List Char} (h : ys.head? ≠ some '-') :
    HasComment (xs ++ ys) ↔ HasComment xs ∨ HasComment ys := by
  induction xs with
  | nil => simp
  | cons c rest ih =>
    rw [List.cons_append, cons_iff, cons_iff, ih, or_assoc]
    refine or_congr ?_ Iff.rfl
    cases rest with
    | nil => simp [h]
    | cons d others => simp

end HasComment

/-! ### Texts in order -/

/-- Parentheses are balanced and there is no comment. -/
structure Orderly (chars : List Char) : Prop where
  balanced : Balanced chars
  uncommented : ¬HasComment chars

theorem orderly_iff {chars : List Char} :
    Orderly chars ↔ nest 0 chars = some 0 ∧ ¬HasComment chars := by
  rw [← balanced_iff]
  exact ⟨fun h => ⟨h.balanced, h.uncommented⟩, fun h => ⟨h.1, h.2⟩⟩

instance (chars : List Char) : Decidable (Orderly chars) := decidable_of_iff' _ orderly_iff

/-- Two texts that do the same to the structure of what is around them. -/
structure Congruent (xs ys : List Char) : Prop where
  nest : SameNest xs ys
  comment : HasComment xs ↔ HasComment ys

/-- Characters that mean nothing outside quotes. -/
def Neutral (chars : List Char) : Prop := ∀ c ∈ chars, c ≠ '(' ∧ c ≠ ')' ∧ c ≠ '-'

instance (chars : List Char) : Decidable (Neutral chars) :=
  inferInstanceAs (Decidable (∀ c ∈ chars, c ≠ '(' ∧ c ≠ ')' ∧ c ≠ '-'))

theorem Neutral.head {chars : List Char} (h : Neutral chars) : chars.head? ≠ some '-' :=
  fun he => (h '-' (List.mem_of_head? he)).2.2 rfl

namespace Congruent

variable {xs ys zs xs' ys' : List Char}

theorem refl (xs : List Char) : Congruent xs xs := ⟨fun _ => rfl, Iff.rfl⟩

theorem symm (h : Congruent xs ys) : Congruent ys xs :=
  ⟨fun depth => (h.nest depth).symm, h.comment.symm⟩

theorem trans (hx : Congruent xs ys) (hy : Congruent ys zs) : Congruent xs zs :=
  ⟨fun depth => (hx.nest depth).trans (hy.nest depth), hx.comment.trans hy.comment⟩

theorem append (hx : Congruent xs xs') (hy : Congruent ys ys') (h : ys.head? ≠ some '-')
    (h' : ys'.head? ≠ some '-') : Congruent (xs ++ ys) (xs' ++ ys') := by
  refine ⟨hx.nest.append hy.nest, ?_⟩
  rw [HasComment.append_iff h, HasComment.append_iff h', hx.comment, hy.comment]

/-- What is neutral makes no difference in front. -/
theorem lead (h : Neutral xs) (ys : List Char) : Congruent (xs ++ ys) ys := by
  induction xs with
  | nil => exact refl ys
  | cons c rest ih =>
    obtain ⟨⟨ho, hc, hd⟩, hr⟩ := List.forall_mem_cons.mp h
    refine trans ⟨fun depth => nest_other ho hc depth (rest ++ ys), ?_⟩ (ih hr)
    rw [List.cons_append, HasComment.cons_iff]
    simp [hd]

theorem enclosed (h : Congruent xs ys) :
    Congruent ('(' :: (xs ++ [')'])) ('(' :: (ys ++ [')'])) := by
  have hin := h.append (refl [')']) (by simp) (by simp)
  refine ⟨fun depth => ?_, ?_⟩
  · rw [nest_open, nest_open, hin.nest (depth + 1)]
  · rw [HasComment.cons_iff, HasComment.cons_iff, hin.comment]
    simp

theorem orderly_iff (h : Congruent xs ys) : Orderly xs ↔ Orderly ys := by
  rw [SqlBuilder.orderly_iff, SqlBuilder.orderly_iff, h.nest 0]
  exact and_congr_right fun _ => not_congr h.comment

end Congruent

namespace Orderly

variable {xs ys : List Char}

theorem congruent_nil (h : Orderly xs) : Congruent xs [] := by
  refine ⟨fun depth => ?_, ?_⟩
  · rw [h.balanced.nest, nest_nil]
  · simp [h.uncommented]

theorem congruent (hx : Orderly xs) (hy : Orderly ys) : Congruent xs ys :=
  hx.congruent_nil.trans hy.congruent_nil.symm

theorem append (hx : Orderly xs) (hy : Orderly ys) (h : ys.head? ≠ some '-') :
    Orderly (xs ++ ys) :=
  (hx.congruent_nil.append hy.congruent_nil h (by simp)).orderly_iff.mpr (by decide)

theorem lead (h : Neutral xs) (hy : Orderly ys) : Orderly (xs ++ ys) :=
  (Congruent.lead h ys).orderly_iff.mpr hy

theorem of_neutral (h : Neutral xs) : Orderly xs := by
  have := lead h (show Orderly [] by decide)
  rwa [List.append_nil] at this

theorem enclosed (h : Orderly xs) : Orderly ('(' :: (xs ++ [')'])) :=
  h.congruent_nil.enclosed.orderly_iff.mpr (by decide)

end Orderly

/-! ### Outside quotes -/

def Piece.bare? : Piece → Option Char
  | bare c => some c
  | _ => none

/-- The characters outside quotes. -/
def outside (pieces : List Piece) : List Char := pieces.filterMap Piece.bare?

@[simp] theorem outside_append (xs ys : List Piece) :
    outside (xs ++ ys) = outside xs ++ outside ys := by
  simp [outside]

@[simp] theorem outside_of_bare (text : String) : outside (Piece.ofBare text) = text.toList := by
  simp [outside, Piece.ofBare, List.filterMap_map, Function.comp_def, Piece.bare?]

theorem neutral_column (name : ColumnName) : Neutral (outside name.pieces) := by
  unfold ColumnName.pieces
  split
  · simp [outside, Piece.bare?, Neutral]
  · simp [outside, Piece.bare?, Neutral]

theorem Unsigned.neutral {text : String} (h : Unsigned text) : Neutral text.toList := by
  intro c hc
  rcases h c hc with hd | rfl
  · refine ⟨?_, ?_, ?_⟩
    · rintro rfl
      exact absurd hd (by decide)
    · rintro rfl
      exact absurd hd (by decide)
    · rintro rfl
      exact absurd hd (by decide)
  · decide

/-- A number has one sign at most. -/
theorem orderly_number (x : Binary64) : Orderly (x.text .plain).toList := by
  cases x with
  | nan => decide
  | infinite negative => cases negative <;> decide
  | finite negative mantissa exponent =>
    have hm := (Unsigned.magnitude mantissa exponent).neutral
    have hsign : Orderly (if negative then "-" else "").toList := by
      cases negative <;> decide
    rw [Binary64.text, String.toList_append]
    exact hsign.append (.of_neutral hm) hm.head

theorem orderly_literal (literal : Literal) : Orderly (outside literal.pieces) := by
  cases literal with
  | null => decide
  | text value => exact .of_neutral (by simp [Literal.pieces, outside, Piece.bare?, Neutral])
  | point x y =>
    have hcomma : Orderly ([','] ++ (y.text .plain).toList) := .lead (by decide) (orderly_number y)
    have hpair := ((orderly_number x).append hcomma (by simp)).enclosed
    have h := Orderly.lead (show Neutral "POINT".toList by decide) hpair
    simpa [Literal.pieces] using h

/-- Each text with a blank in front, so that no two of them touch. -/
def spaced (texts : List (List Char)) : List Char := texts.flatMap (' ' :: ·)

theorem blank_congruent (chars : List Char) : Congruent (' ' :: chars) chars :=
  .lead (show Neutral [' '] by decide) chars

theorem spaced_head (texts : List (List Char)) : (spaced texts).head? ≠ some '-' := by
  cases texts <;> simp [spaced]

/-- Between texts a blank does what a separator does. -/
theorem join_congruent {separator : String} (hs : Neutral separator.toList)
    (hn : separator.toList ≠ []) (parts : List (List Piece)) :
    Congruent (outside (Piece.joinWith (Piece.ofBare separator) parts))
      (spaced (parts.map outside)) := by
  induction parts with
  | nil => exact .refl []
  | cons part rest ih =>
    cases rest with
    | nil => simpa [Piece.joinWith, spaced] using (blank_congruent (outside part)).symm
    | cons next rest =>
      have hsep := (Congruent.lead hs _).trans ih
      have hhead : (separator.toList ++ outside (Piece.joinWith (Piece.ofBare separator)
          (next :: rest))).head? ≠ some '-' := by
        obtain ⟨c, others, hc⟩ := List.exists_cons_of_ne_nil hn
        rw [hc] at hs ⊢
        exact hs.head
      have h := (blank_congruent (outside part)).symm.append hsep hhead (spaced_head _)
      simpa [Piece.joinWith, spaced] using h

theorem spaced_orderly {texts : List (List Char)} (each : ∀ t ∈ texts, Orderly t) :
    Orderly (spaced texts) := by
  induction texts with
  | nil => decide
  | cons text rest ih =>
    obtain ⟨ht, hr⟩ := List.forall_mem_cons.mp each
    have hb : Orderly (' ' :: text) := (blank_congruent text).orderly_iff.mpr ht
    exact hb.append (ih hr) (spaced_head rest)

/-! ### Clauses -/

namespace Clause

/-- What the clauses show outside quotes, one after the other. -/
def shown (clauses : List Clause) : List Char := spaced (clauses.map fun k => outside k.pieces)

theorem shown_one (clause : Clause) : Congruent (shown [clause]) (outside clause.pieces) := by
  simpa [shown, spaced] using blank_congruent (outside clause.pieces)

theorem neutral_separator (glue : Glue) :
    Neutral glue.separator.toList ∧ glue.separator.toList ≠ [] := by
  cases glue <;> decide

theorem joined_congruent (glue : Glue) (clauses : List Clause) :
    Congruent (outside (joinedPieces glue clauses)) (shown clauses) := by
  obtain ⟨hs, hn⟩ := neutral_separator glue
  have h := join_congruent hs hn (clauses.map pieces)
  rwa [List.map_map] at h

/-- A comparison is as orderly as its operator. -/
theorem compare_congruent (column : ColumnName) (operator : String) (value : Literal) :
    Congruent (outside (compare column operator value).pieces) operator.toList := by
  have hv : Orderly ([' '] ++ outside value.pieces) := .lead (by decide) (orderly_literal value)
  have ho := (Congruent.refl operator.toList).append hv.congruent_nil (by simp) (by simp)
  have hb := (blank_congruent _).trans ho
  simpa [pieces] using (Congruent.lead (neutral_column column) _).trans hb

theorem orderly_items (items : List Literal) :
    Orderly (outside (Piece.joinWith (Piece.ofBare ",") (items.map Literal.pieces))) := by
  refine (join_congruent (by decide) (by decide) _).orderly_iff.mpr (spaced_orderly ?_)
  simpa using fun literal _ => orderly_literal literal

theorem orderly_columns (columns : List ColumnName) :
    Orderly (outside (Piece.joinWith (Piece.ofBare ",") (columns.map ColumnName.pieces))) := by
  refine (join_congruent (by decide) (by decide) _).orderly_iff.mpr (spaced_orderly ?_)
  simpa using fun column _ => Orderly.of_neutral (neutral_column column)

theorem orderly_between (column : ColumnName) (low high : Literal) :
    Orderly (outside (between column low high).pieces) := by
  have hh : Orderly (" AND ".toList ++ outside high.pieces) :=
    .lead (by decide) (orderly_literal high)
  have hl := (orderly_literal low).append hh (by simp)
  have hb := Orderly.lead (show Neutral " BETWEEN ".toList by decide) hl
  simpa [pieces] using Orderly.lead (neutral_column column) hb

theorem orderly_member (column : ColumnName) {operator : String}
    (ho : operator = "IN" ∨ operator = "NOT IN") (items : List Literal) :
    Orderly (outside (member column operator items).pieces) := by
  have hn : Neutral (" " ++ operator ++ " ").toList := by
    rcases ho with rfl | rfl <;> decide
  have hi := Orderly.lead hn (orderly_items items).enclosed
  simpa [pieces] using Orderly.lead (neutral_column column) hi

theorem orderly_search (columns : List ColumnName) (value : Literal) :
    Orderly (outside (search columns value).pieces) := by
  have hv := Orderly.lead (show Neutral " AGAINST".toList by decide)
    (orderly_literal value).enclosed
  have hc := (orderly_columns columns).enclosed.append hv (by simp)
  simpa [pieces] using Orderly.lead (show Neutral "MATCH".toList by decide) hc

/-- A group puts one pair of parentheses around its clauses, and one that is left out might as well
have done so. -/
theorem grouped_congruent (glue : Glue) (clauses : List Clause) :
    Congruent (shown (grouped glue clauses)) ('(' :: (shown clauses ++ [')'])) := by
  unfold grouped
  split
  · rename_i he
    rw [List.isEmpty_iff.mp he]
    exact Orderly.congruent (by decide) (by decide)
  · have h := (blank_congruent _).trans (joined_congruent glue clauses).enclosed
    simpa [shown, spaced, pieces, pieces_all_eq_map, joinedPieces] using h

end Clause

/-! ### Conditions -/

namespace Condition

mutual

/-- The operators of a condition in order, and a pair of parentheses for each group. -/
def skeleton : Condition → List Char
  | predicate p => p.writtenOperator.toList
  | raw _ => []
  | group _ children => '(' :: (skeletonAll children ++ [')'])

def skeletonAll : List Condition → List Char
  | [] => []
  | condition :: rest => ' ' :: skeleton condition ++ skeletonAll rest

end

mutual

def operators : Condition → List String
  | predicate p => [p.writtenOperator]
  | raw _ => []
  | group _ children => operatorsAll children

def operatorsAll : List Condition → List String
  | [] => []
  | condition :: rest => operators condition ++ operatorsAll rest

end

/-- The text of an input on the table of the scope. -/
def inputSql (style : Quoting) (schema : Schema) (scope : Scope) (input : Json) :
    Except Error String :=
  (compileInput schema scope input).result.map (Clause.joined style scope.glue)

end Condition

namespace Predicate

variable {scope : Scope} {p : Predicate} {out : List Clause}

theorem effective_congruent (p : Predicate) (filtering : Bool) :
    Congruent (p.effectiveOperator filtering).toList p.writtenOperator.toList := by
  unfold effectiveOperator
  split
  · split
    · rename_i he
      rw [he]
      exact Orderly.congruent (by decide) (by decide)
    · split
      · rename_i hd
        rw [hd]
        exact Orderly.congruent (by decide) (by decide)
      · exact .refl _
  · exact .refl _

theorem outlined_congruent (h : Outlined scope p out) :
    Congruent (Clause.shown out) p.writtenOperator.toList := by
  refine Congruent.trans ?_ (effective_congruent p scope.filtering)
  cases h with
  | search operator named literal =>
    have ho : Orderly "MATCH".toList := by decide
    rw [operator]
    exact (Clause.shown_one _).trans ((Clause.orderly_search _ _).congruent ho)
  | between on operator bounds lowest highest =>
    have ho : Orderly "BETWEEN".toList := by decide
    rw [operator]
    exact (Clause.shown_one _).trans ((Clause.orderly_between _ _ _).congruent ho)
  | never operator nothing =>
    rw [operator]
    exact Orderly.congruent (by decide) (by decide)
  | vacuous operator nothing =>
    rw [operator]
    exact Orderly.congruent (by decide) (by decide)
  | @member column operator items literals on effective listing members some_item each =>
    have ho : Orderly operator.toList := by
      rcases listing with rfl | rfl <;> decide
    rw [effective]
    exact (Clause.shown_one _).trans ((Clause.orderly_member _ listing _).congruent ho)
  | compare on effective ordinary literal =>
    rw [effective]
    exact (Clause.shown_one _).trans (Clause.compare_congruent _ _ _)

end Predicate

namespace Condition

variable {scope : Scope}

theorem skeleton_head (conditions : List Condition) :
    (skeletonAll conditions).head? ≠ some '-' := by
  cases conditions <;> simp [skeletonAll]

theorem outline_all_congruent {conditions : List Condition} {out : List Clause}
    (each : ∀ c ∈ conditions, ∀ first, c.outline scope = some first →
      Congruent (Clause.shown first) c.skeleton)
    (h : outlineAll scope conditions = some out) :
    Congruent (Clause.shown out) (skeletonAll conditions) := by
  induction conditions generalizing out with
  | nil =>
    cases h
    exact .refl []
  | cons condition rest ih =>
    obtain ⟨first, others, hf, ho, rfl⟩ := outline_all_cons.mp h
    have hfirst := (each condition (List.mem_cons_self ..) first hf).trans (blank_congruent _).symm
    have hrest := ih (fun c hc => each c (List.mem_cons_of_mem _ hc)) ho
    have hall := hfirst.append hrest (spaced_head _) (skeleton_head rest)
    simpa [Clause.shown, spaced, skeletonAll] using hall

/-- Outside quotes the clauses of a condition have the structure of its operators. -/
theorem RawFree.outline_congruent {c : Condition} (hr : c.RawFree) (out : List Clause)
    (h : c.outline scope = some out) : Congruent (Clause.shown out) c.skeleton := by
  induction hr generalizing out with
  | predicate p => exact Predicate.outlined_congruent (Predicate.outlined h)
  | group glue children each ih =>
    obtain ⟨inner, hi, rfl⟩ := outline_group.mp h
    exact (Clause.grouped_congruent glue inner).trans (outline_all_congruent ih hi).enclosed

theorem skeleton_all_orderly {conditions : List Condition}
    (each : ∀ c ∈ conditions, Orderly c.skeleton) : Orderly (skeletonAll conditions) := by
  induction conditions with
  | nil => decide
  | cons condition rest ih =>
    obtain ⟨hc, hr⟩ := List.forall_mem_cons.mp each
    have hb := (blank_congruent condition.skeleton).orderly_iff.mpr hc
    exact hb.append (ih hr) (skeleton_head rest)

theorem mem_operators_all {conditions : List Condition} {c : Condition} (hc : c ∈ conditions)
    {operator : String} (ho : operator ∈ c.operators) : operator ∈ operatorsAll conditions := by
  induction conditions with
  | nil => cases hc
  | cons condition rest ih =>
    rw [operatorsAll, List.mem_append]
    rcases List.mem_cons.mp hc with rfl | hc
    · exact .inl ho
    · exact .inr (ih hc)

/-- Operators that are orderly one by one are so together. -/
theorem skeleton_orderly (c : Condition) (h : ∀ operator ∈ c.operators, Orderly operator.toList) :
    Orderly c.skeleton := by
  induction c using Condition.induct with
  | predicate p => exact h _ (List.mem_singleton_self _)
  | raw sql => exact .of_neutral (by simp [skeleton, Neutral])
  | group glue children ih =>
    refine (skeleton_all_orderly fun c hc => ih c hc fun operator ho => ?_).enclosed
    exact h operator (mem_operators_all hc ho)

/-- The text of an input is in order outside quotes exactly if its operators, one after the other
and with parentheses around those of a group, are in order themselves. -/
theorem structure_of_operators {style : Quoting} {schema : Schema} {scope : Scope}
    {table : Option Table} {input : Json} {conditions : List Condition} {sql : String}
    (ht : scope.getTable schema = .ok table) (hr : read table input = .ok conditions)
    (hf : ∀ c ∈ conditions, c.RawFree) (h : inputSql style schema scope input = .ok sql) :
    ∃ pieces, Scanner.scan style sql = some pieces ∧
      (Orderly (outside pieces) ↔ Orderly (skeletonAll conditions)) ∧
      ((∀ operator ∈ operatorsAll conditions, Orderly operator.toList) →
        Orderly (outside pieces)) := by
  obtain ⟨out, hi, rfl⟩ := map_ok.mp h
  obtain ⟨table', conditions', ht', hr', hc⟩ := compile_input_ok hi
  obtain rfl := Except.ok.inj (ht.symm.trans ht')
  obtain rfl := Except.ok.inj (hr.symm.trans hr')
  have ho := compile_outline hc
  have hp := outline_all_forall (fun c hc => (hf c hc).outline_plain) ho
  have hsame := (Clause.joined_congruent scope.glue out).trans
    (outline_all_congruent (fun c hc => (hf c hc).outline_congruent) ho)
  refine ⟨_, Clause.scan_joined hp, hsame.orderly_iff, fun each => hsame.orderly_iff.mpr ?_⟩
  refine skeleton_all_orderly fun c hc => skeleton_orderly c fun operator hm => ?_
  exact each operator (mem_operators_all hc hm)

/-- Neither operator is in order, but the second closes what the first opens. -/
def paired : Json :=
  .array [.array [.string "id", .string "= (", .integer 1],
    .array [.string "name", .string ") like", .string "--"]]

theorem structure_of_operators_paired :
    inputSql .ansi Sample.schema (.filter "users") paired =
        .ok "`users`.`id` = ( '1' AND `users`.`name` ) LIKE '--'" ∧
      ∃ pieces, Scanner.scan .ansi "`users`.`id` = ( '1' AND `users`.`name` ) LIKE '--'" =
          some pieces ∧ Orderly (outside pieces) := by
  have ht : (Scope.filter "users").getTable Sample.schema = .ok (some Sample.users) := by rfl
  have hr : read (some Sample.users) paired =
      .ok [.predicate ⟨.one "id", "= (", .integer 1⟩,
        .predicate ⟨.one "name", ") LIKE", .text "--"⟩] := by rfl
  have h : inputSql .ansi Sample.schema (.filter "users") paired =
      .ok "`users`.`id` = ( '1' AND `users`.`name` ) LIKE '--'" := by rfl
  obtain ⟨pieces, hs, hp, _⟩ := structure_of_operators ht hr (by simp [RawFree.predicate]) h
  exact ⟨h, pieces, hs, hp.mpr (by decide)⟩

/-- The operator closes what it did not open and leaves the value in a comment. -/
def escaping : Json := .object [("id", .array [.string "=)--", .integer 7])]

theorem operator_escapes :
    ∃ conditions pieces,
      read (some Sample.users) escaping = .ok conditions ∧ (∀ c ∈ conditions, c.RawFree) ∧
      inputSql .mysql Sample.schema (.filter "users") escaping =
        .ok "`users`.`id` =)-- '7'" ∧
      Scanner.scan .mysql "`users`.`id` =)-- '7'" = some pieces ∧
      ¬Balanced (outside pieces) ∧ HasComment (outside pieces) := by
  refine ⟨[.predicate ⟨.one "id", "=)--", .integer 7⟩], _, by rfl,
    by simp [RawFree.predicate], by rfl, rfl, ?_, ?_⟩
  · rw [balanced_iff]
    decide
  · decide

end Condition

end SqlBuilder

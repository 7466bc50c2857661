import SqlBuilder.Proofs.Characters
import SqlBuilder.Proofs.Outline
import SqlBuilder.Proofs.Pieces

/-!
How operators are written. They have no characters but those that identifiers may have, and one
that is a usual operator in upper case is written as that operator. The dotless i is the exception:
its upper case is `I`, and it is left out before the case is changed, so that `lıke` becomes `LKE`.
-/

namespace SqlBuilder

/-! ### Operators are written without quotes -/

theorem alphanum_ascii {c : Char} (h : c.isAlphanum = true) : c.toNat < 128 := by
  have hranges : (decide (c.val ≥ 'A'.val ∧ c.val ≤ 'Z'.val) ||
      (decide (c.val ≥ 'a'.val) && decide (c.val ≤ 'z'.val)) ||
      (decide (c.val ≥ '0'.val) && decide (c.val ≤ '9'.val))) = true := h
  have hends : 'Z'.val.toNat = 90 ∧ 'z'.val.toNat = 122 ∧ '9'.val.toNat = 57 := by decide
  simp only [Bool.or_eq_true, Bool.and_eq_true, decide_eq_true_eq,
    UInt32.le_iff_toNat_le] at hranges
  change c.val.toNat < 128
  omega

theorem kept_ascii {c : Char} (h : Identifier.isKept c = true) : c.toNat < 128 := by
  have hc : c.isAlphanum = true ∨ c ∈ "_.,()!=<> -".toList := by
    simpa [Identifier.isKept] using h
  rcases hc with hc | hc
  · exact alphanum_ascii hc
  · have hall : ∀ d ∈ "_.,()!=<> -".toList, d.toNat < 128 := by decide
    exact hall c hc

theorem kept_upper_ascii : ∀ n < 128, Identifier.isKept (Char.ofNat n) = true →
    Identifier.isKept (Char.ofNat n).toUpper = true := by decide

theorem upper_kept {c d : Char} (h : Identifier.isKept c = true) (hd : d ∈ Text.upperChar c) :
    Identifier.isKept d = true := by
  have hn := kept_ascii h
  simp only [Text.upperChar, if_pos hn, List.mem_singleton] at hd
  rw [hd]
  have := kept_upper_ascii c.toNat hn
  rw [Char.ofNat_toNat] at this
  exact this h

theorem kept_written (p : Predicate) : Kept p.writtenOperator := by
  intro d hd
  rw [Predicate.writtenOperator, Text.upper, String.toList_ofList] at hd
  obtain ⟨c, hc, hd⟩ := List.mem_flatMap.mp hd
  exact upper_kept (kept_sanitize _ c hc) hd

theorem kept_effective (p : Predicate) (filtering : Bool) :
    Kept (p.effectiveOperator filtering) := by
  unfold Predicate.effectiveOperator
  repeat' split
  all_goals first | decide | exact kept_written p

/-! ### Usual operators -/

namespace Predicate

def usualOperators : List String :=
  ["=", "!=", "<>", "<", "<=", ">", ">=", "LIKE", "NOT LIKE", "IN", "NOT IN", "BETWEEN", "MATCH"]

def Usual (p : Predicate) : Prop := canonicalOperator p.operator ∈ usualOperators

instance (p : Predicate) : Decidable p.Usual :=
  inferInstanceAs (Decidable (canonicalOperator p.operator ∈ usualOperators))

/-- The operators between a column and one value, usual ones and those for null. -/
def comparisons : List String :=
  ["IS", "IS NOT", "=", "!=", "<>", "<", "<=", ">", ">=", "LIKE", "NOT LIKE"]

/-- The operators with a syntax of their own. -/
def forms : List String := ["MATCH", "BETWEEN", "IN", "NOT IN"]

/-- The operator that was given, in upper case: in a filter, null is compared by `IS` and
`IS NOT`. -/
def givenOperator (p : Predicate) (filtering : Bool) : String :=
  let operator := canonicalOperator p.operator
  if p.value.isNull && filtering then
    if operator = "=" then "IS" else if operator = "!=" then "IS NOT" else operator
  else operator

/-- The operator has no dotless i. -/
def Dotted (p : Predicate) : Prop := 'ı' ∉ p.operator.toList

instance (p : Predicate) : Decidable p.Dotted :=
  inferInstanceAs (Decidable ('ı' ∉ p.operator.toList))

/-- What usual operators are made of. -/
def operatorChars : List Char := "=!<> ABCEHIKLMNOTW".toList

theorem operator_chars : ∀ operator ∈ usualOperators, ∀ d ∈ operator.toList, d ∈ operatorChars := by
  decide

theorem operator_chars_ascii {n : Nat} (h : Char.ofNat n ∈ operatorChars) : n < 128 := by
  have hall : ∀ d ∈ operatorChars, 0 < d.toNat ∧ d.toNat < 128 := by decide
  obtain ⟨hpos, hlt⟩ := hall _ h
  by_cases hv : n.isValidChar
  · rw [Char.ofNat, dif_pos hv] at hlt
    exact hlt
  · rw [Char.ofNat, dif_neg hv] at hpos
    exact absurd hpos (by decide)

theorem usual_ascii : ∀ n < 128, (Char.ofNat n).toUpper ∈ operatorChars →
    Identifier.isKept (Char.ofNat n) = true := by decide +kernel

theorem usual_expansions :
    ∀ entry ∈ Text.upperExpansions, ∃ code ∈ entry.2, Char.ofNat code ∉ operatorChars := by
  decide +kernel

/-- Runs stay beyond ASCII but for the dotless i and the long s. -/
theorem runs_beyond_ascii : ∀ run ∈ Text.upperRuns,
    128 ≤ run.first + run.shift ∨ (run.first = 0x131 ∧ run.last = 0x131) ∨
      (run.first = 0x17f ∧ run.last = 0x17f ∧ run.shift = -300) := by
  decide +kernel

theorem usual_run {run : Text.CaseRun} (hr : run ∈ Text.upperRuns) {n : Nat}
    (hn : run.holds n = true) (h : run.move n ∈ operatorChars) : n = 0x131 := by
  have hlt := operator_chars_ascii h
  simp only [Text.CaseRun.holds, Bool.and_eq_true, decide_eq_true_eq] at hn
  obtain ⟨⟨hfirst, hlast⟩, _⟩ := hn
  rcases runs_beyond_ascii run hr with hb | ⟨hf, hl⟩ | ⟨hf, hl, hs⟩
  · omega
  · omega
  · have he : n = 0x17f := by omega
    rw [Text.CaseRun.move, he, hs] at h
    exact absurd h (by decide)

/-- A character with such an upper case is kept, with one exception. -/
theorem upper_usual {c : Char} (h : ∀ d ∈ Text.upperChar c, d ∈ operatorChars) :
    (Identifier.isKept c = true ∧ ∃ d, Text.upperChar c = [d]) ∨ c = 'ı' := by
  unfold Text.upperChar at h ⊢
  by_cases hn : c.toNat < 128
  · rw [if_pos hn] at h ⊢
    have hk := usual_ascii c.toNat hn
    rw [Char.ofNat_toNat] at hk
    exact .inl ⟨hk (h _ (by simp)), _, rfl⟩
  · rw [if_neg hn] at h
    refine .inr ?_
    split at h
    · rename_i codes hc
      obtain ⟨before, after, he, _⟩ := List.lookup_eq_some_iff.mp hc
      obtain ⟨code, hm, hout⟩ := usual_expansions (c.toNat, codes) (by simp [he])
      exact absurd (h _ (List.mem_map_of_mem hm)) hout
    · have hu := h _ (List.mem_singleton_self _)
      unfold Text.moved at hu
      split at hu
      · rename_i run hf
        have hh := List.find?_some hf
        have hdotless := usual_run (List.mem_of_find?_eq_some hf) hh hu
        rw [← Char.ofNat_toNat c, hdotless]
      · rw [← Char.ofNat_toNat c] at hu
        exact absurd (operator_chars_ascii hu) hn

/-- The ways to leave out one or more of the letters `I`. -/
def thinned : List Char → List (List Char)
  | [] => []
  | c :: rest => (thinned rest).map (c :: ·) ++ if c = 'I' then rest :: thinned rest else []

theorem upper_dotless : Identifier.isKept 'ı' = false ∧ Text.upperChar 'ı' = ['I'] := by
  decide +kernel

theorem kept_dotted {chars : List Char} (hs : ∀ d ∈ chars.flatMap Text.upperChar, d ∈ operatorChars)
    (hd : 'ı' ∉ chars) : chars.filter Identifier.isKept = chars := by
  refine List.filter_eq_self.mpr fun c hc => ?_
  rcases upper_usual (fun d hu => hs d (List.mem_flatMap.mpr ⟨c, hc, hu⟩)) with ⟨hk, _⟩ | rfl
  · exact hk
  · exact absurd hc hd

theorem kept_thinned {chars : List Char}
    (hs : ∀ d ∈ chars.flatMap Text.upperChar, d ∈ operatorChars) (hd : 'ı' ∈ chars) :
    (chars.filter Identifier.isKept).flatMap Text.upperChar ∈
      thinned (chars.flatMap Text.upperChar) := by
  induction chars with
  | nil => cases hd
  | cons c rest ih =>
    rw [List.flatMap_cons] at hs
    have hrest := fun d hm => hs d (List.mem_append_right _ hm)
    by_cases hc : c = 'ı'
    · subst hc
      by_cases hr : 'ı' ∈ rest
      · simp [upper_dotless, thinned, ih hrest hr]
      · simp [upper_dotless, thinned, kept_dotted hrest hr]
    · have hr : 'ı' ∈ rest := (List.mem_cons.mp hd).resolve_left (Ne.symm hc)
      obtain ⟨hk, d, hu⟩ :=
        (upper_usual fun d hm => hs d (List.mem_append_left _ hm)).resolve_right hc
      simp [hk, hu, thinned, ih hrest hr]

theorem trim_dotless (text : String) : 'ı' ∈ (Text.trim text).toList ↔ 'ı' ∈ text.toList := by
  rw [Text.trim, String.toList_ofList]
  exact Text.mem_trim_chars (by decide)

theorem usual_chars {p : Predicate} (h : p.Usual) :
    ∀ d ∈ (Text.trim p.operator).toList.flatMap Text.upperChar, d ∈ operatorChars := by
  have hc := operator_chars _ h
  rwa [canonicalOperator, Text.upper, String.toList_ofList] at hc

theorem written_dotted {p : Predicate} (h : p.Usual)
    (hd : p.Dotted) : p.writtenOperator = canonicalOperator p.operator := by
  have hd : 'ı' ∉ (Text.trim p.operator).toList := fun hm => hd ((trim_dotless _).mp hm)
  rw [writtenOperator, Identifier.sanitize, kept_dotted (usual_chars h) hd, String.ofList_toList,
    canonicalOperator]

/-- The dotless i is left out before the case is changed. -/
theorem written_dotless {p : Predicate} (h : p.Usual)
    (hd : ¬p.Dotted) :
    p.writtenOperator.toList ∈ thinned (canonicalOperator p.operator).toList := by
  have hd : 'ı' ∈ (Text.trim p.operator).toList := (trim_dotless _).mpr (Decidable.not_not.mp hd)
  have hk := kept_thinned (usual_chars h) hd
  rwa [writtenOperator, canonicalOperator, Text.upper, Text.upper, Identifier.sanitize,
    String.toList_ofList, String.toList_ofList, String.toList_ofList]

theorem given_usual {p : Predicate} (h : p.Usual)
    (filtering : Bool) : p.givenOperator filtering ∈ comparisons ++ forms := by
  have hall : ∀ operator ∈ usualOperators, operator ∈ comparisons ++ forms := by decide
  unfold givenOperator
  dsimp only
  split
  · split
    · decide
    · split
      · decide
      · exact hall _ h
  · exact hall _ h

theorem effective_dotted {p : Predicate} (h : p.Usual)
    (hd : p.Dotted) (filtering : Bool) :
    p.effectiveOperator filtering = p.givenOperator filtering := by
  rw [effectiveOperator, written_dotted h hd, givenOperator]

theorem thinned_unknown : ∀ operator ∈ usualOperators, ∀ chars ∈ thinned operator.toList,
    String.ofList chars ∉ comparisons ++ forms := by decide

theorem effective_dotless {p : Predicate} (h : p.Usual)
    (hd : ¬p.Dotted) (filtering : Bool) :
    p.effectiveOperator filtering = p.writtenOperator ∧
      p.writtenOperator ∉ comparisons ++ forms := by
  have hw := thinned_unknown _ h _ (written_dotless h hd)
  rw [String.ofList_toList] at hw
  have heq : p.writtenOperator ≠ "=" := fun he => hw (by rw [he]; decide)
  have hne : p.writtenOperator ≠ "!=" := fun he => hw (by rw [he]; decide)
  exact ⟨by simp [effectiveOperator, heq, hne], hw⟩

end Predicate

end SqlBuilder

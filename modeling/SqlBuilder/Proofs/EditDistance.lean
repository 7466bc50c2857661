import SqlBuilder.Suggestion

/-!
The distance of two texts is the least number of edits that make one the other, where an edit puts
in, takes out or changes one character. It is worked out row by row over the beginnings of both
texts. The rows hold the values of a recursion over the two texts, and an edit changes what that
recursion gives by at most one.
-/

namespace SqlBuilder.Suggestion

/-! ### Edits -/

/-- One character is put in, taken out or changed. -/
inductive Edit : List Char → List Char → Prop where
  | putIn (front rear : List Char) (c : Char) : Edit (front ++ rear) (front ++ c :: rear)
  | takeOut (front rear : List Char) (c : Char) : Edit (front ++ c :: rear) (front ++ rear)
  | change (front rear : List Char) (c d : Char) : Edit (front ++ c :: rear) (front ++ d :: rear)

/-- The first text becomes the last in this many edits. -/
inductive Edits : Nat → List Char → List Char → Prop where
  | done (text : List Char) : Edits 0 text text
  | edit {n : Nat} {source next target : List Char} (first : Edit source next)
      (rest : Edits n next target) : Edits (n + 1) source target

theorem Edit.cons {source target : List Char} (h : Edit source target) (c : Char) :
    Edit (c :: source) (c :: target) := by
  cases h with
  | putIn front rear d => exact .putIn (c :: front) rear d
  | takeOut front rear d => exact .takeOut (c :: front) rear d
  | change front rear d e => exact .change (c :: front) rear d e

theorem Edit.reverse {source target : List Char} (h : Edit source target) :
    Edit source.reverse target.reverse := by
  cases h with
  | putIn front rear c => simpa using Edit.putIn rear.reverse front.reverse c
  | takeOut front rear c => simpa using Edit.takeOut rear.reverse front.reverse c
  | change front rear c d => simpa using Edit.change rear.reverse front.reverse c d

theorem Edits.cons {n : Nat} {source target : List Char} (h : Edits n source target) (c : Char) :
    Edits n (c :: source) (c :: target) := by
  induction h with
  | done text => exact .done (c :: text)
  | edit first _ ih => exact .edit (first.cons c) ih

theorem Edits.reverse {n : Nat} {source target : List Char} (h : Edits n source target) :
    Edits n source.reverse target.reverse := by
  induction h with
  | done text => exact .done text.reverse
  | edit first _ ih => exact .edit first.reverse ih

theorem Edits.least {n m : Nat} {source target : List Char} (hn : Edits n source target)
    (hm : Edits m source target) : Edits (min n m) source target := by
  rcases Nat.le_total n m with h | h
  · rw [Nat.min_eq_left h]
    exact hn
  · rw [Nat.min_eq_right h]
    exact hm

/-! ### The recursion -/

/-- The least number of edits, by what becomes of the first characters. -/
def gap : List Char → List Char → Nat
  | [], target => target.length
  | source, [] => source.length
  | c :: source, d :: target =>
    min (min (gap source (d :: target) + 1) (gap (c :: source) target + 1))
      (if c = d then gap source target else gap source target + 1)
termination_by source target => source.length + target.length

theorem gap_nil (target : List Char) : gap [] target = target.length := by
  rw [gap]

theorem gap_end (source : List Char) : gap source [] = source.length := by
  cases source with
  | nil => rw [gap]
  | cons c source =>
    rw [gap]
    simp

theorem gap_cons (c d : Char) (source target : List Char) :
    gap (c :: source) (d :: target) =
      min (min (gap source (d :: target) + 1) (gap (c :: source) target + 1))
        (if c = d then gap source target else gap source target + 1) := by
  rw [gap]

theorem gap_self (text : List Char) : gap text text = 0 := by
  induction text with
  | nil => exact gap_nil []
  | cons c rest ih =>
    rw [gap_cons, if_pos rfl, ih]
    omega

/-- As many edits as the recursion gives are enough. -/
theorem edits_gap (source target : List Char) : Edits (gap source target) source target := by
  induction source generalizing target with
  | nil =>
    rw [gap_nil]
    induction target with
    | nil => exact .done []
    | cons d target ih => exact .edit (.putIn [] [] d) (ih.cons d)
  | cons c source ih =>
    induction target with
    | nil =>
      have hrest := ih []
      rw [gap_end] at hrest ⊢
      exact .edit (.takeOut [] source c) hrest
    | cons d target iht =>
      have hout := Edits.edit (.takeOut [] source c) (ih (d :: target))
      have hin := Edits.edit (.putIn [] (c :: source) d) (iht.cons d)
      rw [gap_cons]
      refine (hout.least hin).least ?_
      split
      · rename_i he
        rw [he]
        exact (ih target).cons d
      · exact .edit (.change [] source c d) ((ih target).cons d)

/-! An edit brings the text nearer to any other by at most one: first an edit at the front, then one
behind further characters. -/

theorem gap_cons_le (c : Char) (source target : List Char) :
    gap (c :: source) target ≤ gap source target + 1 := by
  cases target with
  | nil => simp [gap_end]
  | cons d target =>
    rw [gap_cons]
    omega

theorem gap_cons_right_le (d : Char) (source target : List Char) :
    gap source (d :: target) ≤ gap source target + 1 := by
  cases source with
  | nil => simp [gap_nil]
  | cons c source =>
    rw [gap_cons]
    omega

theorem gap_le_cons (c : Char) (source target : List Char) :
    gap source target ≤ gap (c :: source) target + 1 := by
  induction target with
  | nil =>
    simp only [gap_end, List.length_cons]
    omega
  | cons d target ih =>
    have hright := gap_cons_right_le d source target
    rw [gap_cons]
    split <;> omega

theorem gap_changed_le (c d : Char) (source target : List Char) :
    gap (c :: source) target ≤ gap (d :: source) target + 1 := by
  induction target with
  | nil => simp [gap_end]
  | cons e target ih =>
    have hout := gap_cons_le d source (e :: target)
    rw [gap_cons, gap_cons]
    split <;> split <;> omega

theorem gap_under_le {source next : List Char}
    (h : ∀ target, gap source target ≤ gap next target + 1) (c : Char) (target : List Char) :
    gap (c :: source) target ≤ gap (c :: next) target + 1 := by
  induction target with
  | nil =>
    have hend := h []
    rw [gap_end, gap_end] at hend ⊢
    simp only [List.length_cons]
    omega
  | cons d target ih =>
    have hall := h (d :: target)
    have hrest := h target
    rw [gap_cons, gap_cons]
    split <;> omega

theorem Edit.gap_le {source next : List Char} (h : Edit source next) (target : List Char) :
    gap source target ≤ gap next target + 1 := by
  cases h with
  | putIn front rear c =>
    induction front generalizing target with
    | nil => exact gap_le_cons c rear target
    | cons d front ih => exact gap_under_le ih d target
  | takeOut front rear c =>
    induction front generalizing target with
    | nil => exact gap_cons_le c rear target
    | cons d front ih => exact gap_under_le ih d target
  | change front rear c d =>
    induction front generalizing target with
    | nil => exact gap_changed_le c d rear target
    | cons e front ih => exact gap_under_le ih e target

theorem Edits.gap_le {n : Nat} {source target : List Char} (h : Edits n source target) :
    gap source target ≤ n := by
  induction h with
  | done text => exact Nat.le_of_eq (gap_self text)
  | edit first _ ih => exact Nat.le_trans (first.gap_le _) (Nat.succ_le_succ ih)

/-! ### The rows -/

/-- The gaps between the source and what was read of the target, with one character more after
another. Both texts are read backwards. -/
def gaps (source : List Char) : (read target : List Char) → List Nat
  | _, [] => []
  | read, d :: target => gap source (d :: read) :: gaps source (d :: read) target

theorem next_row_gaps (c : Char) (source read target : List Char) :
    nextRow c (gap source read) (gap (c :: source) read) target (gaps source read target) =
      gaps (c :: source) read target := by
  induction target generalizing read with
  | nil => rfl
  | cons d target ih =>
    simp only [gaps, nextRow]
    rw [← gap_cons, ih]

theorem step_gaps (c : Char) (source target : List Char) :
    step target (gap source [] :: gaps source [] target) c =
      gap (c :: source) [] :: gaps (c :: source) [] target := by
  have hend : gap source [] + 1 = gap (c :: source) [] := by
    rw [gap_end, gap_end, List.length_cons]
  simp only [step, hend, next_row_gaps]

theorem rows_gaps (source read target : List Char) :
    source.foldl (step target) (gap read [] :: gaps read [] target) =
      gap (source.reverse ++ read) [] :: gaps (source.reverse ++ read) [] target := by
  induction source generalizing read with
  | nil => rfl
  | cons c source ih =>
    rw [List.foldl_cons, step_gaps, ih]
    simp

theorem gaps_nil (read target : List Char) :
    gaps [] read target = List.range' (read.length + 1) target.length := by
  induction target generalizing read with
  | nil => rfl
  | cons d target ih => rw [gaps, ih, gap_nil, List.length_cons, List.length_cons, List.range'_succ]

theorem first_row (target : List Char) :
    List.range (target.length + 1) = gap [] [] :: gaps [] [] target := by
  rw [gaps_nil, gap_nil, List.range_eq_range', List.range'_succ]
  rfl

theorem last_gap (source read target : List Char) :
    (gap source read :: gaps source read target).getLast? =
      some (gap source (target.reverse ++ read)) := by
  induction target generalizing read with
  | nil => rfl
  | cons d target ih =>
    rw [gaps, List.getLast?_cons_cons, ih]
    simp

theorem distance_eq_gap (source target : List Char) :
    distance source target = gap source.reverse target.reverse := by
  rw [distance, first_row, rows_gaps, last_gap]
  simp

/-! ### The distance -/

theorem edits_distance (source target : List Char) :
    Edits (distance source target) source target := by
  have h := (edits_gap source.reverse target.reverse).reverse
  rw [List.reverse_reverse, List.reverse_reverse] at h
  rw [distance_eq_gap]
  exact h

theorem Edits.distance_le {n : Nat} {source target : List Char} (h : Edits n source target) :
    distance source target ≤ n := by
  rw [distance_eq_gap]
  exact h.reverse.gap_le

theorem distance_eq_zero_iff {source target : List Char} :
    distance source target = 0 ↔ source = target := by
  constructor
  · intro h
    have hedits := edits_distance source target
    rw [h] at hedits
    cases hedits
    rfl
  · rintro rfl
    exact Nat.le_zero.mp (Edits.done source).distance_le

end SqlBuilder.Suggestion

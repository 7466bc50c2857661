import SqlBuilder.Proofs.Characters
import SqlBuilder.Schema.ColumnType

/-!
Lower case, and the tags of types. The letters of a run go to characters that no run moves, so what
is in lower case stays as it is; and none of them is a blank. A tag that was read as a type is
therefore read as the same type when it is written and read again.
-/

namespace SqlBuilder.Text

/-! ### Where the letters of a run go -/

namespace CaseRun

/-- The code point that a letter of the run goes to. -/
def target (run : CaseRun) (code : Nat) : Nat := ((code : Int) + run.shift).toNat

/-- No letter of the run goes into the range. -/
def misses (run : CaseRun) (first last : Nat) : Bool :=
  Nat.blt last (run.target run.first) || Nat.blt (run.target run.last) first

/-- No letter of the run goes to one of the other: all go past it, or to the places in between. -/
def avoids (run other : CaseRun) : Bool :=
  run.misses other.first other.last ||
    ((run.stride == 2 || run.first == run.last) && other.stride == 2 &&
      (run.target run.first + other.first) % 2 == 1)

/-- Where no letter may go: ranges of blanks and control characters, the ASCII capitals, the dotted
capital I and what is no character. -/
def barred : List (Nat × Nat) :=
  [(0, 0x20), (0x41, 0x5a), (0x85, 0x85), (0xa0, 0xa0), (0x130, 0x130), (0x1680, 0x1680),
   (0x2000, 0x200a), (0x2028, 0x2029), (0x202f, 0x202f), (0x205f, 0x205f), (0x3000, 0x3000),
   (0xd800, 0xdfff)]

/-- The letters of the run go to characters that are in lower case and are no blanks. -/
def settles (run : CaseRun) : Bool :=
  barred.all (fun range => run.misses range.1 range.2) &&
    Nat.blt (run.target run.last) 0x110000 && lowerRuns.all run.avoids

variable {run other : CaseRun} {code : Nat}

theorem holds_iff : run.holds code = true ↔
    run.first ≤ code ∧ code ≤ run.last ∧ (code - run.first) % run.stride = 0 := by
  simp [holds, and_assoc]

theorem target_between (h : run.holds code = true) :
    run.target run.first ≤ run.target code ∧ run.target code ≤ run.target run.last := by
  obtain ⟨hfirst, hlast, -⟩ := holds_iff.mp h
  unfold target
  omega

theorem misses_iff {first last : Nat} : run.misses first last = true ↔
    last < run.target run.first ∨ run.target run.last < first := by
  simp [misses, Nat.blt_eq]

theorem target_missed {first last : Nat} (h : run.holds code = true)
    (missed : run.misses first last = true) :
    ¬(first ≤ run.target code ∧ run.target code ≤ last) := by
  have hbetween := target_between h
  have hmissed := misses_iff.mp missed
  omega

theorem target_avoided (h : run.holds code = true) (start : 0 < run.target run.first)
    (avoided : run.avoids other = true) : other.holds (run.target code) = false := by
  apply Bool.eq_false_iff.mpr
  intro hother
  obtain ⟨hfirst, hlast, hstep⟩ := holds_iff.mp hother
  rcases Bool.or_eq_true_iff.mp avoided with missed | between
  · exact target_missed h missed ⟨hfirst, hlast⟩
  · simp only [Bool.and_eq_true, Bool.or_eq_true, beq_iff_eq] at between
    obtain ⟨⟨hrun, hstride⟩, hodd⟩ := between
    obtain ⟨hlow, hhigh, hmod⟩ := holds_iff.mp h
    rw [hstride] at hstep
    -- The run steps by two and so does the other, from places that are an odd number apart.
    have heven : (code - run.first) % 2 = 0 := by
      rcases hrun with hr | hr
      · rw [hr] at hmod
        exact hmod
      · omega
    unfold target at start hodd hfirst hstep
    omega

theorem runs_settle : lowerRuns.all settles = true := by
  decide +kernel

theorem run_settles (hrun : run ∈ lowerRuns) :
    (∀ range ∈ barred, run.misses range.1 range.2 = true) ∧
      run.target run.last < 0x110000 ∧ ∀ other ∈ lowerRuns, run.avoids other = true := by
  have h := List.all_eq_true.mp runs_settle run hrun
  simpa only [settles, Bool.and_eq_true, List.all_eq_true, Nat.blt_eq, and_assoc] using h

theorem move_code (hrun : run ∈ lowerRuns) (h : run.holds code = true) :
    (run.move code).toNat = run.target code := by
  obtain ⟨hbarred, hlast, -⟩ := run_settles hrun
  have hmissed := target_missed h (hbarred (0xd800, 0xdfff) (by decide))
  have hbetween := target_between h
  have hvalid : (run.target code).isValidChar := by
    simp only [Nat.isValidChar] at hmissed ⊢
    omega
  change (Char.ofNat (run.target code)).toNat = run.target code
  rw [Char.ofNat, dif_pos hvalid]
  rfl

theorem move_not_blank (hrun : run ∈ lowerRuns) (h : run.holds code = true) :
    isBlank (run.move code) = false := by
  have hmissed := fun range hr => target_missed h ((run_settles hrun).1 range hr)
  simp only [barred, List.forall_mem_cons] at hmissed
  simp only [isBlank, move_code hrun h, Bool.or_eq_false_iff, Bool.and_eq_false_iff,
    decide_eq_false_iff_not, beq_eq_false_iff_ne]
  omega

theorem ascii_fixed : ∀ n < 128, ¬(0x41 ≤ n ∧ n ≤ 0x5a) →
    (Char.ofNat n).toLower = Char.ofNat n := by
  decide +kernel

theorem move_lower (hrun : run ∈ lowerRuns) (h : run.holds code = true) :
    lowerChar (run.move code) = [run.move code] := by
  obtain ⟨hbarred, -, havoids⟩ := run_settles hrun
  have hcode := move_code hrun h
  by_cases hascii : (run.move code).toNat < 128
  · have hplain := target_missed h (hbarred (0x41, 0x5a) (by decide))
    rw [← hcode] at hplain
    have hfixed := ascii_fixed _ hascii hplain
    rw [Char.ofNat_toNat] at hfixed
    rw [lowerChar, if_pos hascii, hfixed]
  · have hdotted := target_missed h (hbarred (0x130, 0x130) (by decide))
    have hunmoved : lowerRuns.find? (·.holds (run.move code).toNat) = none := by
      apply List.find?_eq_none.mpr
      intro other hother
      have hstart := misses_iff.mp (hbarred (0, 0x20) (by decide))
      rw [hcode, target_avoided h (by omega) (havoids other hother)]
      exact Bool.false_ne_true
    rw [lowerChar, if_neg hascii, if_neg, moved, hunmoved]
    intro he
    rw [← hcode, he] at hdotted
    exact hdotted (by decide)

end CaseRun

/-! ### Lower case again -/

theorem lower_ascii : ∀ n < 128,
    lowerChar (Char.ofNat n).toLower = [(Char.ofNat n).toLower] ∧
      (isBlank (Char.ofNat n) = false → isBlank (Char.ofNat n).toLower = false) := by
  decide +kernel

/-- What a letter becomes is in lower case, and no blank unless the letter was one. -/
theorem lower_char_low {c d : Char} (h : d ∈ lowerChar c) :
    lowerChar d = [d] ∧ (isBlank c = false → isBlank d = false) := by
  unfold lowerChar at h
  split at h
  · have hlow := lower_ascii c.toNat ‹_›
    rw [Char.ofNat_toNat] at hlow
    rw [List.mem_singleton.mp h]
    exact hlow
  · split at h
    · next hdotted =>
      subst hdotted
      simp only [List.mem_cons, List.not_mem_nil, or_false] at h
      rcases h with rfl | rfl <;> decide +kernel
    · rw [List.mem_singleton.mp h, moved]
      split
      · next run hfind =>
        have hrun := List.mem_of_find?_eq_some hfind
        have hholds := List.find?_some hfind
        exact ⟨CaseRun.move_lower hrun hholds, fun _ => CaseRun.move_not_blank hrun hholds⟩
      · next hfind =>
        refine ⟨?_, id⟩
        rw [lowerChar, if_neg ‹_›, if_neg ‹_›, moved, hfind]

/-- Lower case of a letter where it stands. -/
theorem lower_from_cons (before : List Char) (c : Char) (rest : List Char) :
    ∃ low, lowerFrom before (c :: rest) = low ++ lowerFrom (c :: before) rest ∧ low ≠ [] ∧
      (lowerChar c = [c] → low = [c]) ∧
      ∀ d ∈ low, lowerChar d = [d] ∧ (isBlank c = false → isBlank d = false) := by
  by_cases hc : c = 'Σ'
  · subst hc
    refine ⟨_, rfl, by simp, fun he => ?_, ?_⟩
    · have hsigma : lowerChar 'Σ' ≠ ['Σ'] := by decide +kernel
      exact absurd he hsigma
    · intro d hd
      rw [if_pos rfl] at hd
      rw [List.mem_singleton.mp hd]
      split <;> decide +kernel
  · refine ⟨lowerChar c, ?_, ?_, fun he => he, fun d hd => lower_char_low hd⟩
    · rw [lowerFrom, if_neg hc]
    · unfold lowerChar
      split
      · simp
      · split <;> simp

theorem lower_from_low (chars before : List Char) :
    ∀ d ∈ lowerFrom before chars, lowerChar d = [d] := by
  induction chars generalizing before with
  | nil => exact fun _ hd => absurd hd List.not_mem_nil
  | cons c rest ih =>
    obtain ⟨low, he, -, -, hlow⟩ := lower_from_cons before c rest
    intro d hd
    rw [he] at hd
    rcases List.mem_append.mp hd with hd | hd
    · exact (hlow d hd).1
    · exact ih (c :: before) d hd

theorem lower_from_fixed {chars : List Char} (before : List Char)
    (h : ∀ c ∈ chars, lowerChar c = [c]) : lowerFrom before chars = chars := by
  induction chars generalizing before with
  | nil => rfl
  | cons c rest ih =>
    obtain ⟨low, he, -, hfixed, -⟩ := lower_from_cons before c rest
    rw [he, hfixed (h c (List.mem_cons_self ..)),
      ih (c :: before) fun d hd => h d (List.mem_cons_of_mem c hd)]
    rfl

theorem lower_lower (text : String) : lower (lower text) = lower text := by
  unfold lower
  rw [String.toList_ofList, lower_from_fixed [] (lower_from_low text.toList [])]

theorem lower_from_first {chars : List Char} (before : List Char)
    (h : ∀ c ∈ chars.head?, isBlank c = false) :
    ∀ c ∈ (lowerFrom before chars).head?, isBlank c = false := by
  cases chars with
  | nil => exact h
  | cons c rest =>
    obtain ⟨low, he, hsome, -, hlow⟩ := lower_from_cons before c rest
    intro d hd
    rw [he, List.head?_append, List.head?_eq_some_head hsome] at hd
    cases hd
    exact (hlow _ (List.head_mem hsome)).2 (h c rfl)

theorem lower_from_last {chars : List Char} (before : List Char)
    (h : ∀ c ∈ chars.getLast?, isBlank c = false) :
    ∀ c ∈ (lowerFrom before chars).getLast?, isBlank c = false := by
  induction chars generalizing before with
  | nil => exact h
  | cons c rest ih =>
    obtain ⟨low, he, -, -, hlow⟩ := lower_from_cons before c rest
    intro d hd
    rw [he, List.getLast?_append] at hd
    cases rest with
    | nil =>
      have hlast : d ∈ low.getLast? := hd
      exact (hlow d (List.mem_of_getLast? hlast)).2 (h c rfl)
    | cons e others =>
      obtain ⟨low', he', hsome', -⟩ := lower_from_cons (c :: before) e others
      apply ih (c :: before) (by simpa only [List.getLast?_cons_cons] using h) d
      rw [List.getLast?_eq_some_getLast (by simp [he', hsome'])] at hd ⊢
      exact hd

theorem trim_lower_trim (text : String) : trim (lower (trim text)) = lower (trim text) := by
  unfold lower trim
  rw [String.toList_ofList, String.toList_ofList,
    trim_chars_of_ends (lower_from_first [] (trim_chars_first _))
      (lower_from_last [] (trim_chars_last _))]

end SqlBuilder.Text

namespace SqlBuilder.ColumnType

/-- A type with rules of its own is read from its tag; any other tag in lower case is kept. -/
theorem of_lower_tag_cases (low : String) :
    ofLowerTag low = other low ∨ ofTag (ofLowerTag low).tag = ofLowerTag low := by
  unfold ofLowerTag
  split
  case h_17 => exact .inl rfl
  all_goals exact .inr (by decide +kernel)

/-- The tag of a type that was read from a tag is read as the same type. -/
theorem of_tag_tag (tag : String) : ofTag (ofTag tag).tag = ofTag tag := by
  have hlow : ofTag (Text.lower (Text.trim tag)) = ofTag tag := by
    unfold ofTag
    rw [Text.trim_lower_trim, Text.lower_lower]
  rcases of_lower_tag_cases (Text.lower (Text.trim tag)) with hother | hown
  · rw [show ofTag tag = other (Text.lower (Text.trim tag)) from hother] at hlow ⊢
    exact hlow
  · exact hown

end SqlBuilder.ColumnType

import SqlBuilder.Join.Comparison
import SqlBuilder.Proofs.Pieces

/-!
The comparisons that a text is searched for, as a grammar: a sign, or a word in any case of letters
with space on both sides. The search breaks off at one spelling of a word, with a Kelvin sign as its
third letter; in a text without that sign it finds a comparison just if the grammar has one there.
Of a text without a comparison a part has none either, but such a spelling may be left at its end,
where the letter after it was cut off.
-/

namespace SqlBuilder.Comparison

/-- The one character beyond ASCII that counts as a letter of a word. -/
def kelvin : Char := '\u212a'

/-! ### Letters -/

theorem eq_kelvin {c : Char} (h : c.toNat = 0x212a) : c = kelvin :=
  Char.toNat_inj.mp h

/-- Only the Kelvin sign takes more bytes than the letter it counts as. -/
theorem lowered_ascii {c letter : Char} (h : lowered c = letter) (ha : letter.toNat < 128) :
    c.utf8Size = 1 ∨ c = kelvin ∧ letter = 'k' := by
  unfold lowered at h
  split at h
  · rename_i hk
    exact .inr ⟨eq_kelvin hk, h.symm⟩
  · left
    rw [Char.utf8Size_eq_one_iff, UInt32.le_iff_toNat_le]
    unfold Char.toLower at h
    split at h
    · rename_i hu
      exact Nat.le_trans (UInt32.le_iff_toNat_le.mp hu.2) (by decide)
    · subst h
      exact Nat.le_of_lt_succ ha

theorem lowered_size {c letter : Char} (h : lowered c = letter) (ha : letter.toNat < 128)
    (hk : letter ≠ 'k') : c.utf8Size = 1 := by
  rcases lowered_ascii h ha with hs | ⟨-, hl⟩
  · exact hs
  · exact absurd hl hk

/-! ### The start of a word -/

theorem start_of_eq (word chars : List Char) :
    startOf word chars =
      if (chars.zip word).all (fun pair => lowered pair.1 == pair.2) &&
          word.length ≤ byteCount chars then (dropBytes? word.length chars).elim .severed .word
      else .noWord := by
  unfold startOf
  cases dropBytes? word.length chars <;> rfl

theorem start_of_nil (chars : List Char) : startOf [] chars = .word chars := by
  simp [startOf, dropBytes?]

theorem start_of_end (letter : Char) (word : List Char) :
    startOf (letter :: word) [] = .noWord := by
  simp [startOf, byteCount]

theorem start_of_ne {c letter : Char} (h : lowered c ≠ letter) (word rest : List Char) :
    startOf (letter :: word) (c :: rest) = .noWord := by
  simp [startOf, h]

theorem start_of_letter {c letter : Char} (h : lowered c = letter) (hs : c.utf8Size = 1)
    (word rest : List Char) : startOf (letter :: word) (c :: rest) = startOf word rest := by
  have hz : ((c :: rest).zip (letter :: word)).all (fun pair => lowered pair.1 == pair.2) =
      (rest.zip word).all fun pair => lowered pair.1 == pair.2 := by
    simp [h]
  have hb : byteCount (c :: rest) = byteCount rest + 1 := by rw [byteCount, hs, Nat.add_comm]
  have hd : dropBytes? (letter :: word).length (c :: rest) = dropBytes? word.length rest := by
    simp [dropBytes?, hs]
  rw [start_of_eq, start_of_eq, hz, hb, hd]
  simp only [List.length_cons, Nat.add_le_add_iff_right]

/-- A Kelvin sign ends behind the end of the word, if there is at most one letter after it. -/
theorem start_of_kelvin {word : List Char} (hw : word.length < 2) (rest : List Char) :
    startOf ('k' :: word) (kelvin :: rest) =
      if (rest.zip word).all (fun pair => lowered pair.1 == pair.2) then .severed
      else .noWord := by
  have hs : kelvin.utf8Size = 3 := rfl
  have hz : ((kelvin :: rest).zip ('k' :: word)).all (fun pair => lowered pair.1 == pair.2) =
      (rest.zip word).all fun pair => lowered pair.1 == pair.2 := rfl
  have hb : ('k' :: word).length ≤ byteCount (kelvin :: rest) := by
    rw [byteCount, hs, List.length_cons]
    omega
  have hd : dropBytes? ('k' :: word).length (kelvin :: rest) = none := by
    rw [List.length_cons, dropBytes?, hs, if_neg (by omega)]
  rw [start_of_eq, hz, hd, decide_eq_true hb, Bool.and_true]
  rfl

/-- No letter `k` has more than one letter after it. -/
def brief : List Char → Bool
  | [] => true
  | letter :: rest => (letter ≠ 'k' || rest.length < 2) && brief rest

theorem words_brief : ∀ word ∈ words,
    brief word.toList = true ∧ ∀ letter ∈ word.toList, letter.toNat < 128 := by
  decide

/-- The characters are the letters of the word, in any case. -/
structure Spells (word chars : List Char) : Prop where
  letters : chars.map lowered = word
  plain : kelvin ∉ chars

theorem start_of_word_iff {word : List Char} (hb : brief word = true)
    (ha : ∀ letter ∈ word, letter.toNat < 128) {chars rest : List Char} :
    startOf word chars = .word rest ↔ ∃ spelt, Spells word spelt ∧ chars = spelt ++ rest := by
  induction word generalizing chars with
  | nil =>
    rw [start_of_nil]
    constructor
    · intro h
      cases h
      exact ⟨[], ⟨rfl, by simp⟩, rfl⟩
    · rintro ⟨spelt, hs, rfl⟩
      rw [List.map_eq_nil_iff.mp hs.letters]
      rfl
  | cons letter word ih =>
    simp only [brief, Bool.and_eq_true] at hb
    obtain ⟨hl, hw⟩ := List.forall_mem_cons.mp ha
    constructor
    · intro h
      cases chars with
      | nil =>
        rw [start_of_end] at h
        cases h
      | cons c others =>
        by_cases hc : lowered c = letter
        · rcases lowered_ascii hc hl with hs | ⟨rfl, rfl⟩
          · rw [start_of_letter hc hs] at h
            obtain ⟨spelt, hspelt, rfl⟩ := (ih hb.2 hw).mp h
            refine ⟨c :: spelt, ⟨by simp [hc, hspelt.letters], ?_⟩, rfl⟩
            intro hm
            rcases List.mem_cons.mp hm with rfl | hm
            · cases hs
            · exact hspelt.plain hm
          · rw [start_of_kelvin (by simpa using hb.1)] at h
            split at h <;> cases h
        · rw [start_of_ne hc] at h
          cases h
    · rintro ⟨spelt, hs, rfl⟩
      cases spelt with
      | nil => cases hs.letters
      | cons c others =>
        obtain ⟨hc, hothers⟩ := List.cons.inj hs.letters
        obtain ⟨hne, hplain⟩ := List.ne_and_not_mem_of_not_mem_cons hs.plain
        rcases lowered_ascii hc hl with hsize | ⟨hkelvin, -⟩
        · rw [List.cons_append, start_of_letter hc hsize]
          exact (ih hb.2 hw).mpr ⟨others, ⟨hothers, hplain⟩, rfl⟩
        · exact absurd hkelvin.symm hne

theorem start_of_ne_severed {word : List Char} (hk : 'k' ∉ word)
    (ha : ∀ letter ∈ word, letter.toNat < 128) (chars : List Char) :
    startOf word chars ≠ .severed := by
  induction word generalizing chars with
  | nil =>
    rw [start_of_nil]
    simp
  | cons letter word ih =>
    obtain ⟨hl, hw⟩ := List.forall_mem_cons.mp ha
    obtain ⟨hne, hrest⟩ := List.ne_and_not_mem_of_not_mem_cons hk
    cases chars with
    | nil =>
      rw [start_of_end]
      simp
    | cons c others =>
      by_cases hc : lowered c = letter
      · rw [start_of_letter hc (lowered_size hc hl hne.symm)]
        exact ih hrest hw others
      · rw [start_of_ne hc]
        simp

/-- The text starts with the first three letters of `like`, of which the third is a Kelvin sign, and
ends there or goes on with the fourth. -/
def Breaks (chars : List Char) : Prop :=
  ∃ l i rest, chars = l :: i :: kelvin :: rest ∧ lowered l = 'l' ∧ lowered i = 'i' ∧
    ∀ c ∈ rest.head?, lowered c = 'e'

/-- What a word of two letters and more asks of the text, if it is found or severed there. -/
theorem start_of_two {a b : Char} {word chars : List Char} (ha : a.toNat < 128 ∧ a ≠ 'k')
    (hb : b.toNat < 128 ∧ b ≠ 'k') (h : startOf (a :: b :: word) chars ≠ .noWord) :
    ∃ c d rest, chars = c :: d :: rest ∧ lowered c = a ∧ lowered d = b ∧
      startOf (a :: b :: word) chars = startOf word rest := by
  match chars with
  | [] => exact absurd (start_of_end a (b :: word)) h
  | c :: others =>
    by_cases hc : lowered c = a
    · rw [start_of_letter hc (lowered_size hc ha.1 ha.2)] at h ⊢
      match others with
      | [] => exact absurd (start_of_end b word) h
      | d :: rest =>
        by_cases hd : lowered d = b
        · rw [start_of_letter hd (lowered_size hd hb.1 hb.2)]
          exact ⟨c, d, rest, rfl, hc, hd, rfl⟩
        · exact absurd (start_of_ne hd word rest) h
    · exact absurd (start_of_ne hc (b :: word) others) h

theorem start_of_like_severed {chars : List Char} :
    startOf "like".toList chars = .severed ↔ Breaks chars := by
  have hlike : "like".toList = 'l' :: 'i' :: ['k', 'e'] := by decide
  rw [hlike]
  constructor
  · intro h
    have hn : startOf ('l' :: 'i' :: ['k', 'e']) chars ≠ .noWord := by simp [h]
    obtain ⟨l, i, rest, rfl, hl, hi, he⟩ :=
      start_of_two ⟨by decide, by decide⟩ ⟨by decide, by decide⟩ hn
    rw [he] at h
    cases rest with
    | nil =>
      rw [start_of_end] at h
      cases h
    | cons k others =>
      by_cases hk : lowered k = 'k'
      · rcases lowered_ascii hk (by decide) with hs | ⟨rfl, -⟩
        · rw [start_of_letter hk hs] at h
          exact absurd h (start_of_ne_severed (by decide) (by decide) others)
        · rw [start_of_kelvin (by decide)] at h
          refine ⟨l, i, others, rfl, hl, hi, ?_⟩
          cases others with
          | nil => simp
          | cons c more => simpa using h
      · rw [start_of_ne hk] at h
        cases h
  · rintro ⟨l, i, rest, rfl, hl, hi, he⟩
    rw [start_of_letter hl (lowered_size hl (by decide) (by decide)),
      start_of_letter hi (lowered_size hi (by decide) (by decide)),
      start_of_kelvin (by decide), if_pos]
    cases rest with
    | nil => rfl
    | cons c others => simpa using he

/-! ### One of the words -/

/-- The first two letters of a word, which no other word has, are there. -/
theorem start_of_first_two {word : String} (hw : word ∈ words) {chars : List Char}
    (h : startOf word.toList chars ≠ .noWord) :
    (chars.take 2).map lowered = word.toList.take 2 := by
  have two : ∀ word ∈ words, ∃ a b rest, word.toList = a :: b :: rest ∧
      (a.toNat < 128 ∧ a ≠ 'k') ∧ (b.toNat < 128 ∧ b ≠ 'k') := by
    intro word hw
    simp only [words, List.mem_cons, List.not_mem_nil, or_false] at hw
    rcases hw with rfl | rfl | rfl | rfl
    all_goals exact ⟨_, _, _, rfl, by decide, by decide⟩
  obtain ⟨a, b, others, he, ha, hb⟩ := two word hw
  rw [he] at h ⊢
  obtain ⟨c, d, rest, rfl, hc, hd, -⟩ := start_of_two ha hb h
  simp [hc, hd]

theorem words_apart : ∀ x ∈ words, ∀ y ∈ words, x.toList.take 2 = y.toList.take 2 → x = y := by
  decide

/-- At most one of the words can be found, so their order does not matter. -/
theorem start_of_any_iff {chars : List Char} {start : Start} (hs : start ≠ .noWord) :
    startOfAny chars words = start ↔ ∃ word ∈ words, startOf word.toList chars = start := by
  suffices hall : ∀ some : List String, (∀ word ∈ some, word ∈ words) →
      (startOfAny chars some = start ↔ ∃ word ∈ some, startOf word.toList chars = start) from
    hall words fun _ hw => hw
  intro some hsome
  induction some with
  | nil => simpa [startOfAny] using hs.symm
  | cons word others ih =>
    obtain ⟨hword, hothers⟩ := List.forall_mem_cons.mp hsome
    have hi := ih hothers
    rw [startOfAny]
    split
    · rename_i hn
      rw [hi]
      simp [hn, hs.symm]
    · rename_i hn
      constructor
      · intro h
        exact ⟨word, List.mem_cons_self .., h⟩
      · rintro ⟨other, hm, ho⟩
        rcases List.mem_cons.mp hm with rfl | hm
        · exact ho
        · have hne : startOf other.toList chars ≠ .noWord := by rw [ho]; exact hs
          have hsame := (start_of_first_two hword hn).symm.trans
            (start_of_first_two (hothers other hm) hne)
          rw [words_apart word hword other (hothers other hm) hsame]
          exact ho

theorem any_word_iff {chars rest : List Char} :
    startOfAny chars words = .word rest ↔
      ∃ word ∈ words, ∃ spelt, Spells word.toList spelt ∧ chars = spelt ++ rest := by
  rw [start_of_any_iff (by simp)]
  constructor
  · rintro ⟨word, hw, h⟩
    obtain ⟨hb, ha⟩ := words_brief word hw
    exact ⟨word, hw, (start_of_word_iff hb ha).mp h⟩
  · rintro ⟨word, hw, h⟩
    obtain ⟨hb, ha⟩ := words_brief word hw
    exact ⟨word, hw, (start_of_word_iff hb ha).mpr h⟩

theorem any_severed_iff {chars : List Char} :
    startOfAny chars words = .severed ↔ Breaks chars := by
  rw [start_of_any_iff (by simp), ← start_of_like_severed]
  constructor
  · rintro ⟨word, hw, h⟩
    have hothers : ∀ word ∈ words, word ≠ "like" →
        'k' ∉ word.toList ∧ ∀ letter ∈ word.toList, letter.toNat < 128 := by
      decide
    by_cases hl : word = "like"
    · rw [← hl]
      exact h
    · obtain ⟨hk, ha⟩ := hothers word hw hl
      exact absurd h (start_of_ne_severed hk ha chars)
  · intro h
    exact ⟨"like", by decide, h⟩

/-! ### A word behind space -/

/-- One or more spaces before something that starts with none. -/
structure Spaced (spaces rest : List Char) : Prop where
  some_space : spaces ≠ []
  each : ∀ c ∈ spaces, isSpace c = true
  apart : ∀ c ∈ rest.head?, isSpace c = false

theorem letter_not_space {c letter : Char} (h : lowered c = letter)
    (hl : letter ∈ ['l', 'b', 'i']) : isSpace c = false := by
  have hall : ∀ c ∈ [' ', '\t', '\r', '\n'], lowered c ∉ ['l', 'b', 'i'] := by decide
  apply Bool.eq_false_iff.mpr
  intro hs
  have hm : c ∈ [' ', '\t', '\r', '\n'] := by simpa [isSpace, or_assoc] using hs
  exact hall c hm (h ▸ hl)

theorem Spells.apart {word : String} (hw : word ∈ words) {spelt rest : List Char}
    (h : Spells word.toList spelt) : ∀ c ∈ (spelt ++ rest).head?, isSpace c = false := by
  have hheads : ∀ word ∈ words, word.toList.head? ∈ ['l', 'b', 'i'].map some := by decide
  obtain ⟨letter, hl, hh⟩ := List.mem_map.mp (hheads word hw)
  rw [← h.letters, List.head?_map] at hh
  obtain ⟨c, hc, he⟩ := Option.map_eq_some_iff.mp hh.symm
  intro d hd
  rw [List.head?_append, hc] at hd
  cases hd
  exact letter_not_space he hl

theorem Breaks.apart {chars : List Char} (h : Breaks chars) :
    ∀ c ∈ chars.head?, isSpace c = false := by
  obtain ⟨l, i, rest, rfl, hl, -⟩ := h
  intro c hc
  cases hc
  exact letter_not_space hl (by decide)

/-- What is found where space comes before the start. -/
def Start.finding : Start → Finding
  | word rest => if rest.head?.any isSpace then .present else .absent
  | noWord => .absent
  | severed => .severed

theorem find_word_spaced {spaces rest : List Char} (h : Spaced spaces rest) :
    findWord (spaces ++ rest) = (startOfAny rest words).finding := by
  have hd : (spaces ++ rest).dropWhile isSpace = rest := by
    rw [List.dropWhile_append_of_pos h.each]
    cases rest with
    | nil => rfl
    | cons c others => rw [List.dropWhile_cons_of_neg (by simp [h.apart c rfl])]
  have hh : (spaces ++ rest).head?.any isSpace = true := by
    cases hspaces : spaces with
    | nil => exact absurd hspaces h.some_space
    | cons c others => simpa using h.each c (by simp [hspaces])
  rw [findWord, if_pos hh, hd]
  rfl

theorem spaced_of_find_word {chars : List Char} (h : findWord chars ≠ .absent) :
    ∃ spaces rest, Spaced spaces rest ∧ chars = spaces ++ rest := by
  have hh : chars.head?.any isSpace = true := by
    apply Decidable.byContradiction
    intro hn
    exact h (by rw [findWord, if_neg hn])
  refine ⟨chars.takeWhile isSpace, chars.dropWhile isSpace, ⟨?_, ?_, ?_⟩,
    List.takeWhile_append_dropWhile.symm⟩
  · cases chars with
    | nil => cases hh
    | cons c rest =>
      have hc : isSpace c = true := by simpa using hh
      simp [hc]
  · exact List.all_eq_true.mp List.all_takeWhile
  · intro c hc
    have hnot := List.head?_dropWhile_not isSpace chars
    rw [hc] at hnot
    exact hnot

/-- A word with space before and after it. -/
theorem find_word_present_iff {chars : List Char} :
    findWord chars = .present ↔ ∃ spaces word spelt space rest, spaces ≠ [] ∧
      (∀ c ∈ spaces, isSpace c = true) ∧ word ∈ words ∧ Spells word.toList spelt ∧
      isSpace space = true ∧ chars = spaces ++ spelt ++ space :: rest := by
  constructor
  · intro h
    have ha : findWord chars ≠ .absent := by simp [h]
    obtain ⟨spaces, others, hs, rfl⟩ := spaced_of_find_word ha
    rw [find_word_spaced hs] at h
    unfold Start.finding at h
    split at h
    · rename_i rest hw
      split at h
      · rename_i hr
        obtain ⟨word, hword, spelt, hspelt, rfl⟩ := any_word_iff.mp hw
        cases rest with
        | nil => cases hr
        | cons space rest =>
          exact ⟨spaces, word, spelt, space, rest, hs.some_space, hs.each, hword, hspelt,
            by simpa using hr, by simp⟩
      · cases h
    · cases h
    · cases h
  · rintro ⟨spaces, word, spelt, space, rest, hn, hs, hword, hspelt, hspace, rfl⟩
    rw [List.append_assoc, find_word_spaced ⟨hn, hs, hspelt.apart hword⟩,
      any_word_iff.mpr ⟨word, hword, spelt, hspelt, rfl⟩]
    simp [Start.finding, hspace]

theorem find_word_severed_iff {chars : List Char} :
    findWord chars = .severed ↔ ∃ spaces rest, spaces ≠ [] ∧
      (∀ c ∈ spaces, isSpace c = true) ∧ Breaks rest ∧ chars = spaces ++ rest := by
  constructor
  · intro h
    have ha : findWord chars ≠ .absent := by simp [h]
    obtain ⟨spaces, rest, hs, rfl⟩ := spaced_of_find_word ha
    rw [find_word_spaced hs] at h
    refine ⟨spaces, rest, hs.some_space, hs.each, any_severed_iff.mp ?_, rfl⟩
    unfold Start.finding at h
    split at h
    · split at h <;> cases h
    · cases h
    · rename_i hsevered
      exact hsevered
  · rintro ⟨spaces, rest, hn, hs, hb, rfl⟩
    rw [find_word_spaced ⟨hn, hs, hb.apart⟩, any_severed_iff.mpr hb]
    rfl

/-! ### A text and its parts -/

theorem find_cons_absent {c : Char} {rest : List Char} :
    find (c :: rest) = .absent ↔
      startsSign (c :: rest) = false ∧ findWord (c :: rest) = .absent ∧ find rest = .absent := by
  rw [find]
  split
  · rename_i hs
    simp [hs]
  · rename_i hs
    rw [Bool.not_eq_true] at hs
    split
    · rename_i hw
      simp [hs, hw]
    · rename_i hw
      constructor
      · intro h
        exact absurd h hw
      · intro h
        exact absurd h.2.1 hw

/-- The rear part of a text without a comparison has none. -/
theorem find_absent_rear {front rear : List Char} (h : find (front ++ rear) = .absent) :
    find rear = .absent := by
  induction front with
  | nil => exact h
  | cons c rest ih => exact ih (find_cons_absent.mp h).2.2

theorem starts_sign_iff {chars : List Char} :
    startsSign chars = true ↔ (∃ c ∈ chars.head?, c = '=' ∨ c = '<' ∨ c = '>') ∨
      chars.take 2 = ['!', '='] := by
  unfold startsSign
  split
  · simp
  · rename_i c rest hn
    cases rest with
    | nil => simp [or_assoc]
    | cons d others =>
      have hne : ¬(c = '!' ∧ d = '=') := by
        rintro ⟨rfl, rfl⟩
        exact hn others rfl rfl
      simp [or_assoc, hne]
  · simp

theorem starts_sign_append {front : List Char} (rear : List Char)
    (h : startsSign front = true) : startsSign (front ++ rear) = true := by
  rw [starts_sign_iff] at h ⊢
  rcases h with ⟨c, hc, hs⟩ | htwo
  · refine .inl ⟨c, ?_, hs⟩
    rw [Option.mem_def] at hc ⊢
    rw [List.head?_append, hc]
    rfl
  · right
    have hl := congrArg List.length htwo
    rw [List.length_take] at hl
    rw [List.take_append_of_le_length (by simp at hl; omega), htwo]

/-- The text ends with space and the first three letters of `like`, the third a Kelvin sign. -/
def Cut (chars : List Char) : Prop :=
  ∃ front space l i, chars = front ++ [space, l, i, kelvin] ∧ isSpace space = true ∧
    lowered l = 'l' ∧ lowered i = 'i'

theorem Cut.find_ne {chars : List Char} (h : Cut chars) : find chars ≠ .absent := by
  obtain ⟨front, space, l, i, rfl, hs, hl, hi⟩ := h
  intro ha
  have hw := (find_cons_absent.mp (find_absent_rear ha)).2.1
  have hsevered : findWord [space, l, i, kelvin] = .severed := by
    refine find_word_severed_iff.mpr ⟨[space], [l, i, kelvin], by simp, by simpa using hs, ?_, rfl⟩
    exact ⟨l, i, [], rfl, hl, hi, by simp⟩
  rw [hw] at hsevered
  cases hsevered

/-- A spelling that breaks off the search in the front part alone ends there. -/
theorem cut_of_severed {front rear : List Char} (hf : findWord front = .severed)
    (ha : findWord (front ++ rear) = .absent) : Cut front := by
  obtain ⟨spaces, others, hn, hs, ⟨l, i, rest, rfl, hl, hi, he⟩, rfl⟩ :=
    find_word_severed_iff.mp hf
  cases rest with
  | nil =>
    obtain ⟨others, space, hspaces⟩ := List.eq_nil_or_concat spaces |>.resolve_left hn
    refine ⟨others, space, l, i, by simp [hspaces], hs space (by simp [hspaces]), hl, hi⟩
  | cons c more =>
    have hsevered : findWord (spaces ++ l :: i :: kelvin :: c :: more ++ rear) = .severed := by
      refine find_word_severed_iff.mpr ⟨spaces, l :: i :: kelvin :: c :: (more ++ rear), hn, hs, ?_,
        by simp⟩
      exact ⟨l, i, c :: (more ++ rear), rfl, hl, hi, by simpa using he⟩
    rw [ha] at hsevered
    cases hsevered

theorem find_word_present_append {front : List Char} (rear : List Char)
    (h : findWord front = .present) : findWord (front ++ rear) = .present := by
  obtain ⟨spaces, word, spelt, space, rest, hn, hs, hword, hspelt, hspace, rfl⟩ :=
    find_word_present_iff.mp h
  exact find_word_present_iff.mpr
    ⟨spaces, word, spelt, space, rest ++ rear, hn, hs, hword, hspelt, hspace, by simp⟩

/-- The front part of a text without a comparison has none, unless the search breaks off at its
end. -/
theorem find_absent_front {front rear : List Char} (h : find (front ++ rear) = .absent) :
    find front = .absent ∨ find front = .severed ∧ Cut front := by
  induction front with
  | nil => exact .inl rfl
  | cons c rest ih =>
    rw [List.cons_append] at h
    obtain ⟨hsign, hword, hrest⟩ := find_cons_absent.mp h
    have hs : ¬startsSign (c :: rest) = true := by
      intro ht
      rw [← List.cons_append, starts_sign_append rear ht] at hsign
      cases hsign
    cases hw : findWord (c :: rest) with
    | present =>
      rw [← List.cons_append, find_word_present_append rear hw] at hword
      cases hword
    | severed =>
      have hfind : find (c :: rest) = .severed := by rw [find, if_neg hs, hw]
      exact .inr ⟨hfind, cut_of_severed hw hword⟩
    | absent =>
      have hfind : find (c :: rest) = find rest := by rw [find, if_neg hs, hw]
      rw [hfind]
      rcases ih hrest with hr | ⟨hr, front, space, l, i, rfl, hcut⟩
      · exact .inl hr
      · exact .inr ⟨hr, c :: front, space, l, i, rfl, hcut⟩

/-! ### Texts with a comparison -/

/-- One or more spaces, tabs, carriage returns or line feeds. -/
structure Blanks (chars : List Char) : Prop where
  some_blank : chars ≠ []
  each : ∀ c ∈ chars, c ∈ [' ', '\t', '\r', '\n']

/-- A word of comparison in any case of ASCII letters. -/
def Keyword (chars : List Char) : Prop :=
  ∃ word ∈ ["LIKE", "BETWEEN", "IS", "IN"],
    chars.map Char.toLower = word.toList.map Char.toLower

/-- One of the signs stands in the text, or a word between blanks. -/
inductive Compares (chars : List Char) : Prop where
  | sign (c : Char) (found : c ∈ chars) (sign : c ∈ ['=', '<', '>'])
  | word (a before word after b : List Char) (split : chars = a ++ before ++ word ++ after ++ b)
      (before_blank : Blanks before) (keyword : Keyword word) (after_blank : Blanks after)

theorem is_space_iff {c : Char} : isSpace c = true ↔ c ∈ [' ', '\t', '\r', '\n'] := by
  simp [isSpace, or_assoc]

/-- Away from the Kelvin sign a letter is lowered as in ASCII. -/
theorem lowered_plain {chars : List Char} (h : kelvin ∉ chars) :
    chars.map lowered = chars.map Char.toLower := by
  refine List.map_congr_left fun c hc => ?_
  unfold lowered
  rw [if_neg]
  intro hk
  exact h (eq_kelvin hk ▸ hc)

theorem keyword_iff_spells {chars : List Char} (h : kelvin ∉ chars) :
    Keyword chars ↔ ∃ word ∈ words, Spells word.toList chars := by
  have hwords : words.map String.toList =
      ["LIKE", "BETWEEN", "IS", "IN"].map fun word => word.toList.map Char.toLower := by
    decide
  constructor
  · rintro ⟨word, hw, he⟩
    have hm : chars.map Char.toLower ∈ words.map String.toList := by
      rw [hwords]
      exact List.mem_map.mpr ⟨word, hw, he.symm⟩
    obtain ⟨lower, hl, hs⟩ := List.mem_map.mp hm
    exact ⟨lower, hl, ⟨(lowered_plain h).trans hs.symm, h⟩⟩
  · rintro ⟨lower, hl, hs⟩
    have hm : lower.toList ∈ words.map String.toList := List.mem_map.mpr ⟨lower, hl, rfl⟩
    rw [hwords] at hm
    obtain ⟨word, hw, he⟩ := List.mem_map.mp hm
    refine ⟨word, hw, ?_⟩
    rw [← lowered_plain h, hs.letters, he]

theorem find_word_plain {chars : List Char} (h : kelvin ∉ chars) : findWord chars ≠ .severed := by
  intro hs
  obtain ⟨spaces, rest, -, -, ⟨l, i, others, rfl, -⟩, rfl⟩ := find_word_severed_iff.mp hs
  exact h (by simp)

/-- The search goes on over the whole text, so it finds what starts anywhere. -/
theorem find_present_iff {chars : List Char} (h : kelvin ∉ chars) :
    find chars = .present ↔ ∃ front rear, chars = front ++ rear ∧
      (startsSign rear = true ∨ findWord rear = .present) := by
  induction chars with
  | nil =>
    constructor
    · intro hf
      cases hf
    · rintro ⟨front, rear, he, hr⟩
      obtain ⟨-, rfl⟩ := List.append_eq_nil_iff.mp he.symm
      rcases hr with hs | hw
      · cases hs
      · cases hw
  | cons c rest ih =>
    have hstep : find (c :: rest) = .present ↔
        (startsSign (c :: rest) = true ∨ findWord (c :: rest) = .present) ∨
          find rest = .present := by
      rw [find]
      by_cases hs : startsSign (c :: rest) = true
      · simp [hs]
      · rw [if_neg hs]
        cases hw : findWord (c :: rest) with
        | present => simp
        | absent => simp [hs]
        | severed => exact absurd hw (find_word_plain h)
    rw [hstep, ih (List.not_mem_of_not_mem_cons h)]
    constructor
    · rintro (hhere | ⟨front, rear, rfl, hr⟩)
      · exact ⟨[], c :: rest, rfl, hhere⟩
      · exact ⟨c :: front, rear, rfl, hr⟩
    · rintro ⟨front, rear, he, hr⟩
      cases front with
      | nil =>
        left
        rw [he]
        exact hr
      | cons d front =>
        obtain ⟨rfl, rfl⟩ := List.cons.inj he
        exact .inr ⟨front, rear, rfl, hr⟩

theorem find_plain {chars : List Char} (h : kelvin ∉ chars) : find chars ≠ .severed := by
  induction chars with
  | nil => simp [find]
  | cons c rest ih =>
    rw [find]
    split
    · simp
    · split
      · exact ih (List.not_mem_of_not_mem_cons h)
      · exact find_word_plain h

theorem compares_of_sign {chars : List Char} (h : startsSign chars = true) : Compares chars := by
  rcases starts_sign_iff.mp h with ⟨c, hc, hs⟩ | htwo
  · exact .sign c (List.mem_of_mem_head? hc) (by simpa using hs)
  · have hm : '=' ∈ chars.take 2 := by simp [htwo]
    exact .sign '=' (List.mem_of_mem_take hm) (by simp)

theorem compares_of_word {chars : List Char} (h : findWord chars = .present) : Compares chars := by
  obtain ⟨spaces, word, spelt, space, rest, hn, hs, hword, hspelt, hspace, rfl⟩ :=
    find_word_present_iff.mp h
  refine .word [] spaces spelt [space] rest (by simp) ⟨hn, ?_⟩ ?_ ⟨by simp, ?_⟩
  · exact fun c hc => is_space_iff.mp (hs c hc)
  · exact (keyword_iff_spells hspelt.plain).mpr ⟨word, hword, hspelt⟩
  · simpa using is_space_iff.mp hspace

theorem Compares.prepend {rear : List Char} (front : List Char) (h : Compares rear) :
    Compares (front ++ rear) := by
  cases h with
  | sign c found sign => exact .sign c (List.mem_append_right front found) sign
  | word a before word after b split before_blank keyword after_blank =>
    exact .word (front ++ a) before word after b (by simp [split]) before_blank keyword after_blank

/-- Where the grammar has a comparison, the search meets one. -/
theorem Compares.starts {chars : List Char} (h : Compares chars) (hk : kelvin ∉ chars) :
    ∃ front rear, chars = front ++ rear ∧
      (startsSign rear = true ∨ findWord rear = .present) := by
  cases h with
  | sign c found sign =>
    obtain ⟨front, rest, rfl⟩ := List.append_of_mem found
    refine ⟨front, c :: rest, rfl, .inl ?_⟩
    exact starts_sign_iff.mpr (.inl ⟨c, rfl, by simpa using sign⟩)
  | word a before word after b split before_blank keyword after_blank =>
    have hplain : kelvin ∉ word := by
      intro hm
      exact hk (by simp [split, hm])
    obtain ⟨lower, hl, hspelt⟩ := (keyword_iff_spells hplain).mp keyword
    cases after with
    | nil => exact absurd rfl after_blank.some_blank
    | cons space others =>
      refine ⟨a, before ++ word ++ space :: (others ++ b), by simp [split], .inr ?_⟩
      refine find_word_present_iff.mpr ⟨before, lower, word, space, others ++ b,
        before_blank.some_blank, ?_, hl, hspelt, ?_, rfl⟩
      · exact fun c hc => is_space_iff.mpr (before_blank.each c hc)
      · exact is_space_iff.mpr (after_blank.each space (List.mem_cons_self ..))

/-- In a text without the Kelvin sign a comparison is found just if the grammar has one there. -/
theorem found_iff_compares (text : String) (h : kelvin ∉ text.toList) :
    (find text.toList = .present ↔ Compares text.toList) ∧
      (find text.toList = .absent ↔ ¬Compares text.toList) := by
  have hpresent : find text.toList = .present ↔ Compares text.toList := by
    rw [find_present_iff h]
    constructor
    · rintro ⟨front, rear, he, hs | hw⟩
      · rw [he]
        exact (compares_of_sign hs).prepend front
      · rw [he]
        exact (compares_of_word hw).prepend front
    · intro hc
      exact hc.starts h
  refine ⟨hpresent, ?_⟩
  rw [← hpresent]
  cases hf : find text.toList with
  | present => simp
  | absent => simp
  | severed => exact absurd hf (find_plain h)

theorem found_iff_compares_spelt :
    Compares "näme\t lIkE\n'a%'".toList ∧ Compares "a!=b".toList ∧
      ¬Compares "deleted IS".toList ∧ ¬Compares "x island y".toList := by
  refine ⟨?_, ?_, ?_, ?_⟩
  · exact (found_iff_compares _ (by decide)).1.mp (by decide)
  · exact (found_iff_compares _ (by decide)).1.mp (by decide)
  · exact (found_iff_compares _ (by decide)).2.mp (by decide)
  · exact (found_iff_compares _ (by decide)).2.mp (by decide)

end SqlBuilder.Comparison

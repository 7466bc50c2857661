import SqlBuilder.Proofs.ClauseReading

/-!
A compiled text read back as the tree of its conditions: without the predicates that every row
passes and the groups that nothing is left of, and with the operators that were given. A dotless i
in an operator is the one thing that gets lost.
-/

namespace SqlBuilder

/-! ### What conditions read as -/

def Value.operand? (value : Value) : Option Operand := value.literal?.map Literal.operand

/-- A column as the scope writes it. -/
def Scope.written (scope : Scope) (column : String) : String := (scope.resolve column).name.text

/-- What a predicate reads as by the operator that was given. Nothing is in an empty list, and a
test that every row passes reads as nothing. -/
def Predicate.readings? (scope : Scope) (p : Predicate) : Option (List Reading) :=
  let operator := p.givenOperator scope.filtering
  if operator = "MATCH" then do
    return [.search (p.column.names.map scope.written) (← p.value.operand?)]
  else if operator = "BETWEEN" then
    match p.column, p.value with
    | .one column, .list [low, high] => do
      return [.between (scope.written column) (← low.operand?) (← high.operand?)]
    | _, _ => none
  else if operator = "IN" ∨ operator = "NOT IN" then
    match p.column, p.value with
    | _, .list [] => some (if operator = "IN" then [.never] else [])
    | .one column, .list items => do
      return [.member (scope.written column) operator (← items.mapM Value.operand?)]
    | _, _ => none
  else
    match p.column with
    | .one column => do return [.compare (scope.written column) operator (← p.value.operand?)]
    | .many _ => none

namespace Condition

mutual

/-- What a condition reads as. A group that nothing is left of is left out. -/
def readings? (scope : Scope) : Condition → Option (List Reading)
  | predicate p => p.readings? scope
  | raw _ => none
  | group glue children => do
    let inner ← readingsAll? scope children
    if inner.isEmpty then return [] else return [.group (← glue.terms? inner)]

def readingsAll? (scope : Scope) : List Condition → Option (List Reading)
  | [] => some []
  | condition :: rest => do return (← readings? scope condition) ++ (← readingsAll? scope rest)

end

/-- The tree of conditions, without what is left out. -/
def terms? (scope : Scope) (conditions : List Condition) : Option (List (List Reading)) := do
  scope.glue.terms? (← readingsAll? scope conditions)

/-- Predicates like that, grouped by `AND` and `OR`. -/
inductive Built (holds : Predicate → Prop) : Condition → Prop where
  | predicate {p : Predicate} (h : holds p) : Built holds (.predicate p)
  | group {glue : Glue} {children : List Condition} (connective : glue ≠ .comma)
      (each : ∀ c ∈ children, Built holds c) : Built holds (.group glue children)

theorem built_predicate {holds : Predicate → Prop} {p : Predicate} :
    (Condition.predicate p).Built holds ↔ holds p :=
  ⟨fun | .predicate h => h, .predicate⟩

theorem built_group {holds : Predicate → Prop} {glue : Glue} {children : List Condition} :
    (Condition.group glue children).Built holds ↔
      glue ≠ .comma ∧ ∀ c ∈ children, c.Built holds :=
  ⟨fun | .group connective each => ⟨connective, each⟩, fun h => .group h.1 h.2⟩

theorem Built.raw_free {holds : Predicate → Prop} {c : Condition} (h : c.Built holds) :
    c.RawFree := by
  induction h with
  | predicate _ => exact .predicate _
  | group connective each ih => exact .group _ _ ih

theorem Built.imp {holds holds' : Predicate → Prop} {c : Condition}
    (himp : ∀ p, holds p → holds' p) (h : c.Built holds) : c.Built holds' := by
  induction h with
  | predicate h => exact .predicate (himp _ h)
  | group connective each ih => exact .group connective ih

theorem Built.imp_each {holds holds' other : Predicate → Prop} {c : Condition} (hb : c.Built holds)
    (he : c.Each holds') (himp : ∀ p, holds p → holds' p → other p) : c.Built other := by
  induction hb with
  | predicate h =>
    cases he with
    | predicate h' => exact .predicate (himp _ h h')
  | group connective each ih =>
    cases he with
    | group each' => exact .group connective fun c hc => ih c hc (each' c hc)

end Condition

/-- A comparison by an operator that is not among the usual ones. -/
def Reading.Odd (reading : Reading) : Prop :=
  ∃ column operator value, reading = .compare column operator value ∧
    operator ∉ Predicate.comparisons

theorem Predicate.readings_usual {scope : Scope} {p : Predicate} (hu : p.Usual)
    {readings : List Reading} (h : p.readings? scope = some readings) :
    ∀ leaf ∈ Reading.testsAll readings, ¬leaf.Odd := by
  unfold readings? at h
  dsimp only at h
  split at h
  · obtain ⟨value, _, h⟩ := Option.bind_eq_some_iff.mp h
    cases h
    simp [Reading.testsAll, Reading.tests, Reading.Odd]
  · rename_i hsearch
    split at h
    · split at h
      · obtain ⟨low, _, h⟩ := Option.bind_eq_some_iff.mp h
        obtain ⟨high, _, h⟩ := Option.bind_eq_some_iff.mp h
        cases h
        simp [Reading.testsAll, Reading.tests, Reading.Odd]
      · cases h
    · rename_i hbetween
      split at h
      · split at h
        · cases h
          split <;> simp [Reading.testsAll, Reading.tests]
        · obtain ⟨items, _, h⟩ := Option.bind_eq_some_iff.mp h
          cases h
          simp [Reading.testsAll, Reading.tests, Reading.Odd]
        · cases h
      · rename_i hlisting
        split at h
        · obtain ⟨value, _, h⟩ := Option.bind_eq_some_iff.mp h
          cases h
          have hform : p.givenOperator scope.filtering ∉ forms := by
            simp only [not_or] at hlisting
            simp [forms, hsearch, hbetween, hlisting]
          have husual := (List.mem_append.mp (given_usual hu scope.filtering)).resolve_right hform
          simp [Reading.testsAll, Reading.tests, Reading.Odd, husual]
        · cases h

namespace Condition

variable {scope : Scope}

theorem readings_all_usual {conditions : List Condition} {readings : List Reading}
    (each : ∀ c ∈ conditions, ∀ first, c.readings? scope = some first →
      ∀ leaf ∈ Reading.testsAll first, ¬leaf.Odd)
    (h : readingsAll? scope conditions = some readings) :
    ∀ leaf ∈ Reading.testsAll readings, ¬leaf.Odd := by
  induction conditions generalizing readings with
  | nil =>
    cases h
    simp [Reading.testsAll]
  | cons condition rest ih =>
    rw [readingsAll?] at h
    obtain ⟨first, hf, h⟩ := Option.bind_eq_some_iff.mp h
    obtain ⟨others, ho, h⟩ := Option.bind_eq_some_iff.mp h
    cases h
    rw [Reading.tests_append]
    exact List.forall_mem_append.mpr ⟨each condition (List.mem_cons_self ..) first hf,
      ih (fun c hc => each c (List.mem_cons_of_mem _ hc)) ho⟩

/-- The tree of usual conditions has usual comparisons. -/
theorem Built.readings_usual {c : Condition} (hb : c.Built Predicate.Usual)
    (readings : List Reading) (h : c.readings? scope = some readings) :
    ∀ leaf ∈ Reading.testsAll readings, ¬leaf.Odd := by
  induction hb generalizing readings with
  | predicate hu => exact Predicate.readings_usual hu h
  | group connective each ih =>
    rw [readings?] at h
    obtain ⟨inner, hi, h⟩ := Option.bind_eq_some_iff.mp h
    have hinner := readings_all_usual ih hi
    split at h
    · cases h
      simp [Reading.testsAll]
    · obtain ⟨terms, ht, h⟩ := Option.bind_eq_some_iff.mp h
      cases h
      simpa [Reading.testsAll, Reading.tests, Reading.tests_terms ht] using hinner

end Condition

/-! ### Readings of an outline -/

theorem literals_ne_nil {items : List Value} {literals : List Literal} (hn : items ≠ [])
    (h : items.mapM Value.literal? = some literals) : literals ≠ [] := by
  cases items with
  | nil => exact absurd rfl hn
  | cons item rest =>
    rw [List.mapM_cons] at h
    obtain ⟨first, _, h⟩ := Option.bind_eq_some_iff.mp h
    obtain ⟨others, _, h⟩ := Option.bind_eq_some_iff.mp h
    cases h
    simp

theorem operands_of_literals {items : List Value} {literals : List Literal}
    (h : items.mapM Value.literal? = some literals) :
    items.mapM Value.operand? = some (literals.map Literal.operand) := by
  induction items generalizing literals with
  | nil =>
    cases h
    rfl
  | cons item rest ih =>
    rw [List.mapM_cons] at h
    obtain ⟨first, hf, h⟩ := Option.bind_eq_some_iff.mp h
    obtain ⟨others, ho, h⟩ := Option.bind_eq_some_iff.mp h
    cases h
    simp [List.mapM_cons, Value.operand?, hf, ih ho]

namespace Predicate

open Reading (WellSpelled)

variable {known : List String} {scope : Scope} {p : Predicate} {out : List Clause}

theorem outlined_legible (hs : WellSpelled (p.effectiveOperator scope.filtering))
    (h : Outlined scope p out) : ∀ c ∈ out, c.Legible := by
  cases h with
  | search operator named literal => simpa using Clause.Legible.search (by simpa using named)
  | between on operator bounds lowest highest => simpa using Clause.Legible.between
  | never operator nothing => simpa using Clause.Legible.never
  | vacuous operator nothing => simp
  | member on effective listing members some_item each =>
    simpa using Clause.Legible.member listing (literals_ne_nil some_item each)
  | compare on effective ordinary literal =>
    subst effective
    simpa using Clause.Legible.compare hs (fun hm => ordinary (List.mem_cons_of_mem _ hm))

theorem spelled_comparisons : ∀ operator ∈ comparisons ++ forms, WellSpelled operator := by decide

theorem spelled_thinned : ∀ operator ∈ usualOperators, ∀ chars ∈ thinned operator.toList,
    WellSpelled (String.ofList chars) := by decide

/-- What a usual operator is written as can be read, be it known or not. -/
theorem Usual.spelled (h : p.Usual) (filtering : Bool) :
    WellSpelled (p.effectiveOperator filtering) := by
  by_cases hd : p.Dotted
  · rw [effective_dotted h hd]
    exact spelled_comparisons _ (given_usual h filtering)
  · have hs := spelled_thinned _ h _ (written_dotless h hd)
    rwa [(effective_dotless h hd filtering).1, ← p.writtenOperator.ofList_toList]

/-- The operator that the text shows is known. -/
def Known (known : List String) (filtering : Bool) (p : Predicate) : Prop :=
  p.effectiveOperator filtering ∈ known ++ forms

theorem Usual.known_dotted (h : p.Usual) (hd : p.Dotted) (filtering : Bool) :
    p.Known comparisons filtering := by
  rw [Known, effective_dotted h hd]
  exact given_usual h filtering

theorem Known.mono {more : List String} {filtering : Bool} (h : p.Known known filtering)
    (hk : ∀ operator ∈ known, operator ∈ more) : p.Known more filtering :=
  (List.mem_append.mp h).elim (fun hm => List.mem_append_left _ (hk _ hm))
    (fun hm => List.mem_append_right _ hm)

theorem outlined_known (hk : p.Known known scope.filtering) (h : Outlined scope p out) :
    ∃ readings, Clause.readings? known out = some readings := by
  cases h with
  | search operator named literal => exact ⟨_, rfl⟩
  | between on operator bounds lowest highest => exact ⟨_, rfl⟩
  | never operator nothing => exact ⟨_, rfl⟩
  | vacuous operator nothing => exact ⟨_, rfl⟩
  | member on effective listing members some_item each => exact ⟨_, rfl⟩
  | compare on effective ordinary literal =>
    subst effective
    have hknown : p.effectiveOperator scope.filtering ∈ known :=
      (List.mem_append.mp hk).resolve_right ordinary
    simp [Clause.readings?, Clause.reading?, hknown]

theorem outlined_odd (hu : p.Usual) (hd : ¬p.Dotted) (h : Outlined scope p out)
    {readings : List Reading} (hr : Clause.readings? known out = some readings) :
    ∃ leaf ∈ Reading.testsAll readings, leaf.Odd := by
  obtain ⟨he, hw⟩ := effective_dotless hu hd scope.filtering
  rw [← he] at hw
  have hform {operator : String} (ho : p.effectiveOperator scope.filtering = operator) :
      operator ∉ forms := fun hf => hw (List.mem_append_right _ (ho ▸ hf))
  cases h with
  | search operator named literal => exact absurd (by decide) (hform operator)
  | between on operator bounds lowest highest => exact absurd (by decide) (hform operator)
  | never operator nothing => exact absurd (by decide) (hform operator)
  | vacuous operator nothing => exact absurd (by decide) (hform operator)
  | member on effective listing members some_item each =>
    rcases listing with rfl | rfl <;> exact absurd (by decide) (hform effective)
  | compare on effective ordinary literal =>
    subst effective
    simp only [Clause.readings?, Clause.reading?] at hr
    split at hr
    · cases hr
      exact ⟨_, List.mem_singleton_self _, _, _, _, rfl,
        fun hm => hw (List.mem_append_left _ hm)⟩
    · cases hr

/-- Where the text shows the operator that was given, it shows the predicate. -/
theorem outlined_given
    (hg : p.effectiveOperator scope.filtering = p.givenOperator scope.filtering)
    (h : Outlined scope p out) {readings : List Reading}
    (hr : Clause.readings? known out = some readings) : p.readings? scope = some readings := by
  cases h with
  | search operator named literal =>
    cases hr
    simp [readings?, hg ▸ operator, Value.operand?, literal, Scope.written]
  | between on operator bounds lowest highest =>
    cases hr
    simp [readings?, hg ▸ operator, on, bounds, Value.operand?, lowest, highest, Scope.written]
  | never operator nothing =>
    cases hr
    simp [readings?, hg ▸ operator, nothing]
  | vacuous operator nothing =>
    cases hr
    simp [readings?, hg ▸ operator, nothing]
  | @member column operator items literals on effective listing members some_item each =>
    cases hr
    obtain ⟨item, others, rfl⟩ := List.exists_cons_of_ne_nil some_item
    have hg := hg.symm.trans effective
    have hoperands := operands_of_literals each
    rcases listing with rfl | rfl
    · simp [readings?, hg, on, members, hoperands, Scope.written]
    · simp [readings?, hg, on, members, hoperands, Scope.written]
  | @compare column operator value on effective ordinary literal =>
    have hg := hg.symm.trans effective
    simp only [List.mem_cons, List.not_mem_nil, or_false, not_or] at ordinary
    simp only [Clause.readings?, Clause.reading?] at hr
    split at hr
    · cases hr
      simp [readings?, hg, on, ordinary, Value.operand?, literal, Scope.written]
    · cases hr

end Predicate

namespace Condition

open Reading (WellSpelled)

variable {known : List String} {scope : Scope}

theorem Built.outline_legible {c : Condition}
    (hb : c.Built fun p => WellSpelled (p.effectiveOperator scope.filtering)) (out : List Clause)
    (h : c.outline scope = some out) : ∀ k ∈ out, k.Legible := by
  induction hb generalizing out with
  | predicate hs => exact Predicate.outlined_legible hs (Predicate.outlined h)
  | group connective each ih =>
    obtain ⟨inner, hi, rfl⟩ := outline_group.mp h
    exact grouped_forall fun hn => .group connective hn (outline_all_forall ih hi)

/-- The readings of a group are one or none. -/
theorem readings_grouped (glue : Glue) (clauses : List Clause) :
    Clause.readings? known (Clause.grouped glue clauses) = do
      let inner ← Clause.readings? known clauses
      if inner.isEmpty then return [] else return [.group (← glue.terms? inner)] := by
  cases clauses with
  | nil => rfl
  | cons clause rest =>
    rw [Clause.grouped, if_neg (by simp), Clause.readings?, Clause.reading?]
    cases hr : Clause.readings? known (clause :: rest) with
    | none => rfl
    | some inner =>
      have hn : inner ≠ [] := by
        rintro rfl
        cases Clause.readings_length hr
      simp [Clause.readings?, hn, Option.bind_assoc]

theorem outline_all_known {conditions : List Condition} {out : List Clause}
    (each : ∀ c ∈ conditions, ∀ first, c.outline scope = some first →
      ∃ readings, Clause.readings? known first = some readings)
    (h : outlineAll scope conditions = some out) :
    ∃ readings, Clause.readings? known out = some readings := by
  induction conditions generalizing out with
  | nil =>
    cases h
    exact ⟨[], rfl⟩
  | cons condition rest ih =>
    obtain ⟨first, others, hf, ho, rfl⟩ := outline_all_cons.mp h
    obtain ⟨xs, hx⟩ := each condition (List.mem_cons_self ..) first hf
    obtain ⟨ys, hy⟩ := ih (fun c hc => each c (List.mem_cons_of_mem _ hc)) ho
    exact ⟨xs ++ ys, by simp [Clause.readings_append, hx, hy]⟩

/-- With operators that are known everything can be read. -/
theorem Built.outline_known {c : Condition} (hb : c.Built (Predicate.Known known scope.filtering))
    (out : List Clause) (h : c.outline scope = some out) :
    ∃ readings, Clause.readings? known out = some readings := by
  induction hb generalizing out with
  | predicate hk => exact Predicate.outlined_known hk (Predicate.outlined h)
  | @group glue children connective each ih =>
    obtain ⟨inner, hi, rfl⟩ := outline_group.mp h
    obtain ⟨readings, hr⟩ := outline_all_known ih hi
    obtain ⟨terms, ht⟩ := Glue.terms_some connective readings
    rw [readings_grouped, hr, Option.bind_eq_bind, Option.bind_some]
    split
    · exact ⟨_, rfl⟩
    · simp [ht]

theorem outline_all_given {conditions : List Condition} {out : List Clause}
    (each : ∀ c ∈ conditions, ∀ first readings, c.outline scope = some first →
      Clause.readings? known first = some readings → c.readings? scope = some readings)
    (h : outlineAll scope conditions = some out) {readings : List Reading}
    (hr : Clause.readings? known out = some readings) :
    readingsAll? scope conditions = some readings := by
  induction conditions generalizing out readings with
  | nil =>
    cases h
    exact hr
  | cons condition rest ih =>
    obtain ⟨first, others, hf, ho, rfl⟩ := outline_all_cons.mp h
    rw [Clause.readings_append] at hr
    obtain ⟨xs, hx, hr⟩ := Option.bind_eq_some_iff.mp hr
    obtain ⟨ys, hy, hr⟩ := Option.bind_eq_some_iff.mp hr
    cases hr
    simp [readingsAll?, each condition (List.mem_cons_self ..) first xs hf hx,
      ih (fun c hc => each c (List.mem_cons_of_mem _ hc)) ho hy]

theorem Built.outline_given {c : Condition}
    (hb : c.Built fun p => p.effectiveOperator scope.filtering = p.givenOperator scope.filtering)
    (out : List Clause) (readings : List Reading) (h : c.outline scope = some out)
    (hr : Clause.readings? known out = some readings) : c.readings? scope = some readings := by
  induction hb generalizing out readings with
  | predicate hg => exact Predicate.outlined_given hg (Predicate.outlined h) hr
  | group connective each ih =>
    obtain ⟨inner, hi, rfl⟩ := outline_group.mp h
    rw [readings_grouped] at hr
    obtain ⟨xs, hx, hr⟩ := Option.bind_eq_some_iff.mp hr
    rw [readings?, outline_all_given ih hi hx]
    exact hr

/-- A text is read back from the outline, as far as operators are known. -/
theorem read_outlined {style : Quoting} {conditions : List Condition} {out : List Clause}
    (hg : scope.glue ≠ .comma)
    (hs : ∀ c ∈ conditions, c.Built fun p => WellSpelled (p.effectiveOperator scope.filtering))
    (h : outlineAll scope conditions = some out) :
    Reading.read known style (Clause.joined style scope.glue out) =
      (Clause.readings? known out).bind scope.glue.terms? :=
  Clause.read_joined hg (outline_all_forall (fun c hc => (hs c hc).raw_free.outline_plain) h)
    (outline_all_forall (fun c hc => (hs c hc).outline_legible) h)

/-! ### Usual conditions -/

theorem outline_all_odd {conditions : List Condition} {out : List Clause}
    (each : ∀ c ∈ conditions, ¬c.Each Predicate.Dotted → ∀ first readings,
      c.outline scope = some first → Clause.readings? known first = some readings →
        ∃ leaf ∈ Reading.testsAll readings, leaf.Odd)
    (hd : ∃ c ∈ conditions, ¬c.Each Predicate.Dotted) (h : outlineAll scope conditions = some out)
    {readings : List Reading} (hr : Clause.readings? known out = some readings) :
    ∃ leaf ∈ Reading.testsAll readings, leaf.Odd := by
  induction conditions generalizing out readings with
  | nil =>
    obtain ⟨c, hc, _⟩ := hd
    cases hc
  | cons condition rest ih =>
    obtain ⟨first, others, hf, ho, rfl⟩ := outline_all_cons.mp h
    rw [Clause.readings_append] at hr
    obtain ⟨xs, hx, hr⟩ := Option.bind_eq_some_iff.mp hr
    obtain ⟨ys, hy, hr⟩ := Option.bind_eq_some_iff.mp hr
    cases hr
    rw [Reading.tests_append]
    obtain ⟨c, hc, hd⟩ := hd
    rcases List.mem_cons.mp hc with rfl | hc
    · obtain ⟨leaf, hl, hodd⟩ := each c (List.mem_cons_self ..) hd first xs hf hx
      exact ⟨leaf, List.mem_append_left _ hl, hodd⟩
    · obtain ⟨leaf, hl, hodd⟩ :=
        ih (fun c hc => each c (List.mem_cons_of_mem _ hc)) ⟨c, hc, hd⟩ ho hy
      exact ⟨leaf, List.mem_append_right _ hl, hodd⟩

/-- A dotless i leaves a comparison in the text that is not in the tree. -/
theorem Built.outline_odd {c : Condition} (hb : c.Built Predicate.Usual)
    (hd : ¬c.Each Predicate.Dotted) (out : List Clause) (readings : List Reading)
    (h : c.outline scope = some out) (hr : Clause.readings? known out = some readings) :
    ∃ leaf ∈ Reading.testsAll readings, leaf.Odd := by
  induction hb generalizing out readings with
  | predicate hu =>
    exact Predicate.outlined_odd hu (fun hd' => hd (.predicate hd')) (Predicate.outlined h) hr
  | @group glue children connective each ih =>
    obtain ⟨inner, hi, rfl⟩ := outline_group.mp h
    have hdotless : ∃ c ∈ children, ¬c.Each Predicate.Dotted :=
      Classical.byContradiction fun hn => hd (.group fun c hc =>
        Classical.byContradiction fun hc' => hn ⟨c, hc, hc'⟩)
    rw [readings_grouped] at hr
    obtain ⟨xs, hx, hr⟩ := Option.bind_eq_some_iff.mp hr
    obtain ⟨leaf, hl, hodd⟩ := outline_all_odd ih hdotless hi hx
    split at hr
    · rename_i hempty
      rw [List.isEmpty_iff.mp hempty] at hl
      cases hl
    · obtain ⟨terms, ht, hr⟩ := Option.bind_eq_some_iff.mp hr
      cases hr
      refine ⟨leaf, ?_, hodd⟩
      simpa [Reading.testsAll, Reading.tests, Reading.tests_terms ht] using hl

/-- A compiled text reads as the tree of its conditions exactly if no operator has a dotless i,
whatever the reader knows besides the usual operators. -/
theorem compiled_reads_back {style : Quoting} {schema : Schema} {conditions : List Condition}
    {sql : String} (hg : scope.glue ≠ .comma) (hu : ∀ c ∈ conditions, c.Built Predicate.Usual)
    (hk : ∀ operator ∈ Predicate.comparisons, operator ∈ known)
    (h : compiledSql style schema scope conditions = .ok sql) :
    (∃ terms, terms? scope conditions = some terms ∧
      Reading.read known style sql = some terms) ↔
        ∀ c ∈ conditions, c.Each Predicate.Dotted := by
  obtain ⟨out, ho, rfl⟩ := compiled_sql_outline h
  rw [read_outlined hg (fun c hc => (hu c hc).imp fun _ hp => hp.spelled scope.filtering) ho]
  constructor
  · rintro ⟨terms, hexpected, hread⟩ c hc
    refine Classical.byContradiction fun hd => ?_
    obtain ⟨expected, he, ht⟩ := Option.bind_eq_some_iff.mp hexpected
    obtain ⟨shown, hs, ht'⟩ := Option.bind_eq_some_iff.mp hread
    -- the two have the same tests, and one of those in the text is none of the tree
    have htests : Reading.testsAll shown = Reading.testsAll expected :=
      (Reading.tests_terms ht').symm.trans (Reading.tests_terms ht)
    obtain ⟨leaf, hl, hodd⟩ :=
      outline_all_odd (fun c hc hd => (hu c hc).outline_odd hd) ⟨c, hc, hd⟩ ho hs
    exact readings_all_usual (fun c hc => (hu c hc).readings_usual) he leaf (htests ▸ hl) hodd
  · intro hd
    have hknown := fun c hc =>
      (hu c hc).imp_each (hd c hc) fun p hu hd => (hu.known_dotted hd scope.filtering).mono hk
    have hgiven := fun c hc =>
      (hu c hc).imp_each (hd c hc) fun p hu hd => Predicate.effective_dotted hu hd scope.filtering
    obtain ⟨readings, hr⟩ := outline_all_known (fun c hc => (hknown c hc).outline_known) ho
    have hexpected := outline_all_given (fun c hc => (hgiven c hc).outline_given) ho hr
    obtain ⟨terms, ht⟩ := Glue.terms_some hg readings
    exact ⟨terms, by simp [terms?, hexpected, ht], by simp [hr, ht]⟩

/-- Groups in groups, a value that looks like SQL, and predicates and a group that are left out. -/
def nested : List Condition := [
  .group .or [
    .predicate ⟨.one "name", "like", .text "') OR (1=2"⟩,
    .group .and [
      .predicate ⟨.one "id", "between", .list [.integer 1, .integer 9]⟩,
      .predicate ⟨.one "nick", "!=", .null⟩,
      .predicate ⟨.one "id", "not in", .list []⟩]],
  .group .or [.predicate ⟨.one "id", "NOT IN", .list []⟩],
  .predicate ⟨.one "id", " in ", .list []⟩]

def nestedSql : String :=
  "(`users`.`name` LIKE ''') OR (1=2' OR " ++
    "(`users`.`id` BETWEEN '1' AND '9' AND `users`.`nick` IS NOT NULL)) AND (1=2)"

theorem compiled_reads_back_nested :
    compiledSql .ansi Sample.schema (.filter "users") nested = .ok nestedSql ∧
      Reading.read Predicate.comparisons .ansi nestedSql = some
        [[.group [
            [.compare "`users`.`name`" "LIKE" (.text "') OR (1=2")],
            [.group [[
              .between "`users`.`id`" (.text "1") (.text "9"),
              .compare "`users`.`nick`" "IS NOT" .null]]]],
          .never]] := by
  have hu : ∀ c ∈ nested, c.Built Predicate.Usual := by
    simp only [nested, List.forall_mem_cons, List.not_mem_nil, false_implies, implies_true,
      built_predicate, built_group]
    decide
  have hd : ∀ c ∈ nested, c.Each Predicate.Dotted := by
    simp only [nested, List.forall_mem_cons, List.not_mem_nil, false_implies, implies_true,
      each_predicate, each_group]
    decide
  have h : compiledSql .ansi Sample.schema (.filter "users") nested = .ok nestedSql := by rfl
  obtain ⟨terms, ht, hr⟩ := (compiled_reads_back (by decide) hu (fun _ hm => hm) h).mpr hd
  cases ht
  exact ⟨h, hr⟩

/-- The operator is `LIKE` in upper case. -/
def dotless : Predicate := ⟨.one "name", "lıke", .text "a"⟩

/-- What is written is not the operator that was given, be it known or not. -/
theorem dotless_reads_otherwise :
    dotless.Usual ∧
      compiledSql .mysql Sample.schema (.filter "users") [.predicate dotless] =
        .ok "`users`.`name` LKE 'a'" ∧
      terms? (.filter "users") [.predicate dotless] =
        some [[.compare "`users`.`name`" "LIKE" (.text "a")]] ∧
      Reading.read Predicate.comparisons .mysql "`users`.`name` LKE 'a'" = none ∧
      Reading.read ("LKE" :: Predicate.comparisons) .mysql "`users`.`name` LKE 'a'" =
        some [[.compare "`users`.`name`" "LKE" (.text "a")]] := by
  have hg : dotless.givenOperator true = "LIKE" := by decide +kernel
  have hf : (Scope.filter "users").filtering = true := rfl
  refine ⟨by decide +kernel, by rfl, ?_, by cbv, by cbv⟩
  simp only [terms?, readingsAll?, readings?, Predicate.readings?, hf, hg]
  rfl

end Condition

end SqlBuilder

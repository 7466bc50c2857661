import SqlBuilder.Proofs.Dropping
import SqlBuilder.Proofs.ReadBack

/-!
The truth of a filter, taken from its text as it reads: a disjunction of conjunctions, where the
constant never holds and an empty text always does. The tests in the text are the ordinary tests of
the conditions, and however they go the text excludes no less than the conditions do.
-/

namespace SqlBuilder

/-! ### The truth of what is read -/

namespace Reading

mutual

/-- Whether what is read holds, with its tests told apart by number. -/
def truth (goes : Nat → Bool) (start : Nat) : Reading → Bool
  | never => false
  | group terms => anyHolds goes start terms
  | _ => goes start

def allHold (goes : Nat → Bool) (start : Nat) : List Reading → Bool
  | [] => true
  | reading :: rest =>
    truth goes start reading && allHold goes (start + (tests reading).length) rest

def anyHolds (goes : Nat → Bool) (start : Nat) : List (List Reading) → Bool
  | [] => false
  | term :: rest => allHold goes start term || anyHolds goes (start + (testsAll term).length) rest

end

/-- Whether a filter holds that reads as those terms. One with nothing in it does. -/
def hold (goes : Nat → Bool) (terms : List (List Reading)) : Bool :=
  terms.isEmpty || anyHolds goes 0 terms

def truths (goes : Nat → Bool) (start : Nat) : List Reading → List Bool
  | [] => []
  | reading :: rest => truth goes start reading :: truths goes (start + (tests reading).length) rest

theorem all_hold_eq (goes : Nat → Bool) (start : Nat) (readings : List Reading) :
    allHold goes start readings = Glue.and.combine (truths goes start readings) := by
  induction readings generalizing start with
  | nil => rfl
  | cons reading rest ih =>
    rw [allHold, ih, truths, Glue.combine_cons]
    rfl

theorem any_factors (goes : Nat → Bool) (start : Nat) (readings : List Reading) :
    anyHolds goes start (readings.map fun reading => [reading]) =
      Glue.or.combine (truths goes start readings) := by
  induction readings generalizing start with
  | nil => rfl
  | cons reading rest ih =>
    rw [List.map_cons, anyHolds, ih, truths, Glue.combine_cons]
    simp [allHold, testsAll, Glue.join]

/-- The terms that a connective makes are true where it makes the factors true. -/
theorem any_terms {glue : Glue} {readings : List Reading} {terms : List (List Reading)}
    (h : glue.terms? readings = some terms) (hn : readings ≠ []) (goes : Nat → Bool)
    (start : Nat) : anyHolds goes start terms = glue.combine (truths goes start readings) := by
  cases glue with
  | comma => cases h
  | or =>
    cases h
    exact any_factors goes start readings
  | and =>
    obtain ⟨first, rest, rfl⟩ := List.exists_cons_of_ne_nil hn
    cases h
    rw [anyHolds, anyHolds, Bool.or_false, all_hold_eq]

theorem hold_terms {readings : List Reading} {terms : List (List Reading)}
    (h : Glue.and.terms? readings = some terms) (goes : Nat → Bool) :
    hold goes terms = Glue.and.combine (truths goes 0 readings) := by
  cases readings with
  | nil =>
    cases h
    rfl
  | cons first rest =>
    rw [← any_terms h (by simp)]
    cases h
    rfl

end Reading

/-! ### Clauses and what they read as -/

namespace Clause

variable {known : List String}

/-- The reading has the tests of the clause, in order, and holds where the clause does. -/
structure Mirrored (known : List String) (clause : Clause) (reading : Reading) : Prop where
  tests : List.Forall₂ (fun test leaf => test.reading? known = some leaf) clause.tests reading.tests
  truth : ∀ goes start, reading.truth goes start = clause.truth goes start

theorem mirrored_all {clauses : List Clause} {readings : List Reading}
    (each : ∀ c ∈ clauses, ∀ reading, c.reading? known = some reading → c.Mirrored known reading)
    (h : readings? known clauses = some readings) :
    List.Forall₂ (fun test leaf => test.reading? known = some leaf) (testsAll clauses)
        (Reading.testsAll readings) ∧
      ∀ goes start, Reading.truths goes start readings = truths goes start clauses := by
  induction clauses generalizing readings with
  | nil =>
    cases h
    exact ⟨.nil, fun _ _ => rfl⟩
  | cons clause rest ih =>
    rw [readings?] at h
    obtain ⟨first, hf, h⟩ := Option.bind_eq_some_iff.mp h
    obtain ⟨others, ho, h⟩ := Option.bind_eq_some_iff.mp h
    cases h
    obtain ⟨htests, htruth⟩ := each clause (List.mem_cons_self ..) first hf
    obtain ⟨hrest, hothers⟩ := ih (fun c hc => each c (List.mem_cons_of_mem _ hc)) ho
    refine ⟨List.rel_append htests hrest, fun goes start => ?_⟩
    rw [Reading.truths, truths, htruth, hothers, htests.length_eq]

theorem mirrored_group {glue : Glue} {clauses : List Clause} {readings : List Reading}
    {terms : List (List Reading)} (hn : clauses ≠ [])
    (each : ∀ c ∈ clauses, ∀ reading, c.reading? known = some reading → c.Mirrored known reading)
    (h : readings? known clauses = some readings) (ht : glue.terms? readings = some terms) :
    (Clause.group glue clauses).Mirrored known (.group terms) := by
  obtain ⟨htests, htruths⟩ := mirrored_all each h
  have hsome : readings ≠ [] := by
    rintro rfl
    exact hn (List.length_eq_zero_iff.mp (readings_length h).symm)
  refine ⟨?_, fun goes start => ?_⟩
  · rw [tests, Reading.tests, Reading.tests_terms ht]
    exact htests
  · rw [truth, Reading.truth, Reading.any_terms ht hsome, htruths]

theorem Legible.mirrored {clause : Clause} (h : Legible clause) (reading : Reading)
    (hr : clause.reading? known = some reading) : clause.Mirrored known reading := by
  induction h generalizing reading with
  | compare spelled ordinary =>
    have hr' := hr
    rw [reading?] at hr
    split at hr
    · cases hr
      exact ⟨.cons hr' .nil, fun _ _ => rfl⟩
    · cases hr
  | between =>
    cases hr
    exact ⟨.cons rfl .nil, fun _ _ => rfl⟩
  | member listing some_item =>
    cases hr
    exact ⟨.cons rfl .nil, fun _ _ => rfl⟩
  | never =>
    cases hr
    exact ⟨.nil, fun _ _ => rfl⟩
  | search named =>
    cases hr
    exact ⟨.cons rfl .nil, fun _ _ => rfl⟩
  | group connective some_clause each ih =>
    rw [reading?] at hr
    obtain ⟨readings, hreadings, hr⟩ := Option.bind_eq_some_iff.mp hr
    obtain ⟨terms, hterms, hr⟩ := Option.bind_eq_some_iff.mp hr
    cases hr
    exact mirrored_group some_clause ih hreadings hterms

end Clause

/-! ### Filters -/

namespace Condition

open Reading (WellSpelled)

variable {known : List String} {style : Quoting} {schema : Schema} {scope : Scope}

/-- By itself the test compiles to a text that reads as the leaf. -/
def Restated (known : List String) (style : Quoting) (schema : Schema) (scope : Scope)
    (test : Condition) (leaf : Reading) : Prop :=
  ∃ sql, compiledSql style schema scope [test] = .ok sql ∧
    Reading.read known style sql = some [[leaf]]

theorem ordinary_all_built {holds : Predicate → Prop} {conditions : List Condition}
    (each : ∀ c ∈ conditions, ∀ test ∈ c.ordinary, test.Built holds) :
    ∀ test ∈ ordinaryAll conditions, test.Built holds := by
  induction conditions with
  | nil => simp [ordinaryAll]
  | cons condition rest ih =>
    obtain ⟨hc, hr⟩ := List.forall_mem_cons.mp each
    rw [ordinaryAll]
    exact List.forall_mem_append.mpr ⟨hc, ih hr⟩

theorem Built.ordinary {holds : Predicate → Prop} {c : Condition} (hb : c.Built holds) :
    ∀ test ∈ c.ordinary, test.Built holds := by
  induction hb with
  | predicate h =>
    rw [Condition.ordinary]
    split
    · simp
    · simpa using .predicate h
  | group connective each ih => exact ordinary_all_built ih

/-- Operators that are known can be read. -/
theorem Built.spelled {c : Condition} (hk : ∀ operator ∈ known, WellSpelled operator)
    (hb : c.Built (Predicate.Known known scope.filtering)) :
    c.Built fun p => WellSpelled (p.effectiveOperator scope.filtering) := by
  refine hb.imp fun p hp => ?_
  rcases List.mem_append.mp hp with hm | hm
  · exact hk _ hm
  · exact Predicate.spelled_comparisons _ (List.mem_append_right _ hm)

theorem restated {table : Option Table} {test : Condition} {clause : Clause} {leaf : Reading}
    (ht : scope.getTable schema = .ok table) (hg : scope.glue ≠ .comma)
    (hs : test.Built fun p => WellSpelled (p.effectiveOperator scope.filtering))
    (hc : Compiles schema scope test clause) (hr : clause.reading? known = some leaf) :
    Restated known style schema scope test leaf := by
  have hall : (clausesAll schema scope [test]).result = .ok [clause] :=
    clauses_all_cons.mpr ⟨_, [], hc, rfl, rfl⟩
  have ho := clauses_all_outline (fun c _ => clauses_outline c) hall
  refine ⟨Clause.joined style scope.glue [clause], ?_, ?_⟩
  · refine map_ok.mpr ⟨[clause], ?_, rfl⟩
    simp only [compile, Traced.result_bind, Traced.result_lifted]
    exact bind_ok.mpr ⟨table, ht, hall⟩
  · rw [read_outlined hg (by simpa using hs) ho]
    simp [Clause.readings?, hr, Glue.terms_cons (Glue.terms_nil hg), Glue.prepend_nil]

theorem restated_all {table : Option Table} {tests : List Condition} {clauses : List Clause}
    {leaves : List Reading} (ht : scope.getTable schema = .ok table) (hg : scope.glue ≠ .comma)
    (hs : ∀ test ∈ tests, test.Built fun p => WellSpelled (p.effectiveOperator scope.filtering))
    (hc : List.Forall₂ (Compiles schema scope) tests clauses)
    (hr : List.Forall₂ (fun test leaf => test.reading? known = some leaf) clauses leaves) :
    List.Forall₂ (Restated known style schema scope) tests leaves := by
  induction hc generalizing leaves with
  | nil =>
    cases hr
    exact .nil
  | cons hfirst hrest ih =>
    cases hr with
    | cons hleaf hleaves =>
      obtain ⟨hs, hothers⟩ := List.forall_mem_cons.mp hs
      exact .cons (restated ht hg hs hfirst hleaf) (ih hothers hleaves)

/-- A filter reads as terms whose tests are the ordinary tests of its conditions. However they go,
the conditions hold where the text does. The text holds wherever they do if no group is mixed, and
only then unless something asks for membership in an empty list. -/
theorem filter_holds {conditions : List Condition} {sql : String} (hg : scope.glue = .and)
    (hk : ∀ operator ∈ known, WellSpelled operator) (hp : ∀ c ∈ conditions, c.Proper)
    (hb : ∀ c ∈ conditions, c.Built (Predicate.Known known scope.filtering))
    (h : compiledSql style schema scope conditions = .ok sql) :
    ∃ terms, Reading.read known style sql = some terms ∧
      List.Forall₂ (Restated known style schema scope) (ordinaryAll conditions)
        (Reading.testsAny terms) ∧
      (∀ goes, Reading.hold goes terms = true → hold goes conditions = true) ∧
      ((∀ c ∈ conditions, c.Unmixed) →
        ∀ goes, Reading.hold goes terms = hold goes conditions) ∧
      ((∀ c ∈ conditions, c.Open) →
        (∀ goes, Reading.hold goes terms = hold goes conditions) →
          ∀ c ∈ conditions, c.Unmixed) := by
  obtain ⟨out, hc, rfl⟩ := map_ok.mp h
  simp only [compile, Traced.result_bind, Traced.result_lifted] at hc
  obtain ⟨table, htable, hall⟩ := bind_ok.mp hc
  have hconnective : scope.glue ≠ .comma := by simp [hg]
  have hs := fun c hc => (hb c hc).spelled hk
  have ho := clauses_all_outline (fun c _ => clauses_outline c) hall
  obtain ⟨readings, hr⟩ := outline_all_known (fun c hc => (hb c hc).outline_known) ho
  obtain ⟨terms, ht⟩ := Glue.terms_some hconnective readings
  have hlegible := outline_all_forall (fun c hc => (hs c hc).outline_legible) ho
  obtain ⟨htests, htruths⟩ := Clause.mirrored_all (fun c hc => (hlegible c hc).mirrored) hr
  have hhold : ∀ goes, Reading.hold goes terms = Glue.and.combine (Clause.truths goes 0 out) :=
    fun goes => (Reading.hold_terms (hg ▸ ht) goes).trans (by rw [htruths])
  refine ⟨terms, ?_, ?_, fun goes => ?_, fun hu goes => ?_, fun hopen hsame => ?_⟩
  · rw [read_outlined hconnective hs ho, hr]
    exact ht
  · rw [Reading.tests_terms ht]
    exact restated_all htable hconnective (ordinary_all_built fun c hc => (hs c hc).ordinary)
      (tests_all_ordinary (fun c _ => tests_ordinary c) hall) htests
  · rw [hhold]
    exact combine_sound (fun c hc => truth_sound goes (hp c hc)) hall 0
  · rw [hhold]
    exact combine_eq (fun c hc => (hu c hc).truth_eq goes (hp c hc)) hall 0
  · by_contra hm
    obtain ⟨goes, hfails, hholds⟩ := separated_all .and
      (fun c hc hn => separated c (hp c hc) (hopen c hc) hn) hp hopen (by simpa using hm) hall 0
    have := hfails.symm.trans ((hhold goes).symm.trans ((hsame goes).trans hholds))
    cases this

def numbered : Condition := .predicate ⟨.one "id", "=", .integer 3⟩

/-- A test that every row passes. -/
def anyNumber : Condition := .predicate ⟨.one "id", "NOT IN", .list []⟩

/-- The test goes from an `AND` and from a group of nothing else. -/
def unmixed : List Condition :=
  [.group .or [numbered, .group .and [numbered, anyNumber]], .group .or [anyNumber]]

theorem filter_holds_unmixed :
    compiledSql .mysql Sample.schema (.filter "users") unmixed =
        .ok "(`users`.`id` = '3' OR (`users`.`id` = '3'))" ∧
      ∃ terms, Reading.read Predicate.comparisons .mysql
          "(`users`.`id` = '3' OR (`users`.`id` = '3'))" = some terms ∧
        ∀ goes, Reading.hold goes terms = hold goes unmixed := by
  have hnumbered : ¬numbered.Vacuous := by
    intro h
    cases h with
    | predicate p operator nothing => cases nothing
  have hpair : ¬(group .and [numbered, anyNumber]).Vacuous := by
    intro h
    cases h with
    | group glue children each => exact hnumbered (each _ (List.mem_cons_self ..))
  have hk : ∀ operator ∈ Predicate.comparisons, WellSpelled operator :=
    fun operator hm => Predicate.spelled_comparisons operator (List.mem_append_left _ hm)
  have hp : ∀ c ∈ unmixed, c.Proper := by
    have hleaves : numbered.Proper ∧ anyNumber.Proper := ⟨.predicate _, .predicate _⟩
    simp [unmixed, Proper.group, hleaves]
  have hb : ∀ c ∈ unmixed, c.Built (Predicate.Known Predicate.comparisons true) := by
    simp only [unmixed, numbered, anyNumber, List.forall_mem_cons, List.not_mem_nil, false_implies,
      implies_true, built_predicate, built_group, Predicate.Known]
    decide
  have hu : ∀ c ∈ unmixed, c.Unmixed := by
    have hleaves : numbered.Unmixed ∧ anyNumber.Unmixed := ⟨.predicate _, .predicate _⟩
    have hvacuous : anyNumber.Vacuous := .predicate _ rfl rfl
    refine List.forall_mem_cons.mpr ⟨.group (fun _ => .inr ?_) ?_, ?_⟩
    · simp [hnumbered, hpair]
    · simp [hleaves, Unmixed.group]
    · simp [hleaves, Unmixed.group, hvacuous]
  have h : compiledSql .mysql Sample.schema (.filter "users") unmixed =
      .ok "(`users`.`id` = '3' OR (`users`.`id` = '3'))" := by rfl
  obtain ⟨terms, hread, _, _, hsame, _⟩ := filter_holds rfl hk hp hb h
  exact ⟨h, terms, hread, hsame hu⟩

/-- The test goes from an `OR` where it would have admitted every row. -/
def mixed : List Condition := [.group .or [numbered, anyNumber]]

theorem mixed_group_excludes :
    (∀ c ∈ mixed, c.Proper) ∧
      compiledSql .mysql Sample.schema (.filter "users") mixed = .ok "(`users`.`id` = '3')" ∧
      ∃ terms, Reading.read Predicate.comparisons .mysql "(`users`.`id` = '3')" = some terms ∧
        Reading.hold (fun _ => false) terms = false ∧ hold (fun _ => false) mixed = true := by
  have hp : ∀ c ∈ mixed, c.Proper := by
    have hleaves : numbered.Proper ∧ anyNumber.Proper := ⟨.predicate _, .predicate _⟩
    simp [mixed, Proper.group, hleaves]
  exact ⟨hp, by rfl, [[.group [[.compare "`users`.`id`" "=" (.text "3")]]]], by cbv, by rfl,
    by rfl⟩

end Condition

end SqlBuilder

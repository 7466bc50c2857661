import Mathlib.Data.List.Forall2
import SqlBuilder.Proofs.FilterPresence

/-!
What is left out of a filter and what that does to the truth of its clauses. A test that nothing
can fail goes from an `OR` as it goes from an `AND`, and so clauses may exclude more than their
conditions do. They never exclude less, and the two are the same where no `OR` has such a test
beside others.
-/

namespace SqlBuilder

/-! ### Truth -/

namespace Glue

def combine : Glue → List Bool → Bool
  | or, truths => truths.any id
  | _, truths => truths.all id

/-- What a group combines its first member with the others by. -/
def join : Glue → Bool → Bool → Bool
  | or, x, y => x || y
  | _, x, y => x && y

@[simp] theorem combine_and (truths : List Bool) : combine and truths = truths.all id := rfl

@[simp] theorem combine_one (glue : Glue) (truth : Bool) : glue.combine [truth] = truth := by
  cases glue <;> simp [combine]

theorem combine_cons (glue : Glue) (truth : Bool) (rest : List Bool) :
    glue.combine (truth :: rest) = glue.join truth (glue.combine rest) := by
  cases glue <;> simp [combine, join]

theorem combine_append (glue : Glue) (xs ys : List Bool) :
    glue.combine (xs ++ ys) = glue.join (glue.combine xs) (glue.combine ys) := by
  cases glue <;> simp [combine, join]

theorem combine_same (glue : Glue) {truths : List Bool} {truth : Bool} (hn : truths ≠ [])
    (h : ∀ b ∈ truths, b = truth) : glue.combine truths = truth := by
  obtain ⟨n, rfl⟩ : ∃ n, truths = List.replicate (n + 1) truth := by
    obtain ⟨b, rest, rfl⟩ := List.exists_cons_of_ne_nil hn
    exact ⟨rest.length, List.eq_replicate_of_mem h⟩
  cases glue <;> cases truth <;> simp [combine]

theorem combine_true {glue : Glue} {truths : List Bool} (hg : glue ≠ or)
    (h : ∀ b ∈ truths, b = true) : glue.combine truths = true := by
  cases glue with
  | or => exact absurd rfl hg
  | and | comma => exact List.all_eq_true.mpr h

theorem combine_nil {glue : Glue} (hg : glue ≠ or) : glue.combine [] = true :=
  combine_true hg (by simp)

theorem combine_false {glue : Glue} {truths : List Bool} (hg : glue = or)
    (h : ∀ b ∈ truths, b = false) : glue.combine truths = false := by
  subst hg
  simpa [combine] using h

theorem join_comm (glue : Glue) (x y : Bool) : glue.join x y = glue.join y x := by
  cases glue <;> simp [join, Bool.and_comm, Bool.or_comm]

theorem join_true {glue : Glue} {x y : Bool} (hx : x = true) (hy : glue ≠ or → y = true) :
    glue.join x y = true := by
  cases glue <;> simp_all [join]

theorem join_false {glue : Glue} {x y : Bool} (hx : x = false) (hy : glue = or → y = false) :
    glue.join x y = false := by
  cases glue <;> simp_all [join]

theorem join_mono {glue : Glue} {x y x' y' : Bool} (hx : x = true → x' = true)
    (hy : y = true → y' = true) (h : glue.join x y = true) : glue.join x' y' = true := by
  cases glue with
  | or =>
    simp only [join, Bool.or_eq_true] at h ⊢
    exact h.imp hx hy
  | and | comma =>
    simp only [join, Bool.and_eq_true] at h ⊢
    exact h.imp hx hy

end Glue

/-- Nothing is in an empty list, whatever the column holds. -/
def Predicate.constant? (p : Predicate) : Option Bool :=
  match p.value with
  | .list [] =>
    if p.writtenOperator = "IN" then some false
    else if p.writtenOperator = "NOT IN" then some true
    else none
  | _ => none

namespace Condition

mutual

/-- The tests that may go either way, in order. -/
def ordinary : Condition → List Condition
  | predicate p => if p.constant?.isSome then [] else [.predicate p]
  | raw sql => [.raw sql]
  | group _ children => ordinaryAll children

def ordinaryAll : List Condition → List Condition
  | [] => []
  | condition :: rest => ordinary condition ++ ordinaryAll rest

end

mutual

/-- Whether a condition holds, given how each ordinary test goes. They are told apart by number,
and the first one here has the number `start`. -/
def truth (goes : Nat → Bool) (start : Nat) : Condition → Bool
  | predicate p => p.constant?.getD (goes start)
  | raw _ => goes start
  | group glue children => glue.combine (truths goes start children)

def truths (goes : Nat → Bool) (start : Nat) : List Condition → List Bool
  | [] => []
  | condition :: rest =>
    truth goes start condition :: truths goes (start + (ordinary condition).length) rest

end

/-- Whether all of the conditions hold. -/
def hold (goes : Nat → Bool) (conditions : List Condition) : Bool :=
  Glue.and.combine (truths goes 0 conditions)

/-- Groups have members and are joined by `AND` and `OR`. -/
inductive Proper : Condition → Prop where
  | predicate (p : Predicate) : Proper (.predicate p)
  | raw (sql : String) : Proper (.raw sql)
  | group {glue : Glue} {children : List Condition} (connective : glue ≠ .comma)
      (some_child : children ≠ []) (each : ∀ c ∈ children, Proper c) :
      Proper (.group glue children)

/-- No `OR` has a vacuous member beside one that is not. -/
inductive Unmixed : Condition → Prop where
  | predicate (p : Predicate) : Unmixed (.predicate p)
  | raw (sql : String) : Unmixed (.raw sql)
  | group {glue : Glue} {children : List Condition}
      (alike : glue = .or → (∀ c ∈ children, c.Vacuous) ∨ ∀ c ∈ children, ¬c.Vacuous)
      (each : ∀ c ∈ children, Unmixed c) : Unmixed (.group glue children)

/-- Nothing asks for membership in an empty list. -/
inductive Open : Condition → Prop where
  | predicate {p : Predicate} (possible : p.constant? ≠ some false) : Open (.predicate p)
  | raw (sql : String) : Open (.raw sql)
  | group {glue : Glue} {children : List Condition} (each : ∀ c ∈ children, Open c) :
      Open (.group glue children)

end Condition

namespace Clause

mutual

/-- The tests among clauses. -/
def tests : Clause → List Clause
  | never => []
  | group _ clauses => testsAll clauses
  | clause => [clause]

def testsAll : List Clause → List Clause
  | [] => []
  | clause :: rest => tests clause ++ testsAll rest

end

mutual

/-- Whether a clause holds, with its tests told apart by number. -/
def truth (goes : Nat → Bool) (start : Nat) : Clause → Bool
  | never => false
  | group glue clauses => glue.combine (truths goes start clauses)
  | _ => goes start

def truths (goes : Nat → Bool) (start : Nat) : List Clause → List Bool
  | [] => []
  | clause :: rest =>
    truth goes start clause :: truths goes (start + (tests clause).length) rest

end

theorem tests_all_append (xs ys : List Clause) :
    testsAll (xs ++ ys) = testsAll xs ++ testsAll ys := by
  induction xs with
  | nil => rfl
  | cons clause rest ih => simp [testsAll, ih]

theorem truths_append (goes : Nat → Bool) (start : Nat) (xs ys : List Clause) :
    truths goes start (xs ++ ys) =
      truths goes start xs ++ truths goes (start + (testsAll xs).length) ys := by
  induction xs generalizing start with
  | nil => simp [truths, testsAll]
  | cons clause rest ih => simp [truths, testsAll, ih, Nat.add_assoc]

theorem tests_grouped (glue : Glue) (clauses : List Clause) :
    testsAll (grouped glue clauses) = testsAll clauses := by
  unfold grouped
  split
  · rename_i he
    rw [List.isEmpty_iff.mp he]
  · simp [testsAll, tests]

theorem truths_ne_nil {goes : Nat → Bool} {start : Nat} {clauses : List Clause}
    (h : clauses ≠ []) : truths goes start clauses ≠ [] := by
  cases clauses with
  | nil => exact absurd rfl h
  | cons clause rest => simp [truths]

theorem forall_truths {goes : Nat → Bool} {clauses : List Clause}
    (each : ∀ c ∈ clauses, ∀ start, c.truth goes start = false) (start : Nat) :
    ∀ b ∈ truths goes start clauses, b = false := by
  induction clauses generalizing start with
  | nil => simp [truths]
  | cons clause rest ih =>
    obtain ⟨hc, hr⟩ := List.forall_mem_cons.mp each
    exact List.forall_mem_cons.mpr ⟨hc start, ih hr _⟩

/-- A test by itself goes as its number says. -/
structure IsTest (clause : Clause) : Prop where
  tests : clause.tests = [clause]
  truth : ∀ goes start, clause.truth goes start = goes start

end Clause

/-! ### What becomes of a test -/

namespace Predicate

variable {scope : Scope} {p : Predicate} {out : List Clause}

theorem constant_of_ne (h : p.value ≠ .list []) : p.constant? = none := by
  unfold constant?
  split
  · rename_i hv
    exact absurd hv h
  · rfl

theorem literal_ne_empty {literal : Literal} (h : p.value.literal? = some literal) :
    p.value ≠ .list [] := by
  intro he
  rw [he] at h
  cases h

/-- A test always holds and is left out, or never holds, or is written as an ordinary test. -/
theorem outlined_kinds (h : Outlined scope p out) :
    (p.constant? = some true ∧ out = []) ∨ (p.constant? = some false ∧ out = [.never]) ∨
      (p.constant? = none ∧ ∃ clause, out = [clause] ∧ clause.IsTest) := by
  cases h with
  | search operator named literal =>
    exact .inr (.inr ⟨constant_of_ne (literal_ne_empty literal), _, rfl, rfl, fun _ _ => rfl⟩)
  | between on operator bounds lowest highest =>
    exact .inr (.inr ⟨constant_of_ne (by simp [bounds]), _, rfl, rfl, fun _ _ => rfl⟩)
  | never operator nothing =>
    have hw := (effective_of_list nothing scope.filtering).symm.trans operator
    exact .inr (.inl ⟨by simp [constant?, nothing, hw], rfl⟩)
  | vacuous operator nothing =>
    have hw := (effective_of_list nothing scope.filtering).symm.trans operator
    exact .inl ⟨by simp [constant?, nothing, hw], rfl⟩
  | member on effective listing members some_item each =>
    exact .inr (.inr ⟨constant_of_ne (by simp [members, some_item]), _, rfl, rfl, fun _ _ => rfl⟩)
  | compare on effective ordinary literal =>
    exact .inr (.inr ⟨constant_of_ne (literal_ne_empty literal), _, rfl, rfl, fun _ _ => rfl⟩)

end Predicate

namespace Condition

variable {schema : Schema} {scope : Scope}

/-- The clauses that a predicate compiles to, by kind. -/
theorem clauses_kinds {p : Predicate} {out : List Clause}
    (h : (clauses schema scope (.predicate p)).result = .ok out) :
    (p.constant? = some true ∧ out = []) ∨ (p.constant? = some false ∧ out = [.never]) ∨
      (p.constant? = none ∧ ∃ clause, out = [clause] ∧ clause.IsTest) :=
  Predicate.outlined_kinds (Predicate.outlined (clauses_outline _ _ h))

theorem clauses_group {glue : Glue} {children : List Condition} {out : List Clause} :
    (clauses schema scope (.group glue children)).result = .ok out ↔
      ∃ inner, (clausesAll schema scope children).result = .ok inner ∧
        Clause.grouped glue inner = out := by
  rw [result_group, map_ok]

/-- The test is what the condition compiles to. -/
def Compiles (schema : Schema) (scope : Scope) (condition : Condition) (test : Clause) : Prop :=
  (clauses schema scope condition).result = .ok [test]

theorem tests_all_ordinary {conditions : List Condition} {out : List Clause}
    (each : ∀ c ∈ conditions, ∀ first, (clauses schema scope c).result = .ok first →
      List.Forall₂ (Compiles schema scope) c.ordinary (Clause.testsAll first))
    (h : (clausesAll schema scope conditions).result = .ok out) :
    List.Forall₂ (Compiles schema scope) (ordinaryAll conditions) (Clause.testsAll out) := by
  induction conditions generalizing out with
  | nil =>
    cases h
    exact .nil
  | cons condition rest ih =>
    obtain ⟨first, others, hf, ho, rfl⟩ := clauses_all_cons.mp h
    rw [ordinaryAll, Clause.tests_all_append]
    exact List.rel_append (each condition (List.mem_cons_self ..) first hf)
      (ih (fun c hc => each c (List.mem_cons_of_mem _ hc)) ho)

/-- The tests of what a condition compiles to are its ordinary tests, each once and in order. -/
theorem tests_ordinary (c : Condition) (out : List Clause)
    (h : (clauses schema scope c).result = .ok out) :
    List.Forall₂ (Compiles schema scope) c.ordinary (Clause.testsAll out) := by
  induction c using Condition.induct generalizing out with
  | predicate p =>
    rcases clauses_kinds h with ⟨hc, rfl⟩ | ⟨hc, rfl⟩ | ⟨hc, clause, rfl, ht⟩
    · simp [ordinary, hc, Clause.testsAll]
    · simp [ordinary, hc, Clause.testsAll, Clause.tests]
    · have hk : Compiles schema scope (.predicate p) clause := h
      simpa [ordinary, hc, Clause.testsAll, ht.tests] using hk
  | raw sql =>
    cases h
    exact .cons rfl .nil
  | group glue children ih =>
    obtain ⟨inner, hi, rfl⟩ := clauses_group.mp h
    rw [Clause.tests_grouped, ordinary]
    exact tests_all_ordinary ih hi

theorem tests_length {c : Condition} {out : List Clause}
    (h : (clauses schema scope c).result = .ok out) :
    (Clause.testsAll out).length = c.ordinary.length := (tests_ordinary c out h).length_eq.symm

theorem clauses_empty_iff {c : Condition} {out : List Clause}
    (h : (clauses schema scope c).result = .ok out) : out = [] ↔ c.Vacuous :=
  outline_empty_iff c out (clauses_outline c out h)

/-- A condition compiles to one clause or to none. -/
theorem clauses_at_most_one (c : Condition) (out : List Clause)
    (h : (clauses schema scope c).result = .ok out) : out = [] ∨ ∃ clause, out = [clause] := by
  cases c with
  | predicate p =>
    rcases clauses_kinds h with ⟨_, rfl⟩ | ⟨_, rfl⟩ | ⟨_, clause, rfl, _⟩
    · exact .inl rfl
    · exact .inr ⟨_, rfl⟩
    · exact .inr ⟨_, rfl⟩
  | raw sql =>
    cases h
    exact .inr ⟨_, rfl⟩
  | group glue children =>
    obtain ⟨inner, _, rfl⟩ := clauses_group.mp h
    unfold Clause.grouped
    split
    · exact .inl rfl
    · exact .inr ⟨_, rfl⟩

/-! ### Filters exclude no less than their conditions -/

theorem forall_truths {goes : Nat → Bool} {conditions : List Condition}
    (each : ∀ c ∈ conditions, ∀ start, c.truth goes start = true) (start : Nat) :
    ∀ b ∈ truths goes start conditions, b = true := by
  induction conditions generalizing start with
  | nil => simp [truths]
  | cons condition rest ih =>
    obtain ⟨hc, hr⟩ := List.forall_mem_cons.mp each
    exact List.forall_mem_cons.mpr ⟨hc start, ih hr _⟩

theorem truths_ne_nil {goes : Nat → Bool} {start : Nat} {conditions : List Condition}
    (h : conditions ≠ []) : truths goes start conditions ≠ [] := by
  cases conditions with
  | nil => exact absurd rfl h
  | cons condition rest => simp [truths]

/-- What is left out holds however tests go. -/
theorem Vacuous.truth {c : Condition} (hv : c.Vacuous) (hp : c.Proper) (goes : Nat → Bool)
    (start : Nat) : c.truth goes start = true := by
  induction hv generalizing start with
  | predicate p operator nothing =>
    simp [Condition.truth, Predicate.constant?, operator, nothing]
  | group glue children each ih =>
    cases hp with
    | group connective some_child proper =>
      exact glue.combine_same (truths_ne_nil some_child)
        (forall_truths (fun c hc start => ih c hc (proper c hc) start) start)

section

variable {goes : Nat → Bool} {glue : Glue} {conditions : List Condition} {out : List Clause}

theorem combine_sound
    (each : ∀ c ∈ conditions, ∀ first, (clauses schema scope c).result = .ok first → ∀ start,
      glue.combine (Clause.truths goes start first) = true → c.truth goes start = true)
    (h : (clausesAll schema scope conditions).result = .ok out) (start : Nat)
    (ht : glue.combine (Clause.truths goes start out) = true) :
    glue.combine (truths goes start conditions) = true := by
  induction conditions generalizing out start with
  | nil =>
    cases h
    exact ht
  | cons condition rest ih =>
    obtain ⟨first, others, hf, ho, rfl⟩ := clauses_all_cons.mp h
    rw [Clause.truths_append, Glue.combine_append, tests_length hf] at ht
    rw [truths, Glue.combine_cons]
    exact Glue.join_mono (each condition (List.mem_cons_self ..) first hf start)
      (ih (fun c hc => each c (List.mem_cons_of_mem _ hc)) ho _) ht

theorem combine_eq
    (each : ∀ c ∈ conditions, ∀ first, (clauses schema scope c).result = .ok first → ∀ start,
      glue.combine (Clause.truths goes start first) = c.truth goes start)
    (h : (clausesAll schema scope conditions).result = .ok out) (start : Nat) :
    glue.combine (Clause.truths goes start out) = glue.combine (truths goes start conditions) := by
  induction conditions generalizing out start with
  | nil =>
    cases h
    rfl
  | cons condition rest ih =>
    obtain ⟨first, others, hf, ho, rfl⟩ := clauses_all_cons.mp h
    rw [Clause.truths_append, Glue.combine_append, tests_length hf, truths, Glue.combine_cons,
      each condition (List.mem_cons_self ..) first hf start,
      ih (fun c hc => each c (List.mem_cons_of_mem _ hc)) ho]

end

theorem group_clauses {glue : Glue} {children : List Condition} {out : List Clause}
    (h : (clauses schema scope (.group glue children)).result = .ok out)
    (hn : ¬(group glue children).Vacuous) :
    ∃ inner, (clausesAll schema scope children).result = .ok inner ∧
      out = [.group glue inner] := by
  obtain ⟨inner, hi, rfl⟩ := clauses_group.mp h
  refine ⟨inner, hi, ?_⟩
  rw [← clauses_empty_iff h, grouped_eq_nil] at hn
  simp [Clause.grouped, hn]

/-- Whatever joins its clauses, one or none, a condition that holds by them holds. -/
theorem combine_clauses {glue : Glue} {goes : Nat → Bool} {start : Nat} {c : Condition}
    {out : List Clause} (h : (clauses schema scope c).result = .ok out)
    (ht : glue.combine (Clause.truths goes start out) = true) :
    Glue.and.combine (Clause.truths goes start out) = true := by
  rcases clauses_at_most_one c out h with rfl | ⟨clause, rfl⟩
  · rfl
  · simpa [Clause.truths] using ht

theorem truth_sound (goes : Nat → Bool) {c : Condition} (hp : c.Proper) (out : List Clause)
    (h : (clauses schema scope c).result = .ok out) (start : Nat)
    (ht : Glue.and.combine (Clause.truths goes start out) = true) : c.truth goes start = true := by
  induction hp generalizing out start with
  | predicate p =>
    rcases clauses_kinds h with ⟨hc, rfl⟩ | ⟨hc, rfl⟩ | ⟨hc, clause, rfl, hk⟩
    · simp [truth, hc]
    · simp [Clause.truths, Clause.truth] at ht
    · simpa [truth, hc, Clause.truths, hk.truth] using ht
  | raw sql =>
    cases h
    simpa [truth, Clause.truths, Clause.truth] using ht
  | @group glue children connective some_child each ih =>
    by_cases hv : (group glue children).Vacuous
    · exact hv.truth (.group connective some_child each) goes start
    · obtain ⟨inner, hi, rfl⟩ := group_clauses h hv
      rw [Clause.truths, Clause.truths, Glue.combine_one, Clause.truth] at ht
      refine combine_sound (fun c hc first hf start ht => ?_) hi start ht
      exact ih c hc first hf start (combine_clauses hf ht)

/-- A condition without mixed groups means what its clauses mean. -/
theorem Unmixed.truth_eq (goes : Nat → Bool) {c : Condition} (hu : c.Unmixed) (hp : c.Proper)
    (out : List Clause) (h : (clauses schema scope c).result = .ok out) (start : Nat) :
    Glue.and.combine (Clause.truths goes start out) = c.truth goes start := by
  induction hu generalizing out start with
  | predicate p =>
    rcases clauses_kinds h with ⟨hc, rfl⟩ | ⟨hc, rfl⟩ | ⟨hc, clause, rfl, hk⟩
    · simp [truth, hc, Clause.truths]
    · simp [truth, hc, Clause.truths, Clause.truth]
    · simp [truth, hc, Clause.truths, hk.truth]
  | raw sql =>
    cases h
    simp [truth, Clause.truths, Clause.truth]
  | @group glue children alike each ih =>
    by_cases hv : (Condition.group glue children).Vacuous
    · rw [(clauses_empty_iff h).mpr hv, hv.truth hp]
      rfl
    · obtain ⟨inner, hi, rfl⟩ := group_clauses h hv
      rw [Clause.truths, Clause.truths, Glue.combine_one, Clause.truth, truth]
      cases hp with
      | group connective some_child proper =>
        refine combine_eq (fun c hc first hf start => ?_) hi start
        rw [← ih c hc (proper c hc) first hf start]
        cases glue with
        | and => rfl
        | comma => exact absurd rfl connective
        | or =>
          rcases alike rfl with hall | hnone
          · exact absurd (.group .or children hall) hv
          · rcases clauses_at_most_one c first hf with rfl | ⟨clause, rfl⟩
            · exact absurd ((clauses_empty_iff hf).mp rfl) (hnone c hc)
            · simp [Clause.truths]

/-! ### Mixed groups change the meaning -/

/-- If every test fails then so does every clause. -/
theorem outline_fails (c : Condition) (out : List Clause) (h : c.outline scope = some out) :
    ∀ clause ∈ out, ∀ start, clause.truth (fun _ => false) start = false := by
  induction c using Condition.induct generalizing out with
  | predicate p =>
    rcases Predicate.outlined_kinds (Predicate.outlined h) with
      ⟨_, rfl⟩ | ⟨_, rfl⟩ | ⟨_, clause, rfl, hk⟩
    · simp
    · simp [Clause.truth]
    · simpa using hk.truth (fun _ => false)
  | raw sql =>
    cases h
    simp [Clause.truth]
  | group glue children ih =>
    obtain ⟨inner, hi, rfl⟩ := outline_group.mp h
    refine grouped_forall fun hn start => ?_
    exact glue.combine_same (Clause.truths_ne_nil hn)
      (Clause.forall_truths (outline_all_forall ih hi) start)

theorem clauses_all_fail {conditions : List Condition} {out : List Clause}
    (h : (clausesAll schema scope conditions).result = .ok out) (start : Nat) :
    ∀ b ∈ Clause.truths (fun _ => false) start out, b = false :=
  Clause.forall_truths (outline_all_forall (fun c _ => outline_fails c)
    (clauses_all_outline (fun c _ => clauses_outline c) h)) start

/-- If every test succeeds then so does every condition that can. -/
theorem Open.truth {c : Condition} (ho : c.Open) (hp : c.Proper) (start : Nat) :
    c.truth (fun _ => true) start = true := by
  induction ho generalizing start with
  | @predicate p possible =>
    cases hc : p.constant? with
    | none => simp [Condition.truth, hc]
    | some constant =>
      cases constant with
      | true => simp [Condition.truth, hc]
      | false => exact absurd hc possible
  | raw sql => rfl
  | @group glue children each ih =>
    cases hp with
    | group connective some_child proper =>
      exact glue.combine_same (truths_ne_nil some_child)
        (forall_truths (fun c hc start => ih c hc (proper c hc) start) start)

theorem goes_congr_all {goes goes' : Nat → Bool} {conditions : List Condition}
    {out : List Clause}
    (each : ∀ c ∈ conditions, ∀ first, (clauses schema scope c).result = .ok first → ∀ start,
      (∀ i, start ≤ i → i < start + c.ordinary.length → goes i = goes' i) →
      Clause.truths goes start first = Clause.truths goes' start first ∧
        c.truth goes start = c.truth goes' start)
    (h : (clausesAll schema scope conditions).result = .ok out) (start : Nat)
    (same : ∀ i, start ≤ i → i < start + (ordinaryAll conditions).length → goes i = goes' i) :
    Clause.truths goes start out = Clause.truths goes' start out ∧
      truths goes start conditions = truths goes' start conditions := by
  induction conditions generalizing out start with
  | nil =>
    cases h
    exact ⟨rfl, rfl⟩
  | cons condition rest ih =>
    obtain ⟨first, others, hf, ho, rfl⟩ := clauses_all_cons.mp h
    rw [ordinaryAll, List.length_append] at same
    obtain ⟨hf₁, hf₂⟩ := each condition (List.mem_cons_self ..) first hf start
      (fun i hl hu => same i hl (by omega))
    obtain ⟨ho₁, ho₂⟩ := ih (fun c hc => each c (List.mem_cons_of_mem _ hc)) ho
      (start + condition.ordinary.length) (fun i hl hu => same i (by omega) (by omega))
    rw [Clause.truths_append, Clause.truths_append, tests_length hf, truths, truths, hf₁, hf₂, ho₁,
      ho₂]
    exact ⟨rfl, rfl⟩

/-- Only the tests in it matter to a condition and to its clauses. -/
theorem goes_congr {goes goes' : Nat → Bool} (c : Condition) (out : List Clause)
    (h : (clauses schema scope c).result = .ok out) (start : Nat)
    (same : ∀ i, start ≤ i → i < start + c.ordinary.length → goes i = goes' i) :
    Clause.truths goes start out = Clause.truths goes' start out ∧
      c.truth goes start = c.truth goes' start := by
  induction c using Condition.induct generalizing out start with
  | predicate p =>
    rcases clauses_kinds h with ⟨hc, rfl⟩ | ⟨hc, rfl⟩ | ⟨hc, clause, rfl, hk⟩
    · simp [truth, hc, Clause.truths]
    · simp [truth, hc, Clause.truths, Clause.truth]
    · have hs := same start (Nat.le_refl _) (by simp [ordinary, hc])
      simp [truth, hc, Clause.truths, hk.truth, hs]
  | raw sql =>
    cases h
    have hs := same start (Nat.le_refl _) (by simp [ordinary])
    simp [truth, Clause.truths, Clause.truth, hs]
  | group glue children ih =>
    obtain ⟨inner, hi, rfl⟩ := clauses_group.mp h
    obtain ⟨hk, hc⟩ := goes_congr_all ih hi start same
    rw [truth, truth, hc]
    refine ⟨?_, rfl⟩
    unfold Clause.grouped
    split
    · rfl
    · simp [Clause.truths, Clause.truth, hk]

/-- The tests of one condition and those of the conditions after it can go independently. -/
theorem goes_apart {c : Condition} {rest : List Condition} {first others : List Clause}
    (hf : (clauses schema scope c).result = .ok first)
    (ho : (clausesAll schema scope rest).result = .ok others) (glue : Glue) (start : Nat)
    (before after : Nat → Bool) :
    ∃ goes,
      glue.combine (Clause.truths goes start (first ++ others)) =
        glue.join (glue.combine (Clause.truths before start first))
          (glue.combine (Clause.truths after (start + c.ordinary.length) others)) ∧
      glue.combine (truths goes start (c :: rest)) =
        glue.join (c.truth before start)
          (glue.combine (truths after (start + c.ordinary.length) rest)) := by
  let goes i := if i < start + c.ordinary.length then before i else after i
  have hbefore : ∀ i, start ≤ i → i < start + c.ordinary.length → goes i = before i :=
    fun i _ hu => if_pos hu
  have hafter : ∀ i, start + c.ordinary.length ≤ i →
      i < start + c.ordinary.length + (ordinaryAll rest).length → goes i = after i :=
    fun i hl _ => if_neg (Nat.not_lt.mpr hl)
  obtain ⟨hf₁, hf₂⟩ := goes_congr c first hf start hbefore
  obtain ⟨ho₁, ho₂⟩ := goes_congr_all (fun c _ first hf start => goes_congr c first hf start) ho _
    hafter
  refine ⟨goes, ?_, ?_⟩
  · rw [Clause.truths_append, Glue.combine_append, tests_length hf, hf₁, ho₁]
  · rw [truths, Glue.combine_cons, hf₂, ho₂]

theorem separated_all (glue : Glue) {conditions : List Condition} {out : List Clause}
    (each : ∀ c ∈ conditions, ¬c.Unmixed → ∀ first, (clauses schema scope c).result = .ok first →
      ∀ start, ∃ goes, Glue.and.combine (Clause.truths goes start first) = false ∧
        c.truth goes start = true)
    (hp : ∀ c ∈ conditions, c.Proper) (ho : ∀ c ∈ conditions, c.Open)
    (hm : ∃ c ∈ conditions, ¬c.Unmixed)
    (h : (clausesAll schema scope conditions).result = .ok out) (start : Nat) :
    ∃ goes, glue.combine (Clause.truths goes start out) = false ∧
      glue.combine (truths goes start conditions) = true := by
  induction conditions generalizing out start with
  | nil =>
    obtain ⟨c, hc, _⟩ := hm
    cases hc
  | cons condition rest ih =>
    obtain ⟨first, others, hf, hr, rfl⟩ := clauses_all_cons.mp h
    obtain ⟨hpc, hpr⟩ := List.forall_mem_cons.mp hp
    obtain ⟨hoc, hor⟩ := List.forall_mem_cons.mp ho
    by_cases hu : condition.Unmixed
    · -- the tests of the first condition go so that the rest decides
      have hmr : ∃ c ∈ rest, ¬c.Unmixed := by
        obtain ⟨c, hc, hn⟩ := hm
        rcases List.mem_cons.mp hc with rfl | hc
        · exact absurd hu hn
        · exact ⟨c, hc, hn⟩
      obtain ⟨after, hk, ht⟩ := ih (fun c hc => each c (List.mem_cons_of_mem _ hc)) hpr hor hmr hr
        (start + condition.ordinary.length)
      obtain ⟨goes, hgk, hgt⟩ := goes_apart hf hr glue start (fun _ => glue.combine []) after
      refine ⟨goes, ?_, ?_⟩
      · rw [hgk, Glue.join_comm]
        refine Glue.join_false hk fun hg => ?_
        subst hg
        exact Glue.combine_false rfl
          (Clause.forall_truths (outline_fails _ _ (clauses_outline _ _ hf)) start)
      · rw [hgt, Glue.join_comm]
        refine Glue.join_true ht fun hg => ?_
        rw [Glue.combine_nil hg]
        exact hoc.truth hpc start
    · obtain ⟨before, hk, ht⟩ := each condition (List.mem_cons_self ..) hu first hf start
      obtain ⟨goes, hgk, hgt⟩ := goes_apart hf hr glue start before (fun _ => glue.combine [])
      refine ⟨goes, ?_, ?_⟩
      · rw [hgk]
        refine Glue.join_false ?_ fun hg => ?_
        · rw [Bool.eq_false_iff] at hk ⊢
          exact fun hc => hk (combine_clauses hf hc)
        · subst hg
          exact Glue.combine_false rfl (clauses_all_fail hr _)
      · rw [hgt]
        refine Glue.join_true ht fun hg => ?_
        rw [Glue.combine_nil hg]
        exact Glue.combine_true hg
          (forall_truths (fun c hc => (hor c hc).truth (hpr c hc)) _)

theorem Vacuous.unmixed {c : Condition} (h : c.Vacuous) : c.Unmixed := by
  induction h with
  | predicate p operator nothing => exact .predicate p
  | group glue children each ih => exact .group (fun _ => .inl each) ih

theorem combine_or_of_mem {goes : Nat → Bool} {children : List Condition} {c : Condition}
    (hc : c ∈ children) (ht : ∀ start, c.truth goes start = true) (start : Nat) :
    Glue.or.combine (truths goes start children) = true := by
  induction children generalizing start with
  | nil => cases hc
  | cons child rest ih =>
    rw [truths, Glue.combine_cons]
    rcases List.mem_cons.mp hc with rfl | hc
    · exact Glue.join_true (ht start) (fun hg => absurd rfl hg)
    · rw [Glue.join_comm]
      exact Glue.join_true (ih hc _) (fun hg => absurd rfl hg)

/-- Where a group is mixed, tests can go so that the condition holds and its clauses do not. -/
theorem separated (c : Condition) (hp : c.Proper) (ho : c.Open) (hm : ¬c.Unmixed)
    (out : List Clause) (h : (clauses schema scope c).result = .ok out) (start : Nat) :
    ∃ goes, Glue.and.combine (Clause.truths goes start out) = false ∧
      c.truth goes start = true := by
  induction c using Condition.induct generalizing out start with
  | predicate p => exact absurd (.predicate p) hm
  | raw sql => exact absurd (.raw sql) hm
  | group glue children ih =>
    cases hp with
    | group connective some_child proper =>
      cases ho with
      | group each =>
        obtain ⟨inner, hi, rfl⟩ := group_clauses h (fun hv => hm hv.unmixed)
        simp only [Clause.truths, Glue.combine_one, Clause.truth, truth]
        by_cases hu : ∀ c ∈ children, c.Unmixed
        · have halike := fun h => hm (.group h hu)
          obtain ⟨rfl, hboth⟩ := Classical.not_imp.mp halike
          have hvacuous : ∃ c ∈ children, c.Vacuous := by
            by_contra hn
            exact hboth (.inr fun c hc hv => hn ⟨c, hc, hv⟩)
          obtain ⟨c, hc, hv⟩ := hvacuous
          exact ⟨fun _ => false, Glue.combine_false rfl (clauses_all_fail hi start),
            combine_or_of_mem hc (hv.truth (proper c hc) _) start⟩
        · have hmixed : ∃ c ∈ children, ¬c.Unmixed := by simpa using hu
          exact separated_all glue (fun c hc hn => ih c hc (proper c hc) (each c hc) hn) proper
            each hmixed hi start

end Condition

end SqlBuilder

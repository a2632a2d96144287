import TargetDescription.Proofs.Pattern.Legalization

/-!
# How many instructions a legalization replaces

The source of a legalization is one statement, but an argument of a statement may be an application
again. Then the source takes several instructions to match, and nothing in the group prevents it: a
call is decided by the names that the statement defines and reads.

* `Pattern.instructionCount` counts the applications of a pattern, nested ones included.
* `Pattern.instructionCount_eq_one_iff`: a pattern describes a single instruction just if it is one
  statement without nested applications.
* `TransformationGroup.legalize_of_names_eq`: nesting makes no difference to the answer.
* `legalizations_ignore_nesting` is the main result; `legalizes_nestedSum` is a legalization of two
  instructions.
-/

namespace TargetDescription

/-! ## Counting instructions -/

namespace Expr

/-- Is the argument an application? -/
def isApplication : Expr → Bool
  | apply .. => true
  | _ => false

mutual

/-- The number of instructions that an argument applies. -/
def instructionCount : Expr → ℕ
  | var _ => 0
  | imm _ => 0
  | apply _ args => instructionCountAll args + 1

/-- The number of instructions that a list of arguments applies. -/
def instructionCountAll : List Expr → ℕ
  | [] => 0
  | arg :: rest => arg.instructionCount + instructionCountAll rest

end

theorem instructionCount_eq_zero_iff {expr : Expr} :
    expr.instructionCount = 0 ↔ expr.isApplication = false := by
  cases expr <;> simp [instructionCount, isApplication]

theorem instructionCountAll_eq_zero_iff {args : List Expr} :
    instructionCountAll args = 0 ↔ ∀ arg ∈ args, arg.isApplication = false := by
  induction args with
  | nil => simp [instructionCountAll]
  | cons arg rest ih =>
    rw [instructionCountAll, Nat.add_eq_zero_iff, ih, instructionCount_eq_zero_iff,
      List.forall_mem_cons]

end Expr

/-- No argument of the statement is an application. -/
def Statement.IsFlat (statement : Statement) : Prop :=
  ∀ arg ∈ statement.application.args, arg.isApplication = false

/-- The number of instructions that a pattern applies. -/
def Pattern.instructionCount (pattern : Pattern) : ℕ :=
  Expr.instructionCountAll (pattern.statements.map fun statement => statement.application.toExpr)

/-- Every statement applies an instruction, besides those of its arguments. -/
theorem Pattern.instructionCount_cons (first : Statement) (rest : List Statement) :
    instructionCount ⟨first :: rest⟩ =
      Expr.instructionCountAll first.application.args + 1 + instructionCount ⟨rest⟩ := rfl

theorem Pattern.instructionCount_nil : instructionCount ⟨[]⟩ = 0 := rfl

/-- A single instruction leaves room for one statement, and for nothing inside of it. -/
theorem Pattern.instructionCount_eq_one_iff {pattern : Pattern} :
    pattern.instructionCount = 1 ↔
      ∃ statement, pattern.statements = [statement] ∧ statement.IsFlat := by
  obtain ⟨statements⟩ := pattern
  match statements with
  | [] => simp [instructionCount_nil]
  | [statement] =>
    rw [instructionCount_cons, instructionCount_nil, Nat.add_zero, Nat.add_eq_right,
      Expr.instructionCountAll_eq_zero_iff]
    simp [Statement.IsFlat]
  | first :: second :: rest =>
    rw [instructionCount_cons, instructionCount_cons]
    refine iff_of_false (by omega) ?_
    rintro ⟨statement, h, -⟩
    cases h

/-! ## What a call looks at -/

namespace Transformation

variable {source other destination : Pattern}

/-- Patterns with the same mentions form the same transformations. -/
theorem make_of_mentions_eq (h : source.mentions = other.mentions) :
    make source destination = (make other destination).map ({ · with source }) := by
  rw [make, make, h]
  split
  · rfl
  · split
    · rfl
    · split
      · rfl
      · split <;> rfl

/-- Of the source, the check for legalizations looks at the results only. -/
theorem verifyLegalization_with_source {statement other : Statement}
    {transformation : Transformation} (results : statement.results = other.results)
    (h : transformation.source = ⟨[other]⟩) :
    verifyLegalization { transformation with source := ⟨[statement]⟩ } =
      transformation.verifyLegalization := by
  rw [verifyLegalization, verifyLegalization, h]
  dsimp only
  rw [results]
  rfl

end Transformation

namespace TransformationGroup

variable {statement other : Statement} {destination : Pattern}

/-- The answer to a call depends on the names that the statement defines and reads, and not on the
applications in which it reads them. -/
theorem legalize_of_names_eq (group : TransformationGroup)
    (results : statement.results = other.results) (reads : statement.reads = other.reads) :
    (group.legalize statement destination).result =
      (group.legalize other destination).result.map ({ · with source := ⟨[statement]⟩ }) := by
  have mentions : Pattern.mentions ⟨[statement]⟩ = Pattern.mentions ⟨[other]⟩ := by
    simp [Pattern.mentions, Statement.mentions, results, reads]
  rw [legalize, legalize, Transformation.make_of_mentions_eq mentions]
  cases made : Transformation.make ⟨[other]⟩ destination with
  | error error => rfl
  | ok transformation =>
    have same := Transformation.verifyLegalization_with_source results
      (Transformation.patterns_of_make made).1
    rw [Except.map]
    dsimp only
    rw [same]
    cases transformation.verifyLegalization <;> rfl

/-- What a run adds to a group comes from its calls. -/
theorem call_of_mem_legalizeAll {group : TransformationGroup} {calls : List (Statement × Pattern)}
    {transformation : Transformation}
    (mem : transformation ∈ (group.legalizeAll calls).transformations) :
    transformation ∈ group.transformations ∨
      ∃ statement destination, (statement, destination) ∈ calls ∧
        transformation.source = ⟨[statement]⟩ := by
  induction calls generalizing group with
  | nil => exact .inl mem
  | cons call rest ih =>
    obtain ⟨statement, destination⟩ := call
    rcases ih mem with known | ⟨other, replacement, later, h⟩
    · rcases group.legalize_cases statement destination with ⟨added, made, -, ok⟩ | ⟨-, _, fail⟩
      · rw [ok, Outcome.state_ok] at known
        refine (List.mem_append.1 known).imp_right fun last => ?_
        obtain rfl := List.mem_singleton.1 last
        exact ⟨statement, destination, List.mem_cons_self,
          (Transformation.patterns_of_make made).1⟩
      · rw [fail, Outcome.state_fail] at known
        exact .inl known
    · exact .inr ⟨other, replacement, List.mem_cons_of_mem _ later, h⟩

end TransformationGroup

/-! ## Sources of any size -/

/-- The variable `x`, added to itself `n` times. -/
def multipleOfX : ℕ → Expr
  | 0 => .var "x"
  | n + 1 => .apply additionRef [.var "x", multipleOfX n]

/-- One statement with `n + 1` additions. -/
def multipleSum (n : ℕ) : Statement :=
  ⟨["a"], additionRef, [.var "x", multipleOfX n]⟩

theorem instructionCount_multipleOfX (n : ℕ) : (multipleOfX n).instructionCount = n := by
  induction n with
  | zero => rfl
  | succ n ih =>
    simp [multipleOfX, Expr.instructionCount, Expr.instructionCountAll, ih]

theorem instructionCount_multipleSum (n : ℕ) :
    Pattern.instructionCount ⟨[multipleSum n]⟩ = n + 1 := by
  simp [Pattern.instructionCount_cons, Pattern.instructionCount_nil, multipleSum,
    Expr.instructionCountAll, Expr.instructionCount, instructionCount_multipleOfX]

theorem eq_of_mem_reads_multipleOfX {n : ℕ} {name : String} (h : name ∈ (multipleOfX n).reads) :
    name = "x" := by
  induction n with
  | zero => simpa [multipleOfX, Expr.reads] using h
  | succ n ih =>
    have : name = "x" ∨ name ∈ (multipleOfX n).reads := by
      simpa [multipleOfX, Expr.reads, Expr.readsAll] using h
    exact this.elim id ih

theorem mem_reads_multipleSum {n : ℕ} {name : String} :
    name ∈ (multipleSum n).reads ↔ name = "x" := by
  have : name ∈ (multipleSum n).reads ↔ name = "x" ∨ name ∈ (multipleOfX n).reads := by
    simp [Statement.reads, multipleSum, Expr.reads, Expr.readsAll]
  rw [this]
  exact or_iff_left_of_imp eq_of_mem_reads_multipleOfX

theorem resolvable_multipleSum (m n : ℕ) :
    Resolvable ⟨[multipleSum m]⟩ ⟨[multipleSum n]⟩ := by
  have defined (k : ℕ) : Pattern.definedNames ⟨[multipleSum k]⟩ = ["a"] := rfl
  have undefined : Undefined ⟨[multipleSum m]⟩ ⟨[multipleSum n]⟩ "x" := by
    simp [Undefined, defined]
  have bound (k : ℕ) : Pattern.ReadsDefinedOr ⟨[multipleSum k]⟩
      (Undefined ⟨[multipleSum m]⟩ ⟨[multipleSum n]⟩) := by
    intro i statement hi name read
    obtain rfl := List.mem_singleton.1 (List.mem_of_getElem? hi)
    obtain rfl := mem_reads_multipleSum.1 read
    exact .inr undefined
  refine ⟨by simp [defined], by simp [defined], bound m, bound n, fun name read _ => ?_⟩
  simp only [Pattern.readNames, List.flatMap_singleton, mem_reads_multipleSum] at read ⊢
  exact read

/-- **Legalizations may replace any number of instructions.** The source of a legalization is the
statement of a call, and it describes a single instruction just if no argument of the statement is
an application. Whether it is one makes no difference: calls with statements that define and read
the same names have the same answer, and every number of instructions occurs. -/
theorem legalizations_ignore_nesting (group : TransformationGroup) :
    (∀ (calls : List (Statement × Pattern)) (transformation : Transformation),
        transformation ∈ (group.legalizeAll calls).transformations →
        transformation ∈ group.transformations ∨
          ∃ statement destination, (statement, destination) ∈ calls ∧
            transformation.source = ⟨[statement]⟩ ∧
            (transformation.source.instructionCount = 1 ↔ statement.IsFlat)) ∧
      (∀ (statement other : Statement) (destination : Pattern),
        statement.results = other.results → statement.reads = other.reads →
        (group.legalize statement destination).result =
          (group.legalize other destination).result.map ({ · with source := ⟨[statement]⟩ })) ∧
      ∀ n, ∃ statement destination transformation,
        (group.legalize statement destination).result = .ok transformation ∧
          transformation.source.instructionCount = n + 1 := by
  refine ⟨fun calls transformation mem => ?_, fun _ _ _ => group.legalize_of_names_eq,
    fun n => ?_⟩
  · refine (TransformationGroup.call_of_mem_legalizeAll mem).imp_right ?_
    rintro ⟨statement, destination, call, h⟩
    refine ⟨statement, destination, call, h, ?_⟩
    rw [h, Pattern.instructionCount_eq_one_iff]
    simp
  · have resolved := Transformation.exists_make_iff.2 (resolvable_multipleSum n 0)
    have defined : ∀ name ∈ (multipleSum n).results,
        name ∈ Pattern.definedNames ⟨[multipleSum 0]⟩ := fun name mem => mem
    rcases group.legalize_cases (multipleSum n) ⟨[multipleSum 0]⟩ with
      ⟨transformation, made, -, ok⟩ | ⟨refused, -⟩
    · refine ⟨_, _, transformation, by rw [ok, Outcome.result_ok], ?_⟩
      rw [(Transformation.patterns_of_make made).1, instructionCount_multipleSum]
    · exact absurd ⟨resolved, defined⟩ refused

/-- A nested sum as one statement. -/
def nestedStatement : Statement :=
  ⟨["a"], additionRef, [.var "x", .apply additionRef [.var "y", .var "z"]]⟩

/-- The same variables, nested the other way. -/
def leftNestedStatement : Statement :=
  ⟨["a"], additionRef, [.apply additionRef [.var "x", .var "y"], .var "z"]⟩

theorem legalizations_ignore_nesting_stepwiseSum :
    (TransformationGroup.legalize ⟨"narrow", "", []⟩ nestedStatement stepwiseSum).result =
        (TransformationGroup.legalize ⟨"narrow", "", []⟩ leftNestedStatement
          stepwiseSum).result.map ({ · with source := ⟨[nestedStatement]⟩ }) ∧
      ∃ transformation ∈ (TransformationGroup.legalizeAll ⟨"narrow", "", []⟩
          [(nestedStatement, stepwiseSum)]).transformations,
        (transformation.source.instructionCount = 1 ↔ nestedStatement.IsFlat) := by
  obtain ⟨sources, names, -⟩ := legalizations_ignore_nesting ⟨"narrow", "", []⟩
  have added : ∃ transformation, transformation ∈ (TransformationGroup.legalizeAll
      ⟨"narrow", "", []⟩ [(nestedStatement, stepwiseSum)]).transformations :=
    ⟨_, List.mem_singleton_self _⟩
  obtain ⟨transformation, mem⟩ := added
  obtain ⟨statement, destination, call, -, single⟩ :=
    (sources _ transformation mem).resolve_left List.not_mem_nil
  obtain ⟨rfl, rfl⟩ := Prod.mk.inj (List.mem_singleton.1 call)
  exact ⟨names nestedStatement leftNestedStatement stepwiseSum rfl rfl, transformation, mem, single⟩

/-- The source of a legalization may take two instructions to match. -/
theorem legalizes_nestedSum :
    ∃ transformation ∈ (TransformationGroup.legalizeAll ⟨"narrow", "", []⟩
        [(nestedStatement, stepwiseSum)]).transformations,
      transformation.source.instructionCount = 2 :=
  ⟨_, List.mem_singleton_self _, rfl⟩

end TargetDescription

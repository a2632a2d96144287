import Mathlib.Data.List.Nodup
import TargetDescription.Proofs.Pattern.Resolution

/-!
# What a group of legalizations holds

A group collects the legalizations that are accepted, in the order in which they are added. Each of
them replaces one statement: its destination defines what the statement defines, and reads nothing
that is not there when the statement is reached.

* `Transformation.ReplacesSource` says that the destination can stand for the source.
* `TransformationGroup.legalize_cases` says which calls are accepted and what they do.
* `TransformationGroup.legalizeAll` is a run of calls, `TransformationGroup.answers` what they
  answer.
* `legalizations_replace` is the main result.
-/

namespace TargetDescription

/-! ## Which transformations are legalizations -/

namespace Transformation

/-- The destination can stand for the source, which is one statement. It defines every result of the
statement once, and whatever it reads is defined in it or is an input that the source reads too. -/
structure ReplacesSource (transformation : Transformation) : Prop where
  results : ∃ statement, transformation.source.statements = [statement] ∧
    ∀ name ∈ statement.results, transformation.destination.definedNames.count name = 1
  reads : transformation.destination.ReadsDefinedOr fun name =>
    name ∈ transformation.source.readNames ∧
      Undefined transformation.source transformation.destination name

variable {source destination : Pattern} {transformation : Transformation}

/-- A variable is an output just if the destination defines it. -/
theorem any_isOutput_symbol?_iff (h : make source destination = .ok transformation)
    {name : String} :
    (transformation.symbol? name).any PatternSymbol.isOutput = true ↔
      name ∈ destination.definedNames := by
  have output : ((History.ofPatterns source destination).symbolOf name).isOutput = true ↔
      name ∈ destination.definedNames := by
    simp [PatternSymbol.isOutput, History.symbolOf]
  rw [symbol?_of_make h]
  split
  case isTrue mentioned => rw [Option.any_some, output]
  case isFalse unmentioned =>
    -- There is no symbol, but then the destination does not define the variable either.
    refine iff_of_false (by simp) fun defined => unmentioned ?_
    have mem : Mention.defines name ∈ source.mentions ++ destination.mentions :=
      List.mem_append_right _ (Pattern.defines_mem_mentions.2 defined)
    exact List.mem_map.2 ⟨_, mem, rfl⟩

theorem verifyLegalization_eq_ok_iff {statement : Statement}
    (h : make ⟨[statement]⟩ destination = .ok transformation) :
    transformation.verifyLegalization = .ok () ↔
      ∀ name ∈ statement.results, name ∈ destination.definedNames := by
  have missing : transformation.undefinedOutput? statement.results = none ↔
      ∀ name ∈ statement.results, name ∈ destination.definedNames := by
    rw [undefinedOutput?, List.find?_eq_none]
    simp only [Bool.not_eq_true', Bool.not_eq_false, any_isOutput_symbol?_iff h]
  rw [verifyLegalization, (patterns_of_make h).1, ← missing]
  dsimp only
  cases transformation.undefinedOutput? statement.results <;> simp

/-- A transformation of one statement whose results are defined can stand for the statement: the
two patterns would not have been resolved otherwise. -/
theorem replacesSource_of_make {statement : Statement}
    (h : make ⟨[statement]⟩ destination = .ok transformation)
    (defined : ∀ name ∈ statement.results, name ∈ destination.definedNames) :
    transformation.ReplacesSource := by
  have resolvable := resolvable_of_make h
  obtain ⟨hsource, hdestination⟩ := patterns_of_make h
  constructor
  case results =>
    refine ⟨statement, by rw [hsource], fun name mem => ?_⟩
    rw [hdestination]
    exact List.count_eq_one_of_mem resolvable.destination_once (defined name mem)
  case reads =>
    rw [hsource, hdestination]
    intro i reader hi name read
    refine (resolvable.destination_reads i reader hi name read).imp_right fun undefined => ?_
    have mem : name ∈ destination.readNames :=
      List.mem_flatMap.2 ⟨reader, List.mem_of_getElem? hi, read⟩
    exact ⟨resolvable.inputs_read name mem undefined, undefined⟩

end Transformation

/-! ## One call -/

namespace TransformationGroup

variable {group : TransformationGroup} {source : Statement} {destination : Pattern}

/-- A call adds what it answers, if it succeeds; the group has no part in whether it does. -/
theorem legalize_cases (group : TransformationGroup) (source : Statement) (destination : Pattern) :
    (∃ transformation, Transformation.make ⟨[source]⟩ destination = .ok transformation ∧
        (∀ name ∈ source.results, name ∈ destination.definedNames) ∧
        group.legalize source destination = .ok transformation
          { group with transformations := group.transformations ++ [transformation] }) ∨
      (¬ ((∃ transformation, Transformation.make ⟨[source]⟩ destination = .ok transformation) ∧
          ∀ name ∈ source.results, name ∈ destination.definedNames) ∧
        ∃ error, group.legalize source destination = .fail error group) := by
  rw [legalize]
  cases made : Transformation.make ⟨[source]⟩ destination with
  | error error => exact .inr ⟨by simp, error, rfl⟩
  | ok transformation =>
    have verified := Transformation.verifyLegalization_eq_ok_iff made
    cases h : transformation.verifyLegalization with
    | ok => exact .inl ⟨transformation, rfl, verified.1 h, by simp [h]⟩
    | error error =>
      refine .inr ⟨fun ⟨_, defined⟩ => ?_, error, by simp [h]⟩
      rw [verified.2 defined] at h
      cases h

theorem state_legalize_of_error {error : Error}
    (h : (group.legalize source destination).result = .error error) :
    (group.legalize source destination).state = group := by
  rcases group.legalize_cases source destination with ⟨_, -, -, ok⟩ | ⟨-, _, fail⟩
  · simp [ok] at h
  · rw [fail, Outcome.state_fail]

theorem exists_legalize_of_defined
    (made : ∃ transformation, Transformation.make ⟨[source]⟩ destination = .ok transformation)
    (defined : ∀ name ∈ source.results, name ∈ destination.definedNames) :
    ∃ transformation, (group.legalize source destination).result = .ok transformation := by
  rcases group.legalize_cases source destination with ⟨transformation, -, -, ok⟩ | ⟨refused, -⟩
  · exact ⟨transformation, by rw [ok, Outcome.result_ok]⟩
  · exact absurd ⟨made, defined⟩ refused

/-! ## Runs of calls -/

/-- What several calls leave. -/
def legalizeAll (group : TransformationGroup) : List (Statement × Pattern) → TransformationGroup
  | [] => group
  | (source, destination) :: rest => (group.legalize source destination).state.legalizeAll rest

/-- What the calls answer, one after the other. -/
def answers (group : TransformationGroup) :
    List (Statement × Pattern) → List (Except Error Transformation)
  | [] => []
  | (source, destination) :: rest =>
    let outcome := group.legalize source destination
    outcome.result :: outcome.state.answers rest

theorem legalizeAll_eq (group : TransformationGroup) (calls : List (Statement × Pattern)) :
    group.legalizeAll calls =
      { group with transformations :=
          group.transformations ++ (group.answers calls).filterMap Except.toOption } := by
  induction calls generalizing group with
  | nil => simp [legalizeAll, answers]
  | cons call rest ih =>
    obtain ⟨source, destination⟩ := call
    rw [legalizeAll, answers, ih]
    rcases group.legalize_cases source destination with ⟨transformation, -, -, h⟩ | ⟨-, _, h⟩
    · simp [h, Except.toOption]
    · simp [h, Except.toOption, List.filterMap_cons]

/-- A call that is accepted is answered with the transformation between its patterns. -/
theorem call_of_answers {group : TransformationGroup} {calls : List (Statement × Pattern)} {i : ℕ}
    {transformation : Transformation}
    (h : (group.answers calls)[i]? = some (.ok transformation)) :
    ∃ source destination, calls[i]? = some (source, destination) ∧
      Transformation.make ⟨[source]⟩ destination = .ok transformation ∧
      ∀ name ∈ source.results, name ∈ destination.definedNames := by
  induction calls generalizing group i with
  | nil => cases h
  | cons call rest ih =>
    obtain ⟨source, destination⟩ := call
    cases i with
    | zero =>
      have result := Option.some.inj h
      refine ⟨source, destination, rfl, ?_⟩
      rcases group.legalize_cases source destination with ⟨_, made, defined, ok⟩ | ⟨-, _, fail⟩
      · rw [ok, Outcome.result_ok, Except.ok.injEq] at result
        exact ⟨result ▸ made, defined⟩
      · simp [fail] at result
    | succ i => exact ih h

end TransformationGroup

/-- **A group holds just the legalizations that it accepted, in the order of the calls, and each of
them can stand for its source.** A call that fails leaves the group as it was. A call succeeds as
soon as its two patterns form a transformation and the destination defines every result of the
source. -/
theorem legalizations_replace (group : TransformationGroup) (calls : List (Statement × Pattern)) :
    group.legalizeAll calls = { group with transformations :=
        group.transformations ++ (group.answers calls).filterMap Except.toOption } ∧
      (∀ (i : ℕ) (transformation : Transformation),
        (group.answers calls)[i]? = some (.ok transformation) →
          ∃ source destination, calls[i]? = some (source, destination) ∧
            transformation.source = ⟨[source]⟩ ∧ transformation.destination = destination) ∧
      (∀ transformation ∈ (group.legalizeAll calls).transformations,
        transformation ∈ group.transformations ∨ transformation.ReplacesSource) ∧
      (∀ source destination error, (group.legalize source destination).result = .error error →
        (group.legalize source destination).state = group) ∧
      ∀ source destination,
        (∃ transformation, Transformation.make ⟨[source]⟩ destination = .ok transformation) →
          (∀ name ∈ source.results, name ∈ destination.definedNames) →
            ∃ transformation, (group.legalize source destination).result = .ok transformation := by
  refine ⟨group.legalizeAll_eq calls, fun i transformation h => ?_, fun transformation mem => ?_,
    fun _ _ _ => TransformationGroup.state_legalize_of_error,
    fun _ _ => TransformationGroup.exists_legalize_of_defined⟩
  · obtain ⟨source, destination, call, made, -⟩ := TransformationGroup.call_of_answers h
    exact ⟨source, destination, call, Transformation.patterns_of_make made⟩
  · rw [TransformationGroup.legalizeAll_eq] at mem
    refine (List.mem_append.1 mem).imp_right fun added => ?_
    obtain ⟨answer, answered, success⟩ := List.mem_filterMap.1 added
    obtain ⟨i, hi⟩ := List.mem_iff_getElem?.1 answered
    cases answer with
    | error error => cases success
    | ok accepted =>
      obtain rfl := Option.some.inj success
      obtain ⟨source, destination, -, made, defined⟩ := TransformationGroup.call_of_answers hi
      exact Transformation.replacesSource_of_make made defined

/-- The sum of two variables. -/
def sumStatement : Statement :=
  ⟨["a"], additionRef, [.var "x", .var "y"]⟩

/-- The sum the other way round. -/
def swappedSum : Pattern :=
  ⟨[⟨["a"], additionRef, [.var "y", .var "x"]⟩]⟩

/-- The sum under another name. -/
def renamedSum : Pattern :=
  ⟨[⟨["b"], additionRef, [.var "x", .var "y"]⟩]⟩

theorem legalizations_replace_swappedSum :
    ∃ transformation, TransformationGroup.answers ⟨"narrow", "", []⟩
          [(sumStatement, renamedSum), (sumStatement, swappedSum)] =
        [.error (.undefinedLegalizationOutput "a"), .ok transformation] ∧
      (TransformationGroup.legalizeAll ⟨"narrow", "", []⟩
          [(sumStatement, renamedSum), (sumStatement, swappedSum)]).transformations =
        [transformation] ∧ transformation.ReplacesSource := by
  have answers : ∃ transformation, TransformationGroup.answers ⟨"narrow", "", []⟩
      [(sumStatement, renamedSum), (sumStatement, swappedSum)] =
        [.error (.undefinedLegalizationOutput "a"), .ok transformation] := ⟨_, rfl⟩
  obtain ⟨transformation, answers⟩ := answers
  obtain ⟨run, -, replaces, -⟩ := legalizations_replace ⟨"narrow", "", []⟩
    [(sumStatement, renamedSum), (sumStatement, swappedSum)]
  have held : (TransformationGroup.legalizeAll ⟨"narrow", "", []⟩
      [(sumStatement, renamedSum), (sumStatement, swappedSum)]).transformations =
        [transformation] := by
    rw [run, answers]
    rfl
  refine ⟨transformation, answers, held, (replaces transformation ?_).resolve_left List.not_mem_nil⟩
  rw [held]
  exact List.mem_singleton_self transformation

end TargetDescription

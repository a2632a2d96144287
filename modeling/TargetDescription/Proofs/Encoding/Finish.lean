import TargetDescription.Encoding.Target
import TargetDescription.Proofs.Setting.Evaluation

/-!
# Finishing a target

Finishing numbers either all settings predicates in use or none. It fails just if the settings group
cannot evaluate the predicate of some encoding, and then no later step mends the target.

* `Target.foreignPredicate?` is the first predicate that stands in the way.
* `Target.finish_of_foreign` and `Target.finish_of_served` are the two outcomes.
* `finish_atomic` is the main result.
-/

namespace TargetDescription

namespace Target

/-- The settings predicates of the encodings, mode by mode. -/
def encodingPredicates (target : Target) : List Predicate :=
  target.encodings.filterMap (·.settingPredicate)

/-- The first encoding's predicate that the settings group cannot evaluate. -/
def foreignPredicate? (target : Target) : Option Predicate :=
  target.encodingPredicates.find? fun predicate => !target.settings.serves predicate.context

theorem mem_encodingPredicates {target : Target} {predicate : Predicate} :
    predicate ∈ target.encodingPredicates ↔
      ∃ encoding ∈ target.encodings, encoding.settingPredicate = some predicate :=
  List.mem_filterMap

/-! ## The check -/

/-- A conjunction is complained of before its leaves are looked at. -/
theorem find?_foreign_of_leafs (group : SettingGroup) (predicate : Predicate) :
    ((predicate :: predicate.leafs.map .leaf).find? fun predicate =>
        !group.serves predicate.context) =
      Option.guard (fun predicate => !group.serves predicate.context) predicate := by
  by_cases h : group.serves predicate.context = true
  · rw [Option.guard_eq_none_iff.2 (by simp [h]), List.find?_eq_none]
    intro other mem
    rcases List.mem_cons.1 mem with rfl | mem
    · simp [h]
    · obtain ⟨leaf, hleaf, rfl⟩ := List.mem_map.1 mem
      have served : group.serves leaf.context = true := group.serves_leaf h hleaf
      simp [Predicate.context, served]
  · rw [List.find?_cons_of_pos (by simp [h])]
    exact (Option.guard_eq_some_iff.2 ⟨rfl, by simp [h]⟩).symm

theorem find?_settingPredicates (target : Target) :
    (target.settingPredicates.find? fun predicate =>
      !target.settings.serves predicate.context) = target.foreignPredicate? := by
  rw [settingPredicates, List.find?_flatMap, foreignPredicate?, List.find?_eq_findSome?_guard]
  exact congrArg (List.findSome? · _) (funext (find?_foreign_of_leafs target.settings))

theorem serves_of_foreignPredicate?_eq_none {target : Target}
    (h : target.foreignPredicate? = none) :
    ∀ predicate ∈ target.settingPredicates,
      target.settings.serves predicate.context = true := by
  rw [← find?_settingPredicates, List.find?_eq_none] at h
  exact fun predicate mem => by simpa using h predicate mem

/-! ## The two outcomes -/

theorem finish_of_foreign {target : Target} (unfinished : target.numbering = none)
    {predicate : Predicate} (h : target.foreignPredicate? = some predicate) :
    target.finish =
      .fail (.foreignPredicate predicate.display target.settings.name) target := by
  rw [finish, unfinished, SettingGroup.checkPredicates_eq, find?_settingPredicates, h]

theorem finish_of_served {target : Target} (unfinished : target.numbering = none)
    (h : target.foreignPredicate? = none) :
    target.finish =
      .ok ()
        { target with
          settings := { target.settings with
            numbering := target.settings.numbering.addAll target.settingPredicates }
          numbering := some
            { recipes := Numbering.ofList (target.encodings.map (·.recipe))
              fieldPredicates :=
                Numbering.ofList (target.encodings.filterMap (·.fieldPredicate)) } } := by
  rw [finish, unfinished, SettingGroup.checkPredicates_eq, find?_settingPredicates, h]
  simp only [SettingGroup.numberPredicates_of_serves (serves_of_foreignPredicate?_eq_none h)]
  rfl

theorem result_finish_eq_ok_iff {target : Target} (unfinished : target.numbering = none) :
    target.finish.result = .ok () ↔ target.foreignPredicate? = none := by
  cases h : target.foreignPredicate? with
  | some predicate => simp [finish_of_foreign unfinished h]
  | none => simp [finish_of_served unfinished h]

/-! ## Later steps -/

/-- The steps that a target goes through. -/
inductive Step
  | addMode (mode : CpuMode)
  | finish

/-- What a step leaves, whether it succeeds or fails. -/
def perform (target : Target) : Step → Target
  | .addMode mode => (target.addMode mode).state
  | .finish => target.finish.state

/-- What several steps leave. -/
def performAll (target : Target) (steps : List Step) : Target :=
  steps.foldl perform target

/-- Encodings are only added behind those that are there. -/
theorem foreignPredicate?_addMode (target : Target) (mode : CpuMode) {predicate : Predicate}
    (h : target.foreignPredicate? = some predicate) :
    foreignPredicate? { target with modes := target.modes ++ [mode] } = some predicate := by
  rw [foreignPredicate?, encodingPredicates] at h ⊢
  rw [encodings, List.flatMap_append, List.filterMap_append, List.find?_append]
  exact Option.or_eq_some_iff.2 (Or.inl h)

/-- A target that cannot be finished stays so, with the same settings. -/
theorem perform_of_foreign {target : Target} (unfinished : target.numbering = none)
    {predicate : Predicate} (h : target.foreignPredicate? = some predicate) (step : Step) :
    (target.perform step).numbering = none ∧
      (target.perform step).settings = target.settings ∧
      (target.perform step).foreignPredicate? = some predicate := by
  cases step with
  | addMode mode =>
    rw [perform, addMode, unfinished]
    exact ⟨rfl, rfl, foreignPredicate?_addMode target mode h⟩
  | finish =>
    rw [perform, finish_of_foreign unfinished h]
    exact ⟨unfinished, rfl, h⟩

theorem performAll_of_foreign {target : Target} (unfinished : target.numbering = none)
    {predicate : Predicate} (h : target.foreignPredicate? = some predicate)
    (steps : List Step) :
    (target.performAll steps).numbering = none ∧
      (target.performAll steps).settings = target.settings ∧
      (target.performAll steps).foreignPredicate? = some predicate := by
  induction steps generalizing target with
  | nil => exact ⟨unfinished, rfl, h⟩
  | cons step rest ih =>
    obtain ⟨unfinished', settings, h'⟩ := perform_of_foreign unfinished h step
    rw [← settings]
    exact ih unfinished' h'

/-- Every later attempt to finish it complains of the same predicate. -/
theorem finish_performAll_of_foreign {target : Target} (unfinished : target.numbering = none)
    {predicate : Predicate} (h : target.foreignPredicate? = some predicate)
    (steps : List Step) :
    (target.performAll steps).finish =
      .fail (.foreignPredicate predicate.display target.settings.name)
        (target.performAll steps) := by
  obtain ⟨unfinished', settings, h'⟩ := performAll_of_foreign unfinished h steps
  rw [finish_of_foreign unfinished' h', settings]

/-! ## Atomicity -/

/-- The settings group of the target cannot evaluate the predicate: it is about the fields of a
format, or about a group other than the target's and its ancestors. -/
def Foreign (target : Target) (predicate : Predicate) : Prop :=
  ¬ predicate.context.EvaluableIn (.settings target.settings.path)

theorem foreign_iff {target : Target} {predicate : Predicate} :
    target.Foreign predicate ↔ (!target.settings.serves predicate.context) = true := by
  rw [Foreign, ← SettingGroup.serves_iff, Bool.not_eq_true, Bool.not_eq_true']

/-- The first foreign predicate belongs to the first encoding that has one. -/
theorem exists_encoding_of_foreignPredicate? {target : Target} {predicate : Predicate}
    (h : target.foreignPredicate? = some predicate) :
    ∃ before encoding after, target.encodings = before ++ encoding :: after ∧
      encoding.settingPredicate = some predicate ∧ target.Foreign predicate ∧
      ∀ earlier ∈ before, ∀ other, earlier.settingPredicate = some other →
        ¬ target.Foreign other := by
  have foreign := List.find?_some h
  rw [foreignPredicate?, encodingPredicates, List.find?_filterMap, Option.bind_eq_some_iff] at h
  obtain ⟨encoding, found, hpredicate⟩ := h
  obtain ⟨-, before, after, split, earlier⟩ := List.find?_eq_some_iff_append.1 found
  refine ⟨before, encoding, after, split, hpredicate, foreign_iff.2 foreign, ?_⟩
  intro other mem otherPredicate hother
  rw [foreign_iff]
  simpa [hother] using earlier other mem

theorem foreignPredicate?_isSome_iff {target : Target} :
    target.foreignPredicate?.isSome = true ↔ ∃ encoding ∈ target.encodings, ∃ predicate,
      encoding.settingPredicate = some predicate ∧ target.Foreign predicate := by
  rw [foreignPredicate?, List.find?_isSome]
  constructor
  · rintro ⟨predicate, mem, foreign⟩
    obtain ⟨encoding, hencoding, hpredicate⟩ := mem_encodingPredicates.1 mem
    exact ⟨encoding, hencoding, predicate, hpredicate, foreign_iff.2 foreign⟩
  · rintro ⟨encoding, hencoding, predicate, hpredicate, foreign⟩
    exact ⟨predicate, mem_encodingPredicates.2 ⟨encoding, hencoding, hpredicate⟩,
      foreign_iff.1 foreign⟩

/-- Once the check has passed, a predicate can be numbered after any of those before it. -/
theorem numberPredicate_of_checked {target : Target}
    (checked : target.settings.checkPredicates target.settingPredicates = .ok ())
    {before after : List Predicate} {predicate : Predicate}
    (split : target.settingPredicates = before ++ predicate :: after) :
    ∃ number, ((target.settings.numberPredicates before).state.numberPredicate predicate).result =
      .ok number := by
  have served := (SettingGroup.checkPredicates_eq_ok_iff _ _).1 checked
  rw [split, List.forall_mem_append, List.forall_mem_cons] at served
  obtain ⟨earlier, next, -⟩ := served
  rw [SettingGroup.numberPredicates_of_serves earlier, Outcome.state_ok]
  obtain ⟨number, h⟩ := @SettingGroup.numberPredicate_of_serves
    { target.settings with numbering := target.settings.numbering.addAll before } predicate next
  exact ⟨number, by rw [h, Outcome.result_ok]⟩

end Target

/-- **A target is finished as a whole or not at all.** Finishing an unfinished target fails exactly
if the settings predicate of some encoding is foreign; it then complains of the first such encoding
and leaves the target as it was, and every later attempt does the same, whatever modes are added in
between. After a check that passes, no predicate is refused a number. -/
theorem finish_atomic (target : Target) (unfinished : target.isFinished = false) :
    ((∃ error, target.finish.result = .error error) ↔
        ∃ encoding ∈ target.encodings, ∃ predicate,
          encoding.settingPredicate = some predicate ∧ target.Foreign predicate) ∧
      (∀ error, target.finish.result = .error error →
        (∃ before encoding after predicate, target.encodings = before ++ encoding :: after ∧
          encoding.settingPredicate = some predicate ∧ target.Foreign predicate ∧
          (∀ earlier ∈ before, ∀ other, earlier.settingPredicate = some other →
            ¬ target.Foreign other) ∧
          error = .foreignPredicate predicate.display target.settings.name) ∧
        target.finish.state = target ∧
        ∀ steps, (target.finish.state.performAll steps).finish =
          .fail error (target.finish.state.performAll steps)) ∧
      (target.settings.checkPredicates target.settingPredicates = .ok () →
        ∀ before predicate after, target.settingPredicates = before ++ predicate :: after →
          ∃ number, ((target.settings.numberPredicates before).state.numberPredicate
            predicate).result = .ok number) ∧
      (target.finish.result = .ok () → ∀ predicate ∈ target.settingPredicates,
        (target.finish.state.settings.predicateNumber? predicate).isSome = true) := by
  have unfinished : target.numbering = none := by simpa [Target.isFinished] using unfinished
  have outcome := Target.result_finish_eq_ok_iff unfinished
  refine ⟨?_, fun error herror => ?_, fun checked before predicate after split => ?_,
    fun ok predicate mem => ?_⟩
  · rw [← Target.foreignPredicate?_isSome_iff, Option.isSome_iff_ne_none, ne_eq, ← outcome]
    cases target.finish.result with
    | ok => simp
    | error error => simp
  · cases h : target.foreignPredicate? with
    | none => simp [outcome.2 h] at herror
    | some predicate =>
      have finish := Target.finish_of_foreign unfinished h
      rw [finish, Outcome.result_fail, Except.error.injEq] at herror
      obtain rfl := herror
      obtain ⟨before, encoding, after, split, hpredicate, foreign, earlier⟩ :=
        Target.exists_encoding_of_foreignPredicate? h
      refine ⟨⟨before, encoding, after, predicate, split, hpredicate, foreign, earlier, rfl⟩, ?_⟩
      rw [finish, Outcome.state_fail]
      exact ⟨rfl, Target.finish_performAll_of_foreign unfinished h⟩
  · exact Target.numberPredicate_of_checked checked split
  · rw [Target.finish_of_served unfinished (outcome.1 ok)]
    exact Numbering.isSome_number?_iff.2 ((Numbering.mem_items_addAll _ _ _).2 (Or.inr mem))

/-- The shared settings. -/
def sharedPath : GroupPath :=
  ⟨⟨⟨3⟩, "shared"⟩, []⟩

/-- The settings of a processor, which extend the shared ones. -/
def ownPath : GroupPath :=
  ⟨⟨⟨4⟩, "own"⟩, sharedPath.labels⟩

/-- The settings of another processor. -/
def otherPath : GroupPath :=
  ⟨⟨⟨5⟩, "other"⟩, sharedPath.labels⟩

/-- An encoding that demands the first setting of a group. -/
def flagEncoding (group : GroupPath) : Encoding :=
  let format : InstructionFormat := ⟨⟨0⟩, "Nullary", [], false, false, none⟩
  { inst :=
      { origin := ⟨1⟩, name := "nop", doc := "", ins := [], outs := [], format
        polymorphism := none, isTerminator := false, isBranch := false }
    types := []
    recipe := ⟨⟨2⟩, "Nop", format, none, none⟩
    bits := 0
    fieldPredicate := none
    settingPredicate := some (.ofSetting ⟨group, 0, "flag"⟩) }

/-- A target with two modes. Only its last encoding demands a setting of another processor. -/
def strayTarget : Target :=
  { name := "stray"
    groups := []
    settings := ⟨ownPath, [], [], Numbering.empty, 0, 0⟩
    modes :=
      [⟨"I64", [flagEncoding sharedPath]⟩,
        ⟨"I32", [flagEncoding ownPath, flagEncoding otherPath]⟩] }

/-- The predicates of the other encodings could be numbered, but none of them is. -/
theorem finish_atomic_strayTarget :
    strayTarget.isFinished = false ∧
      (strayTarget.settings.numberPredicates
        ((strayTarget.encodings.take 2).filterMap (·.settingPredicate))).result = .ok () ∧
      ∃ error, strayTarget.finish.result = .error error ∧
        error = .foreignPredicate "other.flag" "own" ∧ strayTarget.finish.state = strayTarget ∧
        ∀ steps, (strayTarget.performAll steps).finish =
          .fail error (strayTarget.performAll steps) := by
  obtain ⟨fails, failure, -⟩ := finish_atomic strayTarget rfl
  have foreign : ∃ encoding ∈ strayTarget.encodings, ∃ predicate,
      encoding.settingPredicate = some predicate ∧ strayTarget.Foreign predicate :=
    ⟨flagEncoding otherPath, by decide, _, rfl, Target.foreign_iff.2 rfl⟩
  obtain ⟨error, h⟩ := fails.2 foreign
  obtain ⟨-, state, later⟩ := failure error h
  rw [state] at later
  exact ⟨rfl, rfl, error, h, Except.error.inj (h.symm.trans rfl), state, later⟩

end TargetDescription

import TargetDescription.Proofs.Encoding.FieldPredicate

/-!
# Numbers by first use

Finishing a target numbers three sorts of things: recipes, field predicates and settings predicates.
Each gets its number where the encodings, mode by mode, first use it. Recipes and field predicates
are numbered from zero, settings predicates behind those that the settings group has numbered
before. A finished target does not change any more.

* `Target.NumbersUsesOf` is what the numbers of a finished target say about its encodings.
* `Target.numbersUsesOf_of_served` shows it for a target whose predicates pass the check.
* `Target.performAll_of_finished` is the run of a finished target.
* `finish_numbers_uses` is the main result.
-/

namespace TargetDescription

namespace Numbering

variable {α : Type} [DecidableEq α]

/-- Only what occurs in the list has a number. -/
theorem number?_ofList_eq_none_iff {as : List α} {a : α} :
    (ofList as).number? a = none ↔ a ∉ as := by
  rw [number?_eq_none_iff, items_ofList, List.mem_eraseDups]

end Numbering

namespace Target

/-! ## What is numbered -/

/-- The numbers of the first target tell where the encodings of the second one first use a recipe,
a field predicate or a settings predicate. Apart from numbers, the settings groups agree. -/
structure NumbersUsesOf (finished target : Target) : Prop where
  isFinished : finished.isFinished = true
  encodings : finished.encodings = target.encodings
  recipes : finished.recipes = (target.encodings.map (·.recipe)).eraseDups
  recipeNumber : ∀ recipe number, finished.recipeNumber? recipe = some number ↔
    finished.recipes[number]? = some recipe
  unusedRecipe : ∀ recipe, finished.recipeNumber? recipe = none ↔
    ∀ encoding ∈ target.encodings, encoding.recipe ≠ recipe
  fieldPredicates : finished.fieldPredicates =
    (target.encodings.filterMap (·.fieldPredicate)).eraseDups
  fieldPredicateNumber : ∀ predicate number,
    finished.fieldPredicateNumber? predicate = some number ↔
      finished.fieldPredicates[number]? = some predicate
  unusedFieldPredicate : ∀ predicate, finished.fieldPredicateNumber? predicate = none ↔
    ∀ encoding ∈ target.encodings, encoding.fieldPredicate ≠ some predicate
  settings : finished.settings =
    { target.settings with numbering := finished.settings.numbering }
  items : finished.settings.numbering.items = target.settings.numbering.items ++
    (target.settingPredicates.filter fun p => p ∉ target.settings.numbering.items).eraseDups
  numbered : ∀ encoding ∈ target.encodings, ∀ predicate,
    encoding.settingPredicate = some predicate → ∀ p ∈ predicate :: predicate.leafs.map .leaf,
      (finished.settings.predicateNumber? p).isSome = true
  earlier : ∀ predicate number, target.settings.predicateNumber? predicate = some number →
    finished.settings.predicateNumber? predicate = some number

/-- The predicates to be numbered are those of the encodings, with their leaves. -/
theorem mem_settingPredicates {target : Target} {p : Predicate} :
    p ∈ target.settingPredicates ↔ ∃ encoding ∈ target.encodings, ∃ predicate,
      encoding.settingPredicate = some predicate ∧ p ∈ predicate :: predicate.leafs.map .leaf := by
  rw [settingPredicates, List.mem_flatMap]
  constructor
  · rintro ⟨predicate, mem, h⟩
    obtain ⟨encoding, hencoding, hpredicate⟩ := List.mem_filterMap.1 mem
    exact ⟨encoding, hencoding, predicate, hpredicate, h⟩
  · rintro ⟨encoding, hencoding, predicate, hpredicate, h⟩
    exact ⟨predicate, List.mem_filterMap.2 ⟨encoding, hencoding, hpredicate⟩, h⟩

theorem numbersUsesOf_of_served {target : Target} (unfinished : target.numbering = none)
    (served : target.foreignPredicate? = none) : target.finish.state.NumbersUsesOf target := by
  rw [finish_of_served unfinished served, Outcome.state_ok]
  constructor
  case isFinished => rfl
  case encodings => rfl
  case recipes => exact Numbering.items_ofList _
  case recipeNumber => exact fun _ _ => Numbering.number?_eq_some_iff
  case unusedRecipe =>
    intro recipe
    apply Numbering.number?_ofList_eq_none_iff.trans
    simp only [List.mem_map, not_exists, not_and, ne_eq]
  case fieldPredicates => exact Numbering.items_ofList _
  case fieldPredicateNumber => exact fun _ _ => Numbering.number?_eq_some_iff
  case unusedFieldPredicate =>
    intro predicate
    apply Numbering.number?_ofList_eq_none_iff.trans
    simp only [List.mem_filterMap, not_exists, not_and, ne_eq]
  case settings => rfl
  case items => exact Numbering.items_addAll_eq_append _ _
  case numbered =>
    intro encoding mem predicate hpredicate p hp
    have used := mem_settingPredicates.2 ⟨encoding, mem, predicate, hpredicate, hp⟩
    apply Numbering.isSome_number?_iff.2
    exact (Numbering.mem_items_addAll _ _ _).2 (Or.inr used)
  case earlier => exact fun _ _ h => Numbering.number?_addAll h _

/-! ## After finishing -/

theorem unfinished_of_finish {target : Target} (h : target.finish.result = .ok ()) :
    target.numbering = none := by
  cases finished : target.numbering with
  | none => rfl
  | some numbering => simp [finish, finished] at h

/-- A finished target refuses every step. -/
theorem steps_of_finished {target : Target} (h : target.isFinished = true) :
    target.finish = .fail (.isaAlreadyFinished target.name) target ∧
      ∀ mode, target.addMode mode = .fail (.isaAlreadyFinished target.name) target := by
  obtain ⟨numbering, h⟩ := Option.isSome_iff_exists.1 h
  exact ⟨by rw [finish, h], fun mode => by rw [addMode, h]⟩

theorem perform_of_finished {target : Target} (h : target.isFinished = true) (step : Step) :
    target.perform step = target := by
  obtain ⟨finish, addMode⟩ := steps_of_finished h
  cases step with
  | addMode mode => rw [perform, addMode, Outcome.state_fail]
  | finish => rw [perform, finish, Outcome.state_fail]

theorem performAll_of_finished {target : Target} (h : target.isFinished = true)
    (steps : List Step) : target.performAll steps = target := by
  induction steps with
  | nil => rfl
  | cons step rest ih =>
    rw [performAll, List.foldl_cons, perform_of_finished h step]
    exact ih

end Target

/-- **Finishing numbers what is in use, by first use.** The recipes and the field predicates of a
target that can be finished are numbered in the order in which its encodings first use them; its
settings predicates, each before its leaves, are numbered likewise behind those that had numbers,
and these keep them. From then on every step is refused and changes nothing. -/
theorem finish_numbers_uses (target : Target) (h : target.finish.result = .ok ()) :
    target.finish.state.NumbersUsesOf target ∧
      ∀ steps, target.finish.state.performAll steps = target.finish.state ∧
        (target.finish.state.performAll steps).finish =
          .fail (.isaAlreadyFinished target.name) target.finish.state ∧
        ∀ mode, (target.finish.state.performAll steps).addMode mode =
          .fail (.isaAlreadyFinished target.name) target.finish.state := by
  have unfinished := Target.unfinished_of_finish h
  have served := (Target.result_finish_eq_ok_iff unfinished).1 h
  have numbers := Target.numbersUsesOf_of_served unfinished served
  have name : target.finish.state.name = target.name := by
    rw [Target.finish_of_served unfinished served, Outcome.state_ok]
  refine ⟨numbers, fun steps => ?_⟩
  rw [Target.performAll_of_finished numbers.isFinished steps, ← name]
  exact ⟨rfl, Target.steps_of_finished numbers.isFinished⟩

/-- A setting of a processor, in a group that extends the shared settings. -/
def vectorFlag : PredicateLeaf :=
  .setting ⟨⟨⟨⟨8⟩, "x86"⟩, [⟨⟨7⟩, "shared"⟩]⟩, 0, "has_simd"⟩

/-- A shared setting. -/
def floatFlag : PredicateLeaf :=
  .setting ⟨⟨⟨⟨7⟩, "shared"⟩, []⟩, 2, "enable_float"⟩

/-- Both settings are on. -/
def floatVectorFlags : Predicate :=
  @Predicate.conj ⟨9⟩ [floatFlag, vectorFlag] vectorFlag.context
    ((JointContext.singleton floatFlag).append (JointContext.singleton vectorFlag) rfl)

/-- A target with two modes that share recipes and predicates. The setting of the processor has a
number from the start. -/
def sharingTarget : Target :=
  { name := "x86"
    groups := []
    settings :=
      { path := ⟨⟨⟨8⟩, "x86"⟩, [⟨⟨7⟩, "shared"⟩]⟩
        settings := [⟨⟨"has_simd", "", .bool true⟩, 0, some (bitOfNumber 0)⟩]
        namedPredicates := []
        numbering := Numbering.ofList [.leaf vectorFlag]
        booleanOffset := 0
        settingsSize := 1 }
    modes :=
      [⟨"I64", [⟨noOperation, [], plainRecipe, 144, none, some floatVectorFlags⟩,
          ⟨loadConstant, [], constantRecipe, 184, some immediateFits, none⟩]⟩,
        ⟨"I32", [⟨noOperation, [], plainRecipe, 144, none, some (.leaf floatFlag)⟩,
          ⟨loadConstant, [], constantRecipe, 184, some immediateFits,
            some (.leaf vectorFlag)⟩]⟩] }

theorem finish_numbers_uses_sharingTarget :
    sharingTarget.finish.result = .ok () ∧
      sharingTarget.finish.state.recipes = [plainRecipe, constantRecipe] ∧
      sharingTarget.finish.state.recipeNumber? constantRecipe = some 1 ∧
      sharingTarget.finish.state.fieldPredicates = [immediateFits] ∧
      sharingTarget.finish.state.settings.numbering.items =
        [.leaf vectorFlag, floatVectorFlags, .leaf floatFlag] ∧
      ∀ steps, sharingTarget.finish.state.performAll steps = sharingTarget.finish.state := by
  have finishes : sharingTarget.finish.result = .ok () := rfl
  obtain ⟨numbers, later⟩ := finish_numbers_uses sharingTarget finishes
  have recipes : sharingTarget.finish.state.recipes = [plainRecipe, constantRecipe] :=
    numbers.recipes.trans (by decide)
  have second : sharingTarget.finish.state.recipeNumber? constantRecipe = some 1 :=
    (numbers.recipeNumber constantRecipe 1).2 (by rw [recipes]; rfl)
  exact ⟨finishes, recipes, second, numbers.fieldPredicates.trans (by decide),
    numbers.items.trans (by decide), fun steps => (later steps).1⟩

end TargetDescription

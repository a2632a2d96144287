import TargetDescription.Proofs.Numbering
import TargetDescription.Setting.Group

/-!
# Checking and numbering predicates

A settings group accepts a predicate just if it can evaluate the predicate's context. What it can
evaluate does not change when predicates are numbered, so predicates that are checked together can
also be numbered one after the other.

* `SettingGroup.checkPredicates_eq` says which predicate a check complains of.
* `SettingGroup.numberPredicates_of_serves` is the outcome of numbering predicates that pass.
* `SettingGroup.serves_leaf` passes from a predicate to its leaves.
-/

namespace TargetDescription

namespace SettingGroup

variable (group : SettingGroup)

theorem serves_iff (context : PredicateContext) :
    group.serves context = true ↔ context.EvaluableIn (.settings group.path) := by
  cases context with
  | settings path => exact Iff.rfl
  | format format => exact iff_of_false Bool.false_ne_true id

/-- A group that can evaluate a predicate can evaluate each of its leaves. -/
theorem serves_leaf {predicate : Predicate} (h : group.serves predicate.context = true)
    {leaf : PredicateLeaf} (mem : leaf ∈ predicate.leafs) : group.serves leaf.context = true := by
  rw [serves_iff] at h ⊢
  exact (predicate.joint.evaluable leaf mem).trans h

theorem checkPredicate_of_serves {predicate : Predicate}
    (h : group.serves predicate.context = true) : group.checkPredicate predicate = .ok () :=
  if_pos h

theorem checkPredicate_of_not_serves {predicate : Predicate}
    (h : ¬ group.serves predicate.context = true) :
    group.checkPredicate predicate =
      .error (.foreignPredicate predicate.display group.name) :=
  if_neg h

/-- A check of several predicates complains of the first that the group cannot evaluate. -/
theorem checkPredicates_eq (predicates : List Predicate) :
    group.checkPredicates predicates =
      match predicates.find? fun predicate => !group.serves predicate.context with
      | some predicate => .error (.foreignPredicate predicate.display group.name)
      | none => .ok () := by
  induction predicates with
  | nil => rfl
  | cons predicate rest ih =>
    rw [checkPredicates]
    by_cases h : group.serves predicate.context = true
    · rw [checkPredicate_of_serves group h, List.find?_cons_of_neg (by simp [h])]
      exact ih
    · rw [checkPredicate_of_not_serves group h, List.find?_cons_of_pos (by simp [h])]

theorem checkPredicates_eq_ok_iff (predicates : List Predicate) :
    group.checkPredicates predicates = .ok () ↔
      ∀ predicate ∈ predicates, group.serves predicate.context = true := by
  rw [checkPredicates_eq]
  cases h : predicates.find? fun predicate => !group.serves predicate.context with
  | some predicate =>
    have foreign := List.find?_some h
    refine iff_of_false (by simp) fun all => ?_
    simp [all predicate (List.mem_of_find?_eq_some h)] at foreign
  | none =>
    rw [List.find?_eq_none] at h
    exact iff_of_true rfl fun predicate mem => by simpa using h predicate mem

variable {group}

/-- A predicate without a number gets the next one. -/
theorem numberPredicate_of_notMem {predicate : Predicate}
    (h : group.serves predicate.context = true) (new : predicate ∉ group.numbering.items) :
    group.numberPredicate predicate =
      .ok group.numbering.size
        { group with numbering := group.numbering.add predicate } := by
  have unnumbered : group.predicateNumber? predicate = none :=
    Option.not_isSome_iff_eq_none.1 fun some => new (Numbering.isSome_number?_iff.1 some)
  rw [numberPredicate, unnumbered, checkPredicate_of_serves group h]

/-- Numbering a predicate that the group can evaluate answers with its number. -/
theorem numberPredicate_of_serves {predicate : Predicate}
    (h : group.serves predicate.context = true) :
    ∃ number, group.numberPredicate predicate =
      .ok number { group with numbering := group.numbering.add predicate } := by
  by_cases mem : predicate ∈ group.numbering.items
  · obtain ⟨number, hnumber⟩ := Option.isSome_iff_exists.1 (Numbering.isSome_number?_iff.2 mem)
    refine ⟨number, ?_⟩
    rw [numberPredicate, predicateNumber?, hnumber, Numbering.add_of_mem mem]
  · exact ⟨_, numberPredicate_of_notMem h mem⟩

/-- If a predicate gets or has a number, then it is numbered, and nothing else changes. -/
theorem state_numberPredicate_of_ok {predicate : Predicate} {number : Nat}
    (h : (group.numberPredicate predicate).result = .ok number) :
    (group.numberPredicate predicate).state =
      { group with numbering := group.numbering.add predicate } := by
  rw [numberPredicate] at h ⊢
  cases hnumber : group.predicateNumber? predicate with
  | some number =>
    have mem : predicate ∈ group.numbering.items :=
      Numbering.isSome_number?_iff.1 (Option.isSome_iff_exists.2 ⟨number, hnumber⟩)
    rw [Outcome.state_ok, Numbering.add_of_mem mem]
  | none =>
    rw [hnumber] at h
    cases checked : group.checkPredicate predicate with
    | error error => simp [checked] at h
    | ok => rfl

/-- Numbering predicates that the group can evaluate never fails. -/
theorem numberPredicates_of_serves {predicates : List Predicate}
    (h : ∀ predicate ∈ predicates, group.serves predicate.context = true) :
    group.numberPredicates predicates =
      .ok () { group with numbering := group.numbering.addAll predicates } := by
  induction predicates generalizing group with
  | nil => rfl
  | cons predicate rest ih =>
    obtain ⟨first, later⟩ := List.forall_mem_cons.1 h
    obtain ⟨number, heq⟩ := numberPredicate_of_serves first
    rw [numberPredicates, heq, Outcome.ok_andThen]
    exact ih later

theorem state_numberPredicates_of_ok {predicates : List Predicate}
    (h : (group.numberPredicates predicates).result = .ok ()) :
    (group.numberPredicates predicates).state =
      { group with numbering := group.numbering.addAll predicates } := by
  induction predicates generalizing group with
  | nil => rfl
  | cons predicate rest ih =>
    rw [numberPredicates, Outcome.andThen] at h ⊢
    cases first : (group.numberPredicate predicate).result with
    | error error => simp [first] at h
    | ok number =>
      simp only [first, state_numberPredicate_of_ok first] at h ⊢
      exact ih h

end SettingGroup

end TargetDescription

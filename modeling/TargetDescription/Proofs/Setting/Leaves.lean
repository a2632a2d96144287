import TargetDescription.Proofs.Encoding.Finish
import TargetDescription.Proofs.Predicate.Conjunction

/-!
# Checking a conjunction and checking its leaves

A settings group looks at the context of a predicate only, which a conjunction has stored when it
was formed; finishing a target looks at the leaves as well. Both come to the same, however deep the
conjunctions are nested, because the context is that of the leaf furthest down, and whoever can
evaluate this leaf can evaluate the others.

* `Predicate.Built` are the predicates that settings, fields and joining lead to.
* `Predicate.IsConjunctionOf.leafs_of_forall` is the step, and from it
  `Predicate.Built.isConjunctionOf_leafs` follows by induction: a predicate is the conjunction of
  its leaves.
* `checkPredicate_iff_leafs` is the main result.
-/

namespace TargetDescription

namespace Predicate

/-- The predicate comes from settings and fields by joining, where operands may be missing. -/
inductive Built : Predicate → Prop
  | setting (setting : BoolSetting) : Built (ofSetting setting)
  | field (stamp : Stamp) (field : FormatField) (function : String) (args : List String) :
    Built (ofField stamp field function args)
  | joined {stamp : Stamp} {first second : Option Predicate} {p : Predicate}
    (hfirst : ∀ q, first = some q → Built q) (hsecond : ∀ q, second = some q → Built q)
    (h : conjoin stamp first second = .ok (some p)) : Built p

variable {p : Predicate}

/-- A conjunction of conjunctions of leaves is a conjunction of leaves. -/
theorem IsConjunctionOf.leafs_of_forall {ps : List Predicate} (h : p.IsConjunctionOf ps)
    (each : ∀ q ∈ ps, q.IsConjunctionOf (q.leafs.map leaf)) :
    p.IsConjunctionOf (p.leafs.map leaf) where
  attained := by
    obtain ⟨q, hq, qcontext⟩ := h.attained
    obtain ⟨_, mem, context⟩ := (each q hq).attained
    obtain ⟨l, hl, rfl⟩ := List.mem_map.1 mem
    exact ⟨leaf l, List.mem_map_of_mem ((h.leafs l).2 ⟨q, hq, hl⟩), context.trans qcontext⟩
  evaluable := by
    intro _ mem
    obtain ⟨l, hl, rfl⟩ := List.mem_map.1 mem
    obtain ⟨q, hq, inOperand⟩ := (h.leafs l).1 hl
    have evaluable := (each q hq).evaluable (leaf l) (List.mem_map_of_mem inOperand)
    exact evaluable.trans (h.evaluable q hq)
  leafs := by simp [Predicate.leafs]

namespace Built

theorem isConjunctionOf_leafs (built : p.Built) : p.IsConjunctionOf (p.leafs.map leaf) := by
  induction built with
  | setting setting => exact .singleton _
  | field stamp field function args => exact .singleton _
  | @joined stamp first second p _ _ h ihfirst ihsecond =>
    cases first with
    | none =>
      obtain rfl := Except.ok.inj h
      exact ihsecond p rfl
    | some left =>
      cases second with
      | none =>
        obtain rfl := Option.some.inj (Except.ok.inj h)
        exact ihfirst left rfl
      | some right =>
        obtain ⟨q, joined, same⟩ := conjoin_some_some_eq_ok_iff.1 h
        obtain rfl := Option.some.inj same
        have both := (IsConjunctionOf.singleton left).conjoinBoth (.singleton right) joined
        -- Each operand is the conjunction of its leaves by hypothesis.
        refine both.leafs_of_forall (List.forall_mem_append.2 ⟨?_, ?_⟩)
        · exact List.forall_mem_singleton.2 (ihfirst left rfl)
        · exact List.forall_mem_singleton.2 (ihsecond right rfl)

/-- The stored context is that of a leaf, in which all leaves can be evaluated. -/
theorem exists_deepest (built : p.Built) :
    ∃ deepest ∈ p.leafs, deepest.context = p.context ∧
      ∀ l ∈ p.leafs, l.context.EvaluableIn deepest.context := by
  have conjunction := built.isConjunctionOf_leafs
  obtain ⟨_, mem, context⟩ := conjunction.attained
  obtain ⟨deepest, hdeepest, rfl⟩ := List.mem_map.1 mem
  refine ⟨deepest, hdeepest, context, fun l hl => ?_⟩
  have evaluable := conjunction.evaluable (leaf l) (List.mem_map_of_mem hl)
  rwa [← context] at evaluable

end Built

end Predicate

namespace SettingGroup

variable {group : SettingGroup} {p : Predicate}

theorem checkPredicate_eq_ok_iff :
    group.checkPredicate p = .ok () ↔ p.context.EvaluableIn (.settings group.path) := by
  rw [← serves_iff, checkPredicate]
  split
  case isTrue served => exact iff_of_true rfl served
  case isFalse foreign => exact iff_of_false nofun foreign

/-- A leaf passes the check just if it is a setting of the group or of an ancestor. -/
theorem checkPredicate_leaf_eq_ok_iff {l : PredicateLeaf} :
    group.checkPredicate (.leaf l) = .ok () ↔
      ∃ setting, l = .setting setting ∧ setting.group.labels <:+ group.path.labels := by
  rw [checkPredicate_eq_ok_iff]
  cases l with
  | setting setting =>
    simp only [PredicateLeaf.setting.injEq, exists_eq_left']
    exact GroupPath.isAncestorOf_iff _ _
  | field stamp field function args => exact iff_of_false id (by simp)

theorem checkPredicate_eq_ok_iff_leafs (built : p.Built) :
    group.checkPredicate p = .ok () ↔
      ∀ l ∈ p.leafs, group.checkPredicate (.leaf l) = .ok () := by
  obtain ⟨deepest, hdeepest, context, evaluable⟩ := built.exists_deepest
  simp only [checkPredicate_eq_ok_iff, ← context]
  constructor
  · exact fun served l hl => (evaluable l hl).trans served
  · exact fun all => all deepest hdeepest

/-- Looking at the leaves as well makes no difference, not even to the complaint. -/
theorem checkPredicates_cons_leafs (group : SettingGroup) (p : Predicate) :
    group.checkPredicates (p :: p.leafs.map .leaf) = group.checkPredicate p := by
  rw [checkPredicates_eq, Target.find?_foreign_of_leafs, checkPredicate]
  by_cases served : group.serves p.context = true
  · rw [if_pos served, Option.guard_eq_none_iff.2 (by simp [served])]
  · rw [if_neg served, Option.guard_eq_some_iff.2 ⟨rfl, by simp [served]⟩]

end SettingGroup

/-- **A group accepts a conjunction just if it accepts the leaves.** It accepts a leaf just if that
is a setting of its own or of an ancestor. There are leaves, and the one whose context is stored is
about the group furthest down, or about the format that all leaves are about. -/
theorem checkPredicate_iff_leafs {p : Predicate} (built : p.Built) (group : SettingGroup) :
    (group.checkPredicate p = .ok () ↔
        ∀ leaf ∈ p.leafs, group.checkPredicate (.leaf leaf) = .ok ()) ∧
      (∀ leaf ∈ p.leafs, group.checkPredicate (.leaf leaf) = .ok () ↔
        ∃ setting, leaf = .setting setting ∧ setting.group.labels <:+ group.path.labels) ∧
      p.leafs ≠ [] ∧
      (∃ deepest ∈ p.leafs, deepest.context = p.context ∧
        ∀ leaf ∈ p.leafs, leaf.context.EvaluableIn deepest.context) ∧
      group.checkPredicates (p :: p.leafs.map .leaf) = group.checkPredicate p := by
  obtain ⟨deepest, mem, stored⟩ := built.exists_deepest
  exact ⟨SettingGroup.checkPredicate_eq_ok_iff_leafs built,
    fun _ _ => SettingGroup.checkPredicate_leaf_eq_ok_iff, List.ne_nil_of_mem mem,
    ⟨deepest, mem, stored⟩, group.checkPredicates_cons_leafs p⟩

/-- A group with nothing but its path. -/
def bareGroup (path : GroupPath) : SettingGroup :=
  ⟨path, [], [], Numbering.empty, 0, 0⟩

/-- The inner of two groups accepts what joins settings of both, in whatever order and however
often; the outer one rejects it, though it accepts two of the three leaves. -/
theorem checkPredicate_iff_leafs_nestedSimd :
    ∃ both nested : Predicate,
      Predicate.conjoin ⟨6⟩ (some (.ofSetting nativeSimd)) (some (.ofSetting sharedSimd)) =
        .ok (some both) ∧
      Predicate.conjoin ⟨7⟩ (some (.ofSetting sharedSimd)) (some both) = .ok (some nested) ∧
      nested.Built ∧ nested.leafs.length = 3 ∧
      (bareGroup nativeSimd.group).checkPredicate nested = .ok () ∧
      (bareGroup sharedSimd.group).checkPredicate nested ≠ .ok () := by
  have joined : ∃ both nested : Predicate,
      Predicate.conjoin ⟨6⟩ (some (.ofSetting nativeSimd)) (some (.ofSetting sharedSimd)) =
        .ok (some both) ∧
      Predicate.conjoin ⟨7⟩ (some (.ofSetting sharedSimd)) (some both) = .ok (some nested) ∧
      nested.leafs = [.setting sharedSimd, .setting nativeSimd, .setting sharedSimd] :=
    ⟨_, _, rfl, rfl, rfl⟩
  obtain ⟨both, nested, inner, outer, leafs⟩ := joined
  have ofSetting : ∀ (setting : BoolSetting) (q : Predicate),
      some (Predicate.ofSetting setting) = some q → q.Built := by
    rintro setting _ ⟨⟩
    exact .setting setting
  have built : nested.Built := by
    refine .joined (ofSetting sharedSimd) ?_ outer
    rintro _ ⟨⟩
    exact .joined (ofSetting nativeSimd) (ofSetting sharedSimd) inner
  refine ⟨both, nested, inner, outer, built, by rw [leafs]; rfl, ?_, ?_⟩
  · obtain ⟨accepts, -⟩ := checkPredicate_iff_leafs built (bareGroup nativeSimd.group)
    rw [accepts, leafs]
    decide
  · obtain ⟨accepts, -⟩ := checkPredicate_iff_leafs built (bareGroup sharedSimd.group)
    rw [ne_eq, accepts, leafs]
    decide

end TargetDescription

import Mathlib.Data.List.ReduceOption
import TargetDescription.Proofs.Predicate.Compatibility

/-!
# The order of a conjunction

Whether predicates can be joined shows on any two of them, so it does not matter in which order they
are joined and where the brackets stand.

* `ConjunctionPlan` is an order with brackets, `ConjunctionPlan.eval` what it leads to.
* `PredicateTree` admits conjunctions of conjunctions; `ConjunctionPlan.builds_iff` shows that
  joining forms none.
* `conjoin_in_any_order` is the main result.
-/

namespace TargetDescription

/-! ## Orders and brackets -/

/-- Predicates, some of which may be missing, and the order and brackets in which they are joined.
The stamps mark the conjunctions that are formed. -/
inductive ConjunctionPlan
  | operand (predicate : Option Predicate)
  | both (stamp : Stamp) (left right : ConjunctionPlan)

namespace ConjunctionPlan

/-- What is joined, from left to right. -/
def operands : ConjunctionPlan → List (Option Predicate)
  | operand predicate => [predicate]
  | both _ left right => left.operands ++ right.operands

/-- The predicates that are not missing. -/
def present (plan : ConjunctionPlan) : List Predicate :=
  plan.operands.reduceOption

/-- Joins the operands two at a time. -/
def eval : ConjunctionPlan → Except Error (Option Predicate)
  | operand predicate => .ok predicate
  | both stamp left right =>
    match left.eval with
    | .error error => .error error
    | .ok first =>
      match right.eval with
      | .error error => .error error
      | .ok second => Predicate.conjoin stamp first second

theorem present_both (stamp : Stamp) (left right : ConjunctionPlan) :
    (both stamp left right).present = left.present ++ right.present :=
  List.reduceOption_append _ _

theorem mem_present {plan : ConjunctionPlan} {p : Predicate} :
    p ∈ plan.present ↔ some p ∈ plan.operands :=
  List.reduceOption_mem_iff

theorem present_eq_nil_iff {plan : ConjunctionPlan} :
    plan.present = [] ↔ ∀ operand ∈ plan.operands, operand = none := by
  rw [List.eq_nil_iff_forall_not_mem]
  constructor
  · intro absent operand mem
    cases operand with
    | none => rfl
    | some p => exact absurd (mem_present.2 mem) (absent p)
  · intro missing p mem
    cases missing _ (mem_present.1 mem)

theorem eval_both_eq_ok_iff {stamp : Stamp} {left right : ConjunctionPlan}
    {result : Option Predicate} :
    (both stamp left right).eval = .ok result ↔ ∃ first second,
      left.eval = .ok first ∧ right.eval = .ok second ∧
        Predicate.conjoin stamp first second = .ok result := by
  rw [eval]
  cases left.eval with
  | error error => simp
  | ok first =>
    cases right.eval with
    | error error => simp
    | ok second => simp

/-- The conjunction of these predicates; there is none just if there are no predicates. -/
def IsResult : Option Predicate → List Predicate → Prop
  | none, operands => operands = []
  | some p, operands => p.IsConjunctionOf operands

theorem IsResult.conjoin {stamp : Stamp} {first second result : Option Predicate}
    {ps qs : List Predicate} (hfirst : IsResult first ps) (hsecond : IsResult second qs)
    (h : Predicate.conjoin stamp first second = .ok result) : IsResult result (ps ++ qs) := by
  cases first with
  | none =>
    obtain rfl : ps = [] := hfirst
    obtain rfl := Except.ok.inj h
    exact hsecond
  | some left =>
    cases second with
    | none =>
      obtain rfl : qs = [] := hsecond
      obtain rfl := Except.ok.inj h
      rw [List.append_nil]
      exact hfirst
    | some right =>
      obtain ⟨p, joined, rfl⟩ := Predicate.conjoin_some_some_eq_ok_iff.1 h
      exact Predicate.IsConjunctionOf.conjoinBoth hfirst hsecond joined

theorem isResult_of_eval {plan : ConjunctionPlan} {result : Option Predicate}
    (h : plan.eval = .ok result) : IsResult result plan.present := by
  induction plan generalizing result with
  | operand predicate =>
    obtain rfl := Except.ok.inj h
    cases predicate with
    | none => rfl
    | some p => exact Predicate.IsConjunctionOf.singleton p
  | both stamp left right ihleft ihright =>
    obtain ⟨first, second, hfirst, hsecond, joined⟩ := eval_both_eq_ok_iff.1 h
    rw [present_both]
    exact (ihleft hfirst).conjoin (ihright hsecond) joined

/-- Joining succeeds if the contexts go together. -/
theorem exists_eval_of_compatible {plan : ConjunctionPlan}
    (h : ∀ p ∈ plan.present, ∀ q ∈ plan.present, p.context.Compatible q.context) :
    ∃ result, plan.eval = .ok result := by
  induction plan with
  | operand predicate => exact ⟨predicate, rfl⟩
  | both stamp left right ihleft ihright =>
    rw [present_both] at h
    have inLeft : ∀ p ∈ left.present, p ∈ left.present ++ right.present :=
      fun _ => List.mem_append_left _
    have inRight : ∀ p ∈ right.present, p ∈ left.present ++ right.present :=
      fun _ => List.mem_append_right _
    obtain ⟨first, hfirst⟩ :=
      ihleft fun p hp q hq => h p (inLeft p hp) q (inLeft q hq)
    obtain ⟨second, hsecond⟩ :=
      ihright fun p hp q hq => h p (inRight p hp) q (inRight q hq)
    have joined : ∃ result, Predicate.conjoin stamp first second = .ok result := by
      cases first with
      | none => exact ⟨second, rfl⟩
      | some p =>
        cases second with
        | none => exact ⟨some p, rfl⟩
        | some q =>
          -- The two contexts that meet here are those of operands, one from either side.
          obtain ⟨p', hp', pcontext⟩ := (isResult_of_eval hfirst).attained
          obtain ⟨q', hq', qcontext⟩ := (isResult_of_eval hsecond).attained
          have compatible := h p' (inLeft p' hp') q' (inRight q' hq')
          rw [pcontext, qcontext] at compatible
          obtain ⟨r, hr⟩ : ∃ r, Predicate.conjoinBoth stamp p q = .ok r :=
            Predicate.exists_conjoinBoth_iff.2 compatible
          exact ⟨some r, Predicate.conjoin_some_some_eq_ok_iff.2 ⟨r, hr, rfl⟩⟩
    obtain ⟨result, hresult⟩ := joined
    exact ⟨result, eval_both_eq_ok_iff.2 ⟨first, second, hfirst, hsecond, hresult⟩⟩

theorem exists_eval_iff {plan : ConjunctionPlan} :
    (∃ result, plan.eval = .ok result) ↔
      ∀ p ∈ plan.present, ∀ q ∈ plan.present, p.context.Compatible q.context := by
  refine ⟨?_, exists_eval_of_compatible⟩
  rintro ⟨_ | p, h⟩
  · have none : plan.present = [] := isResult_of_eval h
    simp [none]
  · exact (isResult_of_eval h).compatible

end ConjunctionPlan

/-! ## Conjunctions of conjunctions -/

/-- A predicate whose conjunctions may have conjunctions as parts. -/
inductive PredicateTree
  | leaf (leaf : PredicateLeaf)
  | conj (stamp : Stamp) (parts : List PredicateTree) (context : PredicateContext)

namespace PredicateTree

/-- What the tree is evaluated against. -/
def context : PredicateTree → PredicateContext
  | leaf l => l.context
  | conj _ _ context => context

/-- What a conjunction takes over from the tree: the parts of a conjunction, whatever they are, or
the tree itself. -/
def parts : PredicateTree → List PredicateTree
  | leaf l => [leaf l]
  | conj _ parts _ => parts

/-- Is the tree no conjunction? -/
def IsLeaf : PredicateTree → Prop
  | leaf _ => True
  | conj .. => False

/-- Joining of trees that may be missing. Only the outermost conjunctions are unpacked. -/
inductive Joins (stamp : Stamp) :
    Option PredicateTree → Option PredicateTree → Option PredicateTree → Prop
  | left (tree : Option PredicateTree) : Joins stamp tree none tree
  | right (tree : Option PredicateTree) : Joins stamp none tree tree
  | same (tree : PredicateTree) : Joins stamp (some tree) (some tree) (some tree)
  | unpack {left right : PredicateTree} {context : PredicateContext} (different : left ≠ right)
      (combined : left.context.combine right.context = some context) :
      Joins stamp (some left) (some right) (some (conj stamp (left.parts ++ right.parts) context))

end PredicateTree

namespace Predicate

/-- The predicate as a tree. -/
def tree : Predicate → PredicateTree
  | leaf l => .leaf l
  | conj stamp leafs context => .conj stamp (leafs.map .leaf) context

theorem context_tree (p : Predicate) : p.tree.context = p.context := by
  cases p <;> rfl

theorem parts_tree (p : Predicate) : p.tree.parts = p.leafs.map .leaf := by
  cases p <;> rfl

theorem tree_injective {p q : Predicate} (h : p.tree = q.tree) : p = q := by
  cases p with
  | leaf l =>
    cases q with
    | leaf m => exact congrArg leaf (PredicateTree.leaf.inj h)
    | conj => cases h
  | conj stamp leafs context =>
    cases q with
    | leaf => cases h
    | conj stamp' leafs' context' =>
      obtain ⟨rfl, hleafs, rfl⟩ := PredicateTree.conj.inj h
      obtain rfl := List.map_injective_iff.2 (fun _ _ => PredicateTree.leaf.inj) hleafs
      rfl

theorem tree_conj_append {stamp : Stamp} {left right : Predicate} {context : PredicateContext}
    {joint : JointContext (left.leafs ++ right.leafs) context} :
    (@conj stamp (left.leafs ++ right.leafs) context joint).tree =
      .conj stamp (left.tree.parts ++ right.tree.parts) context := by
  rw [tree, parts_tree, parts_tree, List.map_append]

theorem joins_some_tree_iff {stamp : Stamp} {left right : Predicate}
    {tree : Option PredicateTree} :
    PredicateTree.Joins stamp (some left.tree) (some right.tree) tree ↔
      ∃ p, conjoinBoth stamp left right = .ok p ∧ tree = some p.tree := by
  constructor
  · -- The two trees must be variables for the cases, the equal ones among them.
    generalize first : left.tree = l
    generalize second : right.tree = r
    intro joins
    cases joins with
    | same =>
      obtain rfl := tree_injective (first.trans second.symm)
      exact ⟨left, conjoinBoth_self stamp left, by rw [first]⟩
    | @unpack _ _ context different combined =>
      subst first second
      rw [context_tree, context_tree] at combined
      have apart : left ≠ right := fun same => different (congrArg tree same)
      have joint := left.joint.append right.joint combined
      exact ⟨_, (conjoinBoth_eq_ok_iff apart).2 ⟨context, joint, combined, rfl⟩,
        by rw [tree_conj_append]⟩
  · rintro ⟨p, h, rfl⟩
    by_cases same : left = right
    · subst same
      rw [conjoinBoth_self, Except.ok.injEq] at h
      subst h
      exact .same _
    · obtain ⟨context, joint, combined, rfl⟩ := (conjoinBoth_eq_ok_iff same).1 h
      rw [tree_conj_append]
      refine .unpack (fun h => same (tree_injective h)) ?_
      rwa [context_tree, context_tree]

/-- To unpack the outermost conjunctions of two predicates is to join their leaves: nothing else is
in a conjunction. -/
theorem joins_tree_iff {stamp : Stamp} {first second : Option Predicate}
    {tree : Option PredicateTree} :
    PredicateTree.Joins stamp (first.map Predicate.tree) (second.map Predicate.tree) tree ↔
      ∃ result, conjoin stamp first second = .ok result ∧ tree = result.map Predicate.tree := by
  cases first with
  | none =>
    have only : PredicateTree.Joins stamp none (second.map Predicate.tree) tree ↔
        tree = second.map Predicate.tree := by
      constructor
      · generalize second.map Predicate.tree = given
        rintro (_ | _) <;> rfl
      · rintro rfl
        exact .right _
    exact only.trans (by simp [conjoin])
  | some left =>
    cases second with
    | none =>
      have only : PredicateTree.Joins stamp (some left.tree) none tree ↔
          tree = some left.tree := by
        constructor
        · rintro ⟨⟩
          rfl
        · rintro rfl
          exact .left _
      exact only.trans (by simp [conjoin])
    | some right =>
      simp [joins_some_tree_iff, conjoin_some_some_eq_ok_iff]

end Predicate

namespace ConjunctionPlan

/-- What joining leads to if predicates are trees. -/
def Builds : ConjunctionPlan → Option PredicateTree → Prop
  | operand predicate, tree => tree = predicate.map Predicate.tree
  | both stamp left right, tree => ∃ first second,
      left.Builds first ∧ right.Builds second ∧ PredicateTree.Joins stamp first second tree

/-- It leads to nothing but predicates, in which conjunctions do not nest. -/
theorem builds_iff {plan : ConjunctionPlan} {tree : Option PredicateTree} :
    plan.Builds tree ↔
      ∃ result, plan.eval = .ok result ∧ tree = result.map Predicate.tree := by
  induction plan generalizing tree with
  | operand predicate => simp [Builds, eval]
  | both stamp left right ihleft ihright =>
    simp only [Builds, ihleft, ihright, eval_both_eq_ok_iff]
    constructor
    · rintro ⟨_, _, ⟨first, hfirst, rfl⟩, ⟨second, hsecond, rfl⟩, joins⟩
      obtain ⟨result, h, rfl⟩ := Predicate.joins_tree_iff.1 joins
      exact ⟨result, ⟨first, second, hfirst, hsecond, h⟩, rfl⟩
    · rintro ⟨result, ⟨first, second, hfirst, hsecond, h⟩, rfl⟩
      exact ⟨_, _, ⟨first, hfirst, rfl⟩, ⟨second, hsecond, rfl⟩,
        Predicate.joins_tree_iff.2 ⟨result, h, rfl⟩⟩

end ConjunctionPlan

/-- **Predicates may be joined in any order and with any brackets.** That succeeds just if the
contexts of those that are not missing go together two by two. The result is missing just if all
are; otherwise it has just their leaves, and of their contexts the one in which all can be
evaluated. With another order or other brackets the outcome has the same context and the same
leaves. If joining unpacks only the outermost conjunctions, the parts of a conjunction are leaves
all the same. -/
theorem conjoin_in_any_order (plan : ConjunctionPlan) :
    ((∃ result, plan.eval = .ok result) ↔
        ∀ p ∈ plan.present, ∀ q ∈ plan.present, p.context.Compatible q.context) ∧
      (∀ result, plan.eval = .ok result →
        (result = none ↔ ∀ operand ∈ plan.operands, operand = none) ∧
          ∀ p, result = some p → p.IsConjunctionOf plan.present) ∧
      (∀ other : ConjunctionPlan, other.operands.Perm plan.operands →
        ((∃ result, other.eval = .ok result) ↔ ∃ result, plan.eval = .ok result) ∧
          ∀ p q, plan.eval = .ok (some p) → other.eval = .ok (some q) →
            p.context = q.context ∧ ∀ leaf, leaf ∈ p.leafs ↔ leaf ∈ q.leafs) ∧
      (∀ tree, plan.Builds tree ↔
        ∃ result, plan.eval = .ok result ∧ tree = result.map Predicate.tree) ∧
      ∀ tree, plan.Builds (some tree) → ∀ part ∈ tree.parts, part.IsLeaf := by
  refine ⟨ConjunctionPlan.exists_eval_iff, fun result h => ⟨?_, ?_⟩, fun other perm => ?_,
    fun _ => ConjunctionPlan.builds_iff, fun tree built part mem => ?_⟩
  · rw [← ConjunctionPlan.present_eq_nil_iff]
    have isResult := ConjunctionPlan.isResult_of_eval h
    cases result with
    | none => exact iff_of_true rfl isResult
    | some p =>
      obtain ⟨q, mem, -⟩ := isResult.attained
      exact iff_of_false nofun (List.ne_nil_of_mem mem)
  · rintro p rfl
    exact ConjunctionPlan.isResult_of_eval h
  · have same : ∀ p, p ∈ plan.present ↔ p ∈ other.present := by
      intro p
      rw [ConjunctionPlan.mem_present, ConjunctionPlan.mem_present, perm.mem_iff]
    constructor
    · rw [ConjunctionPlan.exists_eval_iff, ConjunctionPlan.exists_eval_iff]
      simp only [same]
    · intro p q hp hq
      have isp : p.IsConjunctionOf plan.present := ConjunctionPlan.isResult_of_eval hp
      have isq : q.IsConjunctionOf other.present := ConjunctionPlan.isResult_of_eval hq
      exact ⟨isp.context_eq isq same, isp.leafs_iff isq same⟩
  · obtain ⟨result, -, heq⟩ := ConjunctionPlan.builds_iff.1 built
    obtain ⟨p, rfl, rfl⟩ := Option.map_eq_some_iff.1 heq.symm
    rw [Predicate.parts_tree] at mem
    obtain ⟨leaf, -, rfl⟩ := List.mem_map.1 mem
    trivial

/-- A setting of a group that others extend. -/
def sharedSimd : BoolSetting :=
  ⟨⟨⟨⟨0⟩, "shared"⟩, []⟩, 0, "enable_simd"⟩

/-- A setting of a group that extends the other. -/
def nativeSimd : BoolSetting :=
  ⟨⟨⟨⟨1⟩, "native"⟩, [⟨⟨0⟩, "shared"⟩]⟩, 0, "has_simd"⟩

/-- First the setting of the outer group, with brackets to the right. -/
def sharedFirst : ConjunctionPlan :=
  .both ⟨2⟩ (.operand (some (.ofSetting sharedSimd)))
    (.both ⟨3⟩ (.operand none) (.operand (some (.ofSetting nativeSimd))))

/-- First the setting of the inner group, with brackets to the left. -/
def nativeFirst : ConjunctionPlan :=
  .both ⟨4⟩ (.both ⟨5⟩ (.operand (some (.ofSetting nativeSimd)))
    (.operand (some (.ofSetting sharedSimd)))) (.operand none)

theorem conjoin_in_any_order_simd :
    nativeFirst.operands.Perm sharedFirst.operands ∧
      ∃ p q, sharedFirst.eval = .ok (some p) ∧ nativeFirst.eval = .ok (some q) ∧ p ≠ q ∧
        p.context = q.context ∧ ∀ leaf, leaf ∈ p.leafs ↔ leaf ∈ q.leafs := by
  have perm : nativeFirst.operands.Perm sharedFirst.operands := by decide
  obtain ⟨-, -, independent, -⟩ := conjoin_in_any_order sharedFirst
  exact ⟨perm, _, _, rfl, rfl, by decide, (independent nativeFirst perm).2 _ _ rfl rfl⟩

end TargetDescription

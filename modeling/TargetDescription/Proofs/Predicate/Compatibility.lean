import Mathlib.Data.List.Infix
import TargetDescription.Predicate.Basic

/-!
# Contexts that go together

Contexts form a forest: what can be evaluated in one context lies on one line of ancestors. Two
predicates can be joined just if their contexts lie on one line, and then the conjunction is about
the context further down.

* `PredicateContext.Compatible` says that two contexts go together.
* `Predicate.IsConjunctionOf` says what the conjunction of several predicates must be.
* `Predicate.exists_conjoinBoth_iff` and `Predicate.IsConjunctionOf.conjoinBoth` say when joining
  succeeds and what it gives.
-/

namespace TargetDescription

theorem GroupPath.isAncestorOf_antisymm {a b : GroupPath} (hab : a.isAncestorOf b = true)
    (hba : b.isAncestorOf a = true) : a = b := by
  have labels : a.labels = b.labels := ((isAncestorOf_iff a b).1 hab).sublist.antisymm
    ((isAncestorOf_iff b a).1 hba).sublist
  obtain ⟨label, ancestors⟩ := List.cons.inj labels
  cases a
  cases b
  exact congr (congrArg GroupPath.mk label) ancestors

/-- The ancestors of a group are on one line. -/
theorem GroupPath.isAncestorOf_or_isAncestorOf {a b c : GroupPath} (ha : a.isAncestorOf c = true)
    (hb : b.isAncestorOf c = true) : a.isAncestorOf b = true ∨ b.isAncestorOf a = true := by
  rw [isAncestorOf_iff] at ha hb
  rw [isAncestorOf_iff, isAncestorOf_iff]
  exact List.suffix_or_suffix_of_suffix ha hb

/-! ## Contexts that go together -/

namespace PredicateContext

/-- Do the contexts go together? Two groups do if one is an ancestor of the other, two formats if
they are the same. -/
def Compatible : PredicateContext → PredicateContext → Prop
  | settings a, settings b => a.isAncestorOf b = true ∨ b.isAncestorOf a = true
  | format a, format b => a = b
  | _, _ => False

variable {a b c : PredicateContext}

theorem compatible_iff : a.Compatible b ↔ a.EvaluableIn b ∨ b.EvaluableIn a := by
  cases a with
  | settings a =>
    cases b with
    | settings b => exact Iff.rfl
    | format b => exact (or_self_iff (a := False)).symm
  | format a =>
    cases b with
    | settings b => exact (or_self_iff (a := False)).symm
    | format b => exact ⟨Or.inl, fun h => h.elim id Eq.symm⟩

theorem EvaluableIn.antisymm (hab : a.EvaluableIn b) (hba : b.EvaluableIn a) : a = b := by
  cases a with
  | settings a =>
    cases b with
    | settings b => exact congrArg settings (GroupPath.isAncestorOf_antisymm hab hba)
    | format b => exact hab.elim
  | format a =>
    cases b with
    | settings b => exact hab.elim
    | format b => exact congrArg format hab

/-- What can be evaluated in one context goes together. -/
theorem EvaluableIn.compatible (ha : a.EvaluableIn c) (hb : b.EvaluableIn c) : a.Compatible b := by
  cases a <;> cases b <;> cases c <;> simp only [EvaluableIn] at ha hb
  · exact GroupPath.isAncestorOf_or_isAncestorOf ha hb
  · exact ha.trans hb.symm

/-- What can be evaluated on instructions of a format can be evaluated nowhere else. -/
theorem eq_of_format_evaluableIn {f : InstructionFormat} (h : (format f).EvaluableIn c) :
    c = format f := by
  cases c with
  | settings group => exact h.elim
  | format other => exact congrArg format h.symm

theorem isSome_combine_iff : (a.combine b).isSome = true ↔ a.Compatible b := by
  cases a with
  | settings a =>
    cases b with
    | settings b =>
      rw [combine, Compatible]
      split
      case isTrue h => simp [h]
      case isFalse h => split <;> simp_all
    | format b => exact iff_of_false (by simp [combine]) id
  | format a =>
    cases b with
    | settings b => exact iff_of_false (by simp [combine]) id
    | format b =>
      rw [combine, Compatible]
      split <;> simp_all

end PredicateContext

/-! ## Joining two predicates -/

namespace Predicate

/-- The predicate is the conjunction of these, up to the order of its leaves: it has just theirs,
and of their contexts the one in which all can be evaluated. -/
structure IsConjunctionOf (p : Predicate) (operands : List Predicate) : Prop where
  attained : ∃ q ∈ operands, q.context = p.context
  evaluable : ∀ q ∈ operands, q.context.EvaluableIn p.context
  leafs : ∀ leaf, leaf ∈ p.leafs ↔ ∃ q ∈ operands, leaf ∈ q.leafs

variable {stamp : Stamp} {left right p q : Predicate}

theorem conjoinBoth_self (stamp : Stamp) (p : Predicate) : conjoinBoth stamp p p = .ok p :=
  if_pos rfl

/-- Joining different predicates appends their leaves. -/
theorem conjoinBoth_eq_ok_iff (different : left ≠ right) :
    conjoinBoth stamp left right = .ok p ↔ ∃ context joint,
      left.context.combine right.context = some context ∧
        p = @conj stamp (left.leafs ++ right.leafs) context joint := by
  rw [conjoinBoth, if_neg different]
  split
  case h_1 context combined =>
    constructor
    · intro h
      exact ⟨context, _, combined, (Except.ok.inj h).symm⟩
    · rintro ⟨context', joint, combined', rfl⟩
      obtain rfl := Option.some.inj (combined.symm.trans combined')
      rfl
  case h_2 none => simp [none]

/-- Two predicates can be joined just if their contexts go together. -/
theorem exists_conjoinBoth_iff :
    (∃ p, conjoinBoth stamp left right = .ok p) ↔ left.context.Compatible right.context := by
  by_cases same : left = right
  · subst same
    exact iff_of_true ⟨left, conjoinBoth_self stamp left⟩
      (PredicateContext.compatible_iff.2 (Or.inl (PredicateContext.EvaluableIn.refl _)))
  · rw [← PredicateContext.isSome_combine_iff, Option.isSome_iff_exists]
    simp only [conjoinBoth_eq_ok_iff same]
    constructor
    · rintro ⟨p, context, joint, combined, rfl⟩
      exact ⟨context, combined⟩
    · rintro ⟨context, combined⟩
      exact ⟨_, context, left.joint.append right.joint combined, combined, rfl⟩

theorem conjoin_some_some_eq_ok_iff {result : Option Predicate} :
    conjoin stamp (some left) (some right) = .ok result ↔
      ∃ p, conjoinBoth stamp left right = .ok p ∧ result = some p := by
  rw [conjoin]
  cases conjoinBoth stamp left right <;> simp [Except.map, eq_comm]

namespace IsConjunctionOf

variable {ps qs : List Predicate}

theorem singleton (p : Predicate) : p.IsConjunctionOf [p] where
  attained := ⟨p, List.mem_singleton_self p, rfl⟩
  evaluable := by
    intro q mem
    obtain rfl := List.mem_singleton.1 mem
    rfl
  leafs := by simp

/-- A predicate that joins two conjunctions is the conjunction of all their operands. -/
theorem append (hleft : left.IsConjunctionOf ps) (hright : right.IsConjunctionOf qs)
    (attained : p.context = left.context ∨ p.context = right.context)
    (evaluable : left.context.EvaluableIn p.context ∧ right.context.EvaluableIn p.context)
    (leafs : ∀ leaf, leaf ∈ p.leafs ↔ leaf ∈ left.leafs ∨ leaf ∈ right.leafs) :
    p.IsConjunctionOf (ps ++ qs) where
  attained := by
    rcases attained with h | h
    · obtain ⟨q, mem, hq⟩ := hleft.attained
      exact ⟨q, List.mem_append_left qs mem, hq.trans h.symm⟩
    · obtain ⟨q, mem, hq⟩ := hright.attained
      exact ⟨q, List.mem_append_right ps mem, hq.trans h.symm⟩
  evaluable := List.forall_mem_append.2
    ⟨fun q mem => (hleft.evaluable q mem).trans evaluable.1,
      fun q mem => (hright.evaluable q mem).trans evaluable.2⟩
  leafs := by
    intro leaf
    rw [leafs, hleft.leafs, hright.leafs]
    simp only [List.mem_append, or_and_right, exists_or]

theorem conjoinBoth (hleft : left.IsConjunctionOf ps) (hright : right.IsConjunctionOf qs)
    (h : Predicate.conjoinBoth stamp left right = .ok p) : p.IsConjunctionOf (ps ++ qs) := by
  by_cases same : left = right
  · -- Here no context is formed, and nothing is appended.
    subst same
    rw [conjoinBoth_self, Except.ok.injEq] at h
    subst h
    exact hleft.append hright (Or.inl rfl) ⟨.refl _, .refl _⟩ fun _ => (or_self_iff).symm
  · obtain ⟨context, joint, combined, rfl⟩ := (conjoinBoth_eq_ok_iff same).1 h
    obtain ⟨attained, evaluable⟩ := PredicateContext.combine_eq_some combined
    exact hleft.append hright attained evaluable fun _ => List.mem_append

/-- What has a conjunction goes together. -/
theorem compatible (h : p.IsConjunctionOf ps) :
    ∀ q ∈ ps, ∀ r ∈ ps, q.context.Compatible r.context :=
  fun q hq r hr => (h.evaluable q hq).compatible (h.evaluable r hr)

/-- The context of a conjunction depends on nothing but which predicates it joins. -/
theorem context_eq (hp : p.IsConjunctionOf ps) (hq : q.IsConjunctionOf qs)
    (same : ∀ r, r ∈ ps ↔ r ∈ qs) : p.context = q.context := by
  obtain ⟨r, hr, rcontext⟩ := hp.attained
  obtain ⟨s, hs, scontext⟩ := hq.attained
  refine PredicateContext.EvaluableIn.antisymm ?_ ?_
  · rw [← rcontext]
    exact hq.evaluable r ((same r).1 hr)
  · rw [← scontext]
    exact hp.evaluable s ((same s).2 hs)

theorem leafs_iff (hp : p.IsConjunctionOf ps) (hq : q.IsConjunctionOf qs)
    (same : ∀ r, r ∈ ps ↔ r ∈ qs) (leaf : PredicateLeaf) : leaf ∈ p.leafs ↔ leaf ∈ q.leafs := by
  rw [hp.leafs, hq.leafs]
  simp only [same]

end IsConjunctionOf

/-- What is joined to something can be evaluated where the result can. -/
theorem evaluableIn_of_conjoin {second : Option Predicate}
    (h : conjoin stamp (some left) second = .ok (some p)) :
    left.context.EvaluableIn p.context := by
  cases second with
  | none =>
    obtain rfl := Option.some.inj (Except.ok.inj h)
    rfl
  | some right =>
    obtain ⟨q, joined, heq⟩ := conjoin_some_some_eq_ok_iff.1 h
    obtain rfl := Option.some.inj heq
    have both := (IsConjunctionOf.singleton left).conjoinBoth (.singleton right) joined
    exact both.evaluable left (List.mem_append_left _ (List.mem_singleton_self left))

end Predicate

end TargetDescription

import TargetDescription.Format.Basic
import TargetDescription.Setting.Path

/-!
# Contexts of predicates

A predicate is evaluated against something: the settings of a group, or an instruction of a format.

* `PredicateContext` is that something.
* `PredicateContext.EvaluableIn` orders contexts: what is evaluated in the first can be evaluated in
  the second.
* `PredicateContext.combine` is the context that serves two predicates at once, if there is one.
-/

namespace TargetDescription

/-- What a predicate is evaluated against. -/
inductive PredicateContext
  | settings (group : GroupPath)
  | format (format : InstructionFormat)
  deriving DecidableEq

namespace PredicateContext

/-- How messages name the context. -/
def display : PredicateContext → String
  | settings group => "settings group " ++ group.name
  | format f => "format " ++ f.name

/-- Can predicates of the first context be evaluated in the second? They can in the same format, and
in a settings group that is theirs or extends theirs. -/
def EvaluableIn : PredicateContext → PredicateContext → Prop
  | settings a, settings b => a.isAncestorOf b = true
  | format a, format b => a = b
  | _, _ => False

@[refl] theorem EvaluableIn.refl (a : PredicateContext) : a.EvaluableIn a := by
  cases a with
  | settings a => exact a.isAncestorOf_refl
  | format a => rfl

theorem EvaluableIn.trans {a b c : PredicateContext} (hab : a.EvaluableIn b)
    (hbc : b.EvaluableIn c) : a.EvaluableIn c := by
  cases a <;> cases b <;> cases c <;> simp only [EvaluableIn] at *
  · exact GroupPath.isAncestorOf_trans hab hbc
  · exact hab.trans hbc

/-- The context in which both can be evaluated: the deeper of two groups of which one is an
ancestor of the other, or the format that both share. -/
def combine : PredicateContext → PredicateContext → Option PredicateContext
  | settings a, settings b =>
    if a.isAncestorOf b then some (settings b)
    else if b.isAncestorOf a then some (settings a)
    else none
  | format a, format b => if a = b then some (format a) else none
  | _, _ => none

theorem combine_eq_some {a b c : PredicateContext} (h : a.combine b = some c) :
    (c = a ∨ c = b) ∧ a.EvaluableIn c ∧ b.EvaluableIn c := by
  cases a with
  | settings a =>
    cases b with
    | settings b =>
      rw [combine] at h
      split at h
      case isTrue hab =>
        obtain rfl := Option.some.inj h
        exact ⟨Or.inr rfl, hab, EvaluableIn.refl _⟩
      case isFalse =>
        split at h
        case isTrue hba =>
          obtain rfl := Option.some.inj h
          exact ⟨Or.inl rfl, EvaluableIn.refl _, hba⟩
        case isFalse => cases h
    | format => cases h
  | format a =>
    cases b with
    | settings => cases h
    | format b =>
      rw [combine] at h
      split at h
      case isTrue hab =>
        obtain rfl := Option.some.inj h
        exact ⟨Or.inl rfl, EvaluableIn.refl _, hab.symm⟩
      case isFalse => cases h

end PredicateContext

end TargetDescription

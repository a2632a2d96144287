import Mathlib.Data.List.Nodup
import TargetDescription.Numbering
import TargetDescription.Proofs.Occurrence

/-!
# What a numbering holds

Numbering the things of a list keeps the numbers that are given and gives the next ones to the first
occurrences of the others.

* `Numbering.items_addAll` and `Numbering.items_ofList` are the numbered things in order.
* `Numbering.nodup` says that a thing has one position, its number, and `Numbering.number?_addAll`
  that a number stays.
-/

namespace TargetDescription

namespace Numbering

variable {α : Type} [DecidableEq α]

@[simp] theorem addAll_nil (numbering : Numbering α) : numbering.addAll [] = numbering := rfl

@[simp] theorem addAll_cons (numbering : Numbering α) (a : α) (as : List α) :
    numbering.addAll (a :: as) = (numbering.add a).addAll as := rfl

theorem add_of_mem {numbering : Numbering α} {a : α} (h : a ∈ numbering.items) :
    numbering.add a = numbering := by
  unfold add
  split
  case h_1 => rfl
  case h_2 new => exact absurd h (number?_eq_none_iff.1 new)

/-- A thing has one number, hence it stands at one position. -/
theorem nodup (numbering : Numbering α) : numbering.items.Nodup := by
  rw [List.nodup_iff_getElem?_ne_getElem?]
  intro i j before inside same
  have there : numbering.items[j]? = some numbering.items[j] := List.getElem?_eq_getElem inside
  have number := number?_eq_some_iff.2 there
  rw [number?_eq_some_iff.2 (same.trans there)] at number
  exact Nat.ne_of_lt before (Option.some.inj number)

theorem size_add_of_notMem {numbering : Numbering α} {a : α} (h : a ∉ numbering.items) :
    (numbering.add a).size = numbering.size + 1 := by
  rw [size, items_add, if_neg h, List.length_append]
  rfl

@[simp] theorem mem_items_addAll (numbering : Numbering α) (as : List α) (b : α) :
    b ∈ (numbering.addAll as).items ↔ b ∈ numbering.items ∨ b ∈ as := by
  induction as generalizing numbering with
  | nil => simp
  | cons a as ih => rw [addAll_cons, ih, mem_items_add, List.mem_cons, or_assoc]

theorem eraseDups_items (numbering : Numbering α) : numbering.items.eraseDups = numbering.items :=
  List.eraseDups_of_nodup numbering.nodup

theorem eraseDups_items_append (numbering : Numbering α) (a : α) :
    (numbering.items ++ [a]).eraseDups = (numbering.add a).items := by
  rw [items_add]
  split
  case isTrue h =>
    rw [List.eraseDups_append_of_subset (by simpa using h), eraseDups_items]
  case isFalse h =>
    rw [List.eraseDups_append_singleton_of_notMem h, eraseDups_items]

/-- The numbered things after a list is numbered: those that were, and the first occurrences of the
others. -/
theorem items_addAll (numbering : Numbering α) (as : List α) :
    (numbering.addAll as).items = (numbering.items ++ as).eraseDups := by
  induction as generalizing numbering with
  | nil => rw [addAll_nil, List.append_nil, eraseDups_items]
  | cons a as ih =>
    have same : (numbering.add a).items.eraseDups = (numbering.items ++ [a]).eraseDups := by
      rw [eraseDups_items, eraseDups_items_append]
    rw [addAll_cons, ih, List.eraseDups_append_congr same, List.append_assoc]
    rfl

theorem items_ofList (as : List α) : (ofList as).items = as.eraseDups :=
  items_addAll empty as

theorem items_ofList_of_nodup {as : List α} (h : as.Nodup) : (ofList as).items = as := by
  rw [items_ofList, List.eraseDups_of_nodup h]

theorem items_prefix_addAll (numbering : Numbering α) (as : List α) :
    numbering.items <+: (numbering.addAll as).items := by
  rw [items_addAll, List.eraseDups_append, eraseDups_items]
  exact List.prefix_append _ _

/-- Behind the things that have numbers come the first occurrences of those that have none. -/
theorem items_addAll_eq_append (numbering : Numbering α) (as : List α) :
    (numbering.addAll as).items =
      numbering.items ++ (as.filter fun a => a ∉ numbering.items).eraseDups := by
  have unnumbered : as.removeAll numbering.items = as.filter fun a => a ∉ numbering.items := by
    rw [List.removeAll]
    apply List.filter_congr
    intro a _
    rw [List.elem_eq_contains, List.contains_eq_mem, decide_not]
  rw [items_addAll, List.eraseDups_append, eraseDups_items, unnumbered]

/-- A number once given stays. -/
theorem number?_addAll {numbering : Numbering α} {a : α} {number : Nat}
    (h : numbering.number? a = some number) (as : List α) :
    (numbering.addAll as).number? a = some number := by
  rw [number?_eq_some_iff] at h ⊢
  obtain ⟨new, heq⟩ := items_prefix_addAll numbering as
  obtain ⟨lt, -⟩ := List.getElem?_eq_some_iff.1 h
  rw [← heq, List.getElem?_append_left lt, h]

end Numbering

end TargetDescription

import TargetDescription.Table

/-!
# Numbering by first occurrence

A numbering gives numbers to things in the order in which they first come up. It keeps the things in
this order, and beside them a table of their numbers, which are the positions in the list.

* `Numbering.add` makes sure that a thing has a number, `Numbering.ofList` numbers a whole list.
* `Numbering.number?` is the number of a thing, if it has one.
* `Inverse` says that list and table belong together; `Inverse.push` keeps it up.
-/

namespace TargetDescription

/-- The table leads from a thing to the position at which the list has it, and from nothing else. -/
def Inverse {α : Type} (items : List α) (numbers : Table α Nat) : Prop :=
  ∀ a number, (a, number) ∈ numbers.entries ↔ items[number]? = some a

/-- The numbered things, each at the position that is its number, and the numbers of the things. -/
structure Numbering (α : Type) where
  items : List α
  numbers : Table α Nat
  inverse : Inverse items numbers
  deriving DecidableEq

namespace Numbering

variable {α : Type}

/-- Nothing has a number. -/
def empty : Numbering α :=
  ⟨[], .empty, fun _ _ => by simp [Table.empty]⟩

/-- How many things have a number. -/
def size (numbering : Numbering α) : Nat :=
  numbering.items.length

variable [DecidableEq α]

/-- The number of a thing. -/
def number? (numbering : Numbering α) (a : α) : Option Nat :=
  numbering.numbers.get? a

/-- The number of a thing is its position. -/
theorem number?_eq_some_iff {numbering : Numbering α} {a : α} {number : Nat} :
    numbering.number? a = some number ↔ numbering.items[number]? = some a := by
  rw [number?, Table.get?_eq_some_iff, numbering.inverse]

/-- A thing at the end of the list and its number in the table keep the two together, provided that
the thing has no number yet. -/
theorem inverse_push {items : List α} {numbers : Table α Nat} (inverse : Inverse items numbers)
    {a : α} (new : numbers.get? a = none) :
    Inverse (items ++ [a]) (numbers.insert a items.length) := by
  intro b number
  rw [Table.entries_insert_of_new new, List.mem_append, inverse, List.mem_singleton,
    Prod.mk.injEq, List.getElem?_append]
  split
  case isTrue inside =>
    have different : number ≠ items.length := Nat.ne_of_lt inside
    simp [different]
  case isFalse outside =>
    have none : items[number]? = none := List.getElem?_eq_none (Nat.le_of_not_lt outside)
    rw [none, List.getElem?_singleton]
    split
    case isTrue last => simp [show number = items.length by omega, eq_comm]
    case isFalse behind => simp [show number ≠ items.length by omega]

/-- Gives the next number to a thing that has none yet. -/
def add (numbering : Numbering α) (a : α) : Numbering α :=
  match new : numbering.number? a with
  | some _ => numbering
  | none =>
    { items := numbering.items ++ [a]
      numbers := numbering.numbers.insert a numbering.items.length
      inverse := inverse_push numbering.inverse new }

/-- Numbers the things of a list in order. -/
def addAll (numbering : Numbering α) (as : List α) : Numbering α :=
  as.foldl add numbering

/-- The numbering of the things of a list, by first occurrence. -/
def ofList (as : List α) : Numbering α :=
  empty.addAll as

theorem isSome_number?_iff {numbering : Numbering α} {a : α} :
    (numbering.number? a).isSome = true ↔ a ∈ numbering.items := by
  simp only [Option.isSome_iff_exists, number?_eq_some_iff, List.mem_iff_getElem?]

theorem number?_eq_none_iff {numbering : Numbering α} {a : α} :
    numbering.number? a = none ↔ a ∉ numbering.items := by
  rw [← isSome_number?_iff, Option.not_isSome_iff_eq_none]

theorem items_add (numbering : Numbering α) (a : α) :
    (numbering.add a).items
      = if a ∈ numbering.items then numbering.items else numbering.items ++ [a] := by
  unfold add
  split
  case h_1 number numbered =>
    have mem : a ∈ numbering.items := isSome_number?_iff.1 (by rw [numbered]; rfl)
    rw [if_pos mem]
  case h_2 new => rw [if_neg (number?_eq_none_iff.1 new)]

@[simp] theorem mem_items_add (numbering : Numbering α) (a b : α) :
    b ∈ (numbering.add a).items ↔ b ∈ numbering.items ∨ b = a := by
  rw [items_add]
  split
  · constructor
    · exact Or.inl
    · rintro (h | rfl) <;> assumption
  · simp

end Numbering

end TargetDescription

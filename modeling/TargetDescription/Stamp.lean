/-!
# Stamps

Two type variables, or two predicates, may look alike and still be different things. Whatever
its content does not tell apart carries a *stamp*, taken from a source that never gives the same
stamp twice; equality of such things is then plain equality of values.

* `Stamp` is the mark, `Stamp.Source` the supply.
* `Stamp.Source.take` hands out the next stamp.
-/

namespace TargetDescription

/-- A mark that tells apart things of equal content. -/
structure Stamp where
  index : Nat
  deriving DecidableEq

namespace Stamp

/-- The stamps that were not handed out yet: those from `next` on. -/
structure Source where
  next : Nat := 0
  deriving DecidableEq

/-- A stamp that this source may still hand out. -/
def Source.IsFresh (source : Source) (stamp : Stamp) : Prop :=
  source.next ≤ stamp.index

/-- The next stamp and what is left of the source. -/
def Source.take (source : Source) : Stamp × Source :=
  (⟨source.next⟩, ⟨source.next + 1⟩)

theorem Source.isFresh_take (source : Source) : source.IsFresh source.take.1 :=
  Nat.le_refl _

/-- A stamp is fresh after `take` if it was fresh before and is not the one taken. -/
theorem Source.isFresh_take_iff (source : Source) (stamp : Stamp) :
    source.take.2.IsFresh stamp ↔ source.IsFresh stamp ∧ stamp ≠ source.take.1 := by
  cases stamp with
  | mk index => simp only [Source.IsFresh, Source.take, ne_eq, Stamp.mk.injEq]; omega

end Stamp

end TargetDescription

import TargetDescription.Error

/-!
# Outcomes

An operation on a registry, a group or a target answers or fails, and in both cases it leaves a
state behind. `Outcome` keeps the two together, so that what a failure leaves can be stated.

* `Outcome.ok` and `Outcome.fail` are the two cases; `Outcome.state` is what is left.
* `Outcome.andThen` runs operations one after the other, up to the first failure.
* `Outcome.inside` lifts an operation on a part to the whole.
-/

namespace TargetDescription

/-- What an operation answers, and the state it leaves. -/
structure Outcome (σ α : Type) where
  result : Except Error α
  state : σ

namespace Outcome

/-- Success with an answer. -/
def ok {σ α : Type} (answer : α) (state : σ) : Outcome σ α :=
  ⟨.ok answer, state⟩

/-- Failure. -/
def fail {σ α : Type} (error : Error) (state : σ) : Outcome σ α :=
  ⟨.error error, state⟩

/-- Goes on with `next` after a success; a failure ends the run in the state it left. -/
def andThen {σ α β : Type} (outcome : Outcome σ α) (next : α → σ → Outcome σ β) : Outcome σ β :=
  match outcome.result with
  | .ok answer => next answer outcome.state
  | .error error => fail error outcome.state

/-- The outcome for the whole, of an operation on one part of it. -/
def inside {σ τ α : Type} (outcome : Outcome σ α) (put : σ → τ) : Outcome τ α :=
  ⟨outcome.result, put outcome.state⟩

/-- The outcome with its answer, if any, passed through `f`. -/
def map {σ α β : Type} (f : α → β) (outcome : Outcome σ α) : Outcome σ β :=
  ⟨outcome.result.map f, outcome.state⟩

variable {σ τ α β : Type}

@[simp] theorem result_ok (a : α) (s : σ) : (ok a s).result = .ok a := rfl

@[simp] theorem state_ok (a : α) (s : σ) : (ok a s).state = s := rfl

@[simp] theorem result_fail (e : Error) (s : σ) : (fail e s : Outcome σ α).result = .error e := rfl

@[simp] theorem state_fail (e : Error) (s : σ) : (fail e s : Outcome σ α).state = s := rfl

@[simp] theorem result_inside (o : Outcome σ α) (put : σ → τ) :
    (o.inside put).result = o.result := rfl

@[simp] theorem state_inside (o : Outcome σ α) (put : σ → τ) :
    (o.inside put).state = put o.state := rfl

@[simp] theorem ok_map (f : α → β) (a : α) (s : σ) : (ok a s).map f = ok (f a) s := rfl

@[simp] theorem ok_andThen (a : α) (s : σ) (next : α → σ → Outcome σ β) :
    (ok a s).andThen next = next a s := rfl

@[simp] theorem fail_andThen (e : Error) (s : σ) (next : α → σ → Outcome σ β) :
    (fail e s : Outcome σ α).andThen next = fail e s := rfl

end Outcome

end TargetDescription

import TargetDescription.Proofs.Pattern.Resolution

/-!
# Definitions and the statements that read them

In a transformation, a variable that is defined at all has one definition in each pattern that reads
it, and this definition comes no later than the read. The results of a statement are mentioned
before its application, so the statement itself may be the one that defines what it reads.

* `Pattern.DefinesAt` says which statement defines a variable.
* `Transformation.DefinesBeforeReads` demands that all definitions stand in earlier statements.
* `reads_follow_definitions` is the main result; `make_selfSum` is a statement that reads its own
  result.
-/

namespace TargetDescription

namespace Pattern

/-- The statement at position `j` defines the variable. -/
def DefinesAt (pattern : Pattern) (j : ℕ) (name : String) : Prop :=
  ∃ statement, pattern.statements[j]? = some statement ∧ name ∈ statement.results

variable {pattern : Pattern} {i j k : ℕ} {name : String}

theorem definesAt_iff_of_getElem? {statement : Statement}
    (h : pattern.statements[j]? = some statement) :
    pattern.DefinesAt j name ↔ name ∈ statement.results := by
  simp [DefinesAt, h]

theorem mem_definedUpTo_iff : name ∈ pattern.definedUpTo i ↔ ∃ j ≤ i, pattern.DefinesAt j name := by
  rw [definedUpTo, List.mem_flatMap]
  constructor
  · rintro ⟨statement, mem, hname⟩
    obtain ⟨j, hj⟩ := List.mem_iff_getElem?.1 mem
    rw [List.getElem?_take] at hj
    split at hj
    · exact ⟨j, by omega, statement, hj, hname⟩
    · cases hj
  · rintro ⟨j, le, statement, hj, hname⟩
    refine ⟨statement, List.mem_iff_getElem?.2 ⟨j, ?_⟩, hname⟩
    rw [List.getElem?_take, if_pos (by omega), hj]

theorem mem_definedNames_iff : name ∈ pattern.definedNames ↔ ∃ j, pattern.DefinesAt j name := by
  rw [definedNames, List.mem_flatMap]
  constructor
  · rintro ⟨statement, mem, hname⟩
    obtain ⟨j, hj⟩ := List.mem_iff_getElem?.1 mem
    exact ⟨j, statement, hj, hname⟩
  · rintro ⟨j, statement, hj, hname⟩
    exact ⟨statement, List.mem_of_getElem? hj, hname⟩

/-- If nothing is defined twice, then the definition of a variable stands in one statement. -/
theorem eq_of_definesAt (once : pattern.definedNames.Nodup) (hj : pattern.DefinesAt j name)
    (hk : pattern.DefinesAt k name) : k = j := by
  have lists (i : ℕ) : (∃ list, (pattern.statements.map (·.results))[i]? = some list ∧
      name ∈ list) ↔ pattern.DefinesAt i name := by
    simp [DefinesAt]
  rw [definedNames, List.flatMap_def] at once
  have mem : name ∈ (pattern.statements.map (·.results)).flatten := by
    rw [← List.flatMap_def]
    exact mem_definedNames_iff.2 ⟨j, hj⟩
  exact (List.existsUnique_getElem?_of_nodup_flatten once mem).unique ((lists k).2 hk)
    ((lists j).2 hj)

end Pattern

/-! ## In transformations -/

namespace Transformation

/-- Every read of a variable that some pattern defines has the definition in an earlier statement of
its own pattern. -/
def DefinesBeforeReads (transformation : Transformation) : Prop :=
  ∀ pattern, pattern = transformation.source ∨ pattern = transformation.destination →
    ∀ i reader, pattern.statements[i]? = some reader → ∀ name ∈ reader.reads,
      ¬ Undefined transformation.source transformation.destination name →
        ∃ j < i, pattern.DefinesAt j name

/-- No statement reads a variable that it defines itself. -/
def ReadsNoOwnResults (transformation : Transformation) : Prop :=
  ∀ pattern, pattern = transformation.source ∨ pattern = transformation.destination →
    ∀ reader ∈ pattern.statements, ∀ name ∈ reader.reads, name ∉ reader.results

variable {source destination pattern : Pattern} {transformation : Transformation}

theorem nodup_definedNames_of_make (h : make source destination = .ok transformation)
    (own : pattern = transformation.source ∨ pattern = transformation.destination) :
    pattern.definedNames.Nodup := by
  obtain ⟨rfl, rfl⟩ := patterns_of_make h
  rcases own with rfl | rfl
  · exact (resolvable_of_make h).source_once
  · exact (resolvable_of_make h).destination_once

theorem readsDefinedOr_of_make (h : make source destination = .ok transformation)
    (own : pattern = transformation.source ∨ pattern = transformation.destination) :
    pattern.ReadsDefinedOr (Undefined transformation.source transformation.destination) := by
  obtain ⟨rfl, rfl⟩ := patterns_of_make h
  rcases own with rfl | rfl
  · exact (resolvable_of_make h).source_reads
  · exact (resolvable_of_make h).destination_reads

theorem not_undefined_of_definesAt
    (own : pattern = transformation.source ∨ pattern = transformation.destination) {j : ℕ}
    {name : String} (hj : pattern.DefinesAt j name) :
    ¬ Undefined transformation.source transformation.destination name := by
  rintro ⟨hs, hd⟩
  rcases own with rfl | rfl
  · exact hs (Pattern.mem_definedNames_iff.2 ⟨j, hj⟩)
  · exact hd (Pattern.mem_definedNames_iff.2 ⟨j, hj⟩)

/-- The definition of a variable that is read stands in one statement, and this is an earlier one or
the one that reads it. -/
theorem exists_definesAt_of_make (h : make source destination = .ok transformation)
    (own : pattern = transformation.source ∨ pattern = transformation.destination) {i : ℕ}
    {reader : Statement} (hi : pattern.statements[i]? = some reader) {name : String}
    (read : name ∈ reader.reads)
    (defined : ¬ Undefined transformation.source transformation.destination name) :
    ∃ j ≤ i, (∀ k, pattern.DefinesAt k name ↔ k = j) ∧ (j < i ↔ name ∉ reader.results) := by
  have once := nodup_definedNames_of_make h own
  obtain ⟨j, le, hj⟩ := Pattern.mem_definedUpTo_iff.1
    ((readsDefinedOr_of_make h own i reader hi name read).resolve_right defined)
  have only (k : ℕ) : pattern.DefinesAt k name ↔ k = j :=
    ⟨Pattern.eq_of_definesAt once hj, fun same => same ▸ hj⟩
  refine ⟨j, le, only, ?_⟩
  rw [← Pattern.definesAt_iff_of_getElem? hi, only]
  omega

theorem definesBeforeReads_iff_of_make (h : make source destination = .ok transformation) :
    transformation.DefinesBeforeReads ↔ transformation.ReadsNoOwnResults := by
  constructor
  · intro before pattern own reader mem name read result
    obtain ⟨i, hi⟩ := List.mem_iff_getElem?.1 mem
    have here : pattern.DefinesAt i name := ⟨reader, hi, result⟩
    obtain ⟨j, lt, hj⟩ :=
      before pattern own i reader hi name read (not_undefined_of_definesAt own here)
    have same := Pattern.eq_of_definesAt (nodup_definedNames_of_make h own) hj here
    omega
  · intro apart pattern own i reader hi name read defined
    obtain ⟨j, -, only, earlier⟩ := exists_definesAt_of_make h own hi read defined
    exact ⟨j, earlier.2 (apart pattern own reader (List.mem_of_getElem? hi) name read),
      (only j).2 rfl⟩

end Transformation

/-- **In a transformation, reads follow definitions.** If a statement reads a variable that some
pattern defines, then just one statement of its own pattern defines the variable, and this comes
earlier, unless it is the reading statement itself. So all definitions stand in earlier statements
just if no statement reads its own results. -/
theorem reads_follow_definitions (source destination : Pattern) (transformation : Transformation)
    (h : Transformation.make source destination = .ok transformation) :
    (∀ pattern, pattern = transformation.source ∨ pattern = transformation.destination →
      ∀ i reader, pattern.statements[i]? = some reader → ∀ name ∈ reader.reads,
        ¬ Undefined transformation.source transformation.destination name →
          ∃ j ≤ i, (∀ k, pattern.DefinesAt k name ↔ k = j) ∧
            (j < i ↔ name ∉ reader.results)) ∧
      (transformation.DefinesBeforeReads ↔ transformation.ReadsNoOwnResults) :=
  ⟨fun _ own _ _ hi _ read defined =>
    Transformation.exists_definesAt_of_make h own hi read defined,
    Transformation.definesBeforeReads_iff_of_make h⟩

theorem reads_follow_definitions_stepwiseSum :
    ∃ transformation, Transformation.make nestedSum stepwiseSum = .ok transformation ∧
      ∃ j ≤ 1, (∀ k, stepwiseSum.DefinesAt k "c" ↔ k = j) ∧ (j < 1 ↔ "c" ∉ ["a"]) := by
  have h : ∃ transformation, Transformation.make nestedSum stepwiseSum = .ok transformation ∧
      transformation.source = nestedSum ∧ transformation.destination = stepwiseSum :=
    ⟨_, rfl, rfl, rfl⟩
  obtain ⟨transformation, h, hs, hd⟩ := h
  refine ⟨transformation, h, ?_⟩
  refine (reads_follow_definitions _ _ _ h).1 stepwiseSum (.inr hd.symm) 1 _ rfl "c" (by decide) ?_
  rw [hs, hd]
  decide

/-- A sum that adds to its own result. -/
def selfSum : Pattern :=
  ⟨[⟨["a"], additionRef, [.var "a", .var "x"]⟩]⟩

/-- A statement may read what it defines: there is no earlier definition of `a` here. -/
theorem make_selfSum :
    ∃ transformation, Transformation.make selfSum selfSum = .ok transformation ∧
      ¬ transformation.DefinesBeforeReads := by
  refine ⟨_, rfl, fun before => ?_⟩
  obtain ⟨j, lt, -⟩ := before selfSum (.inl rfl) 0 _ rfl "a" (by decide) (by decide)
  exact Nat.not_lt_zero j lt

end TargetDescription

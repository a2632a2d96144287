import TargetDescription.Pattern.Mention
import TargetDescription.Proofs.Occurrence

/-!
# Which statement defines what another reads

The order of the statements of a pattern decides which definitions a read sees: those of its own
statement and of all earlier ones. This module says so in terms of statements, and ties it to the
order of mentions by which patterns are resolved.

* `Pattern.definedNames` and `Pattern.readNames` list definitions and reads in order.
* `Pattern.ReadsDefinedOr` demands that every read sees a definition, unless its variable is exempt.
* `Pattern.readsDefinedOr_iff`: this is a condition on the mentions before each read.
-/

namespace TargetDescription

/-- The variable that the mention defines. -/
def Mention.defined? : Mention → Option String
  | .defines name => some name
  | .reads _ => none

@[simp] theorem Mention.defined?_eq_some_iff {mention : Mention} {name : String} :
    mention.defined? = some name ↔ mention = .defines name := by
  cases mention <;> simp [defined?]

namespace Pattern

/-- The definitions of a pattern in order. -/
def definedNames (pattern : Pattern) : List String :=
  pattern.statements.flatMap (·.results)

/-- The reads of a pattern in order, statement by statement and through nested applications. -/
def readNames (pattern : Pattern) : List String :=
  pattern.statements.flatMap Statement.reads

/-- The definitions of the statements up to position `i`, this one included. -/
def definedUpTo (pattern : Pattern) (i : ℕ) : List String :=
  (pattern.statements.take (i + 1)).flatMap (·.results)

/-- Every variable that a statement reads is defined by it or by an earlier one, or is exempt. -/
def ReadsDefinedOr (pattern : Pattern) (exempt : String → Prop) : Prop :=
  ∀ i statement, pattern.statements[i]? = some statement →
    ∀ name ∈ statement.reads, name ∈ pattern.definedUpTo i ∨ exempt name

end Pattern

/-! ## Mentions of a statement -/

@[simp] theorem Statement.defines_mem_mentions {statement : Statement} {name : String} :
    .defines name ∈ statement.mentions ↔ name ∈ statement.results := by
  simp [mentions]

@[simp] theorem Statement.reads_mem_mentions {statement : Statement} {name : String} :
    .reads name ∈ statement.mentions ↔ name ∈ statement.reads := by
  simp [mentions]

@[simp] theorem Pattern.defines_mem_mentions {pattern : Pattern} {name : String} :
    .defines name ∈ pattern.mentions ↔ name ∈ pattern.definedNames := by
  simp [mentions, definedNames]

@[simp] theorem Pattern.reads_mem_mentions {pattern : Pattern} {name : String} :
    .reads name ∈ pattern.mentions ↔ name ∈ pattern.readNames := by
  simp [mentions, readNames]

/-- A read of a statement stands behind all its definitions. -/
theorem Statement.mentions_eq_append_cons {statement : Statement} {before after : List Mention}
    {name : String} (h : statement.mentions = before ++ .reads name :: after) :
    name ∈ statement.reads ∧ ∀ other, .defines other ∈ before ↔ other ∈ statement.results := by
  have read : .reads name ∈ statement.mentions := by rw [h]; simp
  refine ⟨reads_mem_mentions.1 read, fun other => ?_⟩
  rw [mentions, List.append_eq_append_cons_iff] at h
  obtain ⟨rest, hresults, -⟩ | ⟨more, rfl, hreads⟩ := h
  · have : Mention.reads name ∈ statement.results.map .defines := by rw [hresults]; simp
    simp at this
  · have : Mention.defines other ∉ more := by
      intro mem
      have : Mention.defines other ∈ statement.reads.map .reads := by rw [hreads]; simp [mem]
      simp at this
    simp [this]

/-! ## Mentions of a pattern -/

namespace Pattern

theorem filterMap_defined?_mentions (pattern : Pattern) :
    pattern.mentions.filterMap Mention.defined? = pattern.definedNames := by
  rw [mentions, definedNames, List.filterMap_flatMap]
  congr 1
  funext statement
  simp [Statement.mentions, List.filterMap_append, List.filterMap_map, Function.comp_def,
    Mention.defined?]

/-- Without the variables that it defines, a pattern mentions variables just by reading them. -/
theorem filter_names_mentions {pattern : Pattern} {p : String → Bool}
    (h : ∀ name, p name = true → name ∉ pattern.definedNames) :
    (pattern.mentions.map Mention.name).filter p = pattern.readNames.filter p := by
  have defs : ∀ statement ∈ pattern.statements, statement.results.filter p = [] := by
    intro statement mem
    rw [List.filter_eq_nil_iff]
    exact fun name hname hp => h name hp (List.mem_flatMap.2 ⟨statement, mem, hname⟩)
  rw [mentions, readNames, List.map_flatMap, List.filter_flatMap, List.filter_flatMap]
  refine List.flatMap_congr fun statement mem => ?_
  rw [Statement.mentions, List.map_append, List.map_map, List.map_map, List.filter_append]
  simp [Function.comp_def, Mention.name, defs statement mem]

/-- A pattern defines no variable twice just if no definition follows one of the same variable. -/
theorem nodup_definedNames_iff {pattern : Pattern} :
    pattern.definedNames.Nodup ↔
      ∀ before name after, pattern.mentions = before ++ .defines name :: after →
        .defines name ∉ before := by
  rw [← filterMap_defined?_mentions]
  generalize pattern.mentions = mentions
  induction mentions using List.reverseRecOn with
  | nil => simp
  | append_singleton mentions last ih =>
    rw [List.filterMap_append, List.nodup_append, ih]
    constructor
    · rintro ⟨h, -, apart⟩ before name after heq
      obtain ⟨rest, rfl⟩ | ⟨rfl, rfl, -⟩ := List.append_singleton_eq_append_cons heq
      · exact h before name rest rfl
      · exact fun mem => apart name (by simpa using mem) name (by simp) rfl
    · intro h
      refine ⟨fun before name after heq => h before name (after ++ [last]) (by simp [heq]),
        ?_, ?_⟩
      · cases last with
        | defines name => exact List.pairwise_singleton _ name
        | reads name => exact List.Pairwise.nil
      · rintro name earlier _ hlast rfl
        obtain rfl : last = .defines name := by simpa using hlast
        exact h mentions name [] rfl (by simpa using earlier)

/-- A read of a pattern stands in some statement, and behind just the definitions up to it. -/
theorem exists_statement_of_mentions_eq {statements : List Statement} {before after : List Mention}
    {name : String} (h : mentions ⟨statements⟩ = before ++ .reads name :: after) :
    ∃ i statement, statements[i]? = some statement ∧ name ∈ statement.reads ∧
      ∀ other, .defines other ∈ before ↔ other ∈ definedUpTo ⟨statements⟩ i := by
  induction statements generalizing before with
  | nil => simp [mentions] at h
  | cons first rest ih =>
    rw [mentions, List.flatMap_cons, List.append_eq_append_cons_iff] at h
    obtain ⟨tail, hfirst, -⟩ | ⟨more, rfl, hrest⟩ := h
    · obtain ⟨read, hdefs⟩ := Statement.mentions_eq_append_cons hfirst
      exact ⟨0, first, rfl, read, by simpa [definedUpTo] using hdefs⟩
    · obtain ⟨i, statement, hi, read, hdefs⟩ := ih hrest
      refine ⟨i + 1, statement, hi, read, fun other => ?_⟩
      rw [List.mem_append, Statement.defines_mem_mentions, hdefs]
      simp [definedUpTo]

theorem exists_mentions_eq {pattern : Pattern} {i : ℕ} {statement : Statement} {name : String}
    (h : pattern.statements[i]? = some statement) (read : name ∈ statement.reads) :
    ∃ before after, pattern.mentions = before ++ .reads name :: after ∧
      ∀ other, .defines other ∈ before ↔ other ∈ pattern.definedUpTo i := by
  obtain ⟨statements⟩ := pattern
  obtain ⟨hi, hstatement⟩ := List.getElem?_eq_some_iff.1 h
  obtain ⟨first, last, rfl, rfl⟩ :
      ∃ first last, statements = first ++ statement :: last ∧ first.length = i :=
    ⟨statements.take i, statements.drop (i + 1),
      by rw [← hstatement, ← List.drop_eq_getElem_cons hi, List.take_append_drop],
      List.length_take_of_le (Nat.le_of_lt hi)⟩
  obtain ⟨earlier, later, hreads⟩ := List.append_of_mem read
  refine ⟨mentions ⟨first⟩ ++ statement.results.map .defines ++ earlier.map .reads,
    later.map .reads ++ mentions ⟨last⟩, ?_, fun other => ?_⟩
  · simp only [mentions, List.flatMap_append, List.flatMap_cons, Statement.mentions, hreads]
    simp
  · have upTo : (first ++ statement :: last).take (first.length + 1) = first ++ [statement] := by
      rw [List.take_append, List.take_of_length_le (by omega), Nat.add_sub_cancel_left]
      rfl
    rw [definedUpTo, upTo]
    simp [definedNames]

/-- **Reads see their definitions just if each read is preceded by the mention that defines it.** -/
theorem readsDefinedOr_iff {pattern : Pattern} {exempt : String → Prop} :
    pattern.ReadsDefinedOr exempt ↔
      ∀ before name after, pattern.mentions = before ++ .reads name :: after →
        .defines name ∈ before ∨ exempt name := by
  constructor
  · intro h before name after heq
    obtain ⟨i, statement, hi, read, hdefs⟩ := exists_statement_of_mentions_eq heq
    rw [hdefs]
    exact h i statement hi name read
  · intro h i statement hi name read
    obtain ⟨before, after, heq, hdefs⟩ := exists_mentions_eq hi read
    rw [← hdefs]
    exact h before name after heq

end Pattern

end TargetDescription

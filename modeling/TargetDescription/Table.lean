/-!
# Tables

A table gives a value to each of its keys. The entries stand in the order in which their keys were
written last, and to write a key again takes its earlier entry away.

* `Table.insert` writes a key and `Table.get?` reads one, as `Table.get?_insert` says.
* `Table.KeptBy` says that a later table reads the same; writing a new key keeps a table.
* `Table.KeyedBy` says that the values tell their keys; then a key leads to the value that tells it.
-/

namespace TargetDescription

/-- Entries under keys that are all distinct. -/
structure Table (κ β : Type) where
  entries : List (κ × β)
  distinct : (entries.map (·.1)).Nodup
  deriving DecidableEq

namespace Table

variable {κ β : Type}

/-- The table without entries. -/
def empty : Table κ β :=
  ⟨[], List.Pairwise.nil⟩

/-- The number of keys. -/
def size (table : Table κ β) : Nat :=
  table.entries.length

/-- The values, one for each key. -/
def values (table : Table κ β) : List β :=
  table.entries.map (·.2)

theorem length_values (table : Table κ β) : table.values.length = table.size := by
  rw [values, List.length_map, size]

/-- Each value stands under the key that it tells. -/
def KeyedBy (table : Table κ β) (keyOf : β → κ) : Prop :=
  ∀ entry ∈ table.entries, keyOf entry.2 = entry.1

theorem keyedBy_empty (keyOf : β → κ) : (empty : Table κ β).KeyedBy keyOf :=
  List.forall_mem_nil _

theorem KeyedBy.nodup {table : Table κ β} {keyOf : β → κ} (keyed : table.KeyedBy keyOf) :
    (table.values.map keyOf).Nodup := by
  have keys : table.values.map keyOf = table.entries.map (·.1) := by
    rw [values, List.map_map]
    exact List.map_congr_left keyed
  rw [keys]
  exact table.distinct

variable [DecidableEq κ]

/-! ## Writing and reading -/

/-- The value of a key. -/
def get? (table : Table κ β) (key : κ) : Option β :=
  table.entries.lookup key

/-- Writes a key, over the value that it may have. -/
def insert (table : Table κ β) (key : κ) (value : β) : Table κ β where
  entries := table.entries.filter (fun entry => entry.1 ≠ key) ++ [(key, value)]
  distinct := by
    rw [List.map_append, List.nodup_append]
    refine ⟨table.distinct.sublist (List.filter_sublist.map _), by simp, ?_⟩
    intro other hother written hwritten
    obtain ⟨entry, mem, rfl⟩ := List.mem_map.1 hother
    rw [List.map_singleton, List.mem_singleton] at hwritten
    subst hwritten
    simpa using (List.mem_filter.1 mem).2

variable {table : Table κ β} {key other : κ} {value : β}

theorem get?_eq_some_iff : table.get? key = some value ↔ (key, value) ∈ table.entries := by
  obtain ⟨entries, distinct⟩ := table
  rw [get?]
  dsimp only
  induction entries with
  | nil => simp
  | cons entry rest ih =>
    obtain ⟨first, content⟩ := entry
    rw [List.map_cons, List.nodup_cons] at distinct
    rw [List.lookup_cons, List.mem_cons]
    split
    case h_1 same =>
      obtain rfl := eq_of_beq same
      have absent : (key, value) ∉ rest := fun mem =>
        distinct.1 (List.mem_map.2 ⟨_, mem, rfl⟩)
      simp [absent, eq_comm]
    case h_2 different =>
      have ne : key ≠ first := ne_of_beq_false different
      simp [ih distinct.2, ne]

theorem get?_eq_none_iff : table.get? key = none ↔ ∀ entry ∈ table.entries, entry.1 ≠ key := by
  constructor
  · rintro absent ⟨_, value⟩ mem rfl
    rw [get?_eq_some_iff.2 mem] at absent
    cases absent
  · intro absent
    cases found : table.get? key with
    | none => rfl
    | some value => exact absurd rfl (absent _ (get?_eq_some_iff.1 found))

/-- What is read after a key was written: the value written, and all other keys as before. -/
theorem get?_insert (table : Table κ β) (key other : κ) (value : β) :
    (table.insert key value).get? other = if other = key then some value else table.get? other := by
  apply Option.ext
  intro found
  rw [get?_eq_some_iff, insert]
  split
  case isTrue same =>
    subst same
    simp [eq_comm]
  case isFalse different => simp [different, get?_eq_some_iff]

/-- The second value takes the place of the first. -/
example : ((Table.empty.insert "a" 1).insert "a" 2 : Table String Nat).values = [2] := by
  decide

@[simp] theorem get?_insert_self (table : Table κ β) (key : κ) (value : β) :
    (table.insert key value).get? key = some value := by
  rw [get?_insert, if_pos rfl]

theorem get?_insert_of_ne (different : other ≠ key) :
    (table.insert key value).get? other = table.get? other := by
  rw [get?_insert, if_neg different]

/-- A new key comes last. -/
theorem entries_insert_of_new (new : table.get? key = none) :
    (table.insert key value).entries = table.entries ++ [(key, value)] := by
  have all : table.entries.filter (fun entry => entry.1 ≠ key) = table.entries := by
    rw [List.filter_eq_self]
    simpa using get?_eq_none_iff.1 new
  exact congrArg (· ++ [(key, value)]) all

theorem values_insert_of_new (new : table.get? key = none) :
    (table.insert key value).values = table.values ++ [value] := by
  rw [values, entries_insert_of_new new, List.map_append]
  rfl

theorem mem_values_of_get? (found : table.get? key = some value) : value ∈ table.values :=
  List.mem_map.2 ⟨_, get?_eq_some_iff.1 found, rfl⟩

/-! ## Tables that keep their values -/

/-- What the first table reads, the second one reads as well. -/
def KeptBy (table later : Table κ β) : Prop :=
  ∀ key value, table.get? key = some value → later.get? key = some value

theorem KeptBy.refl (table : Table κ β) : table.KeptBy table :=
  fun _ _ => id

theorem KeptBy.trans {middle later : Table κ β} (first : table.KeptBy middle)
    (second : middle.KeptBy later) : table.KeptBy later :=
  fun key value found => second key value (first key value found)

/-- Writing a key keeps the table if the key was not there; else its value might get lost. -/
theorem keptBy_insert (new : table.get? key = none) (value : β) :
    table.KeptBy (table.insert key value) := by
  intro other found there
  have different : other ≠ key := by
    rintro rfl
    rw [new] at there
    cases there
  rw [get?_insert_of_ne different, there]

/-! ## Values that tell their keys -/

namespace KeyedBy

variable {keyOf : β → κ}

theorem insert (keyed : table.KeyedBy keyOf) (told : keyOf value = key) :
    (table.insert key value).KeyedBy keyOf := by
  rw [KeyedBy, Table.insert, List.forall_mem_append, List.forall_mem_singleton]
  exact ⟨fun entry mem => keyed entry (List.mem_filter.1 mem).1, told⟩

/-- A key leads to the value that tells it. -/
theorem get?_eq_some_iff (keyed : table.KeyedBy keyOf) :
    table.get? key = some value ↔ value ∈ table.values ∧ keyOf value = key := by
  rw [Table.get?_eq_some_iff, values, List.mem_map]
  constructor
  · exact fun mem => ⟨⟨_, mem, rfl⟩, keyed _ mem⟩
  · rintro ⟨⟨⟨other, _⟩, mem, rfl⟩, rfl⟩
    exact keyed _ mem ▸ mem

theorem get?_eq_none_iff (keyed : table.KeyedBy keyOf) :
    table.get? key = none ↔ key ∉ table.values.map keyOf := by
  rw [Option.eq_none_iff_forall_ne_some]
  simp [keyed.get?_eq_some_iff]

end KeyedBy

end Table

end TargetDescription

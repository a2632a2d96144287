import Mathlib.Data.List.Basic
import Mathlib.Data.List.Induction
import Mathlib.Data.List.Nodup

/-!
# Occurrences in lists

Conditions on the order of things are stated by splitting a list at an occurrence, and orders "by
first use" by `List.eraseDups`, which keeps of every element its first occurrence. This module has
the laws of both that the library leaves out.

* `List.append_eq_append_cons_iff`: an occurrence in a list of two parts stands in one of them.
* `List.eq_of_pairwise`: occurrences that cannot be in any order are one.
* `List.find?_beq_of_nodup_map`: an entry is found by its name, if no name is used twice.
* `List.nodup_eraseDups`: nothing is left twice.
* `List.filter_eraseDups`: first occurrences may be taken before or after a selection.
* `List.eraseDups_append_of_subset`: what occurred before adds nothing.
* `List.scan_eq_error_iff`: a scan from left to right fails at the first element that it refuses.
-/

namespace List

/-! ## Splitting at an occurrence -/

section Split

variable {α : Type*}

theorem append_eq_append_cons_iff {as bs cs ds : List α} {x : α} :
    as ++ bs = cs ++ x :: ds ↔
      (∃ es, as = cs ++ x :: es ∧ ds = es ++ bs) ∨ ∃ es, cs = as ++ es ∧ bs = es ++ x :: ds := by
  rw [List.append_eq_append_iff]
  constructor
  · rintro (later | ⟨es, rfl, hes⟩)
    · exact .inr later
    · rcases es with _ | ⟨y, es⟩
      · exact .inr ⟨[], by simp, by simpa using hes.symm⟩
      · obtain ⟨rfl, rfl⟩ := List.cons.inj hes
        exact .inl ⟨es, rfl, rfl⟩
  · rintro (⟨es, rfl, rfl⟩ | later)
    · exact .inr ⟨x :: es, rfl, rfl⟩
    · exact .inl later

theorem append_singleton_eq_append_cons {as cs ds : List α} {x y : α}
    (h : as ++ [y] = cs ++ x :: ds) :
    (∃ es, as = cs ++ x :: es) ∨ (cs = as ∧ x = y ∧ ds = []) := by
  obtain ⟨es, heq, -⟩ | ⟨es, rfl, hes⟩ := append_eq_append_cons_iff.1 h
  · exact .inl ⟨es, heq⟩
  · obtain ⟨rfl, hx⟩ := List.append_eq_singleton_iff.1 hes.symm |>.resolve_right (by simp)
    obtain ⟨rfl, rfl⟩ := List.cons.inj hx
    exact .inr ⟨List.append_nil as, rfl, rfl⟩

theorem nodup_append_singleton {as : List α} {a : α} (nodup : as.Nodup) (new : a ∉ as) :
    (as ++ [a]).Nodup := by
  refine List.nodup_append.2 ⟨nodup, by simp, ?_⟩
  rintro b hb _ hc rfl
  exact new (List.mem_singleton.1 hc ▸ hb)

/-- Elements of which neither may come before the other stand at the same position. -/
theorem eq_of_pairwise {R : α → α → Prop} {as : List α} (pairwise : as.Pairwise R) {i j : ℕ}
    {a b : α} (hi : as[i]? = some a) (hj : as[j]? = some b) (hab : ¬ R a b) (hba : ¬ R b a) :
    i = j := by
  rw [List.pairwise_iff_getElem] at pairwise
  obtain ⟨lti, rfl⟩ := List.getElem?_eq_some_iff.1 hi
  obtain ⟨ltj, rfl⟩ := List.getElem?_eq_some_iff.1 hj
  rcases Nat.lt_trichotomy i j with lt | eq | gt
  · exact absurd (pairwise i j lti ltj lt) hab
  · exact eq
  · exact absurd (pairwise j i ltj lti gt) hba

/-- If nothing occurs twice in lists put together, then what occurs is in exactly one of them. -/
theorem existsUnique_getElem?_of_nodup_flatten {lists : List (List α)}
    (distinct : lists.flatten.Nodup) {a : α} (mem : a ∈ lists.flatten) :
    ∃! i : ℕ, ∃ list, lists[i]? = some list ∧ a ∈ list := by
  obtain ⟨list, hlist, ha⟩ := List.mem_flatten.1 mem
  obtain ⟨i, hi⟩ := List.mem_iff_getElem?.1 hlist
  refine ⟨i, ⟨list, hi, ha⟩, ?_⟩
  rintro j ⟨other, hj, haother⟩
  have apart := (List.pairwise_flatten.1 distinct).2
  apply eq_of_pairwise apart hj hi
  · exact fun h => h a haother a ha rfl
  · exact fun h => h a ha a haother rfl

theorem set_eq_self_of_getElem? {as : List α} {i : ℕ} {a : α} (h : as[i]? = some a) :
    as.set i a = as := by
  obtain ⟨lt, rfl⟩ := List.getElem?_eq_some_iff.1 h
  exact List.set_getElem_self lt

end Split

/-! ## Names of their own -/

section Names

variable {α β : Type*} {f : α → β} {as : List α}

/-- If no name is used twice, then entries of the same name stand at the same position. -/
theorem eq_of_nodup_map (distinct : (as.map f).Nodup) {i j : ℕ} {a b : α} (hi : as[i]? = some a)
    (hj : as[j]? = some b) (same : f a = f b) : i = j :=
  eq_of_pairwise (List.pairwise_map.1 distinct) hi hj (fun h => h same) fun h => h same.symm

/-- If no name is used twice, then an entry is found by its name. -/
theorem find?_beq_of_nodup_map [BEq β] [LawfulBEq β] (distinct : (as.map f).Nodup) {a : α}
    (mem : a ∈ as) : as.find? (fun b => f b == f a) = some a := by
  cases found : as.find? fun b => f b == f a with
  | none =>
    rw [List.find?_eq_none] at found
    exact absurd (beq_self_eq_true (f a)) (found a mem)
  | some b =>
    have same : f b = f a := by simpa using List.find?_some found
    rw [List.inj_on_of_nodup_map distinct (List.mem_of_find?_eq_some found) mem same]

end Names

/-! ## The first element refused -/

/-- A scan that goes on from where the first element has led fails at the first element that it
refuses. -/
theorem scan_eq_error_iff {α β ε : Type*} (scan : β → List α → Except ε β)
    (stop : ∀ state, scan state [] = .ok state)
    (next : ∀ state a as,
      scan state (a :: as) = (scan state [a]).bind fun reached => scan reached as)
    (state : β) {as : List α} {error : ε} :
    scan state as = .error error ↔
      ∃ before a after reached, as = before ++ a :: after ∧ scan state before = .ok reached ∧
        scan reached [a] = .error error := by
  -- the state is general: the rest is scanned from where the first element has led
  induction as generalizing state with
  | nil => simp [stop]
  | cons first rest ih =>
    constructor
    · intro h
      rw [next] at h
      cases here : scan state [first] with
      | error refusal =>
        rw [here] at h
        exact ⟨[], first, rest, state, rfl, stop state, here.trans h⟩
      | ok second =>
        rw [here] at h
        obtain ⟨before, a, after, reached, rfl, passed, refused⟩ := (ih second).1 h
        refine ⟨first :: before, a, after, reached, rfl, ?_, refused⟩
        rw [next, here]
        exact passed
    · rintro ⟨before, a, after, reached, heq, passed, refused⟩
      cases before with
      | nil =>
        obtain ⟨rfl, rfl⟩ := List.cons.inj heq
        obtain rfl : state = reached := Except.ok.inj ((stop state).symm.trans passed)
        rw [next, refused]
        rfl
      | cons b before =>
        obtain ⟨rfl, rfl⟩ := List.cons.inj heq
        rw [next] at passed ⊢
        cases here : scan state [first] with
        | error refusal =>
          rw [here] at passed
          cases passed
        | ok second =>
          rw [here] at passed
          exact (ih second).2 ⟨before, a, after, reached, rfl, passed, refused⟩

/-! ## First occurrences -/

variable {α : Type*} [BEq α] [LawfulBEq α]

theorem eraseDups_append_of_subset {as bs : List α} (h : bs ⊆ as) :
    (as ++ bs).eraseDups = as.eraseDups := by
  have nothing : bs.removeAll as = [] := by
    rw [List.removeAll, List.filter_eq_nil_iff]
    intro b hb
    simp [h hb]
  rw [List.eraseDups_append, nothing, List.eraseDups_nil, List.append_nil]

theorem eraseDups_append_congr {as bs : List α} (h : as.eraseDups = bs.eraseDups) (cs : List α) :
    (as ++ cs).eraseDups = (bs ++ cs).eraseDups := by
  have same : ∀ c, as.contains c = bs.contains c := by
    intro c
    rw [Bool.eq_iff_iff, List.contains_iff_mem, List.contains_iff_mem, ← List.mem_eraseDups, h,
      List.mem_eraseDups]
  rw [List.eraseDups_append, List.eraseDups_append, h, List.removeAll, List.removeAll]
  congr 2
  exact List.filter_congr fun c _ => by rw [List.elem_eq_contains, List.elem_eq_contains, same]

theorem eraseDups_append_singleton_of_notMem {as : List α} {a : α} (h : a ∉ as) :
    (as ++ [a]).eraseDups = as.eraseDups ++ [a] := by
  have new : [a].removeAll as = [a] := by
    rw [List.removeAll, List.filter_eq_self]
    intro b hb
    rw [List.mem_singleton] at hb
    simp [hb, h]
  rw [List.eraseDups_append, new, List.eraseDups_cons, List.filter_nil, List.eraseDups_nil]

theorem nodup_eraseDups (as : List α) : as.eraseDups.Nodup := by
  induction as using List.reverseRecOn with
  | nil => exact List.nodup_nil
  | append_singleton as a ih =>
    by_cases h : a ∈ as
    · rw [eraseDups_append_of_subset (by simpa using h)]
      exact ih
    · rw [eraseDups_append_singleton_of_notMem h]
      exact nodup_append_singleton ih fun mem => h (List.mem_eraseDups.1 mem)

theorem eraseDups_of_nodup {as : List α} (h : as.Nodup) : as.eraseDups = as := by
  induction as using List.reverseRecOn with
  | nil => rfl
  | append_singleton as a ih =>
    obtain ⟨nodup, -, apart⟩ := List.nodup_append.1 h
    have new : a ∉ as := fun mem => apart a mem a (List.mem_singleton_self a) rfl
    rw [eraseDups_append_singleton_of_notMem new, ih nodup]

theorem filter_eraseDups (p : α → Bool) (as : List α) :
    as.eraseDups.filter p = (as.filter p).eraseDups := by
  induction as using List.reverseRecOn with
  | nil => rfl
  | append_singleton as a ih =>
    rw [List.filter_append]
    by_cases h : a ∈ as
    · rw [eraseDups_append_of_subset (by simpa using h), ih, eraseDups_append_of_subset]
      intro b hb
      obtain ⟨hb, hp⟩ := List.mem_filter.1 hb
      rw [List.mem_singleton] at hb
      exact List.mem_filter.2 ⟨hb ▸ h, hp⟩
    · rw [eraseDups_append_singleton_of_notMem h, List.filter_append, ih]
      by_cases hp : p a
      · have new : a ∉ as.filter p := fun mem => h (List.mem_filter.1 mem).1
        rw [List.filter_cons_of_pos hp, List.filter_nil, eraseDups_append_singleton_of_notMem new]
      · rw [List.filter_cons_of_neg hp, List.filter_nil, List.append_nil, List.append_nil]

end List

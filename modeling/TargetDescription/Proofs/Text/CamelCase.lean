import Mathlib.Data.List.Chain
import TargetDescription.Text.CamelCase

/-!
# What camel case makes of a character

Camel case is written from left to right, and an underscore is read together with the small letter
behind it. What becomes of a single character can be told from its two neighbours.

* `CamelCase.writtenAt?` is what becomes of the character at a position, and
  `CamelCase.chars_eq_filterMap` says that the positions together make the name.
* `CamelCase.Capitalised` says that no word starts with a small letter, and
  `CamelCase.chars_eq_self_iff` that just these names stay as they are.
* `camelCase_capitalises` is the main result.
-/

namespace TargetDescription

namespace CamelCase

/-! ## Small letters and capitals -/

section Letters

variable {c : Char}

theorem isLower_iff : c.isLower = true ↔ 97 ≤ c.toNat ∧ c.toNat ≤ 122 := by
  have range : c.isLower = (decide ('a'.val ≤ c.val) && decide (c.val ≤ 'z'.val)) := rfl
  rw [range, Bool.and_eq_true, decide_eq_true_eq, decide_eq_true_eq]
  rfl

theorem toNat_toUpper_add (small : c.isLower = true) : c.toUpper.toNat + 32 = c.toNat := by
  have bounds := isLower_iff.1 small
  have shift : ('A'.val - 'a'.val).toNat = 2 ^ 32 - 32 := by decide
  have range : 'a'.val ≤ c.val ∧ c.val ≤ 'z'.val := bounds
  have upper : c.toUpper = _ := dif_pos range
  have shifted : c.toUpper.toNat = (c.toNat + ('A'.val - 'a'.val).toNat) % 2 ^ 32 := by
    rw [upper]
    exact UInt32.toNat_add c.val ('A'.val - 'a'.val)
  omega

theorem isLower_toUpper (small : c.isLower = true) : c.toUpper.isLower = false := by
  have bounds := isLower_iff.1 small
  have capital := toNat_toUpper_add small
  rw [← Bool.not_eq_true, isLower_iff]
  omega

theorem toUpper_ne_underscore (small : c.isLower = true) : c.toUpper ≠ '_' := by
  have bounds := isLower_iff.1 small
  have capital := toNat_toUpper_add small
  intro h
  have code : c.toUpper.toNat = 95 := congrArg Char.toNat h
  omega

theorem ne_underscore_of_isLower (small : c.isLower = true) : c ≠ '_' := by
  rintro rfl
  exact absurd small (by decide)

end Letters

/-! ## Position by position -/

/-- Is there a small letter at the position? -/
def isSmallAt (cs : List Char) (i : Nat) : Bool :=
  cs[i]?.any Char.isLower

/-- Is the position at the start of the name or right behind an underscore? -/
def startsWordAt (cs : List Char) : Nat → Bool
  | 0 => true
  | i + 1 => cs[i]? == some '_'

/-- What is written for the character at the position. An underscore before a small letter is left
out, a small letter at the start or behind an underscore becomes a capital, and all else stays. -/
def writtenAt? (cs : List Char) (i : Nat) : Option Char :=
  match cs[i]? with
  | none => none
  | some c =>
    if c = '_' ∧ isSmallAt cs (i + 1) then none
    else if isSmallAt cs i ∧ startsWordAt cs i then some c.toUpper
    else some c

variable {before rest : List Char} {c : Char}

theorem isSmallAt_length (before cs : List Char) :
    isSmallAt (before ++ cs) before.length = cs.head?.any Char.isLower := by
  rw [isSmallAt, List.getElem?_append_right (Nat.le_refl _), Nat.sub_self, List.head?_eq_getElem?]

theorem isSmallAt_length_succ (before rest : List Char) (c : Char) :
    isSmallAt (before ++ c :: rest) (before.length + 1) = rest.head?.any Char.isLower := by
  have behind := isSmallAt_length (before ++ [c]) rest
  rwa [List.append_assoc, List.length_append] at behind

theorem startsWordAt_length (before rest : List Char) (c : Char) :
    startsWordAt (before ++ [c] ++ rest) (before ++ [c]).length = (c == '_') := by
  rw [List.append_assoc, List.length_append, List.length_singleton, startsWordAt,
    List.getElem?_append_right (Nat.le_refl _), Nat.sub_self]
  rfl

theorem writtenAt?_of_dropped (small : rest.head?.any Char.isLower = true) :
    writtenAt? (before ++ '_' :: rest) before.length = none := by
  simp [writtenAt?, isSmallAt_length_succ, small]

theorem writtenAt?_of_capital (small : c.isLower = true)
    (start : startsWordAt (before ++ c :: rest) before.length = true) :
    writtenAt? (before ++ c :: rest) before.length = some c.toUpper := by
  simp [writtenAt?, isSmallAt_length, ne_underscore_of_isLower small, small, start]

theorem writtenAt?_of_kept (underscore : c = '_' → rest.head?.any Char.isLower = false)
    (letter : c.isLower = true → startsWordAt (before ++ c :: rest) before.length = false) :
    writtenAt? (before ++ c :: rest) before.length = some c := by
  have stays : ¬ (c = '_' ∧ isSmallAt (before ++ c :: rest) (before.length + 1) = true) := by
    rw [isSmallAt_length_succ]
    rintro ⟨rfl, small⟩
    simp [underscore rfl] at small
  have lower : ¬ (isSmallAt (before ++ c :: rest) before.length = true ∧
      startsWordAt (before ++ c :: rest) before.length = true) := by
    rw [isSmallAt_length]
    rintro ⟨small, start⟩
    simp [letter small] at start
  simp [writtenAt?, stays, lower]

/-- One position, and then the positions behind it. -/
theorem filterMap_writtenAt?_cons (before rest : List Char) (c : Char) :
    (List.range' before.length (c :: rest).length).filterMap (writtenAt? (before ++ c :: rest)) =
      (writtenAt? (before ++ c :: rest) before.length).toList ++
        (List.range' (before ++ [c]).length rest.length).filterMap
          (writtenAt? (before ++ [c] ++ rest)) := by
  rw [List.length_cons, List.range'_succ, List.filterMap_cons, List.length_append,
    List.append_assoc]
  cases writtenAt? (before ++ c :: rest) before.length <;> rfl

/-- The rest of a name is written position by position, if it does not start with a small letter
that is to become a capital. -/
theorem tail_eq_filterMap (before cs : List Char)
    (boundary : cs.head?.any Char.isLower = true →
      startsWordAt (before ++ cs) before.length = false) :
    tail cs = (List.range' before.length cs.length).filterMap (writtenAt? (before ++ cs)) := by
  fun_induction tail cs generalizing before with
  | case1 => rfl
  | case2 c rest small ih =>
    have dropped : writtenAt? (before ++ '_' :: c :: rest) before.length = none :=
      writtenAt?_of_dropped small
    have capital : writtenAt? (before ++ ['_'] ++ c :: rest) (before ++ ['_']).length =
        some c.toUpper := writtenAt?_of_capital small (startsWordAt_length before _ '_')
    rw [filterMap_writtenAt?_cons, dropped, filterMap_writtenAt?_cons, capital,
      ← ih (before ++ ['_'] ++ [c]) fun _ => ?_]
    · rfl
    · rw [startsWordAt_length, beq_eq_false_iff_ne]
      exact ne_underscore_of_isLower small
  | case3 c rest other ih =>
    have kept : writtenAt? (before ++ '_' :: c :: rest) before.length = some '_' :=
      writtenAt?_of_kept (fun _ => by simpa using other) nofun
    rw [filterMap_writtenAt?_cons, kept, ← ih (before ++ ['_']) fun small => absurd small other]
    rfl
  | case4 c rest apart ih =>
    -- An underscore that stands here is the last character.
    have last : c = '_' → rest = [] := by
      rintro rfl
      cases rest with
      | nil => rfl
      | cons d rest => exact (apart d rest rfl rfl).elim
    have kept : writtenAt? (before ++ c :: rest) before.length = some c :=
      writtenAt?_of_kept (fun underscore => by rw [last underscore]; rfl) boundary
    rw [filterMap_writtenAt?_cons, kept, ← ih (before ++ [c]) fun small => ?_]
    · rfl
    · rw [startsWordAt_length, beq_eq_false_iff_ne]
      rintro rfl
      simp [last rfl] at small

/-- A name is written position by position. -/
theorem chars_eq_filterMap (cs : List Char) :
    chars cs = (List.range cs.length).filterMap (writtenAt? cs) := by
  rw [List.range_eq_range']
  cases cs with
  | nil => rfl
  | cons c rest =>
    rw [chars]
    split
    case isTrue small =>
      have first := filterMap_writtenAt?_cons [] rest c
      have capital : writtenAt? ([] ++ c :: rest) [].length = some c.toUpper :=
        writtenAt?_of_capital small rfl
      rw [capital, ← tail_eq_filterMap ([] ++ [c]) rest fun _ => ?_] at first
      · exact first.symm
      · rw [startsWordAt_length, beq_eq_false_iff_ne]
        exact ne_underscore_of_isLower small
    case isFalse other => exact tail_eq_filterMap [] (c :: rest) fun small => absurd small other

/-! ## Names that stay -/

/-- The second character may stand behind the first one. -/
def MayFollow (c d : Char) : Prop :=
  c = '_' → d.isLower = false

/-- No small letter stands at the start or right behind an underscore. -/
structure Capitalised (cs : List Char) : Prop where
  start : ∀ c ∈ cs.head?, c.isLower = false
  words : cs.IsChain MayFollow

/-- A small letter is written first only if it was read first. -/
theorem head?_of_head?_tail {cs : List Char} (h : (tail cs).head? = some c)
    (small : c.isLower = true) : cs.head? = some c := by
  fun_cases tail cs with
  | case1 => exact h
  | case2 d rest lower =>
    have capital := isLower_toUpper lower
    obtain rfl : d.toUpper = c := by simpa [tail, lower] using h
    simp [capital] at small
  | case3 d rest other => simpa [tail, other] using h
  | case4 d rest apart => simpa [tail] using h

theorem isChain_tail (cs : List Char) : (tail cs).IsChain MayFollow := by
  fun_induction tail cs with
  | case1 => exact .nil
  | case2 c rest small ih =>
    exact List.isChain_cons.2 ⟨fun _ _ h => absurd h (toUpper_ne_underscore small), ih⟩
  | case3 c rest other ih =>
    refine List.isChain_cons.2 ⟨fun d hd _ => ?_, ih⟩
    by_contra lower
    rw [Bool.not_eq_false] at lower
    obtain rfl := Option.some.inj (head?_of_head?_tail hd lower)
    exact other lower
  | case4 c rest apart ih =>
    refine List.isChain_cons.2 ⟨fun d hd underscore => ?_, ih⟩
    cases rest with
    | nil => cases hd
    | cons e rest => exact (apart e rest underscore rfl).elim

theorem capitalised_chars (cs : List Char) : Capitalised (chars cs) := by
  cases cs with
  | nil => exact ⟨nofun, .nil⟩
  | cons c rest =>
    rw [chars]
    split
    case isTrue small =>
      constructor
      · rintro d hd
        obtain rfl := Option.some.inj hd
        exact isLower_toUpper small
      · exact List.isChain_cons.2
          ⟨fun _ _ h => absurd h (toUpper_ne_underscore small), isChain_tail rest⟩
    case isFalse other =>
      refine ⟨fun d hd => ?_, isChain_tail (c :: rest)⟩
      by_contra lower
      rw [Bool.not_eq_false] at lower
      obtain rfl := Option.some.inj (head?_of_head?_tail hd lower)
      exact other lower

theorem tail_of_isChain {cs : List Char} (words : cs.IsChain MayFollow) : tail cs = cs := by
  fun_induction tail cs with
  | case1 => rfl
  | case2 c rest small ih => simp [(List.isChain_cons_cons.1 words).1 rfl] at small
  | case3 c rest other ih => rw [ih (List.isChain_cons_cons.1 words).2]
  | case4 c rest apart ih => rw [ih (List.isChain_cons.1 words).2]

/-- The names that stay as they are. -/
theorem chars_eq_self_iff {cs : List Char} : chars cs = cs ↔ Capitalised cs := by
  constructor
  · intro h
    exact h ▸ capitalised_chars cs
  · rintro ⟨start, words⟩
    cases cs with
    | nil => rfl
    | cons c rest =>
      rw [chars, if_neg (by simp [start c rfl]), tail_of_isChain words]

end CamelCase

/-- **Camel case tells each character from its neighbours.** An underscore before a small letter
goes away, such a letter and one at the start become capitals, and every other character stays where
it is, letters outside of ASCII too. So no small letter is left at the start or behind an
underscore, and camel case again changes nothing. -/
theorem camelCase_capitalises (name : String) :
    (camelCase name).toList =
        (List.range name.toList.length).filterMap (CamelCase.writtenAt? name.toList) ∧
      CamelCase.Capitalised (camelCase name).toList ∧
      camelCase (camelCase name) = camelCase name := by
  have chars : (camelCase name).toList = CamelCase.chars name.toList := String.toList_ofList
  rw [chars]
  refine ⟨CamelCase.chars_eq_filterMap _, CamelCase.capitalised_chars _, ?_⟩
  have stays := CamelCase.chars_eq_self_iff.2 (CamelCase.capitalised_chars name.toList)
  rw [camelCase, chars, stays, camelCase]

/-- Underscores in a row, behind a digit, before a letter outside of ASCII and at the end. -/
example : camelCase "__x_1_y_é_" = "_X_1Y_é_" := by
  decide

end TargetDescription

import Mathlib.Data.List.Destutter
import Mathlib.Data.List.Nodup

/-!
# The distinct values of a list

A list that keeps a value whenever it differs from the last one kept holds each value once exactly
if no value comes back after another.  A value has company in a list if a count of the list says
more than one.
-/

namespace Occurrences

variable {α : Type}

/-- A value comes back after another one. -/
def Returns (values : List α) : Prop :=
  ∃ value other, value ≠ other ∧ [value, other, value].Sublist values

theorem returns_cons_self {first : α} {rest : List α} :
    Returns (first :: first :: rest) ↔ Returns (first :: rest) := by
  constructor
  · rintro ⟨value, other, different, found⟩
    refine ⟨value, other, different, ?_⟩
    cases found with
    | cons _ later => exact later
    | cons_cons _ later =>
        cases later with
        | cons _ later => exact later.cons_cons first
        | cons_cons => exact absurd rfl different
  · rintro ⟨value, other, different, found⟩
    exact ⟨value, other, different, found.cons first⟩

theorem returns_cons {first : α} {rest : List α} :
    Returns (first :: rest) ↔
      Returns rest ∨ ∃ other, first ≠ other ∧ [other, first].Sublist rest := by
  constructor
  · rintro ⟨value, other, different, found⟩
    cases found with
    | cons _ later => exact .inl ⟨value, other, different, later⟩
    | cons_cons _ later => exact .inr ⟨other, different, later⟩
  · rintro (⟨value, other, different, found⟩ | ⟨other, different, found⟩)
    · exact ⟨value, other, different, found.cons first⟩
    · exact ⟨first, other, different, found.cons_cons first⟩

theorem returns_cons_cons {first next : α} {rest : List α} (different : first ≠ next) :
    Returns (first :: next :: rest) ↔ Returns (next :: rest) ∨ first ∈ rest := by
  rw [returns_cons]
  apply or_congr_right
  constructor
  · rintro ⟨other, -, found⟩
    cases found with
    | cons _ later => exact later.subset (by simp)
    | cons_cons _ later => exact List.singleton_sublist.mp later
  · intro again
    exact ⟨next, different, (List.singleton_sublist.mpr again).cons_cons next⟩

/-! ## Counts -/

theorem countP_pos_iff_getElem? {condition : α → Bool} {values : List α} :
    0 < values.countP condition ↔
      ∃ (place : Nat) (value : α), values[place]? = some value ∧ condition value := by
  rw [List.countP_pos_iff]
  constructor
  · rintro ⟨value, listed, holds⟩
    obtain ⟨place, found⟩ := List.mem_iff_getElem?.mp listed
    exact ⟨place, value, found, holds⟩
  · rintro ⟨place, value, found, holds⟩
    exact ⟨value, List.mem_of_getElem? found, holds⟩

/-- Beside a value that meets the condition there is another one, at another place. -/
theorem one_lt_countP_iff {condition : α → Bool} {values : List α} {index : Nat} {value : α}
    (found : values[index]? = some value) (holds : condition value) :
    1 < values.countP condition ↔
      ∃ place ≠ index, ∃ other, values[place]? = some other ∧ condition other := by
  induction values generalizing index with
  | nil => simp at found
  | cons head rest ih =>
      cases index with
      | zero =>
          obtain rfl : head = value := by simpa using found
          rw [List.countP_cons_of_pos holds, Nat.lt_add_left_iff_pos, countP_pos_iff_getElem?]
          constructor
          · rintro ⟨place, other, isOther, same⟩
            exact ⟨place + 1, by omega, other, isOther, same⟩
          · rintro ⟨place, apart, other, isOther, same⟩
            obtain ⟨before, rfl⟩ := Nat.exists_eq_succ_of_ne_zero apart
            exact ⟨before, other, isOther, same⟩
      | succ index =>
          have later : rest[index]? = some value := by simpa using found
          by_cases first : condition head
          · have inRest : 0 < rest.countP condition :=
              countP_pos_iff_getElem?.mpr ⟨index, value, later, holds⟩
            rw [List.countP_cons_of_pos first]
            constructor
            · intro
              exact ⟨0, by omega, head, rfl, first⟩
            · intro
              omega
          · rw [List.countP_cons_of_neg first, ih later]
            constructor
            · rintro ⟨place, apart, other, isOther, same⟩
              exact ⟨place + 1, by omega, other, isOther, same⟩
            · rintro ⟨place, apart, other, isOther, same⟩
              cases place with
              | zero =>
                  obtain rfl : head = other := by simpa using isOther
                  exact absurd same first
              | succ place => exact ⟨place, by omega, other, by simpa using isOther, same⟩

/-! ## Changes -/

variable [DecidableEq α]

/-- The values of the list, each once, in the order in which they first occur. -/
structure InOrder (values distinct : List α) : Prop where
  once : distinct.Nodup
  members : ∀ value, value ∈ distinct ↔ value ∈ values
  ordered : distinct.Pairwise fun first second => values.idxOf first < values.idxOf second

/-- Only the last value kept is compared with. -/
abbrev changes (values : List α) : List α := values.destutter (· ≠ ·)

theorem mem_destutter'_iff {value : α} (first : α) (rest : List α) :
    value ∈ rest.destutter' (· ≠ ·) first ↔ value ∈ first :: rest := by
  induction rest generalizing first with
  | nil => rfl
  | cons next later ih =>
      by_cases same : first = next
      · subst same
        rw [List.destutter'_cons_neg (R := (· ≠ ·)) later (fun different => different rfl),
          ih]
        simp
      · rw [List.destutter'_cons_pos later same, List.mem_cons, ih,
          ← List.mem_cons]

theorem nodup_destutter'_iff (first : α) (rest : List α) :
    (rest.destutter' (· ≠ ·) first).Nodup ↔ ¬ Returns (first :: rest) := by
  induction rest generalizing first with
  | nil =>
      simp only [List.destutter'_nil, List.nodup_singleton, true_iff]
      rintro ⟨value, other, -, found⟩
      exact absurd found.length_le (by simp)
  | cons next later ih =>
      by_cases same : first = next
      · subst same
        rw [List.destutter'_cons_neg (R := (· ≠ ·)) later (fun different => different rfl),
          ih, returns_cons_self]
      · rw [List.destutter'_cons_pos later same, List.nodup_cons, ih,
          mem_destutter'_iff, returns_cons_cons same, List.mem_cons]
        tauto

theorem idxOf_cons_lt {head first second : α} {values : List α} (other : second ≠ head)
    (earlier : values.idxOf first < values.idxOf second) :
    (head :: values).idxOf first < (head :: values).idxOf second := by
  rw [List.idxOf_cons_ne values other.symm]
  by_cases same : first = head
  · subst same
    rw [List.idxOf_cons_self]
    omega
  · rw [List.idxOf_cons_ne values (Ne.symm same)]
    omega

theorem ordered_destutter' {first : α} {rest : List α} (never : ¬ Returns (first :: rest)) :
    (rest.destutter' (· ≠ ·) first).Pairwise fun one another =>
      (first :: rest).idxOf one < (first :: rest).idxOf another := by
  induction rest generalizing first with
  | nil => exact List.pairwise_singleton _ _
  | cons next later ih =>
      by_cases same : first = next
      · subst same
        rw [returns_cons_self] at never
        rw [List.destutter'_cons_neg (R := (· ≠ ·)) later (fun different => different rfl)]
        apply (ih never).imp
        intro one another earlier
        apply idxOf_cons_lt _ earlier
        -- The value in front is the first of all.
        rintro rfl
        rw [List.idxOf_cons_self] at earlier
        exact absurd earlier (Nat.not_lt_zero _)
      · rw [returns_cons_cons same, not_or] at never
        rw [List.destutter'_cons_pos later same, List.pairwise_cons]
        have apart : ∀ value ∈ later.destutter' (· ≠ ·) next, value ≠ first := by
          rintro value kept rfl
          rcases List.mem_cons.mp ((mem_destutter'_iff next later).mp kept) with here | after
          · exact same here
          · exact never.2 after
        constructor
        · intro value kept
          rw [List.idxOf_cons_self, List.idxOf_cons_ne _ (apart value kept).symm]
          exact Nat.succ_pos _
        · apply (ih never.1).imp_of_mem
          intro one another _ kept earlier
          exact idxOf_cons_lt (apart another kept) earlier

theorem inOrder_changes_iff (values : List α) :
    InOrder values (changes values) ↔ ¬ Returns values := by
  cases values with
  | nil =>
      constructor
      · rintro - ⟨value, other, -, found⟩
        exact absurd found.length_le (by simp)
      · intro
        exact ⟨List.nodup_nil, fun _ => Iff.rfl, List.Pairwise.nil⟩
  | cons first rest =>
      constructor
      · intro distinct
        exact (nodup_destutter'_iff first rest).mp distinct.once
      · intro never
        exact ⟨(nodup_destutter'_iff first rest).mpr never,
          fun _ => mem_destutter'_iff first rest, ordered_destutter' never⟩

end Occurrences

import Mathlib.Data.List.Basic

/-!
# Paths of segments

A path written with a separator before each of its segments.  A separator at the end of one path
makes it a prefix of another one exactly if the segments of the first one are a proper prefix of
those of the second.
-/

namespace Segments

variable {α : Type} (separator : α)

/-- A separator before each segment. -/
def absolute (segments : List (List α)) : List α := segments.flatMap (separator :: ·)

variable {separator} {segments others : List (List α)}

@[simp] theorem absolute_nil : absolute separator [] = [] := rfl

@[simp] theorem absolute_cons (segment : List α) :
    absolute separator (segment :: segments) =
      separator :: (segment ++ absolute separator segments) := by
  rw [absolute, List.flatMap_cons, List.cons_append]
  rfl

@[simp] theorem absolute_append :
    absolute separator (segments ++ others) =
      absolute separator segments ++ absolute separator others :=
  List.flatMap_append

theorem mem_absolute {a : α} (listed : a ∈ absolute separator segments) :
    a = separator ∨ ∃ segment ∈ segments, a ∈ segment := by
  obtain ⟨segment, isSegment, found⟩ := List.mem_flatMap.mp listed
  rcases List.mem_cons.mp found with rfl | found
  · exact .inl rfl
  · exact .inr ⟨segment, isSegment, found⟩

theorem mem_absolute_of_mem {a : α} {segment : List α} (isSegment : segment ∈ segments)
    (found : a ∈ segment) : a ∈ absolute separator segments :=
  List.mem_flatMap.mpr ⟨segment, isSegment, List.mem_cons_of_mem _ found⟩

theorem cons_intercalate (nonempty : segments ≠ []) :
    separator :: [separator].intercalate segments = absolute separator segments := by
  induction segments with
  | nil => exact absurd rfl nonempty
  | cons segment rest ih =>
      cases rest with
      | nil => simp
      | cons following later =>
          rw [List.intercalate_cons_cons, absolute_cons, ← ih (by simp)]
          simp

theorem getLast?_absolute (nonempty : segments ≠ []) (filled : ∀ segment ∈ segments, segment ≠ []) :
    (absolute separator segments).getLast? = (segments.getLast nonempty).getLast? := by
  obtain ⟨front, last, rfl⟩ : ∃ front last, segments = front ++ [last] :=
    ⟨_, _, (List.dropLast_append_getLast nonempty).symm⟩
  have filledLast : last ≠ [] := filled last (by simp)
  rw [List.getLast_append_singleton, absolute_append, absolute_cons, absolute_nil, List.append_nil,
    List.append_cons, List.getLast?_append_of_ne_nil _ filledLast]

section Split

variable [DecidableEq α]

theorem notMem_of_mem_splitOn {text : List α} :
    ∀ {segment : List α}, segment ∈ text.splitOn separator → separator ∉ segment := by
  induction text with
  | nil => simp
  | cons a rest ih =>
      intro segment listed
      rw [List.splitOn_cons_eq_if_modifyHead] at listed
      split at listed
      · rcases List.mem_cons.mp listed with rfl | listed
        · exact List.not_mem_nil
        · exact ih listed
      next other =>
        obtain ⟨head, tail, parted⟩ := List.exists_cons_of_ne_nil
          (List.splitOn_ne_nil separator rest)
        rw [parted] at ih listed
        rcases List.mem_cons.mp listed with rfl | listed
        · intro found
          rcases List.mem_cons.mp found with rfl | found
          · exact other (beq_self_eq_true _)
          · exact ih List.mem_cons_self found
        · exact ih (List.mem_cons_of_mem _ listed)

theorem absolute_splitOn (text : List α) :
    absolute separator (text.splitOn separator) = separator :: text := by
  rw [← cons_intercalate (List.splitOn_ne_nil separator text), List.intercalate_splitOn]

theorem splitOn_absolute (without : ∀ segment ∈ segments, separator ∉ segment) :
    (absolute separator segments).splitOn separator = [] :: segments := by
  cases segments with
  | nil => rfl
  | cons segment rest =>
      rw [← cons_intercalate (by simp), ← List.nil_append (separator :: _),
        List.splitOn_append_cons_self, List.splitOn_intercalate separator without (by simp)]
      rfl

theorem absolute_injective (without : ∀ segment ∈ segments, separator ∉ segment)
    (withoutOthers : ∀ segment ∈ others, separator ∉ segment)
    (same : absolute separator segments = absolute separator others) : segments = others := by
  have parted := congrArg (List.splitOn separator) same
  rw [splitOn_absolute without, splitOn_absolute withoutOthers] at parted
  exact (List.cons.inj parted).2

theorem prefix_absolute_iff (without : ∀ segment ∈ segments, separator ∉ segment)
    (withoutOthers : ∀ segment ∈ others, separator ∉ segment) :
    absolute separator segments ++ [separator] <+: absolute separator others ↔
      ∃ more, more ≠ [] ∧ others = segments ++ more := by
  constructor
  · rintro ⟨left, together⟩
    refine ⟨left.splitOn separator, List.splitOn_ne_nil _ _, ?_⟩
    refine (absolute_injective ?_ withoutOthers ?_).symm
    · intro segment listed
      rcases List.mem_append.mp listed with listed | listed
      · exact without segment listed
      · exact notMem_of_mem_splitOn listed
    · rw [absolute_append, absolute_splitOn, ← together, List.append_assoc,
        List.singleton_append]
  · rintro ⟨more, nonempty, rfl⟩
    obtain ⟨segment, rest, rfl⟩ := List.exists_cons_of_ne_nil nonempty
    exact ⟨segment ++ absolute separator rest, by simp⟩

end Split

end Segments

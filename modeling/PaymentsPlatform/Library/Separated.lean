import Mathlib.Data.List.Basic

/-!
# Texts joined with a separator

An identity made of several texts by writing a separator between them.  It says which texts it
is made of as long as none of them has the separator; in general it says no more than the pieces
that all the separators in it cut it into.
-/

namespace Separated

variable {α : Type} {separator : α}

section Pieces

variable [DecidableEq α]

/-- The parts, each cut at the separators that it has itself. -/
def pieces (separator : α) (parts : List (List α)) : List (List α) :=
  parts.flatMap (List.splitOn separator)

theorem splitOn_intercalate_eq_pieces {parts : List (List α)} (nonempty : parts ≠ []) :
    ([separator].intercalate parts).splitOn separator = pieces separator parts := by
  induction parts with
  | nil => exact absurd rfl nonempty
  | cons part rest ih =>
      cases rest with
      | nil => simp [pieces]
      | cons next later =>
          rw [List.intercalate_cons_cons, List.append_assoc, List.singleton_append,
            List.splitOn_append_cons_self, ih (by simp)]
          rfl

theorem intercalate_eq_iff {parts others : List (List α)} (nonempty : parts ≠ [])
    (nonemptyOthers : others ≠ []) :
    [separator].intercalate parts = [separator].intercalate others ↔
      pieces separator parts = pieces separator others := by
  rw [← splitOn_intercalate_eq_pieces nonempty, ← splitOn_intercalate_eq_pieces nonemptyOthers]
  constructor
  · intro same
    rw [same]
  · intro same
    rw [← @List.intercalate_splitOn _ ([separator].intercalate parts) _ _ separator, same,
      List.intercalate_splitOn]

theorem pieces_of_notMem {parts : List (List α)} (without : ∀ part ∈ parts, separator ∉ part) :
    pieces separator parts = parts := by
  induction parts with
  | nil => rfl
  | cons part rest ih =>
      rw [pieces, List.flatMap_cons,
        List.splitOn_eq_singleton (without part List.mem_cons_self), ← pieces,
        ih fun other listed => without other (List.mem_cons_of_mem part listed)]
      rfl

theorem cons_eq_of_intercalate_eq {first other : List α} {parts others : List (List α)}
    (length : parts.length = others.length) (without : ∀ part ∈ parts, separator ∉ part)
    (withoutOthers : ∀ part ∈ others, separator ∉ part)
    (same : [separator].intercalate (first :: parts) = [separator].intercalate (other :: others)) :
    first = other ∧ parts = others := by
  have pieced : ∀ (head : List α) (tail : List (List α)),
      pieces separator (head :: tail) = head.splitOn separator ++ pieces separator tail :=
    fun _ _ => List.flatMap_cons
  have joined := (intercalate_eq_iff (by simp) (by simp)).mp same
  rw [pieced, pieced, pieces_of_notMem without, pieces_of_notMem withoutOthers] at joined
  obtain ⟨firsts, rests⟩ := List.append_inj' joined length
  refine ⟨?_, rests⟩
  rw [← @List.intercalate_splitOn _ first _ _ separator, firsts, List.intercalate_splitOn]

end Pieces

theorem notMem_toString {separator : Char} (noDigit : separator.isDigit = false) (number : Nat) :
    separator ∉ (toString number).toList := by
  intro found
  rw [Nat.toString_eq_repr, Nat.toList_repr] at found
  have digit := Nat.isDigit_of_mem_toDigits (by decide) (by decide) found
  simp [noDigit] at digit

theorem toString_injective {first second : Nat}
    (same : (toString first).toList = (toString second).toList) : first = second := by
  rw [Nat.toString_eq_repr, Nat.toString_eq_repr, Nat.toList_repr, Nat.toList_repr] at same
  rw [← Nat.ofDigitChars_ten_toDigits (n := first), same, Nat.ofDigitChars_ten_toDigits]

/-- The second pair of texts is the first one with the seam moved to a later separator. -/
def Shifted (separator : α) (first rest other left : List α) : Prop :=
  ∃ moved, other = first ++ separator :: moved ∧ rest = moved ++ separator :: left

/-- Two pairs of texts that read alike are the same, or the seam lies elsewhere. -/
theorem append_cons_eq_iff {first rest other left : List α} :
    first ++ separator :: rest = other ++ separator :: left ↔
      (first = other ∧ rest = left) ∨ Shifted separator first rest other left ∨
        Shifted separator other left first rest := by
  constructor
  · intro same
    rcases List.append_eq_append_iff.mp same with
      ⟨between, isOther, isRest⟩ | ⟨between, isFirst, isLeft⟩
    · cases between with
      | nil =>
          refine .inl ⟨by simpa using isOther.symm, ?_⟩
          simpa using isRest
      | cons head moved =>
          obtain ⟨rfl, rfl⟩ := List.cons.inj isRest
          exact .inr (.inl ⟨moved, isOther, rfl⟩)
    · cases between with
      | nil =>
          refine .inl ⟨by simpa using isFirst, ?_⟩
          simpa using isLeft.symm
      | cons head moved =>
          obtain ⟨rfl, rfl⟩ := List.cons.inj isLeft
          exact .inr (.inr ⟨moved, isFirst, rfl⟩)
  · rintro (⟨rfl, rfl⟩ | ⟨moved, rfl, rfl⟩ | ⟨moved, rfl, rfl⟩)
    · rfl
    · simp
    · simp

theorem Shifted.ne {first rest other left : List α}
    (shifted : Shifted separator first rest other left) : first ≠ other := by
  obtain ⟨moved, isOther, _⟩ := shifted
  intro same
  have longer := congrArg List.length (same.trans isOther)
  simp at longer

section Infixes

variable {needle before after : List α}

theorem infix_of_separated (absent : separator ∉ needle)
    (found : needle <:+: before ++ separator :: after) :
    needle <:+: before ∨ needle <:+: after := by
  obtain ⟨left, right, same⟩ := found
  rcases List.append_eq_append_iff.mp same with ⟨rest, split, -⟩ | ⟨rest, split, tail⟩
  · exact .inl ⟨left, rest, split.symm⟩
  · cases rest with
    | nil => exact .inl ⟨left, [], by simpa using split⟩
    | cons first rest =>
        obtain ⟨rfl, rfl⟩ := List.cons.inj tail
        rcases List.append_eq_append_iff.mp split with ⟨part, -, inside⟩ | ⟨part, -, inside⟩
        · exact absurd (by simp [inside]) absent
        · cases part with
          | nil =>
              cases inside
              exact absurd List.mem_cons_self absent
          | cons _ part =>
              obtain ⟨-, rfl⟩ := List.cons.inj inside
              exact .inr ⟨part, right, rfl⟩

theorem infix_of_cons (absent : separator ∉ needle) (found : needle <:+: separator :: after) :
    needle <:+: after := by
  have found : needle <:+: [] ++ separator :: after := found
  rcases infix_of_separated absent found with empty | found
  · rw [List.infix_nil.mp empty]
    exact List.nil_infix
  · exact found

theorem infix_of_intercalate {first : List α} {parts : List (List α)} (absent : separator ∉ needle)
    (found : needle <:+: [separator].intercalate (first :: parts)) :
    ∃ part ∈ first :: parts, needle <:+: part := by
  induction parts generalizing first with
  | nil => exact ⟨first, List.mem_cons_self, by simpa using found⟩
  | cons second parts ih =>
      rw [List.intercalate_cons_cons, List.append_assoc, List.singleton_append] at found
      rcases infix_of_separated absent found with here | later
      · exact ⟨first, List.mem_cons_self, here⟩
      · obtain ⟨part, listed, there⟩ := ih later
        exact ⟨part, List.mem_cons_of_mem _ listed, there⟩

end Infixes

end Separated
